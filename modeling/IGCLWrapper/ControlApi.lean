import IGCLWrapper.ApiStructs
import IGCLWrapper.CellCodec

/-! The part of the control library's C API that the allocating helpers use: the types of
`igcl_api.h`, and the forwarding wrappers of `cApiWrapper.cpp` over the loaded runtime. -/
namespace IGCL

open BlockMemory

/-- The opaque handles are pointers to incomplete structures; the wrapper only stores them. -/
abbrev Target.Handle (t : Target) := BitVec (8 * t.pointerBytes)

abbrev CtlDeviceAdapterHandle (t : Target) := t.Handle
abbrev CtlDisplayOutputHandle (t : Target) := t.Handle

abbrev Target.handleCodec (t : Target) : Codec t.Handle UInt8 := wordCodec t.pointerBytes

/-- A product computed in `size_t` wraps at the target's width. -/
def Target.sizeMul (t : Target) (a b : Nat) : Nat := a * b % 2 ^ t.sizeBits

abbrev Heap := Mem UInt8

abbrev Malloc := Allocator UInt8

/-- `ctl_result_t`. Any 32-bit code can come back from the driver; the named ones are those
the wrapper itself returns or compares with. -/
abbrev CtlResult := UInt32

def CtlResult.success : CtlResult := 0x00000000
def CtlResult.errorNotInitialized : CtlResult := 0x40000001
def CtlResult.errorDeviceLost : CtlResult := 0x40000003
def CtlResult.errorOutOfHostMemory : CtlResult := 0x40000004
def CtlResult.errorInvalidNullPointer : CtlResult := 0x4000000e

theorem CtlResult.outOfHostMemory_ne_success : errorOutOfHostMemory ≠ success := by decide

/-- `ctl_operation_type_t`, without the values that no caller here gives it; the helpers only pass it on. -/
inductive CtlOperationType where
  | read
  | write
  deriving DecidableEq, Repr

structure CtlPanelDescriptorAccessArgs where
  size : UInt32
  version : UInt8
  opType : CtlOperationType
  blockNumber : UInt32
  descriptorDataSize : UInt32
  pDescriptorData : Addr
  deriving DecidableEq, Repr

def Target.sizeofPanelDescriptorAccessArgs (t : Target) : Nat := t.ctlPanelDescriptorAccessArgs.size

example : Target.x64.sizeofPanelDescriptorAccessArgs = 32 := by decide

/-- What a driver entry point does with one call: its code, the new contents of the in/out
argument, and its stores to memory the arguments point to. -/
structure Reply (γ : Type) where
  code : CtlResult
  out : γ
  stores : List (Write UInt8)
  deriving DecidableEq, Repr

abbrev EnumerateDisplayOutputs (t : Target) :=
  CtlDeviceAdapterHandle t → UInt32 → Addr → Heap → Reply UInt32

abbrev PanelDescriptorAccess (t : Target) :=
  CtlDisplayOutputHandle t → CtlPanelDescriptorAccessArgs → Heap → Reply CtlPanelDescriptorAccessArgs

/-- A loaded `ControlLib.dll` as it answers at one moment; `none` is a failed `GetProcAddress`. -/
structure Runtime (t : Target) where
  ctlEnumerateDisplayOutputs : Option (EnumerateDisplayOutputs t)
  ctlPanelDescriptorAccess : Option (PanelDescriptorAccess t)

variable {t : Target} {γ δ : Type}

/-- The body all the API wrappers share: forward to the runtime's entry point, or answer
`CTL_RESULT_ERROR_NOT_INITIALIZED` when no library is loaded or it lacks the entry point. -/
def forward (hinstLib : Option (Runtime t)) (getProcAddress : Runtime t → Option δ)
    (call : δ → Reply γ) (argument : γ) : Reply γ :=
  match hinstLib.bind getProcAddress with
  | none => ⟨.errorNotInitialized,argument,[]⟩
  | some pfn => call pfn

def ctlEnumerateDisplayOutputs (hinstLib : Option (Runtime t)) (hDeviceAdapter : CtlDeviceAdapterHandle t)
    (count : UInt32) (phDisplayOutputs : Addr) (m : Heap) : Reply UInt32 :=
  forward hinstLib (·.ctlEnumerateDisplayOutputs)
    (fun pfn => pfn hDeviceAdapter count phDisplayOutputs m) count

def ctlPanelDescriptorAccess (hinstLib : Option (Runtime t)) (hDisplayOutput : CtlDisplayOutputHandle t)
    (args : CtlPanelDescriptorAccessArgs) (m : Heap) : Reply CtlPanelDescriptorAccessArgs :=
  forward hinstLib (·.ctlPanelDescriptorAccess) (fun pfn => pfn hDisplayOutput args m) args

end IGCL

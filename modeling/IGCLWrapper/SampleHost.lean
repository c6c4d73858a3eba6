import IGCLWrapper.ApiStructs
import IGCLWrapper.CheckedBuffer
import IGCLWrapper.ExitLabel
import IGCLWrapper.Loader

/-! What the console samples share: the macros of `GenericIGCLApp.h`, the static `GResult`, and calls
into a runtime that may be another one at every call. -/
namespace IGCL.Samples

open BlockMemory ExitLabel

/-- `ctl_display_properties_t`, without the fields that the samples only print. -/
structure CtlDisplayProperties where
  size : UInt32
  version : UInt8
  windowsDisplayEncoderID : UInt32
  displayConfigFlags : UInt32
  deriving DecidableEq, Repr

def displayConfigFlagDisplayAttached : UInt32 := 2

/-- `ctl_edid_management_optype_t`; `max` is the sample's own value for no option. -/
inductive CtlEdidManagementOptype where
  | readEdid | lockEdid | unlockEdid | overrideEdid | undoOverrideEdid | max
  deriving DecidableEq, Repr

inductive CtlEdidType where
  | current | override | monitor
  deriving DecidableEq, Repr

/-- Where an EDID buffer is: on the heap, or the static vector that is only read. -/
inductive EdidBuffer where
  | heap (a : Addr)
  | static (edid : List UInt8)
  deriving DecidableEq, Repr

structure CtlEdidManagementArgs where
  size : UInt32
  version : UInt8
  opType : CtlEdidManagementOptype
  edidType : CtlEdidType
  edidSize : UInt32
  pEdidBuf : EdidBuffer
  outFlags : UInt32
  deriving DecidableEq, Repr

variable {t : Target} {ε ι γ : Type}

structure SampleRuntime (t : Target) extends Runtime t where
  ctlEnumerateDevices : Option (CtlApiHandle t → UInt32 → Addr → Heap → Reply UInt32)
  ctlGetDisplayProperties :
    Option (CtlDisplayOutputHandle t → CtlDisplayProperties → Heap → Reply CtlDisplayProperties)
  ctlEdidManagement :
    Option (CtlDisplayOutputHandle t → CtlEdidManagementArgs → Heap → Reply CtlEdidManagementArgs)

/-- The body all the API wrappers share, over the samples' entry points. -/
def forward {δ : Type} (hinstLib : Option (SampleRuntime t)) (getProcAddress : SampleRuntime t → Option δ)
    (call : δ → Reply γ) (argument : γ) : Reply γ :=
  match hinstLib.bind getProcAddress with
  | none => ⟨.errorNotInitialized,argument,[]⟩
  | some pfn => call pfn

def ctlEnumerateDevices (hinstLib : Option (SampleRuntime t)) (hAPIHandle : CtlApiHandle t)
    (count : UInt32) (phDevices : Addr) (m : Heap) : Reply UInt32 :=
  forward hinstLib (·.ctlEnumerateDevices) (fun pfn => pfn hAPIHandle count phDevices m) count

def ctlGetDisplayProperties (hinstLib : Option (SampleRuntime t))
    (hDisplayOutput : CtlDisplayOutputHandle t) (properties : CtlDisplayProperties) (m : Heap) :
    Reply CtlDisplayProperties :=
  forward hinstLib (·.ctlGetDisplayProperties) (fun pfn => pfn hDisplayOutput properties m) properties

def ctlEdidManagement (hinstLib : Option (SampleRuntime t)) (hDisplayOutput : CtlDisplayOutputHandle t)
    (args : CtlEdidManagementArgs) (m : Heap) : Reply CtlEdidManagementArgs :=
  forward hinstLib (·.ctlEdidManagement) (fun pfn => pfn hDisplayOutput args m) args

/-- The machine a sample runs on: the runtime that answers each call, `none` where none is loaded,
and what the C library leaves open. -/
structure Host (t : Target) where
  runtime : Nat → Option (SampleRuntime t)
  malloc : Malloc
  memcpyS : CheckedBuffer.MemcpyS UInt8

/-- The state of a sample: memory, the calls made so far, the lines printed and `GResult`. -/
structure Sample (ι : Type) where
  heap : Heap
  calls : Nat
  printed : List ι
  gResult : CtlResult

structure Answer (γ : Type) where
  code : CtlResult
  out : γ
  deriving DecidableEq, Repr

/-- One call of the API. The runtime's stores take place before it returns. -/
def call (host : Host t) (api : Option (SampleRuntime t) → Heap → Reply γ) :
    Body ε (Sample ι) (Answer γ) :=
  Body.act fun s =>
    let reply := api (host.runtime s.calls) s.heap
    (s.heap.writes reply.stores).map fun heap =>
      (⟨reply.code,reply.out⟩,{ s with heap := heap, calls := s.calls + 1 })

def print (line : ι) : Body ε (Sample ι) Unit :=
  Body.act fun s => some ((),{ s with printed := s.printed ++ [line] })

def malloc (host : Host t) (size : Nat) : Body ε (Sample ι) Addr :=
  Body.act fun s => match host.malloc.grant s.heap size with
    | none => some (0,s)
    | some block => some (block.addr,{ s with heap := s.heap.alloc block })

/-- `CTL_FREE_MEM`, with the value it leaves in the pointer. -/
def ctlFreeMem (ptr : Addr) : Body ε (Sample ι) Addr :=
  Body.act fun s =>
    if ptr ≠ 0 then (s.heap.free ptr).map fun heap => (0,{ s with heap := heap }) else some (ptr,s)

/-- `STORE_AND_RESET_ERROR`, with the value it leaves in the variable. -/
def storeAndResetError (result : CtlResult) : Body ε (Sample ι) CtlResult :=
  Body.act fun s =>
    some (.success,if result ≠ .success then { s with gResult := result } else s)

/-- `LOG_AND_EXIT_ON_ERROR`, given the line it prints. -/
def logAndExitOnError (result : CtlResult) (line : ι) (locals : ε) : Body ε (Sample ι) Unit :=
  if result ≠ .success then do
    print line
    Body.goto locals
  else pure ()

def logOnError (result : CtlResult) (line : ι) : Body ε (Sample ι) Unit :=
  if result ≠ .success then print line else pure ()

/-- `LOG_AND_STORE_RESET_RESULT_ON_ERROR`, for variables that are set again before they are read. -/
def logAndStoreResetResultOnError (result : CtlResult) (line : ι) : Body ε (Sample ι) Unit :=
  if result ≠ .success then do
    print line
    let _ ← storeAndResetError result
    pure ()
  else pure ()

def exitOnMemAllocFailure (ptr : Addr) (line : ι) (locals : ε) : Body ε (Sample ι) Unit :=
  if ptr = 0 then do
    print line
    Body.goto locals
  else pure ()

def loadByte (data : Addr) (index : Nat) : Body ε (Sample ι) UInt8 :=
  Body.act fun s => ((s.heap.block data).bind (·[index]?)).map fun byte => (byte,s)

/-- `handles[index]` of an array of handles. -/
def loadHandle (t : Target) (handles : Addr) (index : Nat) : Body ε (Sample ι) t.Handle :=
  Body.act fun s =>
    (s.heap.read handles (t.pointerBytes * index) t.pointerBytes).map fun cells =>
      (t.handleCodec.decode cells,s)

def displayPropertiesRequest (t : Target) : CtlDisplayProperties :=
  ⟨UInt32.ofNat t.ctlDisplayProperties.size,0,0,0⟩

def more (s : Sample ι) (lines : List ι) : Sample ι := { s with printed := s.printed ++ lines }

@[simp] theorem more_heap (s : Sample ι) (lines : List ι) : (more s lines).heap = s.heap := rfl

@[simp] theorem more_nil (s : Sample ι) : more s [] = s := by simp [more]

@[simp] theorem more_more (s : Sample ι) (first second : List ι) :
    more (more s first) second = more s (first ++ second) := by simp [more]

theorem print_eq (s : Sample ι) (line : ι) :
    (print line : Body ε (Sample ι) Unit) s = some (.ok (),more s [line]) := rfl

theorem logAndExitOnError_passed (line : ι) (locals : ε) (s : Sample ι) :
    logAndExitOnError .success line locals s = some (.ok (),s) := by
  simp [logAndExitOnError]

theorem exitOnMemAllocFailure_passed {ptr : Addr} (nonnull : ptr ≠ 0) (line : ι) (locals : ε)
    (s : Sample ι) : exitOnMemAllocFailure ptr line locals s = some (.ok (),s) := by
  simp [exitOnMemAllocFailure,nonnull]

theorem malloc_eq {host : Host t} {m : Heap} {size : Nat} {f : Fresh m}
    (granted : host.malloc.grant m size = some f) (calls : Nat) (printed : List ι) (gResult : CtlResult) :
    (malloc host size : Body ε (Sample ι) Addr) ⟨m,calls,printed,gResult⟩ =
      some (.ok f.addr,⟨m.alloc f,calls,printed,gResult⟩) := by
  simp [malloc,Body.act,granted]

theorem ctlFreeMem_eq {s : Sample ι} {m : Heap} {a : Addr} (nonnull : a ≠ 0) (dead : m.block a = none)
    (cells : List UInt8) (same : s.heap = m.set a nonnull (some cells)) :
    (ctlFreeMem a : Body ε (Sample ι) Addr) s = some (.ok 0,{ s with heap := m }) := by
  simp [ctlFreeMem,Body.act,nonnull,same,Mem.free_set dead]

def mallocTwo : Malloc where
  grant m size :=
    if dead : m.block 1 = none then some ⟨1,List.replicate size 0xcd,Nat.one_ne_zero,dead⟩
    else if dead : m.block 2 = none then some ⟨2,List.replicate size 0xcd,(by decide),dead⟩
    else none
  sized := by
    intro m size f granted
    split at granted
    · rw [← Option.some.inj granted,List.length_replicate]
    · split at granted
      · rw [← Option.some.inj granted,List.length_replicate]
      · contradiction

end IGCL.Samples

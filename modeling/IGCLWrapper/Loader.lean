import IGCLWrapper.ControlApi

/-! The loader in `cApiWrapper.cpp`: which runtime library is open, the runtime path a caller may
choose before `ctlInit`, and the helpers of `IGCLWrapper.i` that open and close the API. -/
namespace IGCL

open BlockMemory

variable {t : Target} {γ : Type}

abbrev CtlApiHandle (t : Target) := t.Handle

def CtlResult.errorOutOfDeviceMemory : CtlResult := 0x40000005
def CtlResult.errorUnsupportedVersion : CtlResult := 0x40000009
def CtlResult.errorLoad : CtlResult := 0x40000026

theorem CtlResult.notInitialized_ne_success : errorNotInitialized ≠ success := by decide

structure CtlApplicationId where
  data1 : UInt32
  data2 : UInt16
  data3 : UInt16
  data4 : Vector UInt8 8
  deriving DecidableEq, Repr

structure CtlInitArgs where
  size : UInt32
  version : UInt8
  appVersion : UInt32
  flags : UInt32
  supportedVersion : UInt32
  applicationUID : CtlApplicationId
  deriving DecidableEq, Repr

abbrev WideString := List UInt16

/-- `ctl_runtime_path_args_t` together with the text its `pRuntimePath` points to. -/
structure CtlRuntimePathArgs where
  size : UInt32
  version : UInt8
  unlockID : CtlApplicationId
  pRuntimePath : Option WideString
  deviceID : UInt16
  revID : UInt8
  deriving DecidableEq, Repr

/-- Where the caller keeps its `ctl_runtime_path_args_t`, one to a block. -/
abbrev CallerArgs := Mem CtlRuntimePathArgs

def runtimeArgs (m : CallerArgs) (p : Addr) : Option CtlRuntimePathArgs := (m.block p).bind List.head?

/-- What a callee sees behind a pointer that may be null; there is no result if it dangles. -/
def pointedTo (m : CallerArgs) (p : Addr) : Option (Option CtlRuntimePathArgs) :=
  if p = 0 then some none else (runtimeArgs m p).map some

theorem runtimeArgs_null (m : CallerArgs) : runtimeArgs m 0 = none := by
  rw [runtimeArgs,m.null_dead,Option.bind_none]

theorem runtimeArgs_nonnull {m : CallerArgs} {p : Addr} (alive : runtimeArgs m p ≠ none) : p ≠ 0 := by
  intro null
  exact alive (null ▸ runtimeArgs_null m)

theorem pointedTo_of_alive {m : CallerArgs} {p : Addr} {args : CtlRuntimePathArgs}
    (alive : runtimeArgs m p = some args) : pointedTo m p = some (some args) := by
  have nonnull : p ≠ 0 := runtimeArgs_nonnull (by rw [alive]; exact Option.some_ne_none args)
  rw [pointedTo,if_neg nonnull,alive,Option.map_some]

theorem runtimeArgs_congr {m m' : CallerArgs} {p : Addr} (same : m'.block p = m.block p) :
    runtimeArgs m' p = runtimeArgs m p := by
  rw [runtimeArgs,same,runtimeArgs]

theorem pointedTo_congr {m m' : CallerArgs} {p : Addr} (same : p ≠ 0 → m'.block p = m.block p) :
    pointedTo m' p = pointedTo m p := by
  unfold pointedTo
  split
  · rfl
  · next nonnull => rw [runtimeArgs_congr (same nonnull)]

theorem pointedTo_nonnull {m : CallerArgs} {p : Addr} {args : CtlRuntimePathArgs}
    (held : pointedTo m p = some (some args)) : p ≠ 0 := by
  intro null
  rw [pointedTo,if_pos null] at held
  cases held

theorem pointedTo_null {m : CallerArgs} {p : Addr} (held : pointedTo m p = some none) : p = 0 := by
  by_contra nonnull
  rw [pointedTo,if_neg nonnull] at held
  obtain ⟨args,_,impossible⟩ := Option.map_eq_some_iff.mp held
  cases impossible

abbrev HInstance := Nat

structure InitReply (t : Target) where
  code : CtlResult
  initDesc : CtlInitArgs
  hAPI : CtlApiHandle t

/-- What the system and the library answer during one call. An entry point is `none` when
`GetProcAddress` does not find it. -/
structure Host (t : Target) where
  resize : Bool
  loadLibraryExW : WideString → Option HInstance
  ctlInit : HInstance → Option (Option CtlInitArgs → Option (CtlApiHandle t) → InitReply t)
  ctlClose : HInstance → Option (CtlApiHandle t → CtlResult)
  ctlSetRuntimePath : HInstance → Option (Option CtlRuntimePathArgs → CtlResult)

/-- Calls of the loader that open and release a library or hand it the chosen path. -/
inductive HostCall where
  | loadLibraryExW (path : WideString) (loaded : Option HInstance)
  | freeLibrary (lib : HInstance)
  | ctlSetRuntimePath (lib : HInstance) (args : Option CtlRuntimePathArgs)
  deriving DecidableEq, Repr

/-- The two statics of `cApiWrapper.cpp`. -/
structure Loader where
  hinstLib : Option HInstance
  pRuntimeArgs : Addr
  deriving DecidableEq, Repr

structure Answered (γ : Type) where
  code : CtlResult
  out : γ
  calls : List HostCall

def wide (text : String) : WideString := text.toList.map fun c => UInt16.ofNat c.toNat

def Target.ctlDllName (t : Target) : WideString :=
  wide (if t.pointerBytes = 8 then "ControlLib.dll" else "ControlLib32.dll")

def ctlDllPathLen : Nat := 512

def ctlImplMajorVersion : UInt16 := 1

/-- `CTL_MAJOR_VERSION`, cut to the `uint16_t` it is assigned to. -/
def ctlMajorVersion (ver : UInt32) : UInt16 := (ver >>> 16).toUInt16

/-- `GetControlAPIDLLPath`. The version is looked at only when no path was chosen. -/
def getControlAPIDLLPath (t : Target) (pInitArgs : Option CtlInitArgs) (l : Loader) (m : CallerArgs) :
    Option (Except CtlResult WideString) :=
  (pointedTo m l.pRuntimeArgs).bind fun chosen =>
    match chosen.bind (·.pRuntimePath) with
    | none =>
      pInitArgs.map fun initArgs =>
        if ctlMajorVersion initArgs.appVersion > ctlImplMajorVersion then
          .error .errorUnsupportedVersion
        else .ok t.ctlDllName
    | some path => some (.ok (path.take (ctlDllPathLen - 1)))

/-- The only refusal is an application that is newer than the header, with no path chosen. -/
theorem getControlAPIDLLPath_error {pInitArgs : Option CtlInitArgs} {l : Loader} {m : CallerArgs}
    {code : CtlResult} (refused : getControlAPIDLLPath t pInitArgs l m = some (.error code)) :
    code = .errorUnsupportedVersion ∧ ∃ initArgs, pInitArgs = some initArgs ∧
      ctlMajorVersion initArgs.appVersion > ctlImplMajorVersion := by
  obtain ⟨chosen,_,rest⟩ := Option.bind_eq_some_iff.mp refused
  split at rest
  · obtain ⟨initArgs,given,found⟩ := Option.map_eq_some_iff.mp rest
    split at found
    · next newer => exact ⟨(Except.error.inj found).symm,initArgs,given,newer⟩
    · contradiction
  · cases Option.some.inj rest

/-- `ctlSetRuntimePath`. Without a library a null pointer is dereferenced too. -/
def ctlSetRuntimePath (host : Host t) (pArgs : Addr) (l : Loader) (m : CallerArgs) :
    Option (Answered Unit × Loader) :=
  match l.hinstLib with
  | some lib =>
    match host.ctlSetRuntimePath lib with
    | none => some (⟨.errorNotInitialized,(),[]⟩,l)
    | some pfn =>
      (pointedTo m pArgs).map fun args => (⟨pfn args,(),[.ctlSetRuntimePath lib args]⟩,l)
  | none =>
    (runtimeArgs m pArgs).map fun args =>
      if args.pRuntimePath.isSome then (⟨.success,(),[]⟩,{ l with pRuntimeArgs := pArgs })
      else (⟨.errorNotInitialized,(),[]⟩,l)

/-- The end of `ctlInit`: forward to the library if there is one, else keep the code so far. -/
def forwardInit (host : Host t) (hinstLib : Option HInstance) (result : CtlResult)
    (pInitDesc : Option CtlInitArgs) (phAPIHandle : Option (CtlApiHandle t)) (calls : List HostCall) :
    Answered (Option CtlInitArgs × Option (CtlApiHandle t)) :=
  match hinstLib.bind host.ctlInit with
  | none => ⟨result,(pInitDesc,phAPIHandle),calls⟩
  | some pfn =>
    let reply := pfn pInitDesc phAPIHandle
    ⟨reply.code,(pInitDesc.map fun _ => reply.initDesc,phAPIHandle.map fun _ => reply.hAPI),calls⟩

def ctlInit (host : Host t) (pInitDesc : Option CtlInitArgs) (phAPIHandle : Option (CtlApiHandle t))
    (l : Loader) (m : CallerArgs) :
    Option (Answered (Option CtlInitArgs × Option (CtlApiHandle t)) × Loader) :=
  match l.hinstLib with
  | some _ =>
    some (forwardInit host l.hinstLib .errorNotInitialized pInitDesc phAPIHandle [],l)
  | none =>
    if host.resize = false then some (⟨.errorOutOfDeviceMemory,(pInitDesc,phAPIHandle),[]⟩,l)
    else (getControlAPIDLLPath t pInitDesc l m).bind fun
      | .error code => some (forwardInit host none code pInitDesc phAPIHandle [],l)
      | .ok path =>
        match host.loadLibraryExW path with
        | none =>
          some (forwardInit host none .errorLoad pInitDesc phAPIHandle [.loadLibraryExW path none],l)
        | some lib =>
          let opened : Loader := { l with hinstLib := some lib }
          let loaded := HostCall.loadLibraryExW path (some lib)
          if l.pRuntimeArgs ≠ 0 then
            (ctlSetRuntimePath host l.pRuntimeArgs opened m).map fun told =>
              (forwardInit host told.2.hinstLib .success pInitDesc phAPIHandle (loaded :: told.1.calls),
                told.2)
          else some (forwardInit host (some lib) .success pInitDesc phAPIHandle [loaded],opened)

/-- `ctlClose`. The chosen path is forgotten whatever the library answers. -/
def ctlClose (host : Host t) (hAPIHandle : CtlApiHandle t) (l : Loader) : Answered Unit × Loader :=
  let result :=
    match l.hinstLib.bind host.ctlClose with
    | none => CtlResult.errorNotInitialized
    | some pfn => pfn hAPIHandle
  if result = .success then (⟨result,(),l.hinstLib.toList.map .freeLibrary⟩,⟨none,0⟩)
  else (⟨result,(),[]⟩,{ l with pRuntimeArgs := 0 })

def Target.sizeofInitArgs : Nat := ctlInitArgs.size

example : Target.sizeofInitArgs = 36 := by decide

def ctlInitFlagUseLevelZero : UInt32 := 1

def initDefaultArgs : CtlInitArgs :=
  ⟨UInt32.ofNat Target.sizeofInitArgs,0,0,ctlInitFlagUseLevelZero,0,⟨0,0,0,Vector.replicate 8 0⟩⟩

/-- `IGCL_InitDefault`. The argument block is a local and its out fields are dropped. -/
def igclInitDefault (host : Host t) (phAPI : Option (CtlApiHandle t)) (l : Loader) (m : CallerArgs) :
    Option (Answered (Option (CtlApiHandle t)) × Loader) :=
  match phAPI with
  | none => some (⟨.errorInvalidNullPointer,none,[]⟩,l)
  | some hAPI =>
    (ctlInit host (some initDefaultArgs) (some hAPI) l m).map fun answer =>
      (⟨answer.1.code,answer.1.out.2,answer.1.calls⟩,answer.2)

def igclClose (host : Host t) (hAPI : CtlApiHandle t) (l : Loader) : Answered Unit × Loader :=
  ctlClose host hAPI l

end IGCL

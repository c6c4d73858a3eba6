import IGCLWrapper.LoaderRuns

/-! The loader as its callers should see it. A session has no pointers: it remembers the chosen path
by value, and only while no library is open. A caller that leaves the remembered arguments alone
until then sees exactly that session; one that frees them as soon as a note in the source allows
may not. -/
namespace IGCL

open BlockMemory FaultMachine

variable {t : Target}

structure ChosenPath where
  args : CtlRuntimePathArgs
  path : WideString
  named : args.pRuntimePath = some path

def ChosenPath.ofArgs (args : CtlRuntimePathArgs) : Option ChosenPath :=
  match named : args.pRuntimePath with
  | none => none
  | some path => some ⟨args,path,named⟩

/-- What a session is for a caller: nothing is open and a path may be chosen, or a library is open. -/
inductive Phase where
  | idle (chosen : Option ChosenPath)
  | opened (lib : HInstance)

structure Session where
  phase : Phase
  args : CallerArgs

namespace Session

def start : Session := ⟨.idle none,Mem.empty⟩

def setRuntimePath (host : Host t) (args : Option CtlRuntimePathArgs) : Phase → Answered Unit × Phase
  | .idle chosen =>
    match args.bind ChosenPath.ofArgs with
    | none => (⟨.errorNotInitialized,(),[]⟩,.idle chosen)
    | some choice => (⟨.success,(),[]⟩,.idle (some choice))
  | .opened lib =>
    match host.ctlSetRuntimePath lib with
    | none => (⟨.errorNotInitialized,(),[]⟩,.opened lib)
    | some pfn => (⟨pfn args,(),[.ctlSetRuntimePath lib args]⟩,.opened lib)

def dllPath (t : Target) (initDesc : CtlInitArgs) : Option ChosenPath → Except CtlResult WideString
  | none =>
    if ctlMajorVersion initDesc.appVersion > ctlImplMajorVersion then .error .errorUnsupportedVersion
    else .ok t.ctlDllName
  | some choice => .ok (choice.path.take (ctlDllPathLen - 1))

/-- A library that was opened for a choice is told about it, if it wants to know. -/
def tell (host : Host t) (lib : HInstance) : Option ChosenPath → List HostCall
  | none => []
  | some choice =>
    match host.ctlSetRuntimePath lib with
    | none => []
    | some _ => [.ctlSetRuntimePath lib (some choice.args)]

def openLibrary (host : Host t) (chosen : Option ChosenPath) (initDesc : CtlInitArgs)
    (phAPIHandle : Option (CtlApiHandle t)) :
    Answered (Option CtlInitArgs × Option (CtlApiHandle t)) × Phase :=
  if host.resize = false then
    (⟨.errorOutOfDeviceMemory,(some initDesc,phAPIHandle),[]⟩,.idle chosen)
  else
    match dllPath t initDesc chosen with
    | .error code => (⟨code,(some initDesc,phAPIHandle),[]⟩,.idle chosen)
    | .ok path =>
      match host.loadLibraryExW path with
      | none =>
        (⟨.errorLoad,(some initDesc,phAPIHandle),[.loadLibraryExW path none]⟩,.idle chosen)
      | some lib =>
        (forwardInit host (some lib) .success (some initDesc) phAPIHandle
          (.loadLibraryExW path (some lib) :: tell host lib chosen),.opened lib)

def init (host : Host t) (pInitDesc : Option CtlInitArgs) (phAPIHandle : Option (CtlApiHandle t)) :
    Phase → Answered (Option CtlInitArgs × Option (CtlApiHandle t)) × Phase
  | .idle chosen =>
    match pInitDesc with
    | none => (⟨.errorInvalidNullPointer,(none,phAPIHandle),[]⟩,.idle chosen)
    | some initDesc => openLibrary host chosen initDesc phAPIHandle
  | .opened lib =>
    (forwardInit host (some lib) .errorNotInitialized pInitDesc phAPIHandle [],.opened lib)

def close (host : Host t) (hAPIHandle : CtlApiHandle t) : Phase → Answered Unit × Phase
  | .idle _ => (⟨.errorNotInitialized,(),[]⟩,.idle none)
  | .opened lib =>
    match host.ctlClose lib with
    | none => (⟨.errorNotInitialized,(),[]⟩,.opened lib)
    | some pfn =>
      if pfn hAPIHandle = .success then (⟨.success,(),[.freeLibrary lib]⟩,.idle none)
      else (⟨pfn hAPIHandle,(),[]⟩,.opened lib)

def answer (b : Session) : LoaderAction t → LoaderAnswer t × Session
  | .place p nonnull args => (.memory,{ b with args := b.args.set p nonnull (some [args]) })
  | .release p => (.memory,{ b with args := (b.args.free p).getD b.args })
  | .setRuntimePath host pArgs =>
    let r := setRuntimePath host (runtimeArgs b.args pArgs) b.phase
    (.called r.1,{ b with phase := r.2 })
  | .init host pInitDesc phAPIHandle =>
    let r := init host pInitDesc phAPIHandle b.phase
    (.initialised r.1,{ b with phase := r.2 })
  | .close host hAPIHandle =>
    let r := close host hAPIHandle b.phase
    (.called r.1,{ b with phase := r.2 })

end Session

/-- The pointer the loader keeps matters, and is good, only while no library is open. -/
inductive Tracks : Process → Session → Prop where
  | opened (lib : HInstance) (p : Addr) (m : CallerArgs) :
    Tracks ⟨⟨some lib,p⟩,m⟩ ⟨.opened lib,m⟩
  | idle (chosen : Option ChosenPath) (p : Addr) (m : CallerArgs)
    (held : pointedTo m p = some (chosen.map (·.args))) : Tracks ⟨⟨none,p⟩,m⟩ ⟨.idle chosen,m⟩

/-- What a careful caller does: it passes live pointers, and while no library is open it neither
rewrites nor frees the arguments it last passed to `ctlSetRuntimePath`. -/
def Process.careful (s : Process) : LoaderAction t → Prop
  | .place p _ _ => s.loader.hinstLib = none → p ≠ s.loader.pRuntimeArgs
  | .release p => s.args.block p ≠ none ∧ (s.loader.hinstLib = none → p ≠ s.loader.pRuntimeArgs)
  | .setRuntimePath _ pArgs => runtimeArgs s.args pArgs ≠ none
  | .init _ pInitDesc _ => pInitDesc ≠ none
  | .close .. => True

theorem ChosenPath.ofArgs_none {args : CtlRuntimePathArgs} (unnamed : args.pRuntimePath = none) :
    ofArgs args = none := by
  unfold ofArgs
  split
  · rfl
  · next path named => cases unnamed.symm.trans named

theorem ChosenPath.ofArgs_some {args : CtlRuntimePathArgs} {path : WideString}
    (named : args.pRuntimePath = some path) : ofArgs args = some ⟨args,path,named⟩ := by
  unfold ofArgs
  split
  · next unnamed => cases unnamed.symm.trans named
  · next found same =>
    obtain rfl := Option.some.inj (named.symm.trans same)
    rfl

/-- The caller's own memory is its own business as long as it leaves the remembered block alone. -/
theorem Tracks.memory {s : Process} {b : Session} {m : CallerArgs} (tracks : Tracks s b)
    (same : s.loader.hinstLib = none → s.loader.pRuntimeArgs ≠ 0 →
      m.block s.loader.pRuntimeArgs = s.args.block s.loader.pRuntimeArgs) :
    Tracks { s with args := m } { b with args := m } := by
  cases tracks with
  | opened lib p _ => exact .opened lib p m
  | idle chosen p old held => exact .idle chosen p m ((pointedTo_congr (same rfl)).trans held)

theorem Tracks.setRuntimePath {s : Process} {b : Session} {pArgs : Addr} (tracks : Tracks s b)
    (host : Host t) (alive : runtimeArgs s.args pArgs ≠ none) :
    ∃ l, ctlSetRuntimePath host pArgs s.loader s.args =
        some ((Session.setRuntimePath host (runtimeArgs b.args pArgs) b.phase).1,l) ∧
      Tracks { s with loader := l }
        { b with phase := (Session.setRuntimePath host (runtimeArgs b.args pArgs) b.phase).2 } := by
  obtain ⟨args,found⟩ := Option.ne_none_iff_exists'.mp alive
  cases tracks with
  | opened lib p m =>
    dsimp only at found
    simp only [ctlSetRuntimePath,Session.setRuntimePath,pointedTo_of_alive found,found,Option.map_some]
    cases host.ctlSetRuntimePath lib with
    | none => exact ⟨_,rfl,.opened lib p m⟩
    | some pfn => exact ⟨_,rfl,.opened lib p m⟩
  | idle chosen p m held =>
    dsimp only at found
    simp only [ctlSetRuntimePath,Session.setRuntimePath,found,Option.map_some,Option.bind_some]
    cases named : args.pRuntimePath with
    | none =>
      rw [ChosenPath.ofArgs_none named]
      exact ⟨_,rfl,.idle chosen p m held⟩
    | some path =>
      rw [ChosenPath.ofArgs_some named]
      exact ⟨_,rfl,.idle (some ⟨args,path,named⟩) pArgs m (pointedTo_of_alive found)⟩

/-- While nothing is open the loader selects the library of the choice it remembers. -/
theorem getControlAPIDLLPath_idle (chosen : Option ChosenPath) {p : Addr} {m : CallerArgs}
    (held : pointedTo m p = some (chosen.map (·.args))) (initDesc : CtlInitArgs) :
    getControlAPIDLLPath t (some initDesc) ⟨none,p⟩ m = some (Session.dllPath t initDesc chosen) := by
  rw [getControlAPIDLLPath,held,Option.bind_some]
  cases chosen with
  | none => rfl
  | some choice => simp only [Option.map_some,Option.bind_some,choice.named,Session.dllPath]

theorem ctlSetRuntimePath_tells (host : Host t) (lib : HInstance) {choice : ChosenPath} {p : Addr}
    {m : CallerArgs} (held : pointedTo m p = some (some choice.args)) :
    ∃ told, ctlSetRuntimePath host p ⟨some lib,p⟩ m = some (told,⟨some lib,p⟩) ∧
      told.calls = Session.tell host lib (some choice) := by
  simp only [ctlSetRuntimePath,Session.tell]
  cases host.ctlSetRuntimePath lib with
  | none => exact ⟨_,rfl,rfl⟩
  | some pfn =>
    simp only [held,Option.map_some]
    exact ⟨_,rfl,rfl⟩

theorem Tracks.init {s : Process} {b : Session} {pInitDesc : Option CtlInitArgs}
    (tracks : Tracks s b) (host : Host t) (phAPIHandle : Option (CtlApiHandle t)) (given : pInitDesc ≠ none) :
    ∃ l, ctlInit host pInitDesc phAPIHandle s.loader s.args =
        some ((Session.init host pInitDesc phAPIHandle b.phase).1,l) ∧
      Tracks { s with loader := l }
        { b with phase := (Session.init host pInitDesc phAPIHandle b.phase).2 } := by
  obtain ⟨initDesc,rfl⟩ := Option.ne_none_iff_exists'.mp given
  cases tracks with
  | opened lib p m => exact ⟨_,rfl,.opened lib p m⟩
  | idle chosen p m held =>
    simp only [ctlInit,Session.init,Session.openLibrary]
    by_cases room : host.resize = false
    · rw [if_pos room,if_pos room]
      exact ⟨_,rfl,.idle chosen p m held⟩
    · rw [if_neg room,if_neg room,getControlAPIDLLPath_idle chosen held,Option.bind_some]
      cases Session.dllPath t initDesc chosen with
      | error code => exact ⟨_,rfl,.idle chosen p m held⟩
      | ok path =>
        dsimp only
        cases host.loadLibraryExW path with
        | none => exact ⟨_,rfl,.idle chosen p m held⟩
        | some lib =>
          dsimp only
          cases chosen with
          | none =>
            rw [if_neg (not_not.mpr (pointedTo_null held))]
            exact ⟨_,rfl,.opened lib p m⟩
          | some choice =>
            have nonnull := pointedTo_nonnull held
            obtain ⟨told,asked,calls⟩ := ctlSetRuntimePath_tells host lib held
            rw [if_pos nonnull,asked,Option.map_some,calls]
            exact ⟨_,rfl,.opened lib p m⟩

theorem Tracks.close {s : Process} {b : Session} (tracks : Tracks s b) (host : Host t)
    (hAPIHandle : CtlApiHandle t) :
    (ctlClose host hAPIHandle s.loader).1 = (Session.close host hAPIHandle b.phase).1 ∧
      Tracks { s with loader := (ctlClose host hAPIHandle s.loader).2 }
        { b with phase := (Session.close host hAPIHandle b.phase).2 } := by
  cases tracks with
  | opened lib p m =>
    simp only [ctlClose,Session.close,Option.bind_some]
    cases host.ctlClose lib with
    | none => exact ⟨rfl,.opened lib 0 m⟩
    | some pfn =>
      dsimp only
      by_cases closed : pfn hAPIHandle = .success
      · rw [if_pos closed,if_pos closed,closed]
        exact ⟨rfl,.idle none 0 m rfl⟩
      · rw [if_neg closed,if_neg closed]
        exact ⟨rfl,.opened lib 0 m⟩
  | idle chosen p m held => exact ⟨rfl,.idle none 0 m rfl⟩

theorem session_simulated :
    Simulated (Process.step (t := t)) Process.careful Session.answer Tracks := by
  intro s b a tracks careful
  cases a with
  | place p nonnull args =>
    have same : b.args = s.args := by cases tracks <;> rfl
    refine ⟨_,rfl,?_⟩
    simp only [Session.answer,same]
    apply tracks.memory
    intro unloaded _
    exact Mem.block_set_other _ _ _ _ (careful unloaded).symm
  | release p =>
    have same : b.args = s.args := by cases tracks <;> rfl
    obtain ⟨m,freed⟩ := Mem.free_some careful.1
    refine ⟨{ s with args := m },?_,?_⟩
    · simp only [Process.step,freed,Option.map_some,Session.answer]
    · simp only [Session.answer,same,freed,Option.getD_some]
      apply tracks.memory
      intro unloaded _
      exact (Mem.free_cases freed).2.2 _ (careful.2 unloaded).symm
  | setRuntimePath host pArgs =>
    obtain ⟨l,set,next⟩ := tracks.setRuntimePath host careful
    refine ⟨{ s with loader := l },?_,next⟩
    simp only [Process.step,set,Option.map_some,Session.answer]
  | init host pInitDesc phAPIHandle =>
    obtain ⟨l,initialised,next⟩ := tracks.init host phAPIHandle careful
    refine ⟨{ s with loader := l },?_,next⟩
    simp only [Process.step,initialised,Option.map_some,Session.answer]
  | close host hAPIHandle =>
    obtain ⟨same,next⟩ := tracks.close host hAPIHandle
    refine ⟨_,?_,next⟩
    simp only [Process.step,same,Session.answer]

/-- Once the remembered arguments are dead, a `ctlInit` that gets to read them faults. -/
theorem ctlInit_dangling {host : Host t} {p : Addr} {m : CallerArgs} (nonnull : p ≠ 0)
    (dead : m.block p = none) (room : host.resize = true) (pInitDesc : Option CtlInitArgs)
    (phAPIHandle : Option (CtlApiHandle t)) :
    ctlInit host pInitDesc phAPIHandle ⟨none,p⟩ m = none := by
  have noArgs : pointedTo m p = none := by
    rw [pointedTo,if_neg nonnull,runtimeArgs,dead,Option.bind_none,Option.map_none]
  simp [ctlInit,room,getControlAPIDLLPath,noArgs]

/-- A note in the source lets the caller free the arguments after the `ctlInit` call. When that call
opened no library they are still remembered: call and release go through, and then the very next
`ctlInit` has no result, unless its buffer cannot be resized. -/
theorem freed_after_failed_load_faults {choice : ChosenPath} {p : Addr} {m : CallerArgs}
    (held : pointedTo m p = some (some choice.args)) {first : Host t}
    (unopened : first.resize = false ∨
      first.loadLibraryExW (choice.path.take (ctlDllPathLen - 1)) = none)
    (initDesc : CtlInitArgs) (phAPIHandle : Option (CtlApiHandle t)) :
    ∃ os freed, run Process.step ⟨⟨none,p⟩,m⟩ [.init first (some initDesc) phAPIHandle,.release p] =
        some (os,freed) ∧
      ∀ (second : Host t) (again : CtlInitArgs) (phAPIHandle' : Option (CtlApiHandle t)),
        freed.step (.init second (some again) phAPIHandle') = none ↔ second.resize = true := by
  have nonnull := pointedTo_nonnull held
  obtain ⟨answer,failed⟩ : ∃ answer,
      ctlInit first (some initDesc) phAPIHandle ⟨none,p⟩ m = some (answer,⟨none,p⟩) := by
    simp only [ctlInit]
    rcases unopened with noRoom | notFound
    · rw [if_pos noRoom]
      exact ⟨_,rfl⟩
    · split
      · exact ⟨_,rfl⟩
      · simp only [getControlAPIDLLPath_idle (some choice) held,Option.bind_some,
          Session.dllPath,notFound]
        exact ⟨_,rfl⟩
  have alive : m.block p ≠ none := by
    intro dead
    rw [pointedTo,if_neg nonnull,runtimeArgs,dead] at held
    contradiction
  obtain ⟨m',released⟩ := Mem.free_some alive
  have dead := (Mem.free_cases released).2.1
  refine ⟨[.initialised answer,.memory],⟨⟨none,p⟩,m'⟩,?_,?_⟩
  · simp only [run,Process.step,failed,released,Option.map_some,Option.bind_some]
  · intro second again phAPIHandle'
    rw [Process.step,Option.map_eq_none_iff]
    cases room : second.resize with
    | true => simp [ctlInit_dangling nonnull dead room]
    | false => simp [ctlInit,room]

def noLibrary : Host Target.x64 := { oneLibrary with loadLibraryExW := fun _ => none }

theorem missing_library_then_fault :
    ∃ os freed, run Process.step ⟨⟨none,8⟩,Mem.empty.set 8 (Nat.succ_ne_zero 7) (some [privateLibrary])⟩
        [.init noLibrary (some initDefaultArgs) (some 0),.release 8] = some (os,freed) ∧
      freed.step (.init oneLibrary (some initDefaultArgs) (some 0)) = none := by
  have held : pointedTo (Mem.empty.set 8 (Nat.succ_ne_zero 7) (some [privateLibrary])) 8 =
      some (some (⟨privateLibrary,wide "own.dll",rfl⟩ : ChosenPath).args) := rfl
  have unopened : noLibrary.resize = false ∨
      noLibrary.loadLibraryExW ((wide "own.dll").take (ctlDllPathLen - 1)) = none := .inr rfl
  obtain ⟨os,freed,ran,faults⟩ := freed_after_failed_load_faults held unopened initDefaultArgs (some 0)
  exact ⟨os,freed,ran,(faults oneLibrary initDefaultArgs (some 0)).mpr rfl⟩

end IGCL

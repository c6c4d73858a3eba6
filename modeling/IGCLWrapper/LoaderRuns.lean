import IGCLWrapper.AllocatingHelpers
import IGCLWrapper.FaultMachine
import IGCLWrapper.Loader
import Mathlib.Algebra.Ring.Int.Defs

/-! Runs of a process that opens and closes the API and keeps runtime path arguments: what each call
of the loader can do, and that the library references it takes and gives back stay balanced. -/
namespace IGCL

open BlockMemory FaultMachine

variable {t : Target}

/-- What the client does next. It owns the argument blocks: it writes a new or an old one, and
frees one. -/
inductive LoaderAction (t : Target) where
  | place (p : Addr) (nonnull : p ≠ 0) (args : CtlRuntimePathArgs)
  | release (p : Addr)
  | setRuntimePath (host : Host t) (pArgs : Addr)
  | init (host : Host t) (pInitDesc : Option CtlInitArgs) (phAPIHandle : Option (CtlApiHandle t))
  | close (host : Host t) (hAPIHandle : CtlApiHandle t)

def LoaderAction.isInit : LoaderAction t → Prop
  | .init .. => True
  | _ => False

inductive LoaderAnswer (t : Target) where
  | memory
  | called (answer : Answered Unit)
  | initialised (answer : Answered (Option CtlInitArgs × Option (CtlApiHandle t)))

def LoaderAnswer.calls : LoaderAnswer t → List HostCall
  | .memory => []
  | .called answer => answer.calls
  | .initialised answer => answer.calls

structure Process where
  loader : Loader
  args : CallerArgs

namespace Process

def start : Process := ⟨⟨none,0⟩,Mem.empty⟩

def step (s : Process) : LoaderAction t → Option (LoaderAnswer t × Process)
  | .place p nonnull args => some (.memory,{ s with args := s.args.set p nonnull (some [args]) })
  | .release p => (s.args.free p).map fun args => (.memory,{ s with args })
  | .setRuntimePath host pArgs =>
    (ctlSetRuntimePath host pArgs s.loader s.args).map fun r => (.called r.1,{ s with loader := r.2 })
  | .init host pInitDesc phAPIHandle =>
    (ctlInit host pInitDesc phAPIHandle s.loader s.args).map fun r =>
      (.initialised r.1,{ s with loader := r.2 })
  | .close host hAPIHandle =>
    let r := ctlClose host hAPIHandle s.loader
    some (.called r.1,{ s with loader := r.2 })

end Process

def HostCall.references (lib : HInstance) : HostCall → Int
  | .loadLibraryExW _ loaded => if loaded = some lib then 1 else 0
  | .freeLibrary freed => if freed = lib then -1 else 0
  | .ctlSetRuntimePath .. => 0

def LoaderAnswer.references (lib : HInstance) (answer : LoaderAnswer t) : Int :=
  (answer.calls.map (HostCall.references lib)).sum

/-- References on `lib` the loader's state accounts for. -/
def Loader.holds (l : Loader) (lib : HInstance) : Int := if l.hinstLib = some lib then 1 else 0

@[simp] theorem forwardInit_calls (host : Host t) (hinstLib : Option HInstance) (result : CtlResult)
    (pInitDesc : Option CtlInitArgs) (phAPIHandle : Option (CtlApiHandle t)) (calls : List HostCall) :
    (forwardInit host hinstLib result pInitDesc phAPIHandle calls).calls = calls := by
  unfold forwardInit
  split <;> rfl

theorem ctlSetRuntimePath_cases {host : Host t} {pArgs : Addr} {l : Loader} {m : CallerArgs}
    {r : Answered Unit × Loader} (ran : ctlSetRuntimePath host pArgs l m = some r) :
    r.2.hinstLib = l.hinstLib ∧ ∀ lib, (r.1.calls.map (HostCall.references lib)).sum = 0 := by
  unfold ctlSetRuntimePath at ran
  split at ran
  · next opened =>
    split at ran
    · obtain rfl := Option.some.inj ran
      exact ⟨rfl,fun _ => rfl⟩
    · obtain ⟨args,_,rfl⟩ := Option.map_eq_some_iff.mp ran
      exact ⟨rfl,fun _ => rfl⟩
  · obtain ⟨args,_,same⟩ := Option.map_eq_some_iff.mp ran
    split at same
    all_goals
      rw [← same]
      exact ⟨rfl,fun _ => rfl⟩

/-- `ctlClose` either succeeds and releases the library, or keeps it. -/
theorem ctlClose_cases (host : Host t) (hAPIHandle : CtlApiHandle t) (l : Loader) :
    ctlClose host hAPIHandle l = (⟨.success,(),l.hinstLib.toList.map .freeLibrary⟩,⟨none,0⟩) ∨
    ∃ code, code ≠ .success ∧ ctlClose host hAPIHandle l = (⟨code,(),[]⟩,⟨l.hinstLib,0⟩) := by
  unfold ctlClose
  extract_lets result
  by_cases closed : result = .success
  · rw [if_pos closed,closed]
    exact .inl rfl
  · rw [if_neg closed]
    exact .inr ⟨result,closed,rfl⟩

def Unopened (pInitDesc : Option CtlInitArgs) (code : CtlResult) : Prop :=
  code = .errorOutOfDeviceMemory ∨ code = .errorLoad ∨
    code = .errorUnsupportedVersion ∧ ∃ initArgs, pInitDesc = some initArgs ∧
      ctlMajorVersion initArgs.appVersion > ctlImplMajorVersion

theorem Unopened.ne_success {pInitDesc : Option CtlInitArgs} {code : CtlResult}
    (unopened : Unopened pInitDesc code) : code ≠ .success := by
  rcases unopened with rfl | rfl | ⟨rfl,_⟩
  all_goals decide

/-- How a completed `ctlInit` went: a library was open already, none was opened, or `lib` was. -/
theorem ctlInit_cases {host : Host t} {pInitDesc : Option CtlInitArgs}
    {phAPIHandle : Option (CtlApiHandle t)} {l : Loader} {m : CallerArgs}
    {r : Answered (Option CtlInitArgs × Option (CtlApiHandle t)) × Loader}
    (ran : ctlInit host pInitDesc phAPIHandle l m = some r) :
    (l.hinstLib ≠ none ∧ r =
      (forwardInit host l.hinstLib .errorNotInitialized pInitDesc phAPIHandle [],l)) ∨
    (l.hinstLib = none ∧ r.2 = l ∧ Unopened pInitDesc r.1.code ∧
      ∀ lib, (r.1.calls.map (HostCall.references lib)).sum = 0) ∨
    (l.hinstLib = none ∧ ∃ lib path calls, host.loadLibraryExW path = some lib ∧
      r.2.hinstLib = some lib ∧
      r.1 = forwardInit host (some lib) .success pInitDesc phAPIHandle
        (.loadLibraryExW path (some lib) :: calls) ∧
      ∀ other, (calls.map (HostCall.references other)).sum = 0) := by
  unfold ctlInit at ran
  split at ran
  · next lib opened =>
    obtain rfl := Option.some.inj ran
    exact .inl ⟨by simp [opened],rfl⟩
  · next unloaded =>
    right
    split at ran
    · obtain rfl := Option.some.inj ran
      exact .inl ⟨unloaded,rfl,.inl rfl,fun _ => rfl⟩
    · obtain ⟨selected,found,rest⟩ := Option.bind_eq_some_iff.mp ran
      cases selected with
      | error code =>
        obtain rfl := Option.some.inj rest
        exact .inl ⟨unloaded,rfl,.inr (.inr (getControlAPIDLLPath_error found)),fun _ => rfl⟩
      | ok path =>
        dsimp only at rest
        split at rest
        · obtain rfl := Option.some.inj rest
          exact .inl ⟨unloaded,rfl,.inr (.inl rfl),fun _ => rfl⟩
        · next lib loaded =>
          right
          split at rest
          · obtain ⟨told,asked,rfl⟩ := Option.map_eq_some_iff.mp rest
            obtain ⟨kept,nothing⟩ := ctlSetRuntimePath_cases asked
            refine ⟨unloaded,lib,path,told.1.calls,loaded,kept,?_,nothing⟩
            rw [kept]
          · obtain rfl := Option.some.inj rest
            exact ⟨unloaded,lib,path,[],loaded,rfl,rfl,fun _ => rfl⟩

namespace Process

theorem step_cases {s s' : Process} {a : LoaderAction t} {o : LoaderAnswer t}
    (ran : s.step a = some (o,s')) :
    (o = .memory ∧ s'.loader = s.loader) ∨
    (∃ host pArgs r, ctlSetRuntimePath (t := t) host pArgs s.loader s.args = some r ∧
      o = .called r.1 ∧ s'.loader = r.2) ∨
    (a.isInit ∧ ∃ host pInitDesc phAPIHandle r,
      ctlInit host pInitDesc phAPIHandle s.loader s.args = some r ∧
      o = .initialised r.1 ∧ s'.loader = r.2) ∨
    ∃ host hAPIHandle, o = .called (ctlClose (t := t) host hAPIHandle s.loader).1 ∧
      s'.loader = (ctlClose host hAPIHandle s.loader).2 := by
  cases a with
  | place p nonnull args =>
    obtain ⟨rfl,rfl⟩ := Prod.mk.inj (Option.some.inj ran)
    exact .inl ⟨rfl,rfl⟩
  | release p =>
    obtain ⟨args,_,same⟩ := Option.map_eq_some_iff.mp ran
    obtain ⟨rfl,rfl⟩ := Prod.mk.inj same
    exact .inl ⟨rfl,rfl⟩
  | setRuntimePath host pArgs =>
    obtain ⟨r,set,same⟩ := Option.map_eq_some_iff.mp ran
    obtain ⟨rfl,rfl⟩ := Prod.mk.inj same
    exact .inr (.inl ⟨host,pArgs,r,set,rfl,rfl⟩)
  | init host pInitDesc phAPIHandle =>
    obtain ⟨r,initialised,same⟩ := Option.map_eq_some_iff.mp ran
    obtain ⟨rfl,rfl⟩ := Prod.mk.inj same
    exact .inr (.inr (.inl ⟨trivial,host,pInitDesc,phAPIHandle,r,initialised,rfl,rfl⟩))
  | close host hAPIHandle =>
    obtain ⟨rfl,rfl⟩ := Prod.mk.inj (Option.some.inj ran)
    exact .inr (.inr (.inr ⟨host,hAPIHandle,rfl,rfl⟩))

/-- One action changes the references held by exactly what its calls took and gave back. -/
theorem step_references {s s' : Process} {a : LoaderAction t} {o : LoaderAnswer t}
    (ran : s.step a = some (o,s')) (lib : HInstance) :
    s'.loader.holds lib = s.loader.holds lib + o.references lib := by
  rcases step_cases ran with ⟨rfl,same⟩ | ⟨host,pArgs,r,set,rfl,after⟩ |
    ⟨_,host,pInitDesc,phAPIHandle,r,initialised,rfl,after⟩ | ⟨host,hAPIHandle,rfl,after⟩
  · rw [same]
    exact (Int.add_zero _).symm
  · obtain ⟨kept,nothing⟩ := ctlSetRuntimePath_cases set
    simp only [Loader.holds,LoaderAnswer.references,LoaderAnswer.calls,after,kept,nothing,Int.add_zero]
  · simp only [Loader.holds,LoaderAnswer.references,LoaderAnswer.calls,after]
    rcases ctlInit_cases initialised with ⟨_,rfl⟩ | ⟨_,kept,_,nothing⟩ |
      ⟨unloaded,opened,path,calls,_,holds,answer,nothing⟩
    · simp
    · rw [kept,nothing,Int.add_zero]
    · rw [unloaded,holds,answer,forwardInit_calls,List.map_cons,List.sum_cons,nothing]
      simp [HostCall.references]
  · simp only [Loader.holds,LoaderAnswer.references,LoaderAnswer.calls,after]
    rcases ctlClose_cases host hAPIHandle s.loader with closed | ⟨code,_,kept⟩
    · rw [closed]
      cases s.loader.hinstLib with
      | none => rfl
      | some opened =>
        by_cases same : opened = lib
        · simp [HostCall.references,same]
        · simp [HostCall.references,same]
    · simp [kept]

theorem step_unloaded {s s' : Process} {a : LoaderAction t} {o : LoaderAnswer t}
    (other : ¬a.isInit) (unloaded : s.loader.hinstLib = none) (ran : s.step a = some (o,s')) :
    s'.loader.hinstLib = none := by
  rcases step_cases ran with ⟨_,same⟩ | ⟨host,pArgs,r,set,_,after⟩ | ⟨isInit,_⟩ |
    ⟨host,hAPIHandle,_,after⟩
  · rw [same,unloaded]
  · rw [after,(ctlSetRuntimePath_cases set).1,unloaded]
  · exact absurd isInit other
  · rw [after]
    rcases ctlClose_cases host hAPIHandle s.loader with closed | ⟨code,_,kept⟩
    · rw [closed]
    · rw [kept,unloaded]

end Process

/-- The loader never releases a library it does not hold, and never holds one twice: after any run
that does not fault, what its calls took and gave back is what its state says. -/
theorem references_balanced {acts : List (LoaderAction t)} {os : List (LoaderAnswer t)}
    {final : Process} (ran : run Process.step Process.start acts = some (os,final)) (lib : HInstance) :
    (os.map (LoaderAnswer.references lib)).sum = final.loader.holds lib := by
  have balance := run_balance (fun s : Process => s.loader.holds lib) (LoaderAnswer.references lib)
    (fun s a o s' stepped => Process.step_references stepped lib) ran
  rw [balance]
  simp [Loader.holds,Process.start]

/-- A system with one library, which opens and closes at once. -/
def oneLibrary : Host Target.x64 where
  resize := true
  loadLibraryExW _ := some 7
  ctlInit _ := some fun initDesc _ => ⟨.success,initDesc.getD initDefaultArgs,1⟩
  ctlClose _ := some fun _ => .success
  ctlSetRuntimePath _ := none

theorem opened_twice_balanced : ∃ os final,
    run Process.step Process.start [.init oneLibrary (some initDefaultArgs) (some 0),
      .init oneLibrary (some initDefaultArgs) (some 0),.close oneLibrary 1] = some (os,final) ∧
    (os.map (LoaderAnswer.references 7)).sum = final.loader.holds 7 := by
  obtain ⟨os,final,ran⟩ : ∃ os final, run Process.step Process.start
      [.init oneLibrary (some initDefaultArgs) (some 0),.init oneLibrary (some initDefaultArgs) (some 0),
        .close oneLibrary 1] = some (os,final) := ⟨_,_,rfl⟩
  exact ⟨os,final,ran,references_balanced ran 7⟩

/-- `ctlInit` reports success when the library's own `ctlInit` does, and also when it has just
opened a library that has no such entry point. -/
theorem ctlInit_success_iff {host : Host t} {pInitDesc : Option CtlInitArgs}
    {phAPIHandle : Option (CtlApiHandle t)} {l : Loader} {m : CallerArgs}
    {r : Answered (Option CtlInitArgs × Option (CtlApiHandle t)) × Loader}
    (ran : ctlInit host pInitDesc phAPIHandle l m = some r) :
    r.1.code = .success ↔ ∃ lib, r.2.hinstLib = some lib ∧
      ((∃ pfn, host.ctlInit lib = some pfn ∧ (pfn pInitDesc phAPIHandle).code = .success) ∨
        host.ctlInit lib = none ∧ l.hinstLib = none) := by
  rcases ctlInit_cases ran with ⟨opened,rfl⟩ | ⟨unloaded,kept,failed,_⟩ |
    ⟨unloaded,lib,path,calls,_,holds,answer,_⟩
  · obtain ⟨lib,loaded⟩ := Option.ne_none_iff_exists'.mp opened
    simp only [forwardInit,loaded,Option.bind_some]
    cases entry : host.ctlInit lib with
    | none =>
      have failed := CtlResult.notInitialized_ne_success
      simp [failed,entry]
    | some pfn => simp [entry]
  · simp [failed.ne_success,kept,unloaded]
  · rw [answer,forwardInit,Option.bind_some,holds]
    cases entry : host.ctlInit lib with
    | none => simp [entry,unloaded]
    | some pfn => simp [entry]

theorem bare_library_initialised : ∃ r,
    ctlInit { oneLibrary with ctlInit := fun _ => none } (some initDefaultArgs) (some 0) ⟨none,0⟩
        Mem.empty = some r ∧ r.1.code = .success := by
  obtain ⟨r,ran,opened⟩ : ∃ r, ctlInit { oneLibrary with ctlInit := fun _ => none }
      (some initDefaultArgs) (some 0) ⟨none,0⟩ Mem.empty = some r ∧ r.2.hinstLib = some 7 := ⟨_,rfl,rfl⟩
  exact ⟨r,ran,(ctlInit_success_iff ran).mpr ⟨7,opened,.inr ⟨rfl,rfl⟩⟩⟩

/-- The loader's version check never refuses `IGCL_InitDefault`. -/
theorem igclInitDefault_unopened {host : Host t} {hAPI : CtlApiHandle t} {l : Loader} {m : CallerArgs}
    {r : Answered (Option (CtlApiHandle t)) × Loader}
    (ran : igclInitDefault host (some hAPI) l m = some r) (unopened : r.2.hinstLib = none) :
    r.1.code = .errorOutOfDeviceMemory ∨ r.1.code = .errorLoad := by
  obtain ⟨r,initialised,rfl⟩ := Option.map_eq_some_iff.mp ran
  rcases ctlInit_cases initialised with ⟨opened,rfl⟩ | ⟨_,_,noMemory | noLibrary | ⟨_,newer⟩,_⟩ |
    ⟨_,lib,_,_,_,holds,_⟩
  · exact absurd unopened opened
  · exact .inl noMemory
  · exact .inr noLibrary
  · obtain ⟨initArgs,given,newer⟩ := newer
    obtain rfl := Option.some.inj given
    exact absurd newer (by decide)
  · cases unopened.symm.trans holds

def Loader.runtime (l : Loader) (answers : HInstance → Runtime t) : Option (Runtime t) :=
  l.hinstLib.map answers

/-- From a close that succeeded to the next `ctlInit`, both allocating helpers answer that the API
is not initialised, allocate nothing, and the panel helper leaves its out cell as it was. -/
theorem closed_not_initialized {host : Host t} {hAPIHandle : CtlApiHandle t} {s final : Process}
    {acts : List (LoaderAction t)} {os : List (LoaderAnswer t)}
    (closed : (ctlClose host hAPIHandle s.loader).1.code = .success)
    (others : ∀ a ∈ acts, ¬a.isInit)
    (ran : run Process.step s (.close host hAPIHandle :: acts) = some (os,final))
    (phase1 phase2 : HInstance → Runtime t) (malloc : Malloc) (handle : t.Handle)
    (args : CtlPanelDescriptorAccessArgs) (count : UInt32) (cell : Addr) (m : Heap) :
    igclGetPanelDescriptor (final.loader.runtime phase1) (final.loader.runtime phase2) malloc handle
        (some args) (some cell) m =
      some ⟨.errorNotInitialized,some (panelQueryArgs t args),some cell,m,[(panelQueryArgs t args,0)]⟩ ∧
    igclEnumDisplays (final.loader.runtime phase1) (final.loader.runtime phase2) malloc handle
        (some count) (some cell) m =
      some ⟨.errorNotInitialized,some count,some 0,m,[(count,0)]⟩ := by
  obtain ⟨o,s',later,first,rest,_⟩ := run_cons_eq_some.mp ran
  obtain ⟨_,rfl⟩ := Prod.mk.inj (Option.some.inj first)
  have unloaded : final.loader.hinstLib = none := by
    apply run_invariant (fun s : Process => s.loader.hinstLib = none) _ _ rest
    · intro a member s o s' before stepped
      exact Process.step_unloaded (others a member) before stepped
    · rcases ctlClose_cases host hAPIHandle s.loader with released | ⟨code,failed,kept⟩
      · simp only [released]
      · rw [kept] at closed
        exact absurd closed failed
  have noRuntime : ∀ answers : HInstance → Runtime t, final.loader.runtime answers = none := by
    intro answers
    rw [Loader.runtime,unloaded,Option.map_none]
  rw [noRuntime,noRuntime]
  exact ⟨rfl,rfl⟩

def privateLibrary : CtlRuntimePathArgs := ⟨0,0,⟨0,0,0,Vector.replicate 8 0⟩,some (wide "own.dll"),0,0⟩

def oneBlock : Heap := Mem.empty.set 16 (Nat.succ_ne_zero 15) (some [0xcd])

/-- The library is closed, a path is chosen and the API is closed again. -/
theorem closed_library_not_asked :
    let phases : HInstance → Runtime Target.x64 := fun _ =>
      ⟨some fun _ _ _ _ => ⟨.success,1,[]⟩,some fun _ args _ => ⟨.success,args,[]⟩⟩
    let malloc : Malloc := ⟨fun _ _ => none,nofun⟩
    let request : CtlPanelDescriptorAccessArgs := ⟨0,0,.read,0,0,0⟩
    ∃ os final, run Process.step ⟨⟨some 7,0⟩,Mem.empty⟩ [.close oneLibrary 1,
        .place 8 (Nat.succ_ne_zero 7) privateLibrary,.setRuntimePath oneLibrary 8,
        .close oneLibrary 1] = some (os,final) ∧
      igclGetPanelDescriptor (final.loader.runtime phases) (final.loader.runtime phases) malloc 0
          (some request) (some 16) oneBlock =
        some ⟨.errorNotInitialized,some (panelQueryArgs Target.x64 request),some 16,oneBlock,
          [(panelQueryArgs Target.x64 request,0)]⟩ ∧
      igclEnumDisplays (final.loader.runtime phases) (final.loader.runtime phases) malloc 0
          (some 3) (some 16) oneBlock =
        some ⟨.errorNotInitialized,some 3,some 0,oneBlock,[(3,0)]⟩ := by
  intro phases malloc request
  obtain ⟨os,final,ran⟩ : ∃ os final, run Process.step ⟨⟨some 7,0⟩,Mem.empty⟩ [.close oneLibrary 1,
      .place 8 (Nat.succ_ne_zero 7) privateLibrary,.setRuntimePath oneLibrary 8,
      .close oneLibrary 1] = some (os,final) := ⟨_,_,rfl⟩
  exact ⟨os,final,ran,closed_not_initialized rfl (by simp [LoaderAction.isInit]) ran phases phases malloc
    0 request 3 16 oneBlock⟩

end IGCL

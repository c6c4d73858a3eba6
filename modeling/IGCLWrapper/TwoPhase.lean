import IGCLWrapper.AllocatingHelpers

/-! What the two allocating helpers have in common: ask the driver for a size, allocate,
ask again. The helpers differ in the count they start from, in what their out cell
holds when they give up early, and in the pointer the second call carries. -/
namespace IGCL

open BlockMemory

/-- The parts of a query-allocate-read sequence. `argument` is the in/out value of the query,
`stale` what the out cell holds when the helper returns before it allocates, and `handed`
the pointer given to the second driver call. -/
structure TwoPhase (γ : Type) where
  argument : γ
  stale : Addr
  query : Heap → Reply γ
  nothing : γ → Prop
  [decideNothing : DecidablePred nothing]
  size : γ → Nat
  handed : γ → Addr → Addr
  read : γ → Addr → Heap → Reply γ

variable {t : Target} {γ : Type}

namespace TwoPhase

/-- The query ended the sequence: it failed or there is nothing to fetch. -/
def Stops (p : TwoPhase γ) (m : Heap) : Prop :=
  (p.query m).code ≠ .success ∨ p.nothing (p.query m).out

instance (p : TwoPhase γ) (m : Heap) : Decidable (p.Stops m) :=
  have := p.decideNothing
  inferInstanceAs (Decidable ((p.query m).code ≠ .success ∨ p.nothing (p.query m).out))

def run (p : TwoPhase γ) (malloc : Malloc) (m : Heap) : Option (HelperResult γ) :=
  (m.writes (p.query m).stores).bind fun m₁ =>
    if p.Stops m then
      some ⟨(p.query m).code,some (p.query m).out,some p.stale,m₁,[(p.argument,0)]⟩
    else
      match malloc.grant m₁ (p.size (p.query m).out) with
      | none => some ⟨.errorOutOfHostMemory,some (p.query m).out,some 0,m₁,[(p.argument,0)]⟩
      | some block =>
        let reply := p.read (p.query m).out block.addr (m₁.alloc block)
        ((m₁.alloc block).writes reply.stores).bind fun m₃ =>
          some ⟨reply.code,some reply.out,some block.addr,m₃,
            [(p.argument,0),((p.query m).out,p.handed (p.query m).out block.addr)]⟩

/-- Every way a completed sequence can have gone, with the whole result in each case. -/
inductive Exit (p : TwoPhase γ) (malloc : Malloc) (m : Heap) (r : HelperResult γ) : Prop
  | early (m₁ : Heap) (queried : m.writes (p.query m).stores = some m₁) (stops : p.Stops m)
      (result : r = ⟨(p.query m).code,some (p.query m).out,some p.stale,m₁,[(p.argument,0)]⟩)
  | outOfMemory (m₁ : Heap) (queried : m.writes (p.query m).stores = some m₁) (goes : ¬p.Stops m)
      (refused : malloc.grant m₁ (p.size (p.query m).out) = none)
      (result : r = ⟨.errorOutOfHostMemory,some (p.query m).out,some 0,m₁,[(p.argument,0)]⟩)
  | read (m₁ : Heap) (queried : m.writes (p.query m).stores = some m₁) (goes : ¬p.Stops m)
      (block : Fresh m₁)
      (granted : malloc.grant m₁ (p.size (p.query m).out) = some block) (m₃ : Heap)
      (filled : (m₁.alloc block).writes
        (p.read (p.query m).out block.addr (m₁.alloc block)).stores = some m₃)
      (result : r = ⟨(p.read (p.query m).out block.addr (m₁.alloc block)).code,
        some (p.read (p.query m).out block.addr (m₁.alloc block)).out,some block.addr,m₃,
        [(p.argument,0),((p.query m).out,p.handed (p.query m).out block.addr)]⟩)

theorem run_exit {p : TwoPhase γ} {malloc : Malloc} {m : Heap} {r : HelperResult γ}
    (completed : p.run malloc m = some r) : Exit p malloc m r := by
  obtain ⟨m₁,queried,rest⟩ := Option.bind_eq_some_iff.mp completed
  by_cases stops : p.Stops m
  · rw [if_pos stops] at rest
    exact .early m₁ queried stops (Option.some.inj rest).symm
  · rw [if_neg stops] at rest
    split at rest
    next refused => exact .outOfMemory m₁ queried stops refused (Option.some.inj rest).symm
    next block granted =>
      obtain ⟨m₃,filled,result⟩ := Option.bind_eq_some_iff.mp rest
      exact .read m₁ queried stops block granted m₃ filled (Option.some.inj result).symm

/-- A sequence completes when the driver's stores stay inside live blocks. -/
theorem run_completes {p : TwoPhase γ} {malloc : Malloc} {m m₁ : Heap}
    (queried : m.writes (p.query m).stores = some m₁)
    (filled : ¬p.Stops m → ∀ block, malloc.grant m₁ (p.size (p.query m).out) = some block →
      ∃ m₃, (m₁.alloc block).writes
        (p.read (p.query m).out block.addr (m₁.alloc block)).stores = some m₃) :
    ∃ r, p.run malloc m = some r := by
  rw [run,queried,Option.bind_some]
  by_cases stops : p.Stops m
  · exact ⟨_,if_pos stops⟩
  · rw [if_neg stops]
    cases granted : malloc.grant m₁ (p.size (p.query m).out) with
    | none => exact ⟨_,rfl⟩
    | some block =>
      obtain ⟨m₃,stored⟩ := filled stops block granted
      simp only [stored,Option.bind_some]
      exact ⟨_,rfl⟩

/-- A completed sequence either leaves the live blocks alone, with the out cell stale or null,
or has added exactly the one new block the out cell names. -/
theorem exit_live {p : TwoPhase γ} {malloc : Malloc} {m : Heap} {r : HelperResult γ}
    (exit : Exit p malloc m r) :
    (r.heap.live = m.live ∧ (r.out = some p.stale ∧ p.Stops m ∨ r.out = some 0 ∧ ¬p.Stops m)) ∨
    ∃ a, a ≠ 0 ∧ a ∉ m.live ∧ ¬p.Stops m ∧ r.out = some a ∧ r.heap.live = insert a m.live := by
  cases exit with
  | early m₁ queried stops result =>
    subst result
    exact .inl ⟨Mem.live_writes queried,.inl ⟨rfl,stops⟩⟩
  | outOfMemory m₁ queried goes refused result =>
    subst result
    exact .inl ⟨Mem.live_writes queried,.inr ⟨rfl,goes⟩⟩
  | read m₁ queried goes block granted m₃ filled result =>
    subst result
    have base := Mem.live_writes queried
    refine .inr ⟨block.addr,block.nonnull,?_,goes,rfl,?_⟩
    · rw [← base]; exact Mem.fresh_not_live m₁ block
    · rw [Mem.live_writes filled,Mem.live_alloc,base]

/-- When giving up early leaves a null cell, a sequence ends with a null cell or with one new
block, the one in its cell. -/
theorem run_owned {p : TwoPhase γ} {malloc : Malloc} {m : Heap} {r : HelperResult γ} {a : Addr}
    (completed : p.run malloc m = some r) (atCell : r.out = some a) (clean : p.Stops m → p.stale = 0) :
    a = 0 ∧ r.heap.live = m.live ∨ a ≠ 0 ∧ a ∉ m.live ∧ r.heap.live = insert a m.live := by
  rcases exit_live (run_exit completed) with ⟨kept,early | late⟩ | ⟨b,nonnull,fresh,_,here,grown⟩
  · exact .inl ⟨(Option.some.inj (atCell.symm.trans early.1)).trans (clean early.2),kept⟩
  · exact .inl ⟨Option.some.inj (atCell.symm.trans late.1),kept⟩
  · obtain rfl := Option.some.inj (atCell.symm.trans here)
    exact .inr ⟨nonnull,fresh,grown⟩

def ReadFails (p : TwoPhase γ) (malloc : Malloc) (m : Heap) : Prop :=
  ¬p.Stops m ∧ ∃ m₁ block, m.writes (p.query m).stores = some m₁ ∧
    malloc.grant m₁ (p.size (p.query m).out) = some block ∧
    (p.read (p.query m).out block.addr (m₁.alloc block)).code ≠ .success

/-- A failed sequence leaves the live blocks as they were exactly when it did not fail in
its second driver call. -/
theorem failure_atomic_iff {p : TwoPhase γ} {malloc : Malloc} {m : Heap} {r : HelperResult γ}
    (completed : p.run malloc m = some r) :
    (r.code ≠ .success → r.heap.live = m.live) ↔ ¬p.ReadFails malloc m := by
  cases run_exit completed with
  | early m₁ queried stops result =>
    subst result
    exact ⟨fun _ fails => fails.1 stops,fun _ _ => Mem.live_writes queried⟩
  | outOfMemory m₁ queried goes refused result =>
    subst result
    refine ⟨?_,fun _ _ => Mem.live_writes queried⟩
    intro _ after
    obtain ⟨_,m₁',block,queried',granted,_⟩ := after
    obtain rfl := Option.some.inj (queried.symm.trans queried')
    rw [refused] at granted
    contradiction
  | read m₁ queried goes block granted m₃ filled result =>
    subst result
    have grown : m₃.live ≠ m.live := by
      have base := Mem.live_writes queried
      rw [Mem.live_writes filled,Mem.live_alloc,base]
      intro same
      exact Mem.fresh_not_live m₁ block (base ▸ same ▸ Set.mem_insert _ _)
    constructor
    · intro atomic given
      obtain ⟨_,m₁',block',queried',granted',failed⟩ := given
      obtain rfl := Option.some.inj (queried.symm.trans queried')
      obtain rfl := Option.some.inj (granted.symm.trans granted')
      exact grown (atomic failed)
    · intro readSucceeds failed
      exact absurd ⟨goes,m₁,block,queried,granted,failed⟩ readSucceeds

end TwoPhase

/-- `IGCL_GetPanelDescriptor`: the out cell keeps its old value on the early exits and the second
call carries the pointer field the query left in `*pArgs`. -/
def panelPhases (phase1 phase2 : Option (Runtime t)) (hDisplay : CtlDisplayOutputHandle t)
    (args : CtlPanelDescriptorAccessArgs) (buffer : Addr) : TwoPhase CtlPanelDescriptorAccessArgs where
  argument := panelQueryArgs t args
  stale := buffer
  query := ctlPanelDescriptorAccess phase1 hDisplay (panelQueryArgs t args)
  nothing out := out.descriptorDataSize = 0
  size out := out.descriptorDataSize.toNat
  handed out _ := out.pDescriptorData
  read out _ := ctlPanelDescriptorAccess phase2 hDisplay out

/-- `IGCL_EnumDisplays`: the out cell is nulled first and the second call gets the new block. -/
def enumPhases (phase1 phase2 : Option (Runtime t)) (hAdapter : CtlDeviceAdapterHandle t)
    (count : UInt32) : TwoPhase UInt32 where
  argument := count
  stale := 0
  query := ctlEnumerateDisplayOutputs phase1 hAdapter count 0
  nothing out := out = 0
  size out := t.sizeMul t.pointerBytes out.toNat
  handed _ block := block
  read out block := ctlEnumerateDisplayOutputs phase2 hAdapter out block

theorem igclGetPanelDescriptor_eq (phase1 phase2 : Option (Runtime t)) (malloc : Malloc)
    (hDisplay : CtlDisplayOutputHandle t) (args : CtlPanelDescriptorAccessArgs) (buffer : Addr)
    (m : Heap) : igclGetPanelDescriptor phase1 phase2 malloc hDisplay (some args) (some buffer) m =
      (panelPhases phase1 phase2 hDisplay args buffer).run malloc m := by
  unfold igclGetPanelDescriptor TwoPhase.run
  refine congrArg (Option.bind _) (funext fun m₁ => ?_)
  refine if_congr Iff.rfl rfl ?_
  split
  next refused => simp only [panelPhases,refused,panelQueryArgs_pDescriptorData]
  next block granted => simp only [panelPhases,granted,panelQueryArgs_pDescriptorData]

theorem igclEnumDisplays_eq (phase1 phase2 : Option (Runtime t)) (malloc : Malloc)
    (hAdapter : CtlDeviceAdapterHandle t) (count : UInt32) (displays : Addr) (m : Heap) :
    igclEnumDisplays phase1 phase2 malloc hAdapter (some count) (some displays) m =
      (enumPhases phase1 phase2 hAdapter count).run malloc m := by
  unfold igclEnumDisplays TwoPhase.run
  refine congrArg (Option.bind _) (funext fun m₁ => ?_)
  refine if_congr Iff.rfl rfl ?_
  split
  next refused => simp only [enumPhases,refused]
  next block granted => simp only [enumPhases,granted]

theorem enumerateExplicitly_eq (phase1 phase2 : Option (Runtime t)) (malloc : Malloc)
    (hAdapter : CtlDeviceAdapterHandle t) (m : Heap) :
    enumerateExplicitly phase1 phase2 malloc hAdapter m =
      (enumPhases phase1 phase2 hAdapter 0).run malloc m := by
  unfold enumerateExplicitly TwoPhase.run
  refine congrArg (Option.bind _) (funext fun m₁ => ?_)
  by_cases stops : (enumPhases phase1 phase2 hAdapter 0).Stops m
  · rw [if_pos stops,if_neg]
    · rfl
    · intro given
      obtain ⟨ok,some_outputs⟩ := given
      rcases stops with failed | nothing
      · exact failed ok
      · exact some_outputs nothing
  · have reported : (igclEnumerateDisplays phase1 hAdapter 0 0 m).code = .success ∧
        (igclEnumerateDisplays phase1 hAdapter 0 0 m).out ≠ 0 := not_or.mp stops |>.imp not_not.mp id
    rw [if_neg stops,if_pos reported]
    simp only [igclEnumerateDisplays]
    split
    next refused => simp only [enumPhases,refused]
    next array granted => simp only [enumPhases,granted]

end IGCL

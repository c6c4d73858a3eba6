import IGCLWrapper.DriverProtocol
import Mathlib.Order.BooleanAlgebra.Set

/-! Who owns the blocks the allocating helpers hand out: one failed call, and whole runs of a
client that frees the out cell after every call. No driver protocol is assumed here. -/
namespace IGCL

open BlockMemory

variable {t : Target}

/-- A failed call of either helper leaves the live blocks as they were exactly when it was not
the second driver call that failed. -/
theorem helpers_failure_atomic_iff (phase1 phase2 : Option (Runtime t)) (malloc : Malloc)
    (handle : t.Handle) (args : CtlPanelDescriptorAccessArgs) (count : UInt32) (cell : Addr) (m : Heap) :
    (∀ r, igclGetPanelDescriptor phase1 phase2 malloc handle (some args) (some cell) m = some r →
      ((r.code ≠ .success → r.heap.live = m.live) ↔
        ¬(panelPhases phase1 phase2 handle args cell).ReadFails malloc m)) ∧
    (∀ r, igclEnumDisplays phase1 phase2 malloc handle (some count) (some cell) m = some r →
      ((r.code ≠ .success → r.heap.live = m.live) ↔
        ¬(enumPhases phase1 phase2 handle count).ReadFails malloc m)) := by
  constructor
  · intro r completed
    rw [igclGetPanelDescriptor_eq] at completed
    exact TwoPhase.failure_atomic_iff completed
  · intro r completed
    rw [igclEnumDisplays_eq] at completed
    exact TwoPhase.failure_atomic_iff completed

/-- One helper call of a client, with non-null arguments. What the driver answers, what
`malloc` does and what the count or the argument block holds is chosen anew each time. -/
inductive HelperCall (t : Target) where
  | enumDisplays (phase1 phase2 : Option (Runtime t)) (malloc : Malloc)
      (hAdapter : CtlDeviceAdapterHandle t) (count : UInt32)
  | getPanelDescriptor (phase1 phase2 : Option (Runtime t)) (malloc : Malloc)
      (hDisplay : CtlDisplayOutputHandle t) (args : CtlPanelDescriptorAccessArgs)

/-- A client keeps one out cell for each helper. -/
structure Client where
  heap : Heap
  ppDisplays : Addr
  pBuffer : Addr

namespace Client

def call (c : Client) : HelperCall t → Option (Client × Addr)
  | .enumDisplays phase1 phase2 malloc hAdapter count =>
    (igclEnumDisplays phase1 phase2 malloc hAdapter (some count) (some c.ppDisplays) c.heap).bind
      fun r => r.out.map fun p => ({ c with heap := r.heap, ppDisplays := p },p)
  | .getPanelDescriptor phase1 phase2 malloc hDisplay args =>
    (igclGetPanelDescriptor phase1 phase2 malloc hDisplay (some args) (some c.pBuffer) c.heap).bind
      fun r => r.out.map fun p => ({ c with heap := r.heap, pBuffer := p },p)

def freed (c : Client) (p : Addr) : Option Client :=
  (igclFreeBuffer p c.heap).map fun heap => { c with heap }

/-- Every pointer freed along the run is null or a block the helpers allocated and nobody freed
yet, and after each free no such block is left. Blocks in `old` are not the helpers'. -/
def SafeRun (old : Set Addr) : Client → List (HelperCall t) → Prop
  | _, [] => True
  | c, step :: rest => ∀ called p, c.call step = some (called,p) →
    (p = 0 ∨ p ∈ called.heap.live \ old) ∧
    ∀ after, called.freed p = some after → after.heap.live \ old = ∅ ∧ SafeRun old after rest

/-- `IGCL_GetPanelDescriptor` gives up before it allocates and leaves a non-null out cell. -/
def StaleExit (c : Client) : HelperCall t → Prop
  | .enumDisplays .. => False
  | .getPanelDescriptor phase1 phase2 _ hDisplay args =>
    (panelPhases phase1 phase2 hDisplay args c.pBuffer).Stops c.heap ∧ c.pBuffer ≠ 0

def CleanRun : Client → List (HelperCall t) → Prop
  | _, [] => True
  | c, step :: rest => ∀ called p, c.call step = some (called,p) → ¬c.StaleExit step ∧
    ∀ after, called.freed p = some after → CleanRun after rest

theorem call_stale {c called : Client} {step : HelperCall t} {p : Addr} (stale : c.StaleExit step)
    (ran : c.call step = some (called,p)) : p ≠ 0 ∧ called.heap.live = c.heap.live := by
  cases step with
  | enumDisplays => exact stale.elim
  | getPanelDescriptor phase1 phase2 malloc hDisplay args =>
    obtain ⟨r,completed,stored⟩ := Option.bind_eq_some_iff.mp ran
    obtain ⟨p',atCell,same⟩ := Option.map_eq_some_iff.mp stored
    obtain ⟨rfl,rfl⟩ := Prod.mk.inj same
    rw [igclGetPanelDescriptor_eq] at completed
    rcases TwoPhase.exit_live (TwoPhase.run_exit completed) with ⟨kept,early | late⟩ | ⟨a,_,_,goes,_⟩
    · obtain rfl := Option.some.inj (atCell.symm.trans early.1)
      exact ⟨stale.2,kept⟩
    · exact absurd stale.1 late.2
    · exact absurd stale.1 goes

/-- Any other step ends with a null cell or with one new block, the one in its cell. -/
theorem call_owned {c called : Client} {step : HelperCall t} {p : Addr} (clean : ¬c.StaleExit step)
    (ran : c.call step = some (called,p)) :
    p = 0 ∧ called.heap.live = c.heap.live ∨
    p ≠ 0 ∧ p ∉ c.heap.live ∧ called.heap.live = insert p c.heap.live := by
  cases step with
  | enumDisplays phase1 phase2 malloc hAdapter count =>
    obtain ⟨r,completed,stored⟩ := Option.bind_eq_some_iff.mp ran
    obtain ⟨p',atCell,same⟩ := Option.map_eq_some_iff.mp stored
    obtain ⟨rfl,rfl⟩ := Prod.mk.inj same
    rw [igclEnumDisplays_eq] at completed
    exact TwoPhase.run_owned completed atCell fun _ => rfl
  | getPanelDescriptor phase1 phase2 malloc hDisplay args =>
    obtain ⟨r,completed,stored⟩ := Option.bind_eq_some_iff.mp ran
    obtain ⟨p',atCell,same⟩ := Option.map_eq_some_iff.mp stored
    obtain ⟨rfl,rfl⟩ := Prod.mk.inj same
    rw [igclGetPanelDescriptor_eq] at completed
    apply TwoPhase.run_owned completed atCell
    intro stops
    by_contra nonnull
    exact clean ⟨stops,nonnull⟩

theorem freed_live {called after : Client} {old : Set Addr} {p : Addr}
    (owned : p = 0 ∧ called.heap.live = old ∨ p ≠ 0 ∧ p ∉ old ∧ called.heap.live = insert p old)
    (released : called.freed p = some after) : after.heap.live = old := by
  obtain ⟨heap,result,rfl⟩ := Option.map_eq_some_iff.mp released
  rcases owned with ⟨rfl,kept⟩ | ⟨nonnull,fresh,grown⟩
  · rw [igclFreeBuffer_null] at result
    rw [← Option.some.inj result]
    exact kept
  · rw [igclFreeBuffer,if_pos nonnull] at result
    change heap.live = old
    rw [Mem.live_free result,grown,Set.insert_sdiff_self_of_notMem fresh]

theorem step_safe_iff {c called : Client} {old : Set Addr} {step : HelperCall t} {p : Addr}
    (settled : c.heap.live = old) (ran : c.call step = some (called,p)) :
    (p = 0 ∨ p ∈ called.heap.live \ old) ↔ ¬c.StaleExit step := by
  constructor
  · intro safe stale
    obtain ⟨nonnull,kept⟩ := call_stale stale ran
    rcases safe with null | owned
    · exact nonnull null
    · rw [kept,settled,Set.sdiff_self] at owned
      exact owned
  · intro clean
    rcases call_owned clean ran with ⟨null,_⟩ | ⟨_,fresh,grown⟩
    · exact .inl null
    · rw [settled] at fresh grown
      exact .inr ⟨grown ▸ Set.mem_insert p old,fresh⟩

theorem safeRun_iff {c : Client} {old : Set Addr} (settled : c.heap.live = old)
    (calls : List (HelperCall t)) : SafeRun old c calls ↔ CleanRun c calls := by
  induction calls generalizing c with
  | nil => exact Iff.rfl
  | cons step rest ih =>
    constructor
    · intro safe called p ran
      obtain ⟨owned,continues⟩ := safe called p ran
      refine ⟨(step_safe_iff settled ran).mp owned,?_⟩
      intro after released
      have clean := (step_safe_iff settled ran).mp owned
      have same := freed_live (settled ▸ call_owned clean ran) released
      exact (ih same).mp (continues after released).2
    · intro meets called p ran
      obtain ⟨clean,continues⟩ := meets called p ran
      refine ⟨(step_safe_iff settled ran).mpr clean,?_⟩
      intro after released
      have same := freed_live (settled ▸ call_owned clean ran) released
      exact ⟨by rw [same,Set.sdiff_self],(ih same).mpr (continues after released)⟩

end Client

/-- Runs of a client that starts with null cells are safe exactly when the panel descriptor helper
never gives up early on a cell that still holds an earlier pointer. -/
theorem client_safe_iff (m : Heap) (calls : List (HelperCall t)) :
    Client.SafeRun m.live ⟨m,0,0⟩ calls ↔ Client.CleanRun ⟨m,0,0⟩ calls := by
  apply Client.safeRun_iff
  rfl

def panelRequest : CtlPanelDescriptorAccessArgs := ⟨0,0,.read,0,0,0⟩

/-- One descriptor is fetched and freed, then the library is gone and the size query fails: the
same pointer is freed again. -/
theorem stale_buffer_freed_twice :
    ¬Client.SafeRun (Mem.empty : Heap).live ⟨Mem.empty,0,0⟩
      [.getPanelDescriptor (some (documentedRuntime [] [0xff])) (some (documentedRuntime [] [0xff]))
          (mallocAt 1 Nat.one_ne_zero 0xcd) (0 : Target.x64.Handle) panelRequest,
        .getPanelDescriptor none none mallocNull 0 panelRequest] := by
  intro safe
  have second := ((safe _ _ rfl).2 _ rfl).2 _ _ rfl
  rcases second.1 with null | owned
  · exact absurd null (by decide)
  · exact absurd owned.1 (by simp)

/-- A runtime that reports sizes like the documented one and then loses the device. -/
def lostRuntime : Runtime t where
  ctlEnumerateDisplayOutputs := some fun _ count _ _ => ⟨.errorDeviceLost,count,[]⟩
  ctlPanelDescriptorAccess := some fun _ args _ => ⟨.errorDeviceLost,args,[]⟩

theorem lost_device_leaks :
    (∃ r, igclGetPanelDescriptor (some (documentedRuntime [] [0xff])) (some lostRuntime)
        (mallocAt 1 Nat.one_ne_zero 0xcd) (0 : Target.x64.Handle) (some panelRequest) (some 0)
        Mem.empty = some r ∧ r.code = .errorDeviceLost ∧ r.heap.live ≠ (Mem.empty : Heap).live) ∧
    ∃ r, igclEnumDisplays (some (documentedRuntime [1] [])) (some lostRuntime)
        (mallocAt 1 Nat.one_ne_zero 0xcd) (0 : Target.x64.Handle) (some 0) (some 0)
        Mem.empty = some r ∧ r.code = .errorDeviceLost ∧ r.heap.live ≠ (Mem.empty : Heap).live := by
  have grown : ∀ cells : List UInt8, ((Mem.empty : Heap).alloc ⟨1,cells,Nat.one_ne_zero,rfl⟩).live ≠
      (Mem.empty : Heap).live := by
    intro cells same
    exact Mem.fresh_not_live Mem.empty ⟨1,cells,Nat.one_ne_zero,rfl⟩
      (same ▸ (Mem.live_alloc _ _).symm ▸ Set.mem_insert _ _)
  exact ⟨⟨_,rfl,rfl,grown _⟩,_,rfl,rfl,grown _⟩

/-- The size query succeeds and there is no memory: both helpers fail and leave nothing behind. -/
theorem refused_block_leaks_nothing :
    (∃ r, igclGetPanelDescriptor (some (documentedRuntime [] [0xff])) (some lostRuntime) mallocNull
        (0 : Target.x64.Handle) (some panelRequest) (some 0) Mem.empty = some r ∧
      r.code = .errorOutOfHostMemory ∧ r.heap.live = (Mem.empty : Heap).live) ∧
    ∃ r, igclEnumDisplays (some (documentedRuntime [1] [])) (some lostRuntime) mallocNull
        (0 : Target.x64.Handle) (some 0) (some 0) Mem.empty = some r ∧
      r.code = .errorOutOfHostMemory ∧ r.heap.live = (Mem.empty : Heap).live := by
  have refused {γ : Type} (p : TwoPhase γ) : ¬p.ReadFails mallocNull Mem.empty := by
    rintro ⟨_,m₁,block,_,granted,_⟩
    contradiction
  have failed : CtlResult.errorOutOfHostMemory ≠ .success := by decide
  refine ⟨⟨_,rfl,rfl,?_⟩,_,rfl,rfl,?_⟩
  · have panel := (helpers_failure_atomic_iff (some (documentedRuntime [] [0xff])) (some lostRuntime)
      mallocNull (0 : Target.x64.Handle) panelRequest 0 0 Mem.empty).1
    exact (panel _ rfl).mpr (refused _) failed
  · have displays := (helpers_failure_atomic_iff (some (documentedRuntime [1] [])) (some lostRuntime)
      mallocNull (0 : Target.x64.Handle) panelRequest 0 0 Mem.empty).2
    exact (displays _ rfl).mpr (refused _) failed

end IGCL

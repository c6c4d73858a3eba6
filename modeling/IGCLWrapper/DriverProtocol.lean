import IGCLWrapper.TwoPhase

/-! What `igcl_api.h` documents of the two driver calls, as conditions on the API functions.
The runtime at the end follows both; nothing below depends on it being the real one. -/
namespace IGCL

open BlockMemory

variable {t : Target}

/-- `ctlEnumerateDisplayOutputs` over the outputs `S` of one adapter. A call that fails may
have stored part of the answer, but never more handles than the count allows. -/
structure CountProtocol (call : UInt32 → Addr → Heap → Reply UInt32) (S : List t.Handle) : Prop where
  confined : ∀ count array m, ∀ w ∈ (call count array m).stores, array ≠ 0 ∧
    ∃ n, n ≤ min count.toNat S.length ∧ w = Mem.arrayWrite t.handleCodec array (S.take n)
  total : ∀ array m, (call 0 array m).code = .success →
    (call 0 array m).out = UInt32.ofNat S.length ∧ (call 0 array m).stores = []
  clipped : ∀ count array m, count ≠ 0 → S.length < count.toNat →
    (call count array m).code = .success → (call count array m).out = UInt32.ofNat S.length
  kept : ∀ count array m, count ≠ 0 → count.toNat ≤ S.length →
    (call count array m).code = .success → (call count array m).out = count
  filled : ∀ count array m, count ≠ 0 → array ≠ 0 → (call count array m).code = .success →
    (call count array m).stores = [Mem.arrayWrite t.handleCodec array (S.take count.toNat)]

theorem CountProtocol.null_array {call : UInt32 → Addr → Heap → Reply UInt32} {S : List t.Handle}
    (follows : CountProtocol call S) (count : UInt32) (m : Heap) : (call count 0 m).stores = [] := by
  apply List.eq_nil_iff_forall_not_mem.mpr
  intro w member
  exact (follows.confined count 0 m w member).1 rfl

theorem CountProtocol.out_zero {call : UInt32 → Addr → Heap → Reply UInt32} {S : List t.Handle}
    (follows : CountProtocol call S) (bound : S.length < 2 ^ 32) (array : Addr) (m : Heap)
    (ok : (call 0 array m).code = .success) : (call 0 array m).out.toNat = S.length := by
  rw [(follows.total array m ok).1,UInt32.toNat_ofNat_of_lt' bound]

theorem CountProtocol.out_nonzero {call : UInt32 → Addr → Heap → Reply UInt32} {S : List t.Handle}
    (follows : CountProtocol call S) (bound : S.length < 2 ^ 32) (count : UInt32) (array : Addr)
    (m : Heap) (nonzero : count ≠ 0) (ok : (call count array m).code = .success) :
    (call count array m).out.toNat = min count.toNat S.length := by
  by_cases larger : S.length < count.toNat
  · rw [follows.clipped count array m nonzero larger ok,UInt32.toNat_ofNat_of_lt' bound]
    omega
  · rw [follows.kept count array m nonzero (by omega) ok]
    omega

/-- `ctlPanelDescriptorAccess` reading one block whose descriptor is `d`: size query, read into
the caller's buffer, and the only promise about a null buffer, that nothing is stored. -/
structure PanelProtocol (call : CtlPanelDescriptorAccessArgs → Heap → Reply CtlPanelDescriptorAccessArgs)
    (blockNumber : UInt32) (d : List UInt8) : Prop where
  query : ∀ args m, args.opType = .read → args.blockNumber = blockNumber →
    args.descriptorDataSize = 0 →
    call args m = ⟨.success,{ args with descriptorDataSize := UInt32.ofNat d.length },[]⟩
  delivers : ∀ args m, args.opType = .read → args.blockNumber = blockNumber →
    args.descriptorDataSize = UInt32.ofNat d.length → args.pDescriptorData ≠ 0 →
    call args m = ⟨.success,args,[⟨args.pDescriptorData,0,d⟩]⟩
  null_buffer : ∀ args m, args.opType = .read → args.blockNumber = blockNumber →
    args.descriptorDataSize ≠ 0 → args.pDescriptorData = 0 → (call args m).stores = []

theorem descriptor_length_nonzero {d : List UInt8} (nonempty : d ≠ []) (bound : d.length < 2 ^ 32) :
    UInt32.ofNat d.length ≠ 0 := by
  intro zero
  have h := congrArg UInt32.toNat zero
  rw [UInt32.toNat_ofNat_of_lt' bound] at h
  exact nonempty (List.length_eq_zero_iff.mp h)

def CtlResult.errorInvalidSize : CtlResult := 0x4000000f

/-- A runtime whose adapters all have the outputs `S` and whose displays all have the
descriptor `d` in every block. -/
def documentedRuntime (S : List t.Handle) (d : List UInt8) : Runtime t where
  ctlEnumerateDisplayOutputs := some fun _ count array _ =>
    ⟨.success,
      if count = 0 ∨ S.length < count.toNat then UInt32.ofNat S.length else count,
      if count = 0 ∨ array = 0 then []
        else [Mem.arrayWrite t.handleCodec array (S.take count.toNat)]⟩
  ctlPanelDescriptorAccess := some fun _ args _ =>
    if args.descriptorDataSize = 0 then
      ⟨.success,{ args with descriptorDataSize := UInt32.ofNat d.length },[]⟩
    else if args.pDescriptorData = 0 then ⟨.errorInvalidNullPointer,args,[]⟩
    else if args.descriptorDataSize = UInt32.ofNat d.length then
      ⟨.success,args,[⟨args.pDescriptorData,0,d⟩]⟩
    else ⟨.errorInvalidSize,args,[]⟩

theorem documentedRuntime_counts (S : List t.Handle) (d : List UInt8)
    (hAdapter : CtlDeviceAdapterHandle t) :
    CountProtocol (ctlEnumerateDisplayOutputs (some (documentedRuntime S d)) hAdapter) S where
  confined := by
    intro count array m w member
    simp only [ctlEnumerateDisplayOutputs,forward,documentedRuntime,Option.bind_some] at member
    split at member
    · contradiction
    · next live =>
      rw [not_or] at live
      refine ⟨live.2,min count.toNat S.length,Nat.le_refl _,?_⟩
      rw [List.mem_singleton.mp member,List.take_eq_take_min]
  total := by
    intro array m _
    simp [ctlEnumerateDisplayOutputs,forward,documentedRuntime]
  clipped := by
    intro count array m _ larger _
    simp [ctlEnumerateDisplayOutputs,forward,documentedRuntime,larger]
  kept := by
    intro count array m nonzero smaller _
    simp [ctlEnumerateDisplayOutputs,forward,documentedRuntime,nonzero,Nat.not_lt.mpr smaller]
  filled := by
    intro count array m nonzero live _
    simp [ctlEnumerateDisplayOutputs,forward,documentedRuntime,nonzero,live]

theorem documentedRuntime_describes (S : List t.Handle) (d : List UInt8) (nonempty : d ≠ [])
    (bound : d.length < 2 ^ 32) (hDisplay : CtlDisplayOutputHandle t) (blockNumber : UInt32) :
    PanelProtocol (ctlPanelDescriptorAccess (some (documentedRuntime S d)) hDisplay) blockNumber d where
  query := by
    intro args m _ _ empty
    simp [ctlPanelDescriptorAccess,forward,documentedRuntime,empty]
  delivers := by
    intro args m _ _ size live
    have positive := descriptor_length_nonzero nonempty bound
    simp [ctlPanelDescriptorAccess,forward,documentedRuntime,size,live,positive]
  null_buffer := by
    intro args m _ _ positive null
    simp [ctlPanelDescriptorAccess,forward,documentedRuntime,positive,null]

/-- An allocator that hands out the block at `a` whenever it is free, filled with one byte. -/
def mallocAt (a : Addr) (nonnull : a ≠ 0) (fill : UInt8) : Malloc where
  grant m size :=
    if dead : m.block a = none then some ⟨a,List.replicate size fill,nonnull,dead⟩ else none
  sized := by
    intro m size f granted
    split at granted
    · rw [← Option.some.inj granted,List.length_replicate]
    · contradiction

def mallocNull : Malloc := ⟨fun _ _ => none,nofun⟩

end IGCL

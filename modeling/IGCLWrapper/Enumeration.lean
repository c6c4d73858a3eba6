import IGCLWrapper.DriverProtocol

/-! Display enumeration under the documented count protocol, with a driver whose display
list may change between the two calls of one helper. -/
namespace IGCL

open BlockMemory

variable {t : Target}

/-- What the out cell and the count cell together promise about the displays `S`: no array and
count zero, or a live block with room for `count` handles holding the first `count` of `S`. -/
def Coherent (S : List t.Handle) (r : HelperResult UInt32) : Prop :=
  ∃ count p, r.inOut = some count ∧ r.out = some p ∧ (p = 0 ∧ count = 0 ∨
    ∃ cells, r.heap.block p = some cells ∧ t.pointerBytes * count.toNat ≤ cells.length ∧
      count.toNat ≤ S.length ∧
      r.heap.readArray t.handleCodec p count.toNat = some (S.take count.toNat))

def Enumerated (S : List t.Handle) (r : HelperResult UInt32) : Prop :=
  r.code = .success ∧ r.inOut = some (UInt32.ofNat S.length) ∧ ∃ p, r.out = some p ∧
    if S = [] then p = 0 else r.heap.readArray t.handleCodec p S.length = some S

/-- The byte size of an array of `n` handles does not wrap in the target's `size_t`. -/
def Target.Fits (t : Target) (n : Nat) : Prop := t.sizeMul t.pointerBytes n = t.pointerBytes * n

theorem Target.x64_fits {n : Nat} (bound : n < 2 ^ 32) : Target.x64.Fits n :=
  Nat.mod_eq_of_lt (by simp only [x64]; omega)

/-- On Win32 it wraps for 2^30 handles and more. -/
theorem Target.win32_fits_iff {n : Nat} (bound : n < 2 ^ 32) : Target.win32.Fits n ↔ n < 2 ^ 30 := by
  simp only [Fits,sizeMul,win32]
  omega

theorem Target.fits_of_room {t : Target} {n : Nat}
    (room : t.pointerBytes * n ≤ t.sizeMul t.pointerBytes n) : t.Fits n :=
  Nat.le_antisymm (Nat.mod_le _ _) room

/-- The count after the size query: all of `S` for a zero cell, else no more than the cell said. -/
def queriedCount (count : UInt32) (S : List t.Handle) : Nat :=
  if count = 0 then S.length else min count.toNat S.length

theorem query_count {phase : Option (Runtime t)} {hAdapter : CtlDeviceAdapterHandle t}
    {S : List t.Handle} (follows : CountProtocol (ctlEnumerateDisplayOutputs phase hAdapter) S)
    (bound : S.length < 2 ^ 32) (count : UInt32) (m : Heap)
    (ok : (ctlEnumerateDisplayOutputs phase hAdapter count 0 m).code = .success) :
    (ctlEnumerateDisplayOutputs phase hAdapter count 0 m).out.toNat = queriedCount count S := by
  unfold queriedCount
  by_cases zero : count = 0
  · subst count
    rw [if_pos rfl]
    exact follows.out_zero bound 0 m ok
  · rw [if_neg zero]
    exact follows.out_nonzero bound count 0 m zero ok

/-- A protocol driver that is given a block with room for `count` handles stays inside it. -/
theorem confined_stores {call : UInt32 → Addr → Heap → Reply UInt32} {S : List t.Handle}
    (follows : CountProtocol call S) {count : UInt32} {array : Addr} {m : Heap} {cells : List UInt8}
    (alive : m.block array = some cells) (room : t.pointerBytes * count.toNat ≤ cells.length) :
    ∃ m' cells', m.writes (call count array m).stores = some m' ∧ m'.block array = some cells' ∧
      cells'.length = cells.length ∧ ∀ b, b ≠ array → m'.block b = m.block b := by
  apply Mem.writes_within alive
  intro w member
  obtain ⟨_,n,small,rfl⟩ := follows.confined count array m w member
  refine ⟨rfl,?_⟩
  have taken : (S.take n).length ≤ count.toNat := by rw [List.length_take]; omega
  have bytes : t.pointerBytes * (S.take n).length ≤ t.pointerBytes * count.toNat :=
    Nat.mul_le_mul_left _ taken
  simp only [Mem.arrayWrite,Codec.encodeAll_length,wordCodec_width]
  omega

/-- A successful read into a block with room leaves the first displays in it, as many as the
count cell then says. -/
theorem read_back {call : UInt32 → Addr → Heap → Reply UInt32} {S : List t.Handle}
    (follows : CountProtocol call S) (bound : S.length < 2 ^ 32) {count : UInt32} {array : Addr}
    {m m' : Heap} (nonzero : count ≠ 0) (nonnull : array ≠ 0)
    (ok : (call count array m).code = .success)
    (stored : m.writes (call count array m).stores = some m') :
    (call count array m).out.toNat = min count.toNat S.length ∧
    m'.readArray t.handleCodec array (call count array m).out.toNat =
      some (S.take (call count array m).out.toNat) := by
  have size := follows.out_nonzero bound count array m nonzero ok
  rw [follows.filled count array m nonzero nonnull ok,Mem.writes_singleton] at stored
  have loaded := Mem.readArray_arrayWrite stored
  rw [List.length_take,List.take_eq_take_min] at loaded
  rw [size]
  exact ⟨rfl,loaded⟩

section Helper

variable (phase1 phase2 : Option (Runtime t)) (malloc : Malloc) (hAdapter : CtlDeviceAdapterHandle t)
  (count : UInt32) (cell : Addr) (S1 S2 : List t.Handle) (m : Heap)

/-- The helper always completes: whatever the display lists, the driver's stores stay in the
new block, and every block that was live before is unchanged. -/
theorem enumDisplays_completes
    (fits : t.Fits (ctlEnumerateDisplayOutputs phase1 hAdapter count 0 m).out.toNat)
    (follows1 : CountProtocol (ctlEnumerateDisplayOutputs phase1 hAdapter) S1)
    (follows2 : CountProtocol (ctlEnumerateDisplayOutputs phase2 hAdapter) S2) :
    ∃ r, igclEnumDisplays phase1 phase2 malloc hAdapter (some count) (some cell) m = some r ∧
      ∀ a ∈ m.live, r.heap.block a = m.block a := by
  rw [igclEnumDisplays_eq]
  have queried : m.writes ((enumPhases phase1 phase2 hAdapter count).query m).stores = some m := by
    have silent : (ctlEnumerateDisplayOutputs phase1 hAdapter count 0 m).stores = [] :=
      follows1.null_array count m
    simp only [enumPhases,silent,Mem.writes_nil]
  have room : ∀ block : Fresh m, malloc.grant m ((enumPhases phase1 phase2 hAdapter count).size
      ((enumPhases phase1 phase2 hAdapter count).query m).out) = some block →
      t.pointerBytes * ((enumPhases phase1 phase2 hAdapter count).query m).out.toNat ≤
        block.cells.length := by
    intro block granted
    rw [malloc.sized granted]
    exact fits.ge
  have filled := fun (block : Fresh m) granted =>
    confined_stores follows2 (Mem.block_alloc_self m block) (room block granted)
  have completes : ∃ r, (enumPhases phase1 phase2 hAdapter count).run malloc m = some r := by
    apply TwoPhase.run_completes queried
    intro _ block granted
    obtain ⟨m₃,_,stored,_⟩ := filled block granted
    exact ⟨m₃,stored⟩
  obtain ⟨r,completed⟩ := completes
  refine ⟨r,completed,?_⟩
  intro a alive
  cases TwoPhase.run_exit completed with
  | early m₁ queried' stops result =>
    obtain rfl := Option.some.inj (queried.symm.trans queried')
    rw [result]
  | outOfMemory m₁ queried' goes refused result =>
    obtain rfl := Option.some.inj (queried.symm.trans queried')
    rw [result]
  | read m₁ queried' goes block granted m₃ stored result =>
    obtain rfl := Option.some.inj (queried.symm.trans queried')
    obtain ⟨m₃',_,stored',_,_,frame⟩ := filled block granted
    obtain rfl := Option.some.inj (stored'.symm.trans stored)
    have apart : a ≠ block.addr := by
      rintro rfl
      exact alive block.dead
    rw [result,frame a apart]
    exact Mem.block_set_other m _ _ _ apart

theorem enumDisplays_success {r : HelperResult UInt32} (bound2 : S2.length < 2 ^ 32)
    (follows2 : CountProtocol (ctlEnumerateDisplayOutputs phase2 hAdapter) S2)
    (completed : igclEnumDisplays phase1 phase2 malloc hAdapter (some count) (some cell) m = some r)
    (ok : r.code = .success) :
    let query := ctlEnumerateDisplayOutputs phase1 hAdapter count 0 m
    query.code = .success ∧
      (query.out = 0 ∧ r.inOut = some 0 ∧ r.out = some 0 ∨
      query.out ≠ 0 ∧ ∃ listed p cells, r.inOut = some listed ∧ r.out = some p ∧
        r.heap.block p = some cells ∧
        cells.length = t.sizeMul t.pointerBytes query.out.toNat ∧
        listed.toNat = min query.out.toNat S2.length ∧
        r.heap.readArray t.handleCodec p listed.toNat = some (S2.take listed.toNat)) := by
  rw [igclEnumDisplays_eq] at completed
  cases TwoPhase.run_exit completed with
  | early m₁ queried stops result =>
    subst result
    rcases stops with failed | nothing
    · exact absurd ok failed
    · have empty : (ctlEnumerateDisplayOutputs phase1 hAdapter count 0 m).out = 0 := nothing
      exact ⟨ok,.inl ⟨empty,by simp only [enumPhases,empty],rfl⟩⟩
  | outOfMemory m₁ queried goes refused result =>
    subst result
    exact absurd ok CtlResult.outOfHostMemory_ne_success
  | read m₁ queried goes block granted m₃ stored result =>
    subst result
    simp only [TwoPhase.Stops,not_or,not_not] at goes
    obtain ⟨listed,loaded⟩ := read_back follows2 bound2 goes.2 block.nonnull ok stored
    obtain ⟨cells,alive,size⟩ := Mem.writes_size stored (Mem.block_alloc_self m₁ block)
    exact ⟨goes.1,.inr ⟨goes.2,_,block.addr,cells,rfl,rfl,alive,
      size.trans (malloc.sized granted),listed,loaded⟩⟩

theorem enumDisplays_coherent {r : HelperResult UInt32} (bound2 : S2.length < 2 ^ 32)
    (follows2 : CountProtocol (ctlEnumerateDisplayOutputs phase2 hAdapter) S2)
    (completed : igclEnumDisplays phase1 phase2 malloc hAdapter (some count) (some cell) m = some r)
    (ok : r.code = .success) : Coherent S2 r := by
  obtain ⟨_,early | filled⟩ := enumDisplays_success phase1 phase2 malloc hAdapter count cell S2 m bound2
    follows2 completed ok
  · exact ⟨0,0,early.2.1,early.2.2,.inl ⟨rfl,rfl⟩⟩
  · obtain ⟨_,listed,p,cells,atCount,atCell,alive,_,size,loaded⟩ := filled
    obtain ⟨cells',alive',room,_⟩ := Mem.readArray_room loaded
    obtain rfl := Option.some.inj (alive.symm.trans alive')
    exact ⟨listed,p,atCount,atCell,.inr ⟨cells,alive,room,by omega,loaded⟩⟩

end Helper

/-- Hot-plug on x64: for any display lists at the two calls the driver stays inside the new block,
no older block changes, and a success is coherent with the list of the second call. -/
theorem x64_enumDisplays_hotplug (phase1 phase2 : Option (Runtime .x64)) (malloc : Malloc)
    (hAdapter : CtlDeviceAdapterHandle .x64) (count : UInt32) (cell : Addr)
    (S1 S2 : List Target.x64.Handle) (m : Heap) (bound2 : S2.length < 2 ^ 32)
    (follows1 : CountProtocol (ctlEnumerateDisplayOutputs phase1 hAdapter) S1)
    (follows2 : CountProtocol (ctlEnumerateDisplayOutputs phase2 hAdapter) S2) :
    ∃ r, igclEnumDisplays phase1 phase2 malloc hAdapter (some count) (some cell) m = some r ∧
      (∀ a ∈ m.live, r.heap.block a = m.block a) ∧ (r.code = .success → Coherent S2 r) := by
  obtain ⟨r,completed,frame⟩ := enumDisplays_completes phase1 phase2 malloc hAdapter count cell S1 S2 m
    (Target.x64_fits (UInt32.toNat_lt _)) follows1 follows2
  exact ⟨r,completed,frame,
    enumDisplays_coherent phase1 phase2 malloc hAdapter count cell S2 m bound2 follows2 completed⟩

/-- Three displays are reported and only the last is left at the second call. -/
theorem unplugged_between_calls :
    ∃ r, igclEnumDisplays (some (documentedRuntime [1,2,3] [])) (some (documentedRuntime [3] []))
        (mallocAt 1 Nat.one_ne_zero 0xcd) (0 : Target.x64.Handle) (some 0) (some 0) Mem.empty = some r ∧
      Coherent ([3] : List Target.x64.Handle) r ∧ r.inOut = some 1 := by
  obtain ⟨r,completed,_,coherent⟩ := x64_enumDisplays_hotplug (some (documentedRuntime [1,2,3] []))
    (some (documentedRuntime [3] [])) (mallocAt 1 Nat.one_ne_zero 0xcd) 0 0 0 [1,2,3] [3] Mem.empty
    (by decide) (documentedRuntime_counts _ _ _) (documentedRuntime_counts _ _ _)
  have result := Option.some.inj (completed.symm.trans rfl)
  refine ⟨r,completed,coherent ?_,?_⟩
  · rw [result]; rfl
  · rw [result]; rfl

end IGCL

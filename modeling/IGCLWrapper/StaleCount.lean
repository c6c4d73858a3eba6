import IGCLWrapper.Enumeration

/-! The count cell is an in/out argument of the driver and is never cleared by
`IGCL_EnumDisplays`, so a count left by an earlier enumeration limits the next one. -/
namespace IGCL

open BlockMemory

variable {t : Target}

theorem queriedCount_le (count : UInt32) (S : List t.Handle) : queriedCount count S ≤ S.length := by
  unfold queriedCount
  split <;> omega

theorem queriedCount_all_iff (count : UInt32) (S : List t.Handle) :
    queriedCount count S = S.length ↔ count = 0 ∨ S.length ≤ count.toNat := by
  unfold queriedCount
  by_cases zero : count = 0
  · simp [zero]
  · rw [if_neg zero]
    constructor
    · intro all
      exact .inr (by omega)
    · intro either
      rcases either with zero' | covers
      · exact absurd zero' zero
      · omega

section Agreement

variable (phase1 phase2 : Option (Runtime t)) (malloc : Malloc) (hAdapter : CtlDeviceAdapterHandle t)
  (count : UInt32) (cell : Addr) (S : List t.Handle) (m : Heap)

/-- With an answering driver and a willing allocator the helper succeeds whenever it completes. -/
theorem enumDisplays_code {r : HelperResult UInt32} (bound : S.length < 2 ^ 32)
    (follows1 : CountProtocol (ctlEnumerateDisplayOutputs phase1 hAdapter) S)
    (answers1 : ∀ k a m, (ctlEnumerateDisplayOutputs phase1 hAdapter k a m).code = .success)
    (answers2 : ∀ k a m, (ctlEnumerateDisplayOutputs phase2 hAdapter k a m).code = .success)
    (grants : ∀ n ≤ S.length, 0 < n → (malloc.grant m (t.sizeMul t.pointerBytes n)).isSome)
    (completed : igclEnumDisplays phase1 phase2 malloc hAdapter (some count) (some cell) m = some r) :
    r.code = .success := by
  rw [igclEnumDisplays_eq] at completed
  cases TwoPhase.run_exit completed with
  | early m₁ queried stops result => rw [result]; exact answers1 count 0 m
  | outOfMemory m₁ queried goes refused result =>
    have untouched : m.writes (ctlEnumerateDisplayOutputs phase1 hAdapter count 0 m).stores = some m := by
      rw [follows1.null_array count m,Mem.writes_nil]
    obtain rfl := Option.some.inj (untouched.symm.trans queried)
    have size := query_count follows1 bound count m (answers1 count 0 m)
    have positive : 0 < queriedCount count S := by
      apply Nat.pos_of_ne_zero
      intro none_listed
      exact goes (.inr (UInt32.toNat_inj.mp (size.trans none_listed)))
    have granted := grants _ (queriedCount_le count S) positive
    simp only [enumPhases,size] at refused
    rw [refused] at granted
    contradiction
  | read m₁ queried goes block granted m₃ filled result => rw [result]; exact answers2 _ _ _

/-- The helper delivers all of `S` exactly when the count cell does not ask for fewer displays
and the array's size can be computed. -/
theorem enumDisplays_enumerated_iff (bound : S.length < 2 ^ 32)
    (follows1 : CountProtocol (ctlEnumerateDisplayOutputs phase1 hAdapter) S)
    (follows2 : CountProtocol (ctlEnumerateDisplayOutputs phase2 hAdapter) S)
    (answers1 : ∀ k a m, (ctlEnumerateDisplayOutputs phase1 hAdapter k a m).code = .success)
    (answers2 : ∀ k a m, (ctlEnumerateDisplayOutputs phase2 hAdapter k a m).code = .success)
    (grants : ∀ n ≤ S.length, 0 < n → (malloc.grant m (t.sizeMul t.pointerBytes n)).isSome) :
    (∃ r, igclEnumDisplays phase1 phase2 malloc hAdapter (some count) (some cell) m = some r ∧
      Enumerated S r) ↔ (count = 0 ∨ S.length ≤ count.toNat) ∧ t.Fits S.length := by
  have size := query_count follows1 bound count m (answers1 count 0 m)
  rw [← queriedCount_all_iff]
  constructor
  · intro given
    obtain ⟨r,completed,ok,atCount,p,atCell,content⟩ := given
    obtain ⟨_,early | filled⟩ := enumDisplays_success phase1 phase2 malloc hAdapter count cell S m bound
      follows2 completed ok
    · have none_listed : S.length = 0 := by
        have zero := Option.some.inj (atCount.symm.trans early.2.1)
        have h := congrArg UInt32.toNat zero
        rwa [UInt32.toNat_ofNat_of_lt' bound] at h
      refine ⟨?_,?_⟩
      · rw [← size,early.1,none_listed]; rfl
      · rw [none_listed]; simp [Target.Fits,Target.sizeMul]
    · obtain ⟨_,listed,p',cells,atCount',atCell',alive,extent,number,_⟩ := filled
      obtain rfl := Option.some.inj (atCount.symm.trans atCount')
      obtain rfl := Option.some.inj (atCell.symm.trans atCell')
      rw [UInt32.toNat_ofNat_of_lt' bound,size] at number
      have all : queriedCount count S = S.length := by
        have small := queriedCount_le count S
        omega
      refine ⟨all,?_⟩
      by_cases empty : S = []
      · subst empty; simp [Target.Fits,Target.sizeMul]
      · rw [if_neg empty] at content
        obtain ⟨cells',alive',room,_⟩ := Mem.readArray_room content
        obtain rfl := Option.some.inj (alive.symm.trans alive')
        rw [extent,size,all] at room
        exact Target.fits_of_room room
  · intro given
    obtain ⟨all,fits⟩ := given
    rw [all] at size
    obtain ⟨r,completed,_⟩ := enumDisplays_completes phase1 phase2 malloc hAdapter count cell S S m
      (by rw [size]; exact fits) follows1 follows2
    have ok := enumDisplays_code phase1 phase2 malloc hAdapter count cell S m bound follows1 answers1
      answers2 grants completed
    refine ⟨r,completed,ok,?_⟩
    obtain ⟨_,early | filled⟩ := enumDisplays_success phase1 phase2 malloc hAdapter count cell S m bound
      follows2 completed ok
    · rw [early.1] at size
      obtain rfl := List.length_eq_zero_iff.mp size.symm
      exact ⟨early.2.1,0,early.2.2,rfl⟩
    · obtain ⟨nonzero,listed,p,cells,atCount,atCell,_,_,number,loaded⟩ := filled
      have nonempty : S ≠ [] := by
        rintro rfl
        exact nonzero (UInt32.toNat_inj.mp size)
      rw [size,Nat.min_self] at number
      rw [number,List.take_length] at loaded
      refine ⟨?_,p,atCell,?_⟩
      · rw [atCount,← number,UInt32.ofNat_toNat]
      · rw [if_neg nonempty]; exact loaded

/-- The convenience helper against the explicit enumeration: the latter delivers all displays,
the former exactly when the stale count is zero or no smaller than their number. -/
theorem enumDisplays_agrees_iff (bound : S.length < 2 ^ 32)
    (follows1 : CountProtocol (ctlEnumerateDisplayOutputs phase1 hAdapter) S)
    (follows2 : CountProtocol (ctlEnumerateDisplayOutputs phase2 hAdapter) S)
    (answers1 : ∀ k a m, (ctlEnumerateDisplayOutputs phase1 hAdapter k a m).code = .success)
    (answers2 : ∀ k a m, (ctlEnumerateDisplayOutputs phase2 hAdapter k a m).code = .success)
    (grants : ∀ n ≤ S.length, 0 < n → (malloc.grant m (t.sizeMul t.pointerBytes n)).isSome) :
    (t.Fits S.length → ∃ e, enumerateExplicitly phase1 phase2 malloc hAdapter m = some e ∧
      Enumerated S e) ∧
    ((∃ r, igclEnumDisplays phase1 phase2 malloc hAdapter (some count) (some cell) m = some r ∧
      Enumerated S r) ↔ (count = 0 ∨ S.length ≤ count.toNat) ∧ t.Fits S.length) := by
  have delivered := fun k => enumDisplays_enumerated_iff phase1 phase2 malloc hAdapter k cell S m bound
    follows1 follows2 answers1 answers2 grants
  refine ⟨?_,delivered count⟩
  intro fits
  rw [enumerateExplicitly_eq,← igclEnumDisplays_eq phase1 phase2 malloc hAdapter 0 cell m]
  exact (delivered 0).mpr ⟨.inl rfl,fits⟩

end Agreement

def twoDisplays : List Target.x64.Handle := [1,2]

/-- An earlier enumeration saw one display, now there are two and both calls see both. -/
theorem replugged_display_missed :
    CountProtocol (ctlEnumerateDisplayOutputs (some (documentedRuntime twoDisplays [])) 0) twoDisplays ∧
    ¬∃ r, igclEnumDisplays (some (documentedRuntime twoDisplays []))
        (some (documentedRuntime twoDisplays [])) (mallocAt 1 Nat.one_ne_zero 0xcd) 0 (some 1) (some 0)
        Mem.empty = some r ∧ Enumerated twoDisplays r := by
  refine ⟨documentedRuntime_counts _ _ _,?_⟩
  intro given
  obtain ⟨r,completed,_,atCount,_⟩ := given
  obtain rfl := Option.some.inj completed
  exact absurd atCount (by decide)

theorem fresh_count_enumerates :
    ∃ r, igclEnumDisplays (some (documentedRuntime twoDisplays []))
        (some (documentedRuntime twoDisplays [])) (mallocAt 1 Nat.one_ne_zero 0xcd) 0 (some 0) (some 0)
        Mem.empty = some r ∧ Enumerated twoDisplays r :=
  (enumDisplays_agrees_iff (some (documentedRuntime twoDisplays []))
    (some (documentedRuntime twoDisplays [])) (mallocAt 1 Nat.one_ne_zero 0xcd) 0 0 0 twoDisplays
    Mem.empty (by decide) (documentedRuntime_counts _ _ _) (documentedRuntime_counts _ _ _)
    (fun _ _ _ => rfl) (fun _ _ _ => rfl) (fun _ _ _ => rfl)).2.mpr
    ⟨.inl rfl,Target.x64_fits (by decide)⟩

end IGCL

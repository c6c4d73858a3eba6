import IGCLWrapper.SampleHost

/-! What the parts of a sample do to the set of live blocks. Only `malloc` and `CTL_FREE_MEM` change
it; a sample owns a block between the two. -/
namespace IGCL.Samples

open BlockMemory ExitLabel

variable {t : Target} {ε ι γ : Type} {P : Set Addr → Prop} {L : Set Addr} {E : ε → Sample ι → Prop}

/-- A condition on the live blocks. -/
def Live (P : Set Addr → Prop) (s : Sample ι) : Prop := P s.heap.live

/-- The blocks of `L` are live, and the one at `a` besides unless `a` is null. -/
def Owned (L : Set Addr) (a : Addr) (live : Set Addr) : Prop :=
  a = 0 ∧ live = L ∨ a ≠ 0 ∧ a ∉ L ∧ live = insert a L

theorem owned_null {live : Set Addr} : Owned L 0 live ↔ live = L := by
  simp [Owned]

/-- A part that leaves the live blocks as they are, whichever they are, keeps every condition on
them. -/
theorem live_frame {α : Type} {x : Body ε (Sample ι) α} {K : ε → Prop}
    (kept : ∀ L, Triple (Live (· = L)) x (fun _ => Live (· = L)) fun e s => Live (· = L) s ∧ K e) :
    Triple (Live P) x (fun _ => Live P) fun e s => Live P s ∧ K e := by
  apply Triple.each
  intro s₀ holds
  have back {s : Sample ι} (same : Live (· = s₀.heap.live) s) : Live P s := by
    obtain same : s.heap.live = s₀.heap.live := same
    rw [Live,same]
    exact holds
  apply (kept s₀.heap.live).consequence
  · rintro s rfl
    exact rfl
  · exact fun _ s same => back same
  · exact fun e s both => ⟨back both.1,both.2⟩

/-- The same for a part that does not jump. -/
theorem live_frame_through {α : Type} {x : Body ε (Sample ι) α}
    (kept : ∀ L (E : ε → Sample ι → Prop), Triple (Live (· = L)) x (fun _ => Live (· = L)) E) :
    Triple (Live P) x (fun _ => Live P) E :=
  (live_frame (K := fun _ => False) fun L => kept L _).consequence (fun _ holds => holds)
    (fun _ _ post => post) fun _ _ both => both.2.elim

/-- Whatever the API makes of its arguments, `known` is what is known of all its answers. -/
theorem call_live_known (known : Answer γ → Prop) (host : Host t)
    (api : Option (SampleRuntime t) → Heap → Reply γ)
    (answers : ∀ n m, known ⟨(api (host.runtime n) m).code,(api (host.runtime n) m).out⟩) :
    Triple (Live P) (call host api) (fun answer s => Live P s ∧ known answer) E := by
  apply Triple.act
  intro s holds answer s' called
  obtain ⟨heap,stored,same⟩ := Option.map_eq_some_iff.mp called
  obtain ⟨rfl,rfl⟩ := Prod.mk.inj same
  refine ⟨?_,answers s.calls s.heap⟩
  rw [Live,Mem.live_writes stored]
  exact holds

theorem call_live (host : Host t) (api : Option (SampleRuntime t) → Heap → Reply γ) :
    Triple (Live P) (call host api) (fun _ => Live P) E :=
  (call_live_known (fun _ => True) host api fun _ _ => trivial).post fun _ _ both => both.1

theorem print_live (line : ι) : Triple (Live P) (print line) (fun _ => Live P) E := by
  apply Triple.act
  intro s holds _ s' printed
  obtain ⟨_,rfl⟩ := Prod.mk.inj (Option.some.inj printed)
  exact holds

theorem storeAndResetError_live (result : CtlResult) :
    Triple (Live P) (storeAndResetError result) (fun _ => Live P) E := by
  apply Triple.act
  intro s holds a s' done
  obtain ⟨_,rfl⟩ := Prod.mk.inj (Option.some.inj done)
  split <;> exact holds

theorem loadByte_live (data : Addr) (index : Nat) :
    Triple (Live P) (loadByte data index) (fun _ => Live P) E := by
  apply Triple.act
  intro s holds a s' done
  obtain ⟨_,_,same⟩ := Option.map_eq_some_iff.mp done
  obtain ⟨_,rfl⟩ := Prod.mk.inj same
  exact holds

theorem loadHandle_live (handles : Addr) (index : Nat) :
    Triple (Live P) (loadHandle t handles index) (fun _ => Live P) E := by
  apply Triple.act
  intro s holds a s' done
  obtain ⟨_,_,same⟩ := Option.map_eq_some_iff.mp done
  obtain ⟨_,rfl⟩ := Prod.mk.inj same
  exact holds

theorem malloc_owned (host : Host t) (size : Nat) :
    Triple (Live (· = L)) (malloc host size) (fun a => Live (Owned L a)) E := by
  apply Triple.act
  intro s bare a s' done
  split at done
  next =>
    obtain ⟨rfl,rfl⟩ := Prod.mk.inj (Option.some.inj done)
    exact .inl ⟨rfl,bare⟩
  next block _ =>
    obtain ⟨rfl,rfl⟩ := Prod.mk.inj (Option.some.inj done)
    obtain rfl : s.heap.live = L := bare
    exact .inr ⟨block.nonnull,Mem.fresh_not_live s.heap block,Mem.live_alloc s.heap block⟩

theorem ctlFreeMem_owned (ptr : Addr) :
    Triple (Live (Owned L ptr)) (ctlFreeMem ptr) (fun a s => Live (· = L) s ∧ a = 0) E := by
  apply Triple.act
  intro s owned a s' done
  rcases owned with ⟨rfl,bare⟩ | ⟨nonnull,fresh,grown⟩
  · obtain ⟨rfl,rfl⟩ := Prod.mk.inj (Option.some.inj done)
    exact ⟨bare,rfl⟩
  · rw [if_pos nonnull] at done
    obtain ⟨heap,freed,same⟩ := Option.map_eq_some_iff.mp done
    obtain ⟨rfl,rfl⟩ := Prod.mk.inj same
    refine ⟨?_,rfl⟩
    simp [Live,Mem.live_free freed,grown,fresh]

/-- The macros that jump: nothing is gained or lost before the label. -/
theorem logAndExitOnError_live (result : CtlResult) (line : ι) (locals : ε)
    (atLabel : ∀ s, Live P s → E locals s) :
    Triple (Live P) (logAndExitOnError result line locals) (fun _ => Live P) E := by
  apply Triple.ite
  · intro _
    exact Triple.bind (print_live line) fun _ => Triple.goto atLabel
  · intro _
    exact Triple.pure fun s holds => holds

theorem exitOnMemAllocFailure_live (ptr : Addr) (line : ι) (locals : ε)
    (atLabel : ∀ s, ptr = 0 → Live P s → E locals s) :
    Triple (Live P) (exitOnMemAllocFailure ptr line locals) (fun _ => Live P) E := by
  apply Triple.ite
  · intro null
    exact Triple.bind (print_live line) fun _ => Triple.goto fun s holds => atLabel s null holds
  · intro _
    exact Triple.pure fun s holds => holds

theorem logOnError_live (result : CtlResult) (line : ι) :
    Triple (Live P) (logOnError result line) (fun _ => Live P) E :=
  Triple.ite (fun _ => print_live line) fun _ => Triple.pure fun _ holds => holds

theorem logAndStoreResetResultOnError_live (result : CtlResult) (line : ι) :
    Triple (Live P) (logAndStoreResetResultOnError result line) (fun _ => Live P) E := by
  apply Triple.ite
  · intro _
    apply Triple.bind (print_live line)
    intro _
    exact Triple.bind (storeAndResetError_live result) fun _ => Triple.pure fun _ holds => holds
  · intro _
    exact Triple.pure fun _ holds => holds

end IGCL.Samples

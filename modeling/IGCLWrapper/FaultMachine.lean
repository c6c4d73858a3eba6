import Mathlib.Algebra.BigOperators.Group.List.Basic

/-! Machines whose steps may fault, and their simulation by a machine that cannot. The simulation
only has to hold for the actions a well-behaved client may take. -/
namespace FaultMachine

variable {σ τ α ω : Type} {step : σ → α → Option (ω × σ)} {may : σ → α → Prop}

/-- The actions in turn with the answer to each; a fault leaves no result. -/
def run (step : σ → α → Option (ω × σ)) : σ → List α → Option (List ω × σ)
  | s, [] => some ([],s)
  | s, a :: rest => (step s a).bind fun r => (run step r.2 rest).map fun rs => (r.1 :: rs.1,rs.2)

/-- Every action of the run is one the client may take in the state it is taken in. -/
def Permitted (step : σ → α → Option (ω × σ)) (may : σ → α → Prop) : σ → List α → Prop
  | _, [] => True
  | s, a :: rest => may s a ∧ ∀ o s', step s a = some (o,s') → Permitted step may s' rest

def runTotal (answer : τ → α → ω × τ) : τ → List α → List ω × τ
  | b, [] => ([],b)
  | b, a :: rest =>
    let later := runTotal answer (answer b a).2 rest
    ((answer b a).1 :: later.1,later.2)

theorem run_cons_eq_some {s final : σ} {a : α} {rest : List α} {os : List ω} :
    run step s (a :: rest) = some (os,final) ↔
      ∃ o s' later, step s a = some (o,s') ∧ run step s' rest = some (later,final) ∧ os = o :: later := by
  constructor
  · intro ran
    obtain ⟨⟨o,s'⟩,first,others⟩ := Option.bind_eq_some_iff.mp ran
    obtain ⟨⟨later,last⟩,rest,same⟩ := Option.map_eq_some_iff.mp others
    obtain ⟨rfl,rfl⟩ := Prod.mk.inj same
    exact ⟨o,s',later,first,rest,rfl⟩
  · intro given
    obtain ⟨o,s',later,first,rest,rfl⟩ := given
    simp [run,first,rest]

theorem permitted_cons {s s' : σ} {a : α} {rest : List α} {o : ω} (allowed : may s a)
    (first : step s a = some (o,s')) (later : Permitted step may s' rest) :
    Permitted step may s (a :: rest) := by
  refine ⟨allowed,?_⟩
  intro o' s'' same
  obtain ⟨_,rfl⟩ := Prod.mk.inj (Option.some.inj (first.symm.trans same))
  exact later

theorem run_append {s mid final : σ} {acts later : List α} {os os' : List ω}
    (first : run step s acts = some (os,mid)) (second : run step mid later = some (os',final)) :
    run step s (acts ++ later) = some (os ++ os',final) := by
  induction acts generalizing s os with
  | nil =>
    obtain ⟨rfl,rfl⟩ := Prod.mk.inj (Option.some.inj first)
    exact second
  | cons a rest ih =>
    obtain ⟨o,s',tail,here,others,rfl⟩ := run_cons_eq_some.mp first
    exact run_cons_eq_some.mpr ⟨o,s',tail ++ os',here,ih others,rfl⟩

/-- What each action of the list keeps holds at the end of the run. -/
theorem run_invariant (holds : σ → Prop) {s final : σ} {acts : List α} {os : List ω}
    (kept : ∀ a ∈ acts, ∀ s o s', holds s → step s a = some (o,s') → holds s')
    (initially : holds s) (ran : run step s acts = some (os,final)) : holds final := by
  induction acts generalizing s os with
  | nil =>
    obtain ⟨_,rfl⟩ := Prod.mk.inj (Option.some.inj ran)
    exact initially
  | cons a rest ih =>
    obtain ⟨o,s',later,first,others,_⟩ := run_cons_eq_some.mp ran
    have next := kept a List.mem_cons_self s o s' initially first
    exact ih (fun b member => kept b (List.mem_cons_of_mem a member)) next others

/-- A quantity that each step changes by what its answer tells. -/
theorem run_balance {M : Type} [AddMonoid M] (stock : σ → M) (change : ω → M) {s final : σ}
    {acts : List α} {os : List ω}
    (each : ∀ s a o s', step s a = some (o,s') → stock s' = stock s + change o)
    (ran : run step s acts = some (os,final)) : stock final = stock s + (os.map change).sum := by
  induction acts generalizing s os with
  | nil =>
    obtain ⟨rfl,rfl⟩ := Prod.mk.inj (Option.some.inj ran)
    simp
  | cons a rest ih =>
    obtain ⟨o,s',later,first,others,rfl⟩ := run_cons_eq_some.mp ran
    rw [ih others,each s a o s' first,List.map_cons,List.sum_cons,add_assoc]

/-- In related states a permitted action does not fault, and both machines answer it alike. -/
def Simulated (step : σ → α → Option (ω × σ)) (may : σ → α → Prop) (answer : τ → α → ω × τ)
    (related : σ → τ → Prop) : Prop :=
  ∀ s b a, related s b → may s a →
    ∃ s', step s a = some ((answer b a).1,s') ∧ related s' (answer b a).2

theorem Simulated.run {answer : τ → α → ω × τ} {related : σ → τ → Prop}
    (simulated : Simulated step may answer related) {s : σ} {b : τ} {acts : List α}
    (initially : related s b) (permitted : Permitted step may s acts) :
    ∃ final, FaultMachine.run step s acts = some ((runTotal answer b acts).1,final) ∧
      related final (runTotal answer b acts).2 := by
  induction acts generalizing s b with
  | nil => exact ⟨s,rfl,initially⟩
  | cons a rest ih =>
    obtain ⟨s',first,next⟩ := simulated s b a initially permitted.1
    obtain ⟨final,others,last⟩ := ih next (permitted.2 _ _ first)
    exact ⟨final,run_cons_eq_some.mpr ⟨_,s',_,first,others,rfl⟩,last⟩

/-- In related states, what the second machine can do the first does too, with the same answer. The
second one has no result where its client has no right to an answer. -/
def Refines (step : σ → α → Option (ω × σ)) (may : σ → α → Prop) (right : τ → α → Option (ω × τ))
    (related : σ → τ → Prop) : Prop :=
  ∀ s b a o b', related s b → may s a → right b a = some (o,b') →
    ∃ s', step s a = some (o,s') ∧ related s' b'

theorem Refines.run {right : τ → α → Option (ω × τ)} {related : σ → τ → Prop}
    (refines : Refines step may right related) {s : σ} {b last : τ} {acts : List α} {os : List ω}
    (initially : related s b) (permitted : Permitted step may s acts)
    (ran : FaultMachine.run right b acts = some (os,last)) :
    ∃ final, FaultMachine.run step s acts = some (os,final) ∧ related final last := by
  induction acts generalizing s b os with
  | nil =>
    obtain ⟨rfl,rfl⟩ := Prod.mk.inj (Option.some.inj ran)
    exact ⟨s,rfl,initially⟩
  | cons a rest ih =>
    obtain ⟨o,b',later,first,others,rfl⟩ := run_cons_eq_some.mp ran
    obtain ⟨s',same,next⟩ := refines s b a o b' initially permitted.1 first
    obtain ⟨final,rest,ended⟩ := ih next (permitted.2 _ _ same) others
    exact ⟨final,run_cons_eq_some.mpr ⟨o,s',later,same,rest,rfl⟩,ended⟩

end FaultMachine

import Mathlib.Init

/-! C functions that leave through one label: parts of a body over a state, jumps to the label with
the values of the locals that are read there, counted loops, and triples for all of these. Undefined
behaviour has no result. -/
namespace ExitLabel

/-- A part of a function body. It goes on with a value or jumps to the label. -/
def Body (ε σ α : Type) : Type := σ → Option (Except ε α × σ)

variable {ε ε' σ α β : Type}

namespace Body

instance : Monad (Body ε σ) where
  pure a s := some (.ok a,s)
  bind x f s := match x s with
    | none => none
    | some (.ok a,s') => f a s'
    | some (.error e,s') => some (.error e,s')

def undefined : Body ε σ α := fun _ => none

def goto (locals : ε) : Body ε σ α := fun s => some (.error locals,s)

def look (f : σ → α) : Body ε σ α := fun s => some (.ok (f s),s)

/-- Works on the state, unless that is undefined. -/
def act (f : σ → Option (α × σ)) : Body ε σ α := fun s => (f s).map fun r => (.ok r.1,r.2)

/-- A function: the end of its body and its jumps both come to the label. -/
def label (body : Body ε σ ε) (rest : ε → Body ε' σ α) : Body ε' σ α := fun s =>
  match body s with
  | none => none
  | some (.ok e,s') => rest e s'
  | some (.error e,s') => rest e s'

/-- `for (i = index; i < index + turns; i++)`, with the locals that live from turn to turn. -/
def countUp (body : Nat → β → Body ε σ β) : (turns index : Nat) → β → Body ε σ β
  | 0, _, locals => pure locals
  | turns + 1, index, locals => body index locals >>= countUp body turns (index + 1)

theorem bind_apply (x : Body ε σ α) (f : α → Body ε σ β) (s : σ) :
    (x >>= f) s = match x s with
      | none => none
      | some (.ok a,s') => f a s'
      | some (.error e,s') => some (.error e,s') := rfl

@[simp] theorem pure_apply (a : α) (s : σ) : (pure a : Body ε σ α) s = some (.ok a,s) := rfl

@[simp] theorem goto_apply (e : ε) (s : σ) : (goto e : Body ε σ α) s = some (.error e,s) := rfl

theorem bind_ok {x : Body ε σ α} {f : α → Body ε σ β} {s s' : σ} {a : α}
    (went : x s = some (.ok a,s')) : (x >>= f) s = f a s' := by
  rw [bind_apply,went]

theorem bind_undefined {x : Body ε σ α} {f : α → Body ε σ β} {s : σ} (stuck : x s = none) :
    (x >>= f) s = none := by
  rw [bind_apply,stuck]

theorem label_ok {body : Body ε σ ε} {rest : ε → Body ε' σ α} {s s' : σ} {e : ε}
    (went : body s = some (.ok e,s')) : label body rest s = rest e s' := by
  rw [label,went]

theorem label_jump {body : Body ε σ ε} {rest : ε → Body ε' σ α} {s s' : σ} {e : ε}
    (jumped : body s = some (.error e,s')) : label body rest s = rest e s' := by
  rw [label,jumped]

theorem label_undefined {body : Body ε σ ε} {rest : ε → Body ε' σ α} {s : σ}
    (stuck : body s = none) : label body rest s = none := by
  rw [label,stuck]

/-- A part that is defined just where something is found, and what comes after it. -/
theorem bind_map {γ : Type} {found : Option γ} {x : Body ε σ α} {f : α → Body ε σ β} {s : σ}
    {value : γ → α} {state : γ → σ} {result : γ → Except ε β × σ}
    (went : x s = found.map fun c => (.ok (value c),state c))
    (onward : ∀ c, found = some c → f (value c) (state c) = some (result c)) :
    (x >>= f) s = found.map result := by
  cases found with
  | none => exact bind_undefined went
  | some c => exact (bind_ok went).trans (onward c rfl)

theorem label_map {γ : Type} {found : Option γ} {body : Body ε σ ε} {rest : ε → Body ε' σ α} {s : σ}
    {value : γ → ε} {state : γ → σ} {result : γ → Except ε' α × σ}
    (went : body s = found.map fun c => (.ok (value c),state c))
    (onward : ∀ c, found = some c → rest (value c) (state c) = some (result c)) :
    label body rest s = found.map result := by
  cases found with
  | none => exact label_undefined went
  | some c => exact (label_ok went).trans (onward c rfl)

section Path

variable (body : Nat → β → Body ε σ β) (locals : Nat → β) (path : Nat → σ) (turns index : Nat)

/-- A loop whose turns all go along a known path. -/
theorem countUp_along (each : ∀ i, index ≤ i → i < index + turns →
      body i (locals i) (path i) = some (.ok (locals (i + 1)),path (i + 1))) :
    countUp body turns index (locals index) (path index) =
      some (.ok (locals (index + turns)),path (index + turns)) := by
  induction turns generalizing index with
  | zero => rfl
  | succ turns ih =>
    have later := ih (index + 1) fun i low high => each i (by omega) (by omega)
    rw [countUp,bind_ok (each index (Nat.le_refl _) (by omega)),later,Nat.add_assoc,Nat.add_comm 1]

/-- A loop that goes along a known path as long as a condition holds, and is undefined at the first
turn where it does not. -/
theorem countUp_stuck (fits : Nat → Prop)
    (each : ∀ i, index ≤ i → i < index + turns → fits i →
      body i (locals i) (path i) = some (.ok (locals (i + 1)),path (i + 1)))
    (stuck : ∀ i, index ≤ i → i < index + turns → ¬fits i → body i (locals i) (path i) = none)
    {last : Nat} (low : index ≤ last) (high : last < index + turns) (misfit : ¬fits last) :
    countUp body turns index (locals index) (path index) = none := by
  induction turns generalizing index with
  | zero => omega
  | succ turns ih =>
    by_cases here : fits index
    · have beyond : index ≠ last := fun same => misfit (same ▸ here)
      rw [countUp,bind_ok (each index (Nat.le_refl _) (by omega) here)]
      exact ih (index + 1) (fun i later before => each i (by omega) (by omega))
        (fun i later before => stuck i (by omega) (by omega)) (by omega) (by omega)
    · rw [countUp,bind_undefined (stuck index (Nat.le_refl _) (by omega) here)]

end Path

end Body

open Body

/-- From `P` the part goes on only in `Q` and jumps only in `E`, when it is defined at all. -/
def Triple (P : σ → Prop) (x : Body ε σ α) (Q : α → σ → Prop) (E : ε → σ → Prop) : Prop :=
  ∀ s, P s → match x s with
    | none => True
    | some (.ok a,s') => Q a s'
    | some (.error e,s') => E e s'

namespace Triple

variable {P P' : σ → Prop} {x : Body ε σ α} {Q Q' : α → σ → Prop} {E : ε → σ → Prop}

theorem ended (triple : Triple P x Q E) {s s' : σ} {a : α} (holds : P s)
    (went : x s = some (.ok a,s')) : Q a s' := by
  have h := triple s holds
  rwa [went] at h

theorem consequence {E' : ε → σ → Prop} (triple : Triple P x Q E) (pre : ∀ s, P' s → P s)
    (post : ∀ a s, Q a s → Q' a s) (abrupt : ∀ e s, E e s → E' e s) : Triple P' x Q' E' := by
  intro s holds
  have h := triple s (pre s holds)
  split at h
  next => trivial
  next a s' _ => exact post a s' h
  next e s' _ => exact abrupt e s' h

theorem weaken (triple : Triple P x Q E) (pre : ∀ s, P' s → P s) : Triple P' x Q E :=
  triple.consequence pre (fun _ _ post => post) fun _ _ abrupt => abrupt

theorem post (triple : Triple P x Q E) (more : ∀ a s, Q a s → Q' a s) : Triple P x Q' E :=
  triple.consequence (fun _ holds => holds) more fun _ _ abrupt => abrupt

/-- What is known of the values at hand is used before the part runs. -/
theorem given {c : Prop} (known : c → Triple P x Q E) : Triple (fun s => P s ∧ c) x Q E :=
  fun s holds => known holds.2 s holds.1

theorem choose {ι : Type} {P : ι → σ → Prop} (each : ∀ i, Triple (P i) x Q E) :
    Triple (fun s => ∃ i, P i s) x Q E := by
  intro s holds
  obtain ⟨i,here⟩ := holds
  exact each i s here

theorem pure {a : α} (post : ∀ s, P s → Q a s) : Triple P (Pure.pure a : Body ε σ α) Q E := post

theorem goto {e : ε} (abrupt : ∀ s, P s → E e s) : Triple P (Body.goto e : Body ε σ α) Q E := abrupt

theorem undefined : Triple P (Body.undefined : Body ε σ α) Q E := fun _ _ => trivial

theorem look {f : σ → α} (post : ∀ s, P s → Q (f s) s) : Triple P (Body.look f : Body ε σ α) Q E := post

theorem act {f : σ → Option (α × σ)} (post : ∀ s, P s → ∀ a s', f s = some (a,s') → Q a s') :
    Triple P (Body.act f : Body ε σ α) Q E := by
  intro s holds
  unfold Body.act
  cases done : f s with
  | none => trivial
  | some r => exact post s holds r.1 r.2 done

theorem bind {R : α → σ → Prop} {f : α → Body ε σ β} {Q : β → σ → Prop} (first : Triple P x R E)
    (rest : ∀ a, Triple (R a) (f a) Q E) : Triple P (x >>= f) Q E := by
  intro s holds
  have h := first s holds
  rw [bind_apply]
  cases went : x s with
  | none => trivial
  | some r =>
    rw [went] at h
    obtain ⟨r,s'⟩ := r
    cases r with
    | ok a => exact rest a s' h
    | error e => exact h

theorem ite {c : Prop} [Decidable c] {y : Body ε σ α} (onTrue : c → Triple P x Q E)
    (onFalse : ¬c → Triple P y Q E) : Triple P (if c then x else y) Q E := by
  by_cases holds : c
  · rw [if_pos holds]; exact onTrue holds
  · rw [if_neg holds]; exact onFalse holds

theorem label {body : Body ε σ ε} {rest : ε → Body ε' σ α} {R : ε → σ → Prop} {E' : ε' → σ → Prop}
    (inside : Triple P body R R) (after : ∀ e, Triple (R e) (rest e) Q E') :
    Triple P (Body.label body rest) Q E' := by
  intro s holds
  have h := inside s holds
  unfold Body.label
  cases went : body s with
  | none => trivial
  | some r =>
    rw [went] at h
    obtain ⟨r,s'⟩ := r
    cases r with
    | ok e => exact after e s' h
    | error e => exact after e s' h

/-- A loop keeps what each of its turns keeps. -/
theorem countUp {body : Nat → β → Body ε σ β} {I : β → σ → Prop}
    (turn : ∀ index locals, Triple (I locals) (body index locals) I E) (turns index : Nat) (locals : β) :
    Triple (I locals) (Body.countUp body turns index locals) I E := by
  induction turns generalizing index locals with
  | zero => exact pure fun _ holds => holds
  | succ turns ih => exact bind (turn index locals) fun next => ih (index + 1) next

/-- A triple can be shown for one starting state at a time. -/
theorem each (single : ∀ s₀, P s₀ → Triple (fun s => s = s₀) x Q E) : Triple P x Q E :=
  fun s holds => single s holds s rfl

end Triple

end ExitLabel

import Mathlib.Init

/-! Scripts over a state that can stop before their end: by an exception, which a `try` may
catch, by an explicit exit, or because they are killed. Commands report failure by an
exception or not at all, depending on the error action they are called with. -/
namespace AbruptScript

/-- Why a script stopped. Only an exception can be caught. -/
inductive Stop where
  | thrown
  | exited (code : Nat)
  | killed
  deriving DecidableEq, Repr

def Script (σ α : Type) : Type := σ → Except Stop α × σ

variable {σ α β π : Type}

namespace Script

instance : Monad (Script σ) where
  pure a s := (.ok a,s)
  bind x f s := match x s with
    | (.ok a,s') => f a s'
    | (.error e,s') => (.error e,s')

def inspect (f : σ → α) : Script σ α := fun s => (.ok (f s),s)

def stop (e : Stop) : Script σ α := fun s => (.error e,s)

def tryCatch (body handler : Script σ α) : Script σ α := fun s =>
  match body s with
  | (.error .thrown,s') => handler s'
  | ended => ended

/-- Whether the body got through without an exception; if not, what to do about it. -/
def guarded (body onError : Script σ Unit) : Script σ Bool :=
  tryCatch (do body; pure true) (do onError; pure false)

/-- A second check that is made only when the first one passed. -/
def andThen (first second : Script σ Bool) : Script σ Bool := do
  if ← first then second else pure false

/-- Exits with code one when the check fails. -/
def require (check : Script σ Bool) : Script σ Unit := do
  if ← check then pure () else stop (.exited 1)

theorem bind_returned {x : Script σ α} {f : α → Script σ β} {s s' : σ} {a : α}
    (ended : x s = (.ok a,s')) : (x >>= f) s = f a s' := by
  change (match x s with
    | (.ok a,s') => f a s'
    | (.error e,s') => (.error e,s')) = f a s'
  rw [ended]

theorem bind_stopped {x : Script σ α} {f : α → Script σ β} {s s' : σ} {e : Stop}
    (ended : x s = (.error e,s')) : (x >>= f) s = (.error e,s') := by
  change (match x s with
    | (.ok a,s') => f a s'
    | (.error e,s') => (.error e,s')) = (.error e,s')
  rw [ended]

/-- A test of the state takes the branch it says. -/
theorem test_passed {f : σ → Bool} {x y : Script σ α} {s : σ} (passed : f s = true) :
    (inspect f >>= fun b => if b = true then x else y) s = x s := by
  have looked : inspect f s = (.ok true,s) := by rw [inspect,passed]
  exact bind_returned looked

end Script

/-- What the outside makes of one command: it runs with a result, or fails or is killed with
something left half done. -/
inductive Fate (α π : Type) where
  | done (result : α)
  | failed (left : π)
  | killed (left : π)
  deriving DecidableEq, Repr

inductive ErrorAction where
  | stop
  | silentlyGoOn
  deriving DecidableEq, Repr

def ErrorAction.failure : ErrorAction → Except Stop Unit
  | .stop => .error .thrown
  | .silentlyGoOn => .ok ()

/-- A command. `whole` may find in the state that it cannot succeed, and then says what it leaves. -/
def command (action : ErrorAction) (fate : Fate α π) (whole : α → σ → Except σ σ)
    (part : π → σ → σ) : Script σ Unit := fun s =>
  match fate with
  | .done result => match whole result s with
    | .ok s' => (.ok (),s')
    | .error s' => (action.failure,s')
  | .failed left => (action.failure,part left s)
  | .killed left => (.error .killed,part left s)

/-- From `P` the script returns only in `Q` and stops only in `E`. -/
def Triple (P : σ → Prop) (x : Script σ α) (Q : α → σ → Prop) (E : Stop → σ → Prop) : Prop :=
  ∀ s, P s → match x s with
    | (.ok a,s') => Q a s'
    | (.error e,s') => E e s'

theorem Triple.returned {P : σ → Prop} {x : Script σ α} {Q : α → σ → Prop} {E : Stop → σ → Prop}
    (triple : Triple P x Q E) {s s' : σ} {a : α} (holds : P s) (ended : x s = (.ok a,s')) : Q a s' := by
  have h := triple s holds
  rwa [ended] at h

theorem Triple.stopped {P : σ → Prop} {x : Script σ α} {Q : α → σ → Prop} {E : Stop → σ → Prop}
    (triple : Triple P x Q E) {s s' : σ} {e : Stop} (holds : P s) (ended : x s = (.error e,s')) :
    E e s' := by
  have h := triple s holds
  rwa [ended] at h

theorem Triple.consequence {P P' : σ → Prop} {x : Script σ α} {Q Q' : α → σ → Prop}
    {E E' : Stop → σ → Prop} (triple : Triple P x Q E) (pre : ∀ s, P' s → P s)
    (post : ∀ a s, Q a s → Q' a s) (abrupt : ∀ e s, E e s → E' e s) : Triple P' x Q' E' := by
  intro s holds
  have h := triple s (pre s holds)
  split at h
  next a s' _ => exact post a s' h
  next e s' _ => exact abrupt e s' h

theorem Triple.post {P : σ → Prop} {x : Script σ α} {Q Q' : α → σ → Prop} {E : Stop → σ → Prop}
    (triple : Triple P x Q E) (more : ∀ a s, Q a s → Q' a s) : Triple P x Q' E :=
  triple.consequence (fun _ holds => holds) more fun _ _ abrupt => abrupt

theorem Triple.weaken {P P' : σ → Prop} {x : Script σ α} {Q : α → σ → Prop} {E : Stop → σ → Prop}
    (triple : Triple P x Q E) (pre : ∀ s, P' s → P s) : Triple P' x Q E :=
  fun s holds => triple s (pre s holds)

theorem Triple.pure {P : σ → Prop} {a : α} {Q : α → σ → Prop} {E : Stop → σ → Prop}
    (post : ∀ s, P s → Q a s) : Triple P (Pure.pure a : Script σ α) Q E := post

theorem Triple.inspect {P : σ → Prop} {f : σ → α} {Q : α → σ → Prop} {E : Stop → σ → Prop}
    (post : ∀ s, P s → Q (f s) s) : Triple P (Script.inspect f) Q E := post

theorem Triple.stop {P : σ → Prop} {e : Stop} {Q : α → σ → Prop} {E : Stop → σ → Prop}
    (abrupt : ∀ s, P s → E e s) : Triple P (Script.stop e : Script σ α) Q E := abrupt

theorem Triple.bind {P : σ → Prop} {x : Script σ α} {R : α → σ → Prop} {f : α → Script σ β}
    {Q : β → σ → Prop} {E : Stop → σ → Prop} (first : Triple P x R E)
    (rest : ∀ a, Triple (R a) (f a) Q E) : Triple P (x >>= f) Q E := by
  intro s holds
  have h := first s holds
  change match (match x s with
    | (.ok a,s') => f a s'
    | (.error e,s') => (.error e,s')) with
    | (.ok b,s') => Q b s'
    | (.error e,s') => E e s'
  split at h
  next a s' _ => exact rest a s' h
  next e s' _ => exact h

theorem Triple.ite {P : σ → Prop} {c : Prop} [Decidable c] {x y : Script σ α} {Q : α → σ → Prop}
    {E : Stop → σ → Prop} (onTrue : c → Triple P x Q E) (onFalse : ¬c → Triple P y Q E) :
    Triple P (if c then x else y) Q E := by
  by_cases holds : c
  · rw [if_pos holds]; exact onTrue holds
  · rw [if_neg holds]; exact onFalse holds

/-- Branching on what a test of the state says. -/
theorem Triple.test {P : σ → Prop} {f : σ → Bool} {x y : Script σ α} {Q : α → σ → Prop}
    {E : Stop → σ → Prop} (onTrue : Triple (fun s => P s ∧ f s = true) x Q E)
    (onFalse : Triple (fun s => P s ∧ f s = false) y Q E) :
    Triple P (Script.inspect f >>= fun b => if b = true then x else y) Q E := by
  apply Triple.bind (R := fun b s => P s ∧ f s = b) (Triple.inspect fun s holds => ⟨holds,rfl⟩)
  intro b
  cases b with
  | true => exact onTrue
  | false => exact onFalse

/-- Nothing has to hold where a check did not pass. -/
theorem Triple.refused {P Q : σ → Prop} {E : Stop → σ → Prop} :
    Triple P (Pure.pure false : Script σ Bool) (fun ok s => ok = true → Q s) E :=
  fun _ _ impossible => Bool.noConfusion impossible

/-- A triple can be shown for one starting state at a time. -/
theorem Triple.each {P : σ → Prop} {x : Script σ α} {Q : α → σ → Prop} {E : Stop → σ → Prop}
    (single : ∀ s₀, P s₀ → Triple (fun s => s = s₀) x Q E) : Triple P x Q E :=
  fun s holds => single s holds s rfl

theorem Triple.tryCatch {P C : σ → Prop} {body handler : Script σ α} {Q : α → σ → Prop}
    {E : Stop → σ → Prop}
    (tried : Triple P body Q fun e s => if e = .thrown then C s else E e s)
    (caught : Triple C handler Q E) : Triple P (Script.tryCatch body handler) Q E := by
  intro s holds
  have h := tried s holds
  unfold Script.tryCatch
  cases ended : body s with
  | mk outcome s' =>
    rw [ended] at h
    cases outcome with
    | ok a => exact h
    | error e =>
      cases e with
      | thrown => exact caught s' h
      | exited code => exact h
      | killed => exact h

/-- The run that was made can be remembered along with what it achieved. -/
theorem Triple.ran {s₀ : σ} {x : Script σ α} {Q : α → σ → Prop} {E : Stop → σ → Prop}
    (triple : Triple (fun s => s = s₀) x Q E) :
    Triple (fun s => s = s₀) x (fun a s => x s₀ = (.ok a,s) ∧ Q a s) E := by
  rintro s rfl
  have h := triple s rfl
  split at h
  next a s' ended => exact ⟨ended,h⟩
  next => exact h

/-- No script so marked ends with exit code zero before its last statement. -/
def Unfinished : Stop → σ → Prop := fun e _ => e ≠ .exited 0

theorem Triple.unfinished_or {P : σ → Prop} {x : Script σ α} {Q : α → σ → Prop} (Z : σ → Prop)
    (triple : Triple P x Q Unfinished) : Triple P x Q fun e s => e = .exited 0 → Z s :=
  triple.consequence (fun _ holds => holds) (fun _ _ post => post)
    fun _ _ abrupt zero => absurd zero abrupt

theorem Triple.guarded {P Q : σ → Prop} {body onError : Script σ Unit}
    (tried : Triple P body (fun _ => Q) Unfinished)
    (caught : Triple (fun _ => True) onError (fun _ _ => True) Unfinished) :
    Triple P (Script.guarded body onError) (fun ok s => ok = true → Q s) Unfinished := by
  apply Triple.tryCatch (C := fun _ => True)
  · apply Triple.bind (R := fun _ => Q)
    · apply tried.consequence (fun _ holds => holds) (fun _ _ post => post)
      intro e s abrupt
      split
      next => trivial
      next => exact abrupt
    · intro _
      exact Triple.pure fun s post _ => post
  · apply Triple.bind caught
    intro _
    exact Triple.refused

theorem Triple.andThen {P M Q : σ → Prop} {first second : Script σ Bool}
    (one : Triple P first (fun ok s => ok = true → M s) Unfinished)
    (two : Triple M second (fun ok s => ok = true → Q s) Unfinished) :
    Triple P (Script.andThen first second) (fun ok s => ok = true → Q s) Unfinished := by
  apply Triple.bind one
  intro ok
  apply Triple.ite
  · intro passed
    exact two.weaken fun _ holds => holds passed
  · intro _
    exact Triple.refused

theorem Triple.require {P Q : σ → Prop} {check : Script σ Bool}
    (checked : Triple P check (fun ok s => ok = true → Q s) Unfinished) :
    Triple P (Script.require check) (fun _ => Q) Unfinished := by
  apply Triple.bind checked
  intro ok
  apply Triple.ite
  · intro passed
    exact Triple.pure fun s holds => holds passed
  · intro _
    exact Triple.stop fun s _ one => Nat.noConfusion (Stop.exited.inj one)

/-- With the error action `stop` a command returns only when it did the whole of its work. -/
theorem Triple.command_stop (fate : Fate α π) (whole : α → σ → Except σ σ) (part : π → σ → σ) (s₀ : σ) :
    Triple (fun s => s = s₀) (command .stop fate whole part)
      (fun _ s => ∃ result, fate = .done result ∧ whole result s₀ = .ok s) Unfinished := by
  rintro s rfl
  cases fate with
  | done result =>
    cases ended : whole result s with
    | ok s' => simp only [command,ended]; exact ⟨result,rfl,ended⟩
    | error s' => simp only [command,ended]; exact Stop.noConfusion
  | failed left => exact Stop.noConfusion
  | killed left => exact Stop.noConfusion

/-- A command that goes on silently returns unless it is killed. -/
theorem Triple.command_silent {fate : Fate α π} (spared : ∀ left, fate ≠ .killed left)
    (whole : α → σ → Except σ σ) (part : π → σ → σ) {E : Stop → σ → Prop} :
    Triple (fun _ => True) (command .silentlyGoOn fate whole part) (fun _ _ => True) E := by
  intro s _
  cases fate with
  | done result =>
    cases ended : whole result s with
    | ok s' => simp only [command,ended]
    | error s' =>
      simp only [command,ended]
      trivial
  | failed left => trivial
  | killed left => exact absurd rfl (spared left)

/-- Whatever holds of the state of a command that succeeds, fails or is killed holds when it is
over, with either error action. -/
theorem Triple.command_any {action : ErrorAction} (fate : Fate α π) {whole : α → σ → Except σ σ}
    {part : π → σ → σ} {P Q : σ → Prop}
    (succeeds : ∀ result s s', P s → whole result s = .ok s' → Q s')
    (conflicts : ∀ result s s', P s → whole result s = .error s' → Q s')
    (breaks : ∀ left s, P s → Q (part left s)) :
    Triple P (command action fate whole part) (fun _ => Q) fun e s => e ≠ .exited 0 ∧ Q s := by
  intro s holds
  cases fate with
  | done result =>
    cases ended : whole result s with
    | ok s' => simp only [command,ended]; exact succeeds result s s' holds ended
    | error s' =>
      have left := conflicts result s s' holds ended
      cases action with
      | stop => simp only [command,ended]; exact ⟨Stop.noConfusion,left⟩
      | silentlyGoOn => simp only [command,ended]; exact left
  | failed left =>
    cases action with
    | stop => exact ⟨Stop.noConfusion,breaks left s holds⟩
    | silentlyGoOn => exact breaks left s holds
  | killed left => exact ⟨Stop.noConfusion,breaks left s holds⟩

theorem Triple.and {P : σ → Prop} {x : Script σ α} {Q Q' : α → σ → Prop} {E E' : Stop → σ → Prop}
    (one : Triple P x Q E) (other : Triple P x Q' E') :
    Triple P x (fun a s => Q a s ∧ Q' a s) fun e s => E e s ∧ E' e s := by
  intro s holds
  have h := one s holds
  have h' := other s holds
  split at h
  next a s' ended => rw [ended] at h'; exact ⟨h,h'⟩
  next e s' ended => rw [ended] at h'; exact ⟨h,h'⟩

/-- The script keeps an invariant however it ends. -/
def Keeps (I : σ → Prop) (x : Script σ α) : Prop := Triple I x (fun _ => I) fun _ => I

theorem Keeps.pure {I : σ → Prop} (a : α) : Keeps I (Pure.pure a : Script σ α) := fun _ holds => holds

theorem Keeps.stop {I : σ → Prop} (e : Stop) : Keeps I (Script.stop e : Script σ α) := fun _ holds => holds

theorem Keeps.inspect {I : σ → Prop} (f : σ → α) : Keeps I (Script.inspect f) := fun _ holds => holds

theorem Keeps.bind {I : σ → Prop} {x : Script σ α} {f : α → Script σ β} (first : Keeps I x)
    (rest : ∀ a, Keeps I (f a)) : Keeps I (x >>= f) := Triple.bind first rest

theorem Keeps.ite {I : σ → Prop} {c : Prop} [Decidable c] {x y : Script σ α} (one : Keeps I x)
    (other : Keeps I y) : Keeps I (if c then x else y) :=
  Triple.ite (fun _ => one) fun _ => other

theorem Keeps.test {I : σ → Prop} {f : σ → Bool} {x y : Script σ α} (one : Keeps I x)
    (other : Keeps I y) : Keeps I (Script.inspect f >>= fun b => if b = true then x else y) :=
  Keeps.bind (Keeps.inspect f) fun _ => Keeps.ite one other

theorem Keeps.tryCatch {I : σ → Prop} {body handler : Script σ α} (tried : Keeps I body)
    (caught : Keeps I handler) : Keeps I (Script.tryCatch body handler) := by
  apply Triple.tryCatch _ caught
  apply tried.consequence (fun _ holds => holds) (fun _ _ post => post)
  intro e s abrupt
  split <;> exact abrupt

theorem Keeps.guarded {I : σ → Prop} {body onError : Script σ Unit} (tried : Keeps I body)
    (caught : Keeps I onError) : Keeps I (Script.guarded body onError) :=
  Keeps.tryCatch (Keeps.bind tried fun _ => Keeps.pure true) (Keeps.bind caught fun _ => Keeps.pure false)

theorem Keeps.andThen {I : σ → Prop} {first second : Script σ Bool} (one : Keeps I first)
    (two : Keeps I second) : Keeps I (Script.andThen first second) :=
  Keeps.bind one fun _ => Keeps.ite two (Keeps.pure false)

theorem Keeps.require {I : σ → Prop} {check : Script σ Bool} (checked : Keeps I check) :
    Keeps I (Script.require check) :=
  Keeps.bind checked fun _ => Keeps.ite (Keeps.pure ()) (Keeps.stop _)

theorem Keeps.command {action : ErrorAction} (fate : Fate α π) {whole : α → σ → Except σ σ}
    {part : π → σ → σ} {I : σ → Prop}
    (succeeds : ∀ result s s', I s → whole result s = .ok s' → I s')
    (conflicts : ∀ result s s', I s → whole result s = .error s' → I s')
    (breaks : ∀ left s, I s → I (part left s)) : Keeps I (command action fate whole part) :=
  (Triple.command_any fate succeeds conflicts breaks).consequence (fun _ holds => holds)
    (fun _ _ post => post) fun _ _ abrupt => abrupt.2

/-- What a passed check achieves, next to an invariant that it keeps in any case. -/
theorem Keeps.along {I P M : σ → Prop} {check : Script σ Bool} (keeps : Keeps I check)
    (start : ∀ s, P s → I s) (achieves : Triple P check (fun ok s => ok = true → M s) Unfinished) :
    Triple P check (fun ok s => I s ∧ (ok = true → M s)) fun _ => I :=
  ((keeps.weaken start).and achieves).consequence (fun _ holds => holds) (fun _ _ both => both)
    fun _ _ both => both.1

theorem Triple.andThen_along {I P M Q : σ → Prop} {first second : Script σ Bool}
    (one : Triple P first (fun ok s => I s ∧ (ok = true → M s)) fun _ => I)
    (two : Triple (fun s => I s ∧ M s) second (fun ok s => I s ∧ (ok = true → Q s)) fun _ => I) :
    Triple P (Script.andThen first second) (fun ok s => I s ∧ (ok = true → Q s)) fun _ => I := by
  apply Triple.bind one
  intro ok
  apply Triple.ite
  · intro passed
    exact two.weaken fun _ both => ⟨both.1,both.2 passed⟩
  · intro _
    exact Triple.pure fun s both => ⟨both.1,fun impossible => Bool.noConfusion impossible⟩

end AbruptScript

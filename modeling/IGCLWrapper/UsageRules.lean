import Mathlib.Logic.Function.Basic

/-! Rules of use for a device that is watched from outside: what may be asked of it next depends on
what it granted before. A script is a list of requests; a client that follows it stops at the first
one that is refused, or earlier. -/
namespace UsageRules

/-- The device's states as far as the rules tell them apart, and what a granted request does. -/
structure Rules (σ ρ : Type) where
  allows : σ → ρ → Prop
  next : σ → ρ → σ

/-- A request and whether it was granted. -/
abbrev Asked (ρ : Type) : Type := ρ × Bool

/-- All of a script, granted. -/
def performed {ρ : Type} (script : List ρ) : List (Asked ρ) := script.map fun request => (request,true)

/-- What a client that follows a script may have asked when it stops early. -/
inductive Attempt {ρ : Type} (script : List ρ) : List (Asked ρ) → Prop where
  | stopped (steps later : List ρ) (same : script = steps ++ later) : Attempt script (performed steps)
  | refused (steps : List ρ) (request : ρ) (later : List ρ) (same : script = steps ++ request :: later) :
      Attempt script (performed steps ++ [(request,false)])

variable {σ ρ ι : Type}

@[simp] theorem performed_nil : performed ([] : List ρ) = [] := rfl

@[simp] theorem performed_cons (request : ρ) (script : List ρ) :
    performed (request :: script) = (request,true) :: performed script := rfl

@[simp] theorem performed_append (first second : List ρ) :
    performed (first ++ second) = performed first ++ performed second := by
  simp [performed]

theorem Attempt.whole (script : List ρ) : Attempt script (performed script) :=
  .stopped script [] (by simp)

theorem Attempt.listed {script : List ρ} {tried : List (Asked ρ)} (attempt : Attempt script tried)
    {asked : Asked ρ} (among : asked ∈ tried) : asked.1 ∈ script := by
  cases attempt with
  | stopped steps later same =>
    obtain ⟨request,member,rfl⟩ := List.mem_map.mp among
    exact same ▸ List.mem_append_left later member
  | refused steps request later same =>
    subst same
    rcases List.mem_append.mp among with early | last
    · obtain ⟨other,member,rfl⟩ := List.mem_map.mp early
      exact List.mem_append_left _ member
    · rw [List.mem_singleton.mp last]
      exact List.mem_append_right steps List.mem_cons_self

theorem Attempt.before {first : List ρ} {tried : List (Asked ρ)} (attempt : Attempt first tried)
    (second : List ρ) : Attempt (first ++ second) tried := by
  cases attempt with
  | stopped steps later same => exact .stopped steps (later ++ second) (by simp [same])
  | refused steps request later same => exact .refused steps request (later ++ second) (by simp [same])

theorem Attempt.after {second : List ρ} {tried : List (Asked ρ)} (attempt : Attempt second tried)
    (first : List ρ) : Attempt (first ++ second) (performed first ++ tried) := by
  cases attempt with
  | stopped steps later same =>
    rw [← performed_append]
    exact .stopped (first ++ steps) later (by simp [same])
  | refused steps request later same =>
    rw [← List.append_assoc,← performed_append]
    exact .refused (first ++ steps) request later (by simp [same])

namespace Rules

variable (R : Rules σ ρ) (s : σ) (trace : List (Asked ρ)) (script : List ρ)

/-- A refused request leaves the device as it was. -/
def react (s : σ) (asked : Asked ρ) : σ := if asked.2 then R.next s asked.1 else s

/-- The device after a trace, when it was found in the state `s`. -/
def state : σ := trace.foldl R.react s

/-- Each request was allowed after those before it, whether it was granted or not. -/
def Obeyed : Prop :=
  ∀ before asked later, trace = before ++ asked :: later → R.allows (R.state s before) asked.1

def Permits : σ → List ρ → Prop
  | _, [] => True
  | s, request :: script => R.allows s request ∧ Permits (R.next s request) script

@[simp] theorem state_nil : R.state s [] = s := rfl

@[simp] theorem state_cons (asked : Asked ρ) :
    R.state s (asked :: trace) = R.state (R.react s asked) trace := rfl

@[simp] theorem state_append (later : List (Asked ρ)) :
    R.state s (trace ++ later) = R.state (R.state s trace) later := by
  simp [state]

@[simp] theorem state_performed : R.state s (performed script) = script.foldl R.next s := by
  simp [state,performed,List.foldl_map,react]

@[simp] theorem obeyed_nil : R.Obeyed s [] := by
  intro before asked later same
  simp at same

@[simp] theorem obeyed_cons (asked : Asked ρ) :
    R.Obeyed s (asked :: trace) ↔ R.allows s asked.1 ∧ R.Obeyed (R.react s asked) trace := by
  constructor
  · intro obeyed
    refine ⟨obeyed [] asked trace rfl,?_⟩
    intro before next later same
    exact obeyed (asked :: before) next later (by simp [same])
  · intro both
    obtain ⟨allowed,obeyed⟩ := both
    intro before next later same
    cases before with
    | nil =>
      obtain ⟨rfl,_⟩ := List.cons.inj same
      exact allowed
    | cons first before =>
      obtain ⟨rfl,rest⟩ := List.cons.inj same
      exact obeyed before next later rest

@[simp] theorem obeyed_append (later : List (Asked ρ)) :
    R.Obeyed s (trace ++ later) ↔ R.Obeyed s trace ∧ R.Obeyed (R.state s trace) later := by
  induction trace generalizing s with
  | nil => simp
  | cons asked trace ih => simp [ih,and_assoc]

@[simp] theorem obeyed_performed : R.Obeyed s (performed script) ↔ R.Permits s script := by
  induction script generalizing s with
  | nil => simp [Permits]
  | cons request script ih => simp [Permits,ih,react]

/-- Requests that do not get in each other's way obey the rules just when each was allowed to begin
with. -/
theorem obeyed_iff_of_indifferent {P : ρ → Prop}
    (indifferent : ∀ s a b, P a → P b → (R.allows (R.next s a) b ↔ R.allows s b))
    (all : ∀ asked ∈ trace, P asked.1) :
    R.Obeyed s trace ↔ ∀ asked ∈ trace, R.allows s asked.1 := by
  induction trace generalizing s with
  | nil => simp
  | cons asked trace ih =>
    obtain ⟨here,later⟩ := List.forall_mem_cons.mp all
    rw [obeyed_cons,ih (R.react s asked) later,List.forall_mem_cons]
    apply and_congr_right
    intro _
    refine forall₂_congr fun next member => ?_
    unfold react
    split
    · exact indifferent s asked.1 next.1 here (later next member)
    · exact Iff.rfl

/-- The same rules for each of many devices. -/
def each [DecidableEq ι] : Rules (ι → σ) (ι × ρ) where
  allows s request := R.allows (s request.1) request.2
  next s request := Function.update s request.1 (R.next (s request.1) request.2)

variable [DecidableEq ι] (found : ι → σ) (device : ι) (traces : List (Asked (ι × ρ)))

@[simp] theorem each_allows (request : ι × ρ) :
    R.each.allows found request ↔ R.allows (found request.1) request.2 := Iff.rfl

@[simp] theorem each_next (request : ι × ρ) : R.each.next found request =
    Function.update found request.1 (R.next (found request.1) request.2) := rfl

/-- A script for one of them concerns that one only. -/
@[simp] theorem foldl_each : (script.map fun request => (device,request)).foldl R.each.next found =
    Function.update found device (script.foldl R.next (found device)) := by
  induction script generalizing found with
  | nil => simp
  | cons request script ih => simp [ih]

@[simp] theorem permits_each : R.each.Permits found (script.map fun request => (device,request)) ↔
    R.Permits (found device) script := by
  induction script generalizing found with
  | nil => simp [Permits]
  | cons request script ih => simp [Permits,ih]

theorem each_indifferent {P : ρ → Prop}
    (indifferent : ∀ s a b, P a → P b → (R.allows (R.next s a) b ↔ R.allows s b)) (a b : ι × ρ)
    (first : P a.2) (second : P b.2) :
    R.each.allows (R.each.next found a) b ↔ R.each.allows found b := by
  rw [each_allows,each_allows,each_next]
  by_cases same : b.1 = a.1
  · rw [same,Function.update_self]
    exact indifferent (found a.1) a.2 b.2 first second
  · rw [Function.update_of_ne same]

/-- A device that nothing was asked of is as it was found. -/
theorem each_unasked {device : ι} (unasked : ∀ asked ∈ traces, asked.1.1 ≠ device) :
    R.each.state found traces device = found device := by
  induction traces generalizing found with
  | nil => rfl
  | cons asked traces ih =>
    obtain ⟨other,later⟩ := List.forall_mem_cons.mp unasked
    rw [state_cons,ih _ later]
    unfold react
    split
    · rw [each_next,Function.update_of_ne other.symm]
    · rfl

end Rules

end UsageRules

import Mathlib.Algebra.BigOperators.Fin
import Mathlib.Algebra.Order.BigOperators.Group.Finset
import Mathlib.Algebra.Order.Ring.Int

/-! Threads that take turns. A turn reads and writes one value that all threads share and the private
state of the thread that has the turn. The rules are for a shared counter that the threads' private
states account for: under them a thread cannot tell whether it runs alone. -/
namespace Interleaving

variable {σ ℓ : Type} {n : Nat}

structure State (σ ℓ : Type) (n : Nat) where
  shared : σ
  locals : Fin n → ℓ

def step (turn : σ → ℓ → σ × ℓ) (s : State σ ℓ n) (i : Fin n) : State σ ℓ n where
  shared := (turn s.shared (s.locals i)).1
  locals := Function.update s.locals i (turn s.shared (s.locals i)).2

def run (turn : σ → ℓ → σ × ℓ) (s : State σ ℓ n) (schedule : List (Fin n)) : State σ ℓ n :=
  schedule.foldl (step turn) s

theorem run_cons (turn : σ → ℓ → σ × ℓ) (s : State σ ℓ n) (i : Fin n) (rest : List (Fin n)) :
    run turn s (i :: rest) = run turn (step turn s i) rest := rfl

/-- What every turn does to the counter and to the credit of the thread that takes it. `alone` is the
turn of a thread that finds no credit but its own. -/
structure Discipline (turn : σ → ℓ → σ × ℓ) (count : σ → Int) (credit : ℓ → Int) (Good : ℓ → Prop)
    (alone : ℓ → ℓ) : Prop where
  nonneg : ∀ l, Good l → 0 ≤ credit l
  balanced : ∀ x l, Good l → credit l ≤ count x →
    count (turn x l).1 + credit l = count x + credit (turn x l).2
  blind : ∀ x l, Good l → credit l ≤ count x → (turn x l).2 = alone l
  kept : ∀ l, Good l → Good (alone l)

/-- The counter is the sum of what the threads hold of it. -/
structure Accounted (count : σ → Int) (credit : ℓ → Int) (Good : ℓ → Prop) (s : State σ ℓ n) :
    Prop where
  counted : count s.shared = ∑ i, credit (s.locals i)
  good : ∀ i, Good (s.locals i)

variable {turn : σ → ℓ → σ × ℓ} {count : σ → Int} {credit : ℓ → Int} {Good : ℓ → Prop}
variable {alone : ℓ → ℓ} {s : State σ ℓ n}

theorem Accounted.covers (rules : Discipline turn count credit Good alone)
    (accounted : Accounted count credit Good s) (i : Fin n) :
    credit (s.locals i) ≤ count s.shared := by
  rw [accounted.counted]
  exact Finset.single_le_sum (fun j _ => rules.nonneg _ (accounted.good j)) (Finset.mem_univ i)

theorem Accounted.count_nonneg (rules : Discipline turn count credit Good alone)
    (accounted : Accounted count credit Good s) : 0 ≤ count s.shared := by
  rw [accounted.counted]
  exact Finset.sum_nonneg fun j _ => rules.nonneg _ (accounted.good j)

theorem step_local (rules : Discipline turn count credit Good alone)
    (accounted : Accounted count credit Good s) (i : Fin n) :
    (step turn s i).locals = Function.update s.locals i (alone (s.locals i)) := by
  simp only [step,rules.blind _ _ (accounted.good i) (accounted.covers rules i)]

/-- Only the summand of the thread that has the turn changes, by as much as the counter. -/
theorem step_counted (rules : Discipline turn count credit Good alone)
    (accounted : Accounted count credit Good s) (i : Fin n) :
    count (step turn s i).shared = ∑ j, credit ((step turn s i).locals j) := by
  have others : ∑ j ∈ Finset.univ.erase i, credit ((step turn s i).locals j) =
      ∑ j ∈ Finset.univ.erase i, credit (s.locals j) := by
    apply Finset.sum_congr rfl
    intro j member
    simp only [step,Function.update_of_ne (Finset.ne_of_mem_erase member)]
  have after := Finset.add_sum_erase Finset.univ (fun j => credit ((step turn s i).locals j))
    (Finset.mem_univ i)
  have old := Finset.add_sum_erase Finset.univ (fun j => credit (s.locals j)) (Finset.mem_univ i)
  have moved := rules.balanced _ _ (accounted.good i) (accounted.covers rules i)
  have before := accounted.counted
  rw [← after,others]
  simp only [step,Function.update_self]
  omega

theorem step_accounted (rules : Discipline turn count credit Good alone)
    (accounted : Accounted count credit Good s) (i : Fin n) :
    Accounted count credit Good (step turn s i) where
  counted := step_counted rules accounted i
  good := by
    intro j
    rw [step_local rules accounted]
    by_cases same : j = i
    · subst same
      rw [Function.update_self]
      exact rules.kept _ (accounted.good j)
    · rw [Function.update_of_ne same]
      exact accounted.good j

theorem run_accounted (rules : Discipline turn count credit Good alone)
    (accounted : Accounted count credit Good s) (schedule : List (Fin n)) :
    Accounted count credit Good (run turn s schedule) := by
  induction schedule generalizing s with
  | nil => exact accounted
  | cons i rest ih => exact ih (step_accounted rules accounted i)

/-- A thread goes through the states it would go through alone, one for each turn it gets. -/
theorem run_alone (rules : Discipline turn count credit Good alone)
    (accounted : Accounted count credit Good s) (schedule : List (Fin n)) (i : Fin n) :
    (run turn s schedule).locals i = alone^[schedule.count i] (s.locals i) := by
  induction schedule generalizing s with
  | nil => rfl
  | cons j rest ih =>
    rw [run_cons,ih (step_accounted rules accounted j),step_local rules accounted]
    by_cases same : j = i
    · subst same
      rw [List.count_cons_self,Function.iterate_succ_apply,Function.update_self]
    · rw [List.count_cons_of_ne same,Function.update_of_ne (Ne.symm same)]

end Interleaving

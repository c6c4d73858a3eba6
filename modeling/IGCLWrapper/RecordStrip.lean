import Mathlib.Data.List.Basic

/-! Records of varying length, one after the other in a list of cells. The first record of a list
is recognised by its first cells; some kinds of records are taken out, and the list is filled up
again behind the others. -/
namespace RecordStrip

variable {β : Type}

/-- How the record at the front of a list is recognised: how many cells it has, and whether it is
one of those that go. -/
structure Format (β : Type) where
  size : List β → Nat
  goes : List β → Bool
  size_pos : ∀ rest, 0 < size rest

/-- What is left of a list of cells, and how many records and cells have gone. -/
structure Stripped (β : Type) where
  left : List β
  records : Nat
  cells : Nat
  deriving DecidableEq, Repr

def Stripped.gone (s : Stripped β) (size : Nat) : Stripped β := ⟨s.left,s.records + 1,s.cells + size⟩
def Stripped.after (s : Stripped β) (record : List β) : Stripped β := { s with left := record ++ s.left }

/-- The front record goes: the others close up, with padding behind them. -/
def close (pad : β) (size : Nat) (rest : List β) : List β := rest.drop size ++ List.replicate size pad

/-- Takes out records among those that begin in the first `n` cells. A record that would have to go
must be there as a whole. -/
def strip (F : Format β) (pad : β) (n : Nat) (rest : List β) : Option (Stripped β) :=
  if n = 0 then some ⟨rest,0,0⟩
  else if F.goes rest then
    if F.size rest ≤ rest.length then
      (strip F pad (n - F.size rest) (close pad (F.size rest) rest)).map (·.gone (F.size rest))
    else none
  else (strip F pad (n - F.size rest) (rest.drop (F.size rest))).map (·.after (rest.take (F.size rest)))
termination_by n
decreasing_by
  all_goals
    have positive := F.size_pos rest
    omega

variable {F : Format β} {pad : β} {n : Nat} {rest : List β}

theorem close_length (whole : F.size rest ≤ rest.length) :
    (close pad (F.size rest) rest).length = rest.length := by
  simp [close]
  omega

@[simp] theorem strip_zero : strip F pad 0 rest = some ⟨rest,0,0⟩ := by rw [strip,if_pos rfl]

theorem strip_goes (more : 0 < n) (goes : F.goes rest = true) (whole : F.size rest ≤ rest.length) :
    strip F pad n rest =
      (strip F pad (n - F.size rest) (close pad (F.size rest) rest)).map (·.gone (F.size rest)) := by
  rw [strip,if_neg (by omega),if_pos goes,if_pos whole]

theorem strip_sticks_out (more : 0 < n) (goes : F.goes rest = true) (short : rest.length < F.size rest) :
    strip F pad n rest = none := by
  rw [strip,if_neg (by omega),if_pos goes,if_neg (by omega)]

theorem strip_stays (more : 0 < n) (stays : F.goes rest = false) :
    strip F pad n rest =
      (strip F pad (n - F.size rest) (rest.drop (F.size rest))).map (·.after (rest.take (F.size rest))) := by
  rw [strip,if_neg (by omega),if_neg (by simp [stays])]

theorem strip_cases {s : Stripped β} (more : 0 < n) (stripped : strip F pad n rest = some s) :
    F.goes rest = true ∧ F.size rest ≤ rest.length ∧
        (∃ s', strip F pad (n - F.size rest) (close pad (F.size rest) rest) = some s' ∧
          s = s'.gone (F.size rest)) ∨
      F.goes rest = false ∧
        ∃ s', strip F pad (n - F.size rest) (rest.drop (F.size rest)) = some s' ∧
          s = s'.after (rest.take (F.size rest)) := by
  cases goes : F.goes rest with
  | true =>
    by_cases whole : F.size rest ≤ rest.length
    · rw [strip_goes more goes whole,Option.map_eq_some_iff] at stripped
      obtain ⟨s',stripped,rfl⟩ := stripped
      exact .inl ⟨rfl,whole,s',stripped,rfl⟩
    · rw [strip_sticks_out more goes (by omega)] at stripped
      contradiction
  | false =>
    rw [strip_stays more goes,Option.map_eq_some_iff] at stripped
    obtain ⟨s',stripped,rfl⟩ := stripped
    exact .inr ⟨rfl,s',stripped,rfl⟩

theorem remaining_lt (more : 0 < n) : n - F.size rest < n := by
  have := F.size_pos rest
  omega

theorem strip_length {s : Stripped β} (stripped : strip F pad n rest = some s) :
    s.left.length = rest.length := by
  induction n using Nat.strongRecOn generalizing rest s with
  | ind n ih =>
    rcases Nat.eq_zero_or_pos n with rfl | more
    · rw [strip_zero,Option.some.injEq] at stripped
      subst stripped
      rfl
    · rcases strip_cases more stripped with ⟨_,whole,s',stripped',rfl⟩ | ⟨_,s',stripped',rfl⟩
      · exact (ih _ (remaining_lt more) stripped').trans (close_length whole)
      · have length := ih _ (remaining_lt more) stripped'
        simp only [Stripped.after,List.length_append,List.length_take,List.length_drop] at length ⊢
        omega

theorem strip_untouched {s : Stripped β} (stripped : strip F pad n rest = some s)
    (untouched : s.records = 0) : s = ⟨rest,0,0⟩ := by
  induction n using Nat.strongRecOn generalizing rest s with
  | ind n ih =>
    rcases Nat.eq_zero_or_pos n with rfl | more
    · rw [strip_zero,Option.some.injEq] at stripped
      exact stripped.symm
    · rcases strip_cases more stripped with ⟨_,_,s',_,rfl⟩ | ⟨_,s',stripped',rfl⟩
      · exact absurd untouched (Nat.succ_ne_zero _)
      · rw [ih _ (remaining_lt more) stripped' untouched]
        simp [Stripped.after]

/-- `P` holds of the list at each record on the way. -/
inductive Along (F : Format β) (pad : β) (P : List β → Prop) : Nat → List β → Prop
  | done (rest : List β) : Along F pad P 0 rest
  | goes {n : Nat} {rest : List β} (here : P rest) (goes : F.goes rest = true)
      (onward : Along F pad P (n - F.size rest) (close pad (F.size rest) rest)) : Along F pad P n rest
  | stays {n : Nat} {rest : List β} (here : P rest) (stays : F.goes rest = false)
      (onward : Along F pad P (n - F.size rest) (rest.drop (F.size rest))) : Along F pad P n rest

theorem Along.here {P : List β → Prop} (along : Along F pad P n rest) (more : 0 < n) : P rest := by
  cases along with
  | done => omega
  | goes here _ _ => exact here
  | stays here _ _ => exact here

theorem Along.gone {P : List β → Prop} (along : Along F pad P n rest) (more : 0 < n)
    (went : F.goes rest = true) : Along F pad P (n - F.size rest) (close pad (F.size rest) rest) := by
  cases along with
  | done => omega
  | goes _ _ onward => exact onward
  | stays _ stays _ => rw [stays] at went; contradiction

theorem Along.stayed {P : List β → Prop} (along : Along F pad P n rest) (more : 0 < n)
    (stayed : F.goes rest = false) : Along F pad P (n - F.size rest) (rest.drop (F.size rest)) := by
  cases along with
  | done => omega
  | goes _ goes _ => rw [goes] at stayed; contradiction
  | stays _ _ onward => exact onward

/-- What holds of every list that goes on after the records holds on the way to their end. -/
theorem along_of_lt {P : List β → Prop} (wide : ∀ list : List β, 1 < list.length → P list)
    (inside : n < rest.length) : Along F pad P n rest := by
  induction n using Nat.strongRecOn generalizing rest with
  | ind n ih =>
    rcases Nat.eq_zero_or_pos n with rfl | more
    · exact .done rest
    · have here : P rest := wide rest (by omega)
      have positive := F.size_pos rest
      cases goes : F.goes rest with
      | true =>
        refine .goes here goes (ih _ (remaining_lt more) ?_)
        simp only [close,List.length_append,List.length_drop,List.length_replicate]
        omega
      | false =>
        apply Along.stays here goes
        by_cases last : n - F.size rest = 0
        · rw [last]
          exact .done _
        · apply ih _ (remaining_lt more)
          rw [List.length_drop]
          omega

/-- A record that is recognised as such whatever follows it. -/
def Delimited (F : Format β) (record : List β) : Prop :=
  ∀ more, F.size (record ++ more) = record.length ∧ F.goes (record ++ more) = F.goes record

/-- In a sequence of proper records exactly those that go are taken out. -/
theorem strip_records (pad : β) {records : List (List β)} (proper : ∀ record ∈ records, Delimited F record)
    (more : List β) :
    strip F pad records.flatten.length (records.flatten ++ more) =
      some ⟨(records.filter fun record => !F.goes record).flatten ++
          (more ++ List.replicate (records.filter F.goes).flatten.length pad),
        (records.filter F.goes).length,(records.filter F.goes).flatten.length⟩ := by
  induction records generalizing more with
  | nil => simp
  | cons record records ih =>
    have stripped := ih fun record member => proper record (List.mem_cons_of_mem _ member)
    obtain ⟨size,kind⟩ := proper record List.mem_cons_self (records.flatten ++ more)
    have nonempty : 0 < record.length := size ▸ F.size_pos _
    rw [List.flatten_cons,List.append_assoc,List.length_append]
    have skip : record.length + records.flatten.length - record.length = records.flatten.length := by omega
    cases goes : F.goes record with
    | true =>
      rw [strip_goes (by omega) (kind.trans goes) (by rw [size,List.length_append]; omega),size,skip,
        close,List.drop_left,List.append_assoc,stripped]
      simp [Stripped.gone,goes,List.replicate_append_replicate]
      omega
    | false =>
      rw [strip_stays (by omega) (kind.trans goes),size,skip,List.drop_left,stripped]
      simp [Stripped.after,goes]

theorem along_records {P : List β → Prop} {records : List (List β)}
    (proper : ∀ record ∈ records, Delimited F record)
    (each : ∀ record ∈ records, ∀ more, P (record ++ more)) (more : List β) :
    Along F pad P records.flatten.length (records.flatten ++ more) := by
  induction records generalizing more with
  | nil => exact .done _
  | cons record records ih =>
    have onward := ih (fun record member => proper record (List.mem_cons_of_mem _ member))
      fun record member => each record (List.mem_cons_of_mem _ member)
    obtain ⟨size,kind⟩ := proper record List.mem_cons_self (records.flatten ++ more)
    have here := each record List.mem_cons_self (records.flatten ++ more)
    have skip : record.length + records.flatten.length - record.length = records.flatten.length := by omega
    rw [List.flatten_cons,List.append_assoc,List.length_append]
    cases goes : F.goes record with
    | true =>
      apply Along.goes here (kind.trans goes)
      rw [size,skip,close,List.drop_left,List.append_assoc]
      exact onward _
    | false =>
      apply Along.stays here (kind.trans goes)
      rw [size,skip,List.drop_left]
      exact onward _

end RecordStrip

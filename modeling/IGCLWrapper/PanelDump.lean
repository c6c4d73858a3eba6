import IGCLWrapper.PanelSample

/-! The two nested loops that print a descriptor block, sixteen bytes a row. -/
namespace IGCL.Samples.Panel

open BlockMemory ExitLabel

variable {t : Target} {ε : Type} {data : Addr} {cells : List UInt8} {s : Sample Line}

/-- A size rounded up to whole rows. -/
def wholeRows (size : Nat) : Nat := (size + 15) / 16 * 16

theorem loadByte_eq (alive : s.heap.block data = some cells) {j : Nat} (inside : j < cells.length) :
    (loadByte data j : Body ε (Sample Line) UInt8) s = some (.ok (cells.get ⟨j,inside⟩),s) := by
  simp [loadByte,Body.act,alive,inside]

theorem loadByte_outside (alive : s.heap.block data = some cells) {j : Nat}
    (outside : cells.length ≤ j) : (loadByte data j : Body ε (Sample Line) UInt8) s = none := by
  simp [loadByte,Body.act,alive,outside]

theorem printBytes_eq (alive : s.heap.block data = some cells) (count j : Nat)
    (inside : j + count ≤ cells.length) :
    (printBytes data count j : Body ε (Sample Line) Unit) s =
      some (.ok (),more s (((cells.drop j).take count).map .byte)) := by
  induction count generalizing s j with
  | zero => simp [printBytes]
  | succ count ih =>
    have here : j < cells.length := by omega
    rw [printBytes,Body.bind_ok (loadByte_eq alive here),Body.bind_ok (print_eq _ _),
      ih (s := more s [.byte (cells.get ⟨j,here⟩)]) alive (j + 1) (by omega),
      List.drop_eq_getElem_cons here,more_more,List.take_succ_cons,List.map_cons]
    rfl

theorem printBytes_outside (alive : s.heap.block data = some cells) (count j : Nat)
    (outside : cells.length < j + count) (some_left : j ≤ cells.length) :
    (printBytes data count j : Body ε (Sample Line) Unit) s = none := by
  induction count generalizing s j with
  | zero => omega
  | succ count ih =>
    by_cases here : j < cells.length
    · rw [printBytes,Body.bind_ok (loadByte_eq alive here),Body.bind_ok (print_eq _ _)]
      exact ih (s := more s _) alive (j + 1) (by omega) here
    · rw [printBytes,Body.bind_undefined (loadByte_outside alive (by omega))]

/-- The rows from `row` on, when all of them are inside the block. -/
theorem printRows_eq (alive : s.heap.block data = some cells) (size : UInt32)
    (noWrap : size.toNat ≤ 0xfffffff0) (inside : wholeRows size.toNat ≤ cells.length) (fuel row : Nat)
    (enough : wholeRows size.toNat < 16 * (row + fuel)) (within : 16 * row ≤ wholeRows size.toNat) :
    (printRows data size fuel (UInt32.ofNat (16 * row)) : Body ε (Sample Line) Unit) s =
      some (.ok (),more s (((cells.take (wholeRows size.toNat)).drop (16 * row)).map .byte)) := by
  unfold wholeRows at *
  induction fuel generalizing s row with
  | zero => omega
  | succ fuel ih =>
    have exact_i : (UInt32.ofNat (16 * row)).toNat = 16 * row :=
      UInt32.toNat_ofNat_of_lt' (by simp [UInt32.size]; omega)
    by_cases left : 16 * row < size.toNat
    · have next : UInt32.ofNat (16 * row) + 16 = UInt32.ofNat (16 * (row + 1)) := by
        rw [Nat.mul_add,UInt32.ofNat_add]; rfl
      have exact_next : (UInt32.ofNat (16 * (row + 1))).toNat = 16 * (row + 1) :=
        UInt32.toNat_ofNat_of_lt' (by simp [UInt32.size]; omega)
      have count : (UInt32.ofNat (16 * (row + 1))).toNat - (UInt32.ofNat (16 * row)).toNat = 16 := by
        omega
      have bytes := printBytes_eq (ε := ε) alive 16 (16 * row) (by omega)
      rw [printRows,if_pos (by rw [UInt32.lt_iff_toNat_lt,exact_i]; exact left),next,count,exact_i,
        Body.bind_ok bytes,ih (s := more s _) alive (row + 1) (by omega) (by omega),more_more,
        ← List.map_append]
      have whole : (cells.drop (16 * row)).take 16 ++ (cells.take ((size.toNat + 15) / 16 * 16)).drop
          (16 * (row + 1)) = (cells.take ((size.toNat + 15) / 16 * 16)).drop (16 * row) := by
        have first : min 16 ((size.toNat + 15) / 16 * 16 - 16 * row) = 16 := by omega
        have parts := List.take_append_drop 16 ((cells.take ((size.toNat + 15) / 16 * 16)).drop (16 * row))
        rw [List.drop_drop] at parts
        conv at parts => lhs; rw [List.drop_take,List.take_take,first]
        exact parts
      rw [whole]
    · rw [printRows,if_neg (by rw [UInt32.lt_iff_toNat_lt,exact_i]; exact left)]
      rw [List.drop_eq_nil_of_le (by rw [List.length_take]; omega)]
      simp

/-- A dump that begins and ends has not run past the end of the block. -/
theorem printRows_room (alive : s.heap.block data = some cells) {size : UInt32} {fuel : Nat}
    {i : UInt32} (aligned : 16 ∣ i.toNat) (begins : i.toNat < size.toNat) (reached : i.toNat ≤ cells.length)
    {r : Except ε Unit × Sample Line} (ended : printRows data size fuel i s = some r) :
    wholeRows size.toNat ≤ cells.length ∧ size.toNat ≤ 0xfffffff0 := by
  unfold wholeRows
  induction fuel generalizing s i with
  | zero => contradiction
  | succ fuel ih =>
    have range := i.toNat_lt
    have next : (i + 16).toNat = (i.toNat + 16) % 0x100000000 := UInt32.toNat_add i 16
    rw [printRows,if_pos (UInt32.lt_iff_toNat_lt.mpr begins)] at ended
    by_cases wraps : 0x100000000 ≤ i.toNat + 16
    · have again : (i + 16).toNat = 0 := by omega
      have row := printBytes_eq (ε := ε) alive ((i + 16).toNat - i.toNat) i.toNat (by omega)
      rw [Body.bind_ok row] at ended
      exact ih (s := more s _) alive (by omega) (by omega) (by omega) ended
    · by_cases inside : i.toNat + 16 ≤ cells.length
      · have row := printBytes_eq (ε := ε) alive ((i + 16).toNat - i.toNat) i.toNat (by omega)
        rw [Body.bind_ok row] at ended
        by_cases last : size.toNat ≤ i.toNat + 16
        · omega
        · exact ih (s := more s _) alive (by omega) (by omega) (by omega) ended
      · have row := printBytes_outside (ε := ε) alive ((i + 16).toNat - i.toNat) i.toNat (by omega) reached
        rw [Body.bind_undefined row] at ended
        contradiction

/-- The whole dump is defined exactly when the block goes on to the end of the last row, and then it
prints all these rows. -/
theorem printData_eq (alive : s.heap.block data = some cells) (size : UInt32) :
    (printData data size : Body ε (Sample Line) Unit) s =
      if wholeRows size.toNat ≤ cells.length ∧ size.toNat ≤ 0xfffffff0 then
        some (.ok (),more s ((cells.take (wholeRows size.toNat)).map .byte))
      else none := by
  have range := size.toNat_lt
  by_cases room : wholeRows size.toNat ≤ cells.length ∧ size.toNat ≤ 0xfffffff0
  · rw [if_pos room]
    exact printRows_eq alive size room.2 room.1 0x10000001 0 (by unfold wholeRows; omega) (by omega)
  · rw [if_neg room]
    cases ended : (printData data size : Body ε (Sample Line) Unit) s with
    | none => rfl
    | some r =>
      have begins : (0 : UInt32).toNat < size.toNat := by
        rw [UInt32.toNat_zero]
        unfold wholeRows at room
        omega
      exact absurd (printRows_room (i := 0) alive (Nat.dvd_zero 16) begins (Nat.zero_le _) ended) room

end IGCL.Samples.Panel

import Mathlib.Data.List.Basic

/-! A buffer that is read and written cell by cell. An access past its end has no result. -/
namespace CheckedBuffer

variable {β : Type}

def store (buf : List β) (i : Nat) (value : β) : Option (List β) :=
  if i < buf.length then some (buf.set i value) else none

/-- Puts what was at `src` at `dst`; the two may overlap. -/
def move (buf : List β) (dst src count : Nat) : Option (List β) :=
  if src + count ≤ buf.length ∧ dst + count ≤ buf.length then
    some (buf.take dst ++ ((buf.drop src).take count ++ buf.drop (dst + count)))
  else none

/-- The C function `memcpy_s` within one buffer. -/
structure MemcpyS (β : Type) where
  copy : List β → (dst dstSize src count : Nat) → Option (List β)
  sized : ∀ {buf buf' dst dstSize src count}, copy buf dst dstSize src count = some buf' →
    buf'.length = buf.length

/-- A destination that is too small is refused, which ends the program, and the cells are moved otherwise.
For ranges that overlap this is more than the documentation of `memcpy_s` promises. -/
structure MemcpyS.MovesIntact (memcpyS : MemcpyS β) : Prop where
  refused : ∀ buf dst dstSize src count, dstSize < count → memcpyS.copy buf dst dstSize src count = none
  moved : ∀ buf dst dstSize src count, count ≤ dstSize →
    memcpyS.copy buf dst dstSize src count = move buf dst src count

def fill (buf : List β) (dst : Nat) (value : β) : Nat → Option (List β)
  | 0 => some buf
  | count + 1 => do
    let buf ← store buf dst value
    fill buf (dst + 1) value count

theorem store_length {buf buf' : List β} {i : Nat} {value : β} (stored : store buf i value = some buf') :
    buf'.length = buf.length := by
  unfold store at stored
  split at stored
  next => rw [← Option.some.inj stored,List.length_set]
  next => contradiction

theorem move_length {buf buf' : List β} {dst src count : Nat} (moved : move buf dst src count = some buf') :
    buf'.length = buf.length := by
  unfold move at moved
  split at moved
  next inside =>
    rw [← Option.some.inj moved]
    simp only [List.length_append,List.length_take,List.length_drop]
    omega
  next => contradiction

theorem fill_length {buf buf' : List β} {dst count : Nat} {value : β}
    (filled : fill buf dst value count = some buf') : buf'.length = buf.length := by
  induction count generalizing buf dst with
  | zero => rw [Option.some.inj filled]
  | succ count ih =>
    simp only [fill,Option.bind_eq_bind,Option.bind_eq_some_iff] at filled
    obtain ⟨stored,first,rest⟩ := filled
    rw [ih rest,store_length first]

theorem store_here {i : Nat} {pre : List β} (here : i = pre.length) (old value : β) (post : List β) :
    store (pre ++ old :: post) i value = some (pre ++ value :: post) := by
  subst here
  simp [store]

theorem read_here {i : Nat} {pre : List β} (here : i = pre.length) (value : β) (post : List β) :
    (pre ++ value :: post)[i]? = some value := by
  subst here
  simp

/-- Moving cells down over a gap leaves as many other cells behind them as the gap had. -/
theorem move_down (dst src : Nat) (pre gap moved post : List β) (start : dst = pre.length)
    (shift : src = dst + gap.length) :
    ∃ behind, behind.length = gap.length ∧
      move (pre ++ (gap ++ (moved ++ post))) dst src moved.length =
        some (pre ++ (moved ++ (behind ++ post))) := by
  subst start shift
  refine ⟨(gap ++ moved).drop moved.length,by simp,?_⟩
  have from_ : (pre ++ (gap ++ (moved ++ post))).drop (pre.length + gap.length) = moved ++ post := by
    rw [← List.drop_drop,List.drop_left,List.drop_left]
  have after : (pre ++ (gap ++ (moved ++ post))).drop (pre.length + moved.length) =
      (gap ++ moved).drop moved.length ++ post := by
    rw [← List.drop_drop,List.drop_left,← List.append_assoc gap]
    exact List.drop_append_of_le_length (by simp)
  rw [move,if_pos (by simp; omega),from_,after,List.take_left,List.take_left]

theorem move_past_end {buf : List β} {dst src count : Nat} (past : buf.length < src + count) :
    move buf dst src count = none := by
  rw [move,if_neg (by omega)]

/-- A `memcpy_s` that copies by way of a second buffer. -/
def memmoveS : MemcpyS β where
  copy buf dst dstSize src count := if dstSize < count then none else move buf dst src count
  sized := by
    intro buf buf' dst dstSize src count copied
    split at copied
    next => contradiction
    next => exact move_length copied

theorem memmoveS_movesIntact : (memmoveS : MemcpyS β).MovesIntact where
  refused _ _ _ _ _ narrow := if_pos narrow
  moved _ _ _ _ _ room := if_neg (by omega)

theorem fill_here (dst : Nat) (pre old post : List β) (value : β) (start : dst = pre.length) :
    fill (pre ++ (old ++ post)) dst value old.length =
      some (pre ++ (List.replicate old.length value ++ post)) := by
  induction old generalizing dst pre with
  | nil => rfl
  | cons first old ih =>
    simp only [List.length_cons,fill,List.cons_append,store_here start,Option.bind_eq_bind,
      Option.bind_some,List.replicate_succ]
    have rest := ih (dst + 1) (pre ++ [value]) (by simp [start])
    simpa using rest

end CheckedBuffer

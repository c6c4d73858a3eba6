import IGCLWrapper.BlockMemory
import Mathlib.Algebra.Group.Nat.Defs
import Mathlib.Data.Nat.Init
import Mathlib.Data.Nat.Basic

/-! How C lays out structures, and what follows for their fields: a field is inside its structure and
aligned, fields of different names are apart, and so the fields behave as separate variables. -/
namespace CLayout

open BlockMemory

/-- A complete object type. A cell is read and written as a whole: a scalar, which is as wide as it is
aligned, or a union. -/
inductive CType where
  | cell (logAlign units : Nat)
  | array (elem : CType) (count : Nat)
  | struct (fields : List CType)

abbrev CType.scalar (logSize : Nat) : CType := .cell logSize 1

def alignUp (offset alignment : Nat) : Nat := (offset + (alignment - 1)) / alignment * alignment

theorem dvd_alignUp (offset alignment : Nat) : alignment ∣ alignUp offset alignment :=
  Nat.dvd_mul_left _ _

theorem le_alignUp (offset : Nat) {alignment : Nat} (positive : 0 < alignment) :
    offset ≤ alignUp offset alignment := by
  have split := Nat.div_add_mod (offset + (alignment - 1)) alignment
  have small := Nat.mod_lt (offset + (alignment - 1)) positive
  rw [Nat.mul_comm] at split
  unfold alignUp
  omega

mutual

/-- Binary logarithm of the alignment: that of the strictest member. -/
def CType.logAlign : CType → Nat
  | .cell logAlign _ => logAlign
  | .array elem _ => elem.logAlign
  | .struct fields => fieldsLogAlign fields

def fieldsLogAlign : List CType → Nat
  | [] => 0
  | field :: rest => max field.logAlign (fieldsLogAlign rest)

end

def CType.align (T : CType) : Nat := 2 ^ T.logAlign

mutual

def CType.size : CType → Nat
  | .cell logAlign units => units * 2 ^ logAlign
  | .array elem count => count * elem.size
  | .struct fields => alignUp (fieldsEnd fields 0) (2 ^ fieldsLogAlign fields)

/-- Where the last of the fields ends when the first may start at `offset`. -/
def fieldsEnd : List CType → Nat → Nat
  | [], offset => offset
  | field :: rest, offset => fieldsEnd rest (alignUp offset (2 ^ field.logAlign) + field.size)

end

/-- A union is as wide as its widest member, rounded up to its alignment. -/
def CType.union (members : List CType) : CType :=
  .cell (fieldsLogAlign members)
    (alignUp ((members.map CType.size).foldr max 0) (2 ^ fieldsLogAlign members) /
      2 ^ fieldsLogAlign members)

def fieldAt : List CType → Nat → Nat → Option (Nat × CType)
  | [], _, _ => none
  | field :: _, offset, 0 => some (alignUp offset field.align,field)
  | field :: rest, offset, i + 1 => fieldAt rest (alignUp offset field.align + field.size) i

/-- A member of a structure or an element of an array. -/
def CType.member : CType → Nat → Option (Nat × CType)
  | .cell .., _ => none
  | .array elem count, i => if i < count then some (i * elem.size,elem) else none
  | .struct fields, i => fieldAt fields 0 i

def CType.place : CType → List Nat → Option (Nat × CType)
  | T, [] => some (0,T)
  | T, i :: path =>
    (T.member i).bind fun step => (step.2.place path).map fun later => (step.1 + later.1,later.2)

theorem align_pos (T : CType) : 0 < T.align := Nat.two_pow_pos _

theorem logAlign_le_of_mem {T : CType} {fields : List CType} (member : T ∈ fields) :
    T.logAlign ≤ fieldsLogAlign fields := by
  induction fields with
  | nil => contradiction
  | cons field rest ih =>
    rw [fieldsLogAlign]
    rcases List.mem_cons.mp member with rfl | later
    · exact Nat.le_max_left _ _
    · exact (ih later).trans (Nat.le_max_right _ _)

theorem align_dvd_size : ∀ T : CType, T.align ∣ T.size
  | .cell logAlign units => by
    rw [CType.align,CType.logAlign,CType.size]
    exact Nat.dvd_mul_left _ _
  | .array elem count => by
    have inner := align_dvd_size elem
    rw [CType.size]
    exact Nat.dvd_mul_left_of_dvd inner count
  | .struct fields => by
    rw [CType.size]
    exact dvd_alignUp _ _

theorem le_fieldsEnd (fields : List CType) (offset : Nat) : offset ≤ fieldsEnd fields offset := by
  induction fields generalizing offset with
  | nil => rw [fieldsEnd]
  | cons field rest ih =>
    have start := le_alignUp offset (align_pos field)
    have later := ih (alignUp offset field.align + field.size)
    rw [fieldsEnd]
    change offset ≤ fieldsEnd rest (alignUp offset field.align + field.size)
    omega

theorem fieldAt_inside {fields : List CType} {offset i o : Nat} {U : CType}
    (found : fieldAt fields offset i = some (o,U)) :
    U ∈ fields ∧ offset ≤ o ∧ o + U.size ≤ fieldsEnd fields offset ∧ U.align ∣ o := by
  induction fields generalizing offset i with
  | nil => contradiction
  | cons field rest ih =>
    have start := le_alignUp offset (align_pos field)
    cases i with
    | zero =>
      obtain ⟨rfl,rfl⟩ := Prod.mk.inj (Option.some.inj found)
      refine ⟨List.mem_cons_self,start,?_,dvd_alignUp _ _⟩
      rw [fieldsEnd]
      exact le_fieldsEnd rest _
    | succ i =>
      obtain ⟨member,after,inside,aligned⟩ := ih found
      refine ⟨List.mem_cons_of_mem field member,by omega,?_,aligned⟩
      rw [fieldsEnd]
      exact inside

theorem fieldAt_ordered {fields : List CType} {offset i j o p : Nat} {U V : CType} (before : i < j)
    (first : fieldAt fields offset i = some (o,U)) (second : fieldAt fields offset j = some (p,V)) :
    o + U.size ≤ p := by
  induction fields generalizing offset i j with
  | nil => contradiction
  | cons field rest ih =>
    obtain ⟨j,rfl⟩ : ∃ k, j = k + 1 := ⟨j - 1,by omega⟩
    cases i with
    | zero =>
      obtain ⟨rfl,rfl⟩ := Prod.mk.inj (Option.some.inj first)
      rw [fieldAt] at second
      exact (fieldAt_inside second).2.1
    | succ i => exact ih (Nat.lt_of_succ_lt_succ before) first second

def Apart (o n p k : Nat) : Prop := o + n ≤ p ∨ p + k ≤ o

theorem Apart.symm {o n p k : Nat} (apart : Apart o n p k) : Apart p k o n := Or.symm apart

theorem Apart.within {o n p k o' n' p' k' : Nat} (apart : Apart o n p k) (left : o ≤ o')
    (leftEnd : o' + n' ≤ o + n) (right : p ≤ p') (rightEnd : p' + k' ≤ p + k) : Apart o' n' p' k' := by
  unfold Apart at *
  omega

theorem member_inside {T U : CType} {i o : Nat} (found : T.member i = some (o,U)) :
    o + U.size ≤ T.size ∧ U.align ∣ o ∧ U.align ∣ T.align := by
  cases T with
  | cell => contradiction
  | array elem count =>
    simp only [CType.member,Option.ite_none_right_eq_some,Option.some.injEq,Prod.mk.injEq] at found
    obtain ⟨bound,rfl,rfl⟩ := found
    refine ⟨?_,Nat.dvd_mul_left_of_dvd (align_dvd_size elem) i,?_⟩
    · rw [CType.size,← Nat.succ_mul]
      exact Nat.mul_le_mul_right _ bound
    · have same : (CType.array elem count).align = elem.align := by
        rw [CType.align,CType.align,CType.logAlign]
      exact same ▸ Nat.dvd_refl _
  | struct fields =>
    obtain ⟨member,_,inside,aligned⟩ := fieldAt_inside found
    refine ⟨?_,aligned,?_⟩
    · rw [CType.size]
      exact inside.trans (le_alignUp _ (Nat.two_pow_pos _))
    · rw [CType.align,CType.align,CType.logAlign]
      exact Nat.pow_dvd_pow 2 (logAlign_le_of_mem member)

theorem member_apart {T U V : CType} {i j o p : Nat} (different : i ≠ j)
    (first : T.member i = some (o,U)) (second : T.member j = some (p,V)) :
    Apart o U.size p V.size := by
  cases T with
  | cell => contradiction
  | array elem count =>
    simp only [CType.member,Option.ite_none_right_eq_some,Option.some.injEq,Prod.mk.injEq] at first second
    obtain ⟨_,rfl,rfl⟩ := first
    obtain ⟨_,rfl,rfl⟩ := second
    unfold Apart
    rcases Nat.lt_or_gt_of_ne different with before | after
    · left
      rw [← Nat.succ_mul]
      exact Nat.mul_le_mul_right _ before
    · right
      rw [← Nat.succ_mul]
      exact Nat.mul_le_mul_right _ after
  | struct fields =>
    rcases Nat.lt_or_gt_of_ne different with before | after
    · exact .inl (fieldAt_ordered before first second)
    · exact .inr (fieldAt_ordered after second first)

theorem place_cons {T V : CType} {i o : Nat} {path : List Nat} :
    T.place (i :: path) = some (o,V) ↔
      ∃ a U b, T.member i = some (a,U) ∧ U.place path = some (b,V) ∧ o = a + b := by
  rw [CType.place]
  constructor
  · intro found
    obtain ⟨⟨a,U⟩,step,rest⟩ := Option.bind_eq_some_iff.mp found
    obtain ⟨⟨b,W⟩,later,same⟩ := Option.map_eq_some_iff.mp rest
    obtain ⟨rfl,rfl⟩ := Prod.mk.inj same
    exact ⟨a,U,b,step,later,rfl⟩
  · intro given
    obtain ⟨a,U,b,step,later,rfl⟩ := given
    simp [step,later]

/-- What a path names is inside the object and aligned. -/
theorem place_inside {T V : CType} {path : List Nat} {o : Nat} (found : T.place path = some (o,V)) :
    o + V.size ≤ T.size ∧ V.align ∣ o ∧ V.align ∣ T.align := by
  induction path generalizing T o with
  | nil =>
    obtain ⟨rfl,rfl⟩ := Prod.mk.inj (Option.some.inj found)
    exact ⟨by omega,Nat.dvd_zero _,Nat.dvd_refl _⟩
  | cons i path ih =>
    obtain ⟨a,U,b,step,later,rfl⟩ := place_cons.mp found
    obtain ⟨outer,outerAligned,outerAlign⟩ := member_inside step
    obtain ⟨inner,innerAligned,innerAlign⟩ := ih later
    refine ⟨by omega,?_,Nat.dvd_trans innerAlign outerAlign⟩
    exact Nat.dvd_add (Nat.dvd_trans innerAlign outerAligned) innerAligned

/-- A path from a member on is a path of the whole. -/
theorem place_append {T U V : CType} {path rest : List Nat} {o p : Nat}
    (outer : T.place path = some (o,U)) (inner : U.place rest = some (p,V)) :
    T.place (path ++ rest) = some (o + p,V) := by
  induction path generalizing T o with
  | nil =>
    obtain ⟨rfl,rfl⟩ := Prod.mk.inj (Option.some.inj outer)
    simpa using inner
  | cons i path ih =>
    obtain ⟨a,W,b,step,later,rfl⟩ := place_cons.mp outer
    exact place_cons.mpr ⟨a,W,b + p,step,ih later,by omega⟩

/-- The elements of an array follow each other. -/
theorem place_element {T elem : CType} {path : List Nat} {o n i : Nat}
    (found : T.place path = some (o,.array elem n)) (bound : i < n) :
    T.place (path ++ [i]) = some (o + i * elem.size,elem) := by
  refine place_append found ?_
  rw [place_cons]
  refine ⟨i * elem.size,elem,0,?_,rfl,rfl⟩
  rw [CType.member,if_pos bound]

theorem place_of_append {T V : CType} {path rest : List Nat} {o : Nat}
    (found : T.place (path ++ rest) = some (o,V)) :
    ∃ a U b, T.place path = some (a,U) ∧ U.place rest = some (b,V) ∧ o = a + b := by
  induction path generalizing T o with
  | nil => exact ⟨0,T,o,rfl,found,by omega⟩
  | cons i path ih =>
    obtain ⟨a,U,b,step,later,rfl⟩ := place_cons.mp found
    obtain ⟨c,W,d,outer,inner,rfl⟩ := ih later
    exact ⟨a + c,W,d,place_cons.mpr ⟨a,U,c,step,outer,rfl⟩,inner,by omega⟩

/-- Two paths that part ways name stretches that do not overlap. -/
theorem place_apart {T U V : CType} {path path' : List Nat} {o p : Nat}
    (first : T.place path = some (o,U)) (second : T.place path' = some (p,V))
    (notBelow : ¬ path <+: path') (notAbove : ¬ path' <+: path) : Apart o U.size p V.size := by
  induction path generalizing T path' o p with
  | nil => exact absurd List.nil_prefix notBelow
  | cons i path ih =>
    cases path' with
    | nil => exact absurd List.nil_prefix notAbove
    | cons j path' =>
      obtain ⟨a,W,b,step,later,rfl⟩ := place_cons.mp first
      obtain ⟨c,X,d,step',later',rfl⟩ := place_cons.mp second
      by_cases same : i = j
      · subst same
        obtain ⟨rfl,rfl⟩ := Prod.mk.inj (Option.some.inj (step.symm.trans step'))
        have inner := ih later later' (fun h => notBelow ((List.cons_prefix_cons).mpr ⟨rfl,h⟩))
          (fun h => notAbove ((List.cons_prefix_cons).mpr ⟨rfl,h⟩))
        unfold Apart at *
        omega
      · have inside := (place_inside later).1
        have inside' := (place_inside later').1
        exact (member_apart same step step').within (by omega) (by omega) (by omega) (by omega)

theorem cell_place {logAlign units : Nat} {path : List Nat} {o : Nat} {U : CType}
    (found : (CType.cell logAlign units).place path = some (o,U)) : path = [] := by
  cases path with
  | nil => rfl
  | cons i path =>
    obtain ⟨_,_,_,step,_⟩ := place_cons.mp found
    contradiction

variable {β : Type}

def slice (bytes : List β) (offset n : Nat) : List β := (bytes.drop offset).take n

theorem slice_length {bytes : List β} {offset n : Nat} (inside : offset + n ≤ bytes.length) :
    (slice bytes offset n).length = n := by
  simp only [slice,List.length_take,List.length_drop]
  omega

theorem slice_slice {bytes : List β} {offset n p k : Nat} (inside : p + k ≤ n) :
    slice (slice bytes offset n) p k = slice bytes (offset + p) k := by
  simp only [slice]
  rw [List.drop_take,List.take_take,List.drop_drop,Nat.min_eq_left (by omega)]

theorem slice_splice_inside {bytes data : List β} {o p k : Nat}
    (fits : o + data.length ≤ bytes.length) (inside : p + k ≤ data.length) :
    slice (Mem.splice bytes o data) (o + p) k = slice data p k := by
  have skipped : (bytes.take o).length = o := by
    rw [List.length_take]
    omega
  simp only [slice,Mem.splice,List.append_assoc]
  rw [List.drop_append,skipped,List.drop_eq_nil_of_le (by omega),Nat.add_sub_cancel_left,
    List.nil_append,List.drop_append_of_le_length (by omega),
    List.take_append_of_le_length (by rw [List.length_drop]; omega)]

theorem slice_splice_apart {bytes data : List β} {o p k : Nat}
    (fits : o + data.length ≤ bytes.length) (apart : Apart o data.length p k) :
    slice (Mem.splice bytes o data) p k = slice bytes p k := by
  have skipped : (bytes.take o).length = o := by
    rw [List.length_take]
    omega
  simp only [slice,Mem.splice]
  rcases apart with before | after
  · have written : (bytes.take o ++ data).length = o + data.length := by
      rw [List.length_append,skipped]
    rw [List.drop_append,List.drop_eq_nil_of_le (by omega),List.nil_append,written,List.drop_drop]
    congr 2
    omega
  · rw [List.append_assoc,List.drop_append_of_le_length (by omega),
      List.take_append_of_le_length (by rw [List.length_drop]; omega),List.drop_take,
      List.take_take,Nat.min_eq_left (by omega)]

/-- The bytes are those of an object of type `T` whose cells have the given values. What is in the
padding does not matter. -/
structure Holds (T : CType) (bytes : List β) (value : List Nat → List β) : Prop where
  sized : bytes.length = T.size
  cells : ∀ path o k n, T.place path = some (o,.cell k n) → slice bytes o (n * 2 ^ k) = value path

/-- The values after the part at `path` was replaced as a whole. -/
def replaceAt (path : List Nat) (part value : List Nat → List β) : List Nat → List β :=
  fun q => if path <+: q then part (q.drop path.length) else value q

theorem replaceAt_below (path rest : List Nat) (part value : List Nat → List β) :
    replaceAt path part value (path ++ rest) = part rest := by
  simp [replaceAt]

theorem Holds.cell {k n : Nat} {data : List β} (sized : data.length = n * 2 ^ k) :
    Holds (.cell k n) data (fun _ => data) where
  sized := by rw [sized,CType.size]
  cells := by
    intro path o k' n' found
    obtain rfl := cell_place found
    obtain ⟨rfl,same⟩ := Prod.mk.inj (Option.some.inj found)
    obtain ⟨rfl,rfl⟩ := CType.cell.inj same
    simp [slice,← sized]

theorem Holds.whole {k n : Nat} {data : List β} {value : List Nat → List β}
    (holds : Holds (.cell k n) data value) : data = value [] := by
  have here := holds.cells [] 0 k n rfl
  have sized := holds.sized
  rw [CType.size] at sized
  simpa [slice,← sized] using here

theorem Holds.part {T U : CType} {bytes : List β} {value : List Nat → List β} {path : List Nat}
    {o : Nat} (holds : Holds T bytes value) (found : T.place path = some (o,U)) :
    Holds U (slice bytes o U.size) (fun rest => value (path ++ rest)) where
  sized := slice_length (by rw [holds.sized]; exact (place_inside found).1)
  cells := by
    intro rest p k n inner
    have inside := (place_inside inner).1
    rw [CType.size] at inside
    rw [slice_slice inside]
    exact holds.cells _ _ _ _ (place_append found inner)

/-- Storing an object over a part replaces that part's values and leaves all others. -/
theorem Holds.replace {T U : CType} {bytes data : List β} {value part : List Nat → List β}
    {path : List Nat} {o : Nat} (holds : Holds T bytes value) (stored : Holds U data part)
    (found : T.place path = some (o,U)) :
    Holds T (Mem.splice bytes o data) (replaceAt path part value) := by
  have fits : o + data.length ≤ bytes.length := by
    rw [stored.sized,holds.sized]
    exact (place_inside found).1
  refine ⟨(Mem.splice_length _ _ _ fits).trans holds.sized,?_⟩
  intro q p k n leaf
  by_cases below : path <+: q
  · obtain ⟨rest,rfl⟩ := below
    obtain ⟨a,W,b,outer,inner,rfl⟩ := place_of_append leaf
    obtain ⟨rfl,rfl⟩ := Prod.mk.inj (Option.some.inj (found.symm.trans outer))
    have inside := (place_inside inner).1
    rw [CType.size,← stored.sized] at inside
    rw [slice_splice_inside fits inside,replaceAt_below]
    exact stored.cells _ _ _ _ inner
  · have notAbove : ¬ q <+: path := by
      rintro ⟨rest,rfl⟩
      obtain ⟨_,_,_,outer,inner,_⟩ := place_of_append found
      obtain ⟨_,rfl⟩ := Prod.mk.inj (Option.some.inj (leaf.symm.trans outer))
      obtain rfl := cell_place inner
      exact below (by simp)
    have apart := place_apart found leaf below notAbove
    rw [← stored.sized,CType.size] at apart
    rw [slice_splice_apart fits apart,replaceAt,if_neg below]
    exact holds.cells _ _ _ _ leaf

/-- A store inside a stretch is a store into what the stretch holds. -/
theorem slice_splice_around {bytes data : List β} {o n p : Nat} (whole : o + n ≤ bytes.length)
    (inside : p + data.length ≤ n) :
    slice (Mem.splice bytes (o + p) data) o n = Mem.splice (slice bytes o n) p data := by
  have skipped : (bytes.take (o + p)).length = o + p := by
    rw [List.length_take]
    omega
  have front : (bytes.take (o + p)).drop o = (bytes.drop o).take p := by
    rw [List.drop_take,Nat.add_sub_cancel_left]
  have front_length : ((bytes.drop o).take p).length = p := by
    rw [List.length_take,List.length_drop]
    omega
  have back : (bytes.drop (o + p + data.length)).take (n - p - data.length) =
      ((bytes.drop o).take n).drop (p + data.length) := by
    rw [List.drop_take,List.drop_drop]
    congr 1
    · omega
    · congr 1
      omega
  simp only [slice,Mem.splice,List.append_assoc]
  rw [List.drop_append_of_le_length (by omega),front,List.take_append,front_length,List.take_append,back,
    List.take_of_length_le (show data.length ≤ n - p by omega),List.take_take,List.take_take,
    Nat.min_eq_right (show p ≤ n by omega),Nat.min_eq_left (show p ≤ n by omega)]

/-- An object of type `T` with the given values is at `o` in the block `a`. -/
def Stored (m : Mem β) (a : Addr) (o : Nat) (T : CType) (value : List Nat → List β) : Prop :=
  ∃ bytes, m.block a = some bytes ∧ o + T.size ≤ bytes.length ∧ Holds T (slice bytes o T.size) value

/-- Nothing changed but, perhaps, the `n` bytes at `o` in the block `a`. -/
structure Frame (a : Addr) (o n : Nat) (m m' : Mem β) : Prop where
  others : ∀ b, b ≠ a → m'.block b = m.block b
  around : ∀ p k, Apart o n p k → m'.read a p k = m.read a p k

theorem Frame.trans {a : Addr} {o n : Nat} {m m' m'' : Mem β} (first : Frame a o n m m')
    (second : Frame a o n m' m'') : Frame a o n m m'' where
  others b ne := (second.others b ne).trans (first.others b ne)
  around p k apart := (second.around p k apart).trans (first.around p k apart)

theorem Stored.write {m : Mem β} {a : Addr} {o p : Nat} {T U : CType} {path : List Nat}
    {value part : List Nat → List β} {data : List β} (stored : Stored m a o T value)
    (found : T.place path = some (p,U)) (holds : Holds U data part) :
    ∃ m', m.write ⟨a,o + p,data⟩ = some m' ∧ Stored m' a o T (replaceAt path part value) ∧
      Frame a o T.size m m' := by
  obtain ⟨bytes,block,fits,before⟩ := stored
  have inside := (place_inside found).1
  rw [← holds.sized] at inside
  have room : o + p + data.length ≤ bytes.length := by omega
  obtain ⟨m',written⟩ := Mem.write_some (w := ⟨a,o + p,data⟩) block room
  obtain ⟨found',block',_,after,frame⟩ := Mem.write_cases written
  obtain rfl := Option.some.inj (block.symm.trans block')
  have length := Mem.splice_length bytes (o + p) data room
  refine ⟨m',written,⟨_,after,by rw [length]; exact fits,?_⟩,⟨frame,?_⟩⟩
  · rw [slice_splice_around fits inside]
    exact before.replace holds found
  · intro q k apart
    have same : slice (Mem.splice bytes (o + p) data) q k = slice bytes q k :=
      slice_splice_apart room (apart.within (by omega) (by omega) (Nat.le_refl _) (Nat.le_refl _))
    simp only [slice] at same
    simp only [Mem.read,after,block,length,same]

end CLayout

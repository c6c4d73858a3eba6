import IGCLWrapper.BlockMemory
import Mathlib.Algebra.Group.Nat.Defs

/-! Fixed-width values stored in memory cells, and arrays of them inside one block.
The little-endian words at the end are the instance used for C integers and handles. -/
namespace BlockMemory

/-- Values that occupy `width` cells each and survive the round trip through them. -/
structure Codec (α β : Type) where
  width : Nat
  encode : α → List β
  decode : List β → α
  encode_length : ∀ x, (encode x).length = width
  decode_encode : ∀ x, decode (encode x) = x

variable {α β : Type}

namespace Codec

/-- An array is its elements' cells one after the other. -/
def encodeAll (c : Codec α β) (xs : List α) : List β := xs.flatMap c.encode

@[simp] theorem encodeAll_nil (c : Codec α β) : c.encodeAll [] = [] := rfl

@[simp] theorem encodeAll_cons (c : Codec α β) (x : α) (xs : List α) :
    c.encodeAll (x :: xs) = c.encode x ++ c.encodeAll xs := rfl

@[simp] theorem encodeAll_length (c : Codec α β) (xs : List α) :
    (c.encodeAll xs).length = c.width * xs.length := by
  induction xs with
  | nil => simp
  | cons x xs ih => simp [ih,c.encode_length,Nat.mul_add,Nat.add_comm]

/-- The first `n` elements of an array; the cells after them are not looked at. -/
def decodeAll (c : Codec α β) : Nat → List β → List α
  | 0, _ => []
  | n + 1, cells => c.decode (cells.take c.width) :: c.decodeAll n (cells.drop c.width)

@[simp] theorem decodeAll_length (c : Codec α β) (n : Nat) (cells : List β) :
    (c.decodeAll n cells).length = n := by
  induction n generalizing cells with
  | zero => rfl
  | succ n ih => simp [decodeAll,ih]

theorem decodeAll_encodeAll (c : Codec α β) (xs : List α) (rest : List β) :
    c.decodeAll xs.length (c.encodeAll xs ++ rest) = xs := by
  induction xs with
  | nil => rfl
  | cons x xs ih =>
    have head : (c.encode x ++ (c.encodeAll xs ++ rest)).take c.width = c.encode x :=
      List.take_left' (c.encode_length x)
    have tail : (c.encode x ++ (c.encodeAll xs ++ rest)).drop c.width = c.encodeAll xs ++ rest :=
      List.drop_left' (c.encode_length x)
    simp only [List.length_cons,encodeAll_cons,List.append_assoc,decodeAll,head,tail,ih,c.decode_encode]

theorem decodeAll_take (c : Codec α β) (n : Nat) (cells : List β) :
    c.decodeAll n (cells.take (c.width * n)) = c.decodeAll n cells := by
  induction n generalizing cells with
  | zero => rfl
  | succ n ih =>
    simp only [decodeAll]
    have head : min c.width (c.width * (n + 1)) = c.width := by
      rw [Nat.mul_succ]; omega
    have tail : c.width * (n + 1) - c.width = c.width * n := by
      rw [Nat.mul_succ]; omega
    rw [List.take_take,List.drop_take,head,tail,ih]

end Codec

namespace Mem

/-- `n` elements from the start of a block, as C reads an array through its pointer. -/
def readArray (m : Mem β) (c : Codec α β) (a : Addr) (n : Nat) : Option (List α) :=
  (m.read a 0 (c.width * n)).map (c.decodeAll n)

def arrayWrite (c : Codec α β) (a : Addr) (xs : List α) : Write β := ⟨a,0,c.encodeAll xs⟩

theorem readArray_room {m : Mem β} {c : Codec α β} {a : Addr} {n : Nat} {xs : List α}
    (loaded : m.readArray c a n = some xs) :
    ∃ cells, m.block a = some cells ∧ c.width * n ≤ cells.length ∧ xs.length = n := by
  obtain ⟨raw,found,rfl⟩ := Option.map_eq_some_iff.mp loaded
  unfold read at found
  split at found
  · contradiction
  · next cells alive =>
    split at found
    · next fits => exact ⟨cells,alive,by omega,by simp⟩
    · contradiction

/-- An array stored in a block that has room for it is read back exactly. -/
theorem readArray_arrayWrite {m m' : Mem β} {c : Codec α β} {a : Addr} {xs : List α}
    (stored : m.write (arrayWrite c a xs) = some m') : m'.readArray c a xs.length = some xs := by
  obtain ⟨cells,_,fits,written,_⟩ := write_cases stored
  simp only [arrayWrite,Nat.zero_add] at written fits
  rw [splice_zero] at written
  have room : 0 + c.width * xs.length ≤
      (c.encodeAll xs ++ cells.drop (c.encodeAll xs).length).length := by simp
  rw [readArray,read_of_block written room,Option.map_some,List.drop_zero,c.decodeAll_take,
    c.decodeAll_encodeAll]

end Mem

/-! Little-endian words over bytes. -/

/-- The low `w` bytes of a number, least significant first. -/
def littleEndian : Nat → Nat → List UInt8
  | 0, _ => []
  | w + 1, n => UInt8.ofNat n :: littleEndian w (n / 256)

def ofLittleEndian : List UInt8 → Nat
  | [] => 0
  | b :: bs => b.toNat + 256 * ofLittleEndian bs

theorem littleEndian_length (w n : Nat) : (littleEndian w n).length = w := by
  induction w generalizing n with
  | zero => rfl
  | succ w ih => simp [littleEndian,ih]

theorem ofLittleEndian_littleEndian (w n : Nat) : ofLittleEndian (littleEndian w n) = n % 256 ^ w := by
  induction w generalizing n with
  | zero => simp [littleEndian,ofLittleEndian,Nat.mod_one]
  | succ w ih =>
    rw [littleEndian,ofLittleEndian,ih,Nat.pow_succ,Nat.mul_comm _ 256,Nat.mod_mul]
    simp

/-- Words of `w` bytes, the layout of unsigned integers and pointers on the target. -/
def wordCodec (w : Nat) : Codec (BitVec (8 * w)) UInt8 where
  width := w
  encode x := littleEndian w x.toNat
  decode cells := BitVec.ofNat _ (ofLittleEndian cells)
  encode_length x := littleEndian_length w x.toNat
  decode_encode x := by
    have bound : x.toNat < 256 ^ w := by
      have h := x.isLt
      rwa [Nat.pow_mul] at h
    rw [ofLittleEndian_littleEndian,Nat.mod_eq_of_lt bound,BitVec.ofNat_toNat,BitVec.setWidth_eq]

@[simp] theorem wordCodec_width (w : Nat) : (wordCodec w).width = w := rfl

end BlockMemory

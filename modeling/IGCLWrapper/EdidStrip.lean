import IGCLWrapper.Edid
import IGCLWrapper.RecordStrip

/-! The loop that removes audio blocks in place does to an extension what taking records out of a
list does: the invariant is where in the extension the loop stands. -/
namespace IGCL.Edid

open CheckedBuffer RecordStrip

/-- What the sample reads off the data block at the front of a list: tag and length. -/
def seen (rest : List UInt8) : Nat × Nat := (dataBlockHeader (rest ++ [0]) 0).getD (0,1)

/-- The data blocks as the sample reads them; the audio blocks are those that go. -/
def dataBlocks : Format UInt8 where
  size rest := (seen rest).2
  goes rest := isAudio (seen rest).1
  size_pos := by
    intro rest
    cases header : dataBlockHeader (rest ++ [0]) 0 with
    | none => simp [seen,header]
    | some found =>
      obtain ⟨tag,size⟩ := found
      simpa [seen,header] using dataBlockHeader_pos header

/-- A header that takes the next byte for the tag. -/
def extended (header : UInt8) : Prop :=
  ((header &&& 0xE0) >>> 5).toNat = 0x07 ∧ (header &&& 0x1F).toNat ≠ 0

theorem dataBlockHeader_short {header : UInt8} (short : ¬extended header) (pre post : List UInt8)
    {start : Nat} (here : start = pre.length) :
    dataBlockHeader (pre ++ header :: post) start =
      some (((header &&& 0xE0) >>> 5).toNat,(header &&& 0x1F).toNat + 1) := by
  simp only [dataBlockHeader,read_here here,Option.bind_eq_bind,Option.bind_some]
  exact if_neg short

theorem dataBlockHeader_extended {header : UInt8} (long : extended header) (tag : UInt8)
    (pre post : List UInt8) {start : Nat} (here : start = pre.length) :
    dataBlockHeader (pre ++ header :: tag :: post) start =
      some (0x700 + tag.toNat,(header &&& 0x1F).toNat) := by
  have next : (pre ++ header :: tag :: post)[start + 1]? = some tag := by
    rw [List.append_cons]
    exact read_here (by simp [here]) tag post
  have size : (header &&& 0x1F).toNat - 1 + 1 = (header &&& 0x1F).toNat := by
    have := long.2
    omega
  simp only [dataBlockHeader,read_here here,Option.bind_eq_bind,Option.bind_some,next,
    ceaDatablockHeaderSize,size]
  exact if_pos long

/-- The header at the front of the list can be read without looking past the list. -/
def Readable (rest : List UInt8) : Prop := ∀ header, rest = [header] → ¬extended header

theorem dataBlockHeader_seen {rest : List UInt8} (some_ : rest ≠ []) (readable : Readable rest)
    (pre post : List UInt8) {start : Nat} (here : start = pre.length) :
    dataBlockHeader (pre ++ (rest ++ post)) start = some (seen rest) := by
  match rest, readable with
  | [], _ => exact absurd rfl some_
  | [header], readable =>
    have short : ¬extended header := readable header rfl
    have front : dataBlockHeader ([header] ++ [0]) 0 = _ := dataBlockHeader_short short [] [0] rfl
    rw [seen,front]
    exact dataBlockHeader_short short pre post here
  | header :: tag :: rest, _ =>
    by_cases long : extended header
    · have front : dataBlockHeader (header :: tag :: rest ++ [0]) 0 = _ :=
        dataBlockHeader_extended long tag [] (rest ++ [0]) rfl
      rw [seen,front]
      exact dataBlockHeader_extended long tag pre (rest ++ post) here
    · have front : dataBlockHeader (header :: tag :: rest ++ [0]) 0 = _ :=
        dataBlockHeader_short long [] (tag :: (rest ++ [0])) rfl
      rw [seen,front]
      exact dataBlockHeader_short long pre (tag :: (rest ++ post)) here

/-- A CEA extension of version 3 while its data blocks are visited: those kept so far and the rest
of its content. -/
structure Extension where
  offset : UInt8
  flags : UInt8
  kept : List UInt8
  rest : List UInt8
  check : UInt8

namespace Extension

def body (x : Extension) : List UInt8 := 0x02 :: 0x03 :: x.offset :: x.flags :: (x.kept ++ x.rest)

def bytes (x : Extension) : List UInt8 := x.body ++ [x.check]

def Fits (x : Extension) : Prop := x.kept.length + x.rest.length = 123

def skip (x : Extension) (size : Nat) : Extension :=
  { x with kept := x.kept ++ x.rest.take size, rest := x.rest.drop size }

def removed (x : Extension) (size : Nat) : Extension :=
  { x with offset := x.offset - UInt8.ofNat size, rest := close 0 size x.rest }

def drop (x : Extension) (size : Nat) : Extension :=
  { x.removed size with check := calcEdidChecksum (x.removed size).body }

/-- The extension when all its data blocks have been visited. -/
def finish (x : Extension) (s : Stripped UInt8) : Extension :=
  let y := { x with offset := x.offset - UInt8.ofNat s.cells, kept := x.kept ++ s.left, rest := [] }
  { y with check := if s.records = 0 then x.check else calcEdidChecksum y.body }

theorem Fits.body {x : Extension} (fits : x.Fits) : x.body.length = 127 := by
  simp only [Fits] at fits
  simp [Extension.body]
  omega

theorem finish_none (x : Extension) : (x.finish ⟨x.rest,0,0⟩).bytes = x.bytes := by
  simp [finish,bytes,Extension.body]

theorem finish_skip (x : Extension) (size : Nat) (s : Stripped UInt8) :
    (x.skip size).finish s = x.finish (s.after (x.rest.take size)) := by
  simp [finish,skip,Stripped.after,Extension.body]

theorem finish_drop {x : Extension} {size n : Nat} {s : Stripped UInt8}
    (stripped : strip dataBlocks 0 n (x.removed size).rest = some s) :
    (x.drop size).finish s = x.finish (s.gone size) := by
  have offset : x.offset - UInt8.ofNat size - UInt8.ofNat s.cells =
      x.offset - UInt8.ofNat (s.cells + size) := by
    rw [UInt8.ofNat_add]
    grind
  by_cases untouched : s.records = 0
  · have same := strip_untouched stripped untouched
    rw [same]
    simp [finish,drop,removed,Stripped.gone,Extension.body]
  · simp [finish,drop,removed,Stripped.gone,untouched,offset,Extension.body]

theorem Fits.skip {x : Extension} (fits : x.Fits) (size : Nat) : (x.skip size).Fits := by
  simp only [Fits,Extension.skip,List.length_append,List.length_take,List.length_drop] at fits ⊢
  omega

theorem Fits.drop {x : Extension} (fits : x.Fits) {size : Nat} (whole : size ≤ x.rest.length) :
    (x.drop size).Fits := by
  simp only [Fits,Extension.drop,removed,close,List.length_append,List.length_drop,
    List.length_replicate] at fits ⊢
  omega

end Extension

theorem calcEdidChecksum_append {body : List UInt8} (whole : body.length = 127) (more : List UInt8) :
    calcEdidChecksum (body ++ more) = calcEdidChecksum body := by
  simp only [calcEdidChecksum,edidBlockSize]
  rw [List.take_left' whole,List.take_of_length_le (by omega)]

theorem sub32_le {a b : Nat} (le : b ≤ a) (small : a < 0x100000000) : sub32 a b = a - b := by
  unfold sub32
  omega

theorem sub32_lt {a b : Nat} (lt : a < b) (small : b < 0x100000000) : sub32 a b = a + 0x100000000 - b := by
  unfold sub32
  omega

variable {memcpyS : MemcpyS UInt8} {before after : List UInt8} {edidSize : Nat}

theorem read_offset (before after : List UInt8) (x : Extension) :
    (before ++ (x.bytes ++ after))[before.length + 2]? = some x.offset := by
  simp [Extension.bytes,Extension.body]

theorem store_offset (x : Extension) (offset : UInt8) :
    store (before ++ (x.bytes ++ after)) (before.length + 2) offset =
      some (before ++ ({ x with offset }.bytes ++ after)) := by
  have stored := store_here (show before.length + 2 = (before ++ [0x02,0x03]).length by simp) x.offset offset
    (x.flags :: (x.kept ++ x.rest ++ x.check :: after))
  simpa [Extension.bytes,Extension.body] using stored

theorem store_check (before after : List UInt8) {x : Extension} (fits : x.Fits) (check : UInt8) :
    store (before ++ (x.bytes ++ after)) (before.length + 127) check =
      some (before ++ ({ x with check }.bytes ++ after)) := by
  have stored := store_here (show before.length + 127 = (before ++ x.body).length by simp [fits.body])
    x.check check after
  simpa [Extension.bytes,Extension.body] using stored

/-- Closing the gap and padding, as the two block operations of the source do it. -/
theorem close_in_place (before after : List UInt8) {x : Extension} (fits : x.Fits) {size : Nat}
    (whole : size ≤ x.rest.length) :
    ∃ buf, move (before ++ (x.bytes ++ after)) (before.length + 4 + x.kept.length)
        (before.length + 4 + x.kept.length + size) (x.rest.length - size) = some buf ∧
      fill buf (before.length + 127 - size) 0 size =
        some (before ++ ({ x with rest := close 0 size x.rest }.bytes ++ after)) := by
  have content : x.kept.length + x.rest.length = 123 := fits
  have gap : (x.rest.take size).length = size := by simp [whole]
  have moved : (x.rest.drop size).length = x.rest.length - size := List.length_drop
  let front := before ++ (0x02 :: 0x03 :: x.offset :: x.flags :: x.kept)
  obtain ⟨behind,same,copied⟩ := move_down (before.length + 4 + x.kept.length)
    (before.length + 4 + x.kept.length + size) front (x.rest.take size) (x.rest.drop size)
    (x.check :: after) (by simp [front]; omega) (by rw [gap])
  have padded := fill_here (before.length + 127 - size) (front ++ x.rest.drop size) behind
    (x.check :: after) 0 (by simp [front]; omega)
  rw [same,gap] at padded
  rw [← List.append_assoc (x.rest.take size),List.take_append_drop,moved] at copied
  refine ⟨front ++ (x.rest.drop size ++ (behind ++ x.check :: after)),?_,?_⟩
  · simpa [Extension.bytes,Extension.body,front] using copied
  · simpa [Extension.bytes,Extension.body,front,close] using padded

/-- Removing a data block of an extension in place. -/
theorem removeDataBlock_drop (moves : memcpyS.MovesIntact) (before after : List UInt8) {x : Extension}
    (fits : x.Fits) {size : Nat} (whole : size ≤ x.rest.length) (room : before.length + 128 ≤ edidSize)
    (small : edidSize < 0x100000000) (stop removed : Nat) :
    removeDataBlock memcpyS edidSize before.length size
        ⟨before ++ (x.bytes ++ after),before.length + 4 + x.kept.length,stop,removed⟩ =
      some ⟨before ++ ((x.drop size).bytes ++ after),before.length + 4 + x.kept.length - size,
        stop - size,removed + 1⟩ := by
  have content : x.kept.length + x.rest.length = 123 := fits
  have copyAmount : sub32 (before.length + 127) (before.length + 4 + x.kept.length + size) =
      x.rest.length - size := by
    rw [sub32_le (by omega) (by omega)]
    omega
  obtain ⟨buf,copied,padded⟩ := close_in_place before after
    (x := { x with offset := x.offset - UInt8.ofNat size }) fits whole
  have left : (x.removed size).Fits := fits.drop whole
  have checked : calcEdidChecksum ((before ++ ((x.removed size).bytes ++ after)).drop before.length) =
      calcEdidChecksum (x.removed size).body := by
    rw [List.drop_left,Extension.bytes,List.append_assoc]
    exact calcEdidChecksum_append left.body _
  have stored := store_check before after left (calcEdidChecksum (x.removed size).body)
  simp only [removeDataBlock,checksumOffset,edidBlockSize,read_offset,store_offset,copyAmount,
    Option.bind_eq_bind,Option.bind_some]
  rw [moves.moved _ _ _ _ _ (by omega),copied,Option.bind_some]
  change (fill buf (before.length + 127 - size) 0 size).bind _ = _
  rw [padded,Option.bind_some]
  change (store (before ++ ((x.removed size).bytes ++ after)) (before.length + 127)
    (calcEdidChecksum ((before ++ ((x.removed size).bytes ++ after)).drop before.length))).bind _ = _
  rw [checked,stored]
  rfl

/-- A data block that runs past the checksum makes the amount to copy wrap around. -/
theorem removeDataBlock_sticks_out (moves : memcpyS.MovesIntact) {x : Extension} (fits : x.Fits) {size : Nat}
    (short : x.rest.length < size) (narrow : size ≤ 32) (aligned : 128 ∣ before.length)
    (whole : before.length + 128 + after.length = edidSize) (small : edidSize < 0x100000000)
    (stop removed : Nat) :
    removeDataBlock memcpyS edidSize before.length size
        ⟨before ++ (x.bytes ++ after),before.length + 4 + x.kept.length,stop,removed⟩ = none := by
  have content : x.kept.length + x.rest.length = 123 := fits
  have wraps : ∃ count, sub32 (before.length + 127) (before.length + 4 + x.kept.length + size) = count ∧
      0 < count ∧ edidSize < before.length + 4 + x.kept.length + size + count := by
    refine ⟨_,sub32_lt (by omega) (by omega),?_,?_⟩ <;> omega
  obtain ⟨count,copyAmount,some_,past⟩ := wraps
  have same : (before ++
      (({ x with offset := x.offset - UInt8.ofNat size } : Extension).bytes ++ after)).length = edidSize := by
    rw [← whole]
    simp [Extension.bytes,Extension.body]
    omega
  have refused : memcpyS.copy
      (before ++ (({ x with offset := x.offset - UInt8.ofNat size } : Extension).bytes ++ after))
      (before.length + 4 + x.kept.length) edidSize (before.length + 4 + x.kept.length + size) count =
        none := by
    by_cases room : count ≤ edidSize
    · rw [moves.moved _ _ _ _ _ room,move_past_end (by omega)]
    · exact moves.refused _ _ _ _ _ (by omega)
  simp only [removeDataBlock,checksumOffset,edidBlockSize,read_offset,store_offset,copyAmount,refused,
    Option.bind_eq_bind,Option.bind_some,Option.bind_none]

/-- Where the loop stands: `n` bytes before the timing descriptors, with the data blocks in
`x.kept` behind it. After the last block it may have run past them. -/
structure Stands (before after : List UInt8) (x : Extension) (n removed : Nat) (c : Cursor) : Prop where
  buffer : c.pEdidBuf = before ++ (x.bytes ++ after)
  ahead : c.timingDescStart - c.blockHeaderStart = n
  here : 0 < n → c.blockHeaderStart = before.length + 4 + x.kept.length
  inside : n ≤ x.rest.length
  readable : Along dataBlocks 0 Readable n x.rest
  counted : c.numAudioBlocksRemoved = removed

theorem seen_size_le (rest : List UInt8) : (seen rest).2 ≤ 32 := by
  have bound : ∀ header : UInt8, (header &&& 0x1F).toNat ≤ 31 := by
    intro header
    rw [UInt8.toNat_and]
    exact Nat.and_le_right
  unfold seen
  cases found : dataBlockHeader (rest ++ [0]) 0 with
  | none => simp
  | some read =>
    obtain ⟨tag,size⟩ := read
    simp only [dataBlockHeader,ceaDatablockHeaderSize,Option.bind_eq_bind,Option.bind_eq_some_iff] at found
    obtain ⟨header,_,found⟩ := found
    have small := bound header
    split at found
    · obtain ⟨_,_,found⟩ := Option.bind_eq_some_iff.mp found
      simp only [Option.pure_def,Option.some.injEq,Prod.mk.injEq] at found
      simp only [Option.getD_some]
      omega
    · simp only [Option.pure_def,Option.some.injEq,Prod.mk.injEq] at found
      simp only [Option.getD_some]
      omega

section Visit

variable {x : Extension} {n removed : Nat} {c : Cursor} (stands : Stands before after x n removed c)
  (some_ : 0 < n)

include stands some_

theorem header_read : dataBlockHeader c.pEdidBuf c.blockHeaderStart = some (seen x.rest) := by
  have split : before ++ (x.bytes ++ after) =
      (before ++ 0x02 :: 0x03 :: x.offset :: x.flags :: x.kept) ++ (x.rest ++ x.check :: after) := by
    simp [Extension.bytes,Extension.body]
  have inside := stands.inside
  rw [stands.buffer,split]
  exact dataBlockHeader_seen (List.ne_nil_of_length_pos (by omega)) (stands.readable.here some_) _ _
    (by rw [stands.here some_]; simp; omega)

theorem visit_stays (memcpyS : MemcpyS UInt8) (edidSize : Nat) (stays : dataBlocks.goes x.rest = false) :
    ∃ c', visitDataBlock memcpyS edidSize before.length c = some c' ∧
      Stands before after (x.skip (dataBlocks.size x.rest)) (n - dataBlocks.size x.rest) removed c' := by
  have kind : isAudio (seen x.rest).1 = false := stays
  have start := stands.here some_
  have ahead := stands.ahead
  have inside := stands.inside
  refine ⟨{ c with blockHeaderStart := c.blockHeaderStart + dataBlocks.size x.rest },?_,?_⟩
  · simp only [visitDataBlock,header_read stands some_,Option.bind_eq_bind,Option.bind_some,kind]
    rfl
  · constructor
    · rw [stands.buffer]
      simp [Extension.skip,Extension.bytes,Extension.body]
    · simp only
      omega
    · intro more
      simp only [Extension.skip,List.length_append,List.length_take]
      omega
    · simp only [Extension.skip,List.length_drop]
      omega
    · exact stands.readable.stayed some_ stays
    · exact stands.counted

theorem visit_audio (goes : dataBlocks.goes x.rest = true) :
    visitDataBlock memcpyS edidSize before.length c =
      (removeDataBlock memcpyS edidSize before.length (dataBlocks.size x.rest)
        ⟨before ++ (x.bytes ++ after),before.length + 4 + x.kept.length,c.timingDescStart,removed⟩).map
      fun c => { c with blockHeaderStart := c.blockHeaderStart + dataBlocks.size x.rest } := by
  have kind : isAudio (seen x.rest).1 = true := goes
  have read := header_read stands some_
  have here : c = ⟨before ++ (x.bytes ++ after),before.length + 4 + x.kept.length,c.timingDescStart,removed⟩ := by
    rw [← stands.buffer,← stands.counted,← stands.here some_]
  have size : dataBlocks.size x.rest = (seen x.rest).2 := rfl
  rw [← here,size]
  simp only [visitDataBlock,read,Option.bind_eq_bind,Option.bind_some,kind,if_true]
  cases removeDataBlock memcpyS edidSize before.length (seen x.rest).2 c <;> rfl

/-- An audio block is taken out, and the loop stands where it stood. -/
theorem visit_goes (moves : memcpyS.MovesIntact) (fits : x.Fits) (goes : dataBlocks.goes x.rest = true)
    (whole : dataBlocks.size x.rest ≤ x.rest.length) (large : 128 ≤ before.length)
    (room : before.length + 128 ≤ edidSize) (small : edidSize < 0x100000000) :
    ∃ c', visitDataBlock memcpyS edidSize before.length c = some c' ∧
      Stands before after (x.drop (dataBlocks.size x.rest)) (n - dataBlocks.size x.rest) (removed + 1) c' := by
  have positive := dataBlocks.size_pos x.rest
  have narrow : dataBlocks.size x.rest ≤ 32 := seen_size_le x.rest
  have start := stands.here some_
  have ahead := stands.ahead
  have inside := stands.inside
  have length : (close 0 (dataBlocks.size x.rest) x.rest).length = x.rest.length := close_length whole
  rw [visit_audio stands some_ goes,removeDataBlock_drop moves before after fits whole room small]
  refine ⟨_,rfl,?_⟩
  constructor
  · rfl
  · simp only
    omega
  · intro _
    simp only [Extension.drop,Extension.removed]
    omega
  · simp only [Extension.drop,Extension.removed]
    omega
  · exact stands.readable.gone some_ goes
  · rfl

theorem visit_sticks_out (moves : memcpyS.MovesIntact) (fits : x.Fits) (goes : dataBlocks.goes x.rest = true)
    (short : x.rest.length < dataBlocks.size x.rest) (aligned : 128 ∣ before.length)
    (whole : before.length + 128 + after.length = edidSize) (small : edidSize < 0x100000000) :
    visitDataBlock memcpyS edidSize before.length c = none := by
  rw [visit_audio stands some_ goes,
    removeDataBlock_sticks_out moves fits short (seen_size_le x.rest) aligned whole small]
  rfl

end Visit

def Cursor.outcome (c : Cursor) : List UInt8 × Nat := (c.pEdidBuf,c.numAudioBlocksRemoved)

/-- The loop takes out of the rest of the extension what taking records out of a list does. -/
theorem removeDataBlocks_strips (moves : memcpyS.MovesIntact) {x : Extension} {n removed : Nat} {c : Cursor}
    (stands : Stands before after x n removed c) (some_ : 0 < n) (fits : x.Fits)
    (aligned : 128 ∣ before.length) (large : 128 ≤ before.length)
    (whole : before.length + 128 + after.length = edidSize) (small : edidSize < 0x100000000) :
    (removeDataBlocks memcpyS edidSize before.length c).map Cursor.outcome =
      (strip dataBlocks 0 n x.rest).map fun s =>
        (before ++ ((x.finish s).bytes ++ after),removed + s.records) := by
  induction n using Nat.strongRecOn generalizing x removed c with
  | ind n ih =>
    have onward : ∀ {x : Extension} {n' removed : Nat} {c : Cursor}, n' < n →
        Stands before after x n' removed c → x.Fits →
        (if c.blockHeaderStart < c.timingDescStart then removeDataBlocks memcpyS edidSize before.length c
          else some c).map Cursor.outcome =
        (strip dataBlocks 0 n' x.rest).map fun s =>
          (before ++ ((x.finish s).bytes ++ after),removed + s.records) := by
      intro x n' removed c smaller stands fits
      have ahead := stands.ahead
      rcases Nat.eq_zero_or_pos n' with rfl | more
      · rw [if_neg (by omega),strip_zero]
        simp [Cursor.outcome,stands.buffer,stands.counted,x.finish_none]
      · rw [if_pos (by omega)]
        exact ih n' smaller stands more fits
    have smaller : n - dataBlocks.size x.rest < n := remaining_lt some_
    cases goes : dataBlocks.goes x.rest with
    | true =>
      by_cases short : x.rest.length < dataBlocks.size x.rest
      · rw [removeDataBlocks_refused (visit_sticks_out stands some_ moves fits goes short aligned whole small),
          strip_sticks_out some_ goes short]
        rfl
      · have inside : dataBlocks.size x.rest ≤ x.rest.length := by omega
        obtain ⟨c',visited,stands'⟩ := visit_goes stands some_ moves fits goes inside large (by omega) small
        rw [removeDataBlocks_visited visited,strip_goes some_ goes inside,
          onward smaller stands' (fits.drop inside),Option.map_map]
        apply Option.map_congr
        intro s stripped
        simp only [Function.comp_apply,Extension.finish_drop stripped,Stripped.gone,Prod.mk.injEq,
          true_and]
        omega
    | false =>
      obtain ⟨c',visited,stands'⟩ := visit_stays stands some_ memcpyS edidSize goes
      rw [removeDataBlocks_visited visited,strip_stays some_ goes,
        onward smaller stands' (fits.skip _),Option.map_map]
      apply Option.map_congr
      intro s _
      simp only [Function.comp_apply,Extension.finish_skip]
      rfl

end IGCL.Edid

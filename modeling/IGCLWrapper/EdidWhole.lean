import IGCLWrapper.EdidStrip
import Mathlib.Algebra.Order.Ring.Nat

/-! The whole of `RemoveAudioCapsFromEdid`: on every EDID whose data blocks end before the checksum
of their extension it edits each block by itself, as `stripBlock` says. -/
namespace IGCL.Edid

open CheckedBuffer RecordStrip

/-- One block after the edit, with the numbers of audio blocks removed and of extensions found. -/
structure Edited where
  bytes : List UInt8
  removed : Nat
  found : Nat
  deriving DecidableEq, Repr

def isCeaV3 (block : List UInt8) : Prop := block[0]? = some 0x02 ∧ block[1]? = some 0x03

instance (block : List UInt8) : Decidable (isCeaV3 block) := inferInstanceAs (Decidable (_ ∧ _))

/-- An extension before its first data block is visited. -/
def Extension.ofBlock (block : List UInt8) : Extension :=
  ⟨block.getD 2 0,block.getD 3 0,[],(block.drop 4).take 123,block.getD 127 0⟩

/-- Bit 6 of the flags says that the display has basic audio. -/
def Extension.quiet (x : Extension) : Extension := { x with flags := x.flags &&& ~~~0x40 }

def stripBlock (block : List UInt8) : Option Edited :=
  if isCeaV3 block then
    let x := (Extension.ofBlock block).quiet
    if x.offset ≤ 4 then some ⟨x.bytes,0,1⟩
    else (strip dataBlocks 0 (x.offset.toNat - 4) x.rest).map fun s => ⟨(x.finish s).bytes,s.records,1⟩
  else some ⟨block,0,0⟩

/-- The data blocks of an extension end before its checksum, and none of them takes the checksum for
an extended tag. -/
def Confined (block : List UInt8) : Prop :=
  isCeaV3 block → (Extension.ofBlock block).offset.toNat ≤ 127 ∧
    Along dataBlocks 0 Readable ((Extension.ofBlock block).offset.toNat - 4) (Extension.ofBlock block).rest

theorem ofBlock_bytes {x : Extension} (fresh : x.kept = []) (fits : x.Fits) :
    Extension.ofBlock x.bytes = x := by
  obtain ⟨offset,flags,kept,rest,check⟩ := x
  subst fresh
  have length : rest.length = 123 := by simpa [Extension.Fits] using fits
  have content : (rest ++ [check]).take 123 = rest := List.take_left' length
  have last : (rest ++ [check])[123]? = some check := by simp [← length]
  simp [Extension.ofBlock,Extension.bytes,Extension.body,content,last]

/-- Every block that the sample takes for an extension can be read as one. -/
theorem exists_extension {block : List UInt8} (length : block.length = 128) (cea : isCeaV3 block) :
    ∃ x : Extension, x.kept = [] ∧ x.Fits ∧ x.bytes = block := by
  obtain ⟨zeroth,first⟩ := cea
  match block, length, zeroth, first with
  | b₀ :: b₁ :: offset :: flags :: rest, length, zeroth, first =>
    simp only [List.getElem?_cons_zero,List.getElem?_cons_succ,Option.some.injEq] at zeroth first
    subst zeroth first
    rcases List.eq_nil_or_concat rest with rfl | ⟨content,check,rfl⟩
    · simp at length
    · refine ⟨⟨offset,flags,[],content,check⟩,rfl,?_,?_⟩
      · simpa [Extension.Fits] using length
      · simp [Extension.bytes,Extension.body]

theorem isCeaV3_bytes (x : Extension) : isCeaV3 x.bytes := ⟨rfl,rfl⟩

/-- With a byte to spare before the checksum no data block reaches it. -/
theorem confined_of_le {block : List UInt8} (length : block.length = 128)
    (spare : (Extension.ofBlock block).offset.toNat ≤ 126) : Confined block := by
  intro cea
  obtain ⟨x,fresh,fits,rfl⟩ := exists_extension length cea
  have content : x.rest.length = 123 := by simpa [Extension.Fits,fresh] using fits
  rw [ofBlock_bytes fresh fits] at spare ⊢
  refine ⟨by omega,along_of_lt ?_ (by omega)⟩
  rintro list wide header rfl
  simp at wide

variable {memcpyS : MemcpyS UInt8} {before after : List UInt8} {edidSize : Nat}

theorem read_block (before after : List UInt8) {block : List UInt8} {k : Nat} (inside : k < block.length) :
    (before ++ (block ++ after))[before.length + k]? = block[k]? := by
  rw [List.getElem?_append_right (by omega),List.getElem?_append_left (by omega)]
  congr 1
  omega

theorem removeFromBlock_other {block : List UInt8} (length : block.length = 128) (other : ¬isCeaV3 block)
    {edidBlock : Nat} (start : before.length = edidBlock * 128) (removed found : Nat) :
    removeFromBlock memcpyS edidSize ⟨before ++ (block ++ after),removed,found⟩ edidBlock =
      some ⟨before ++ (block ++ after),removed,found⟩ := by
  have base : edidBlock * edidBlockSize = before.length + 0 := start.symm
  match block, length with
  | b₀ :: b₁ :: block, length =>
    have zeroth := read_block before after (show 0 < (b₀ :: b₁ :: block).length by simp)
    have first := read_block before after (show 1 < (b₀ :: b₁ :: block).length by simp)
    simp only [List.getElem?_cons_zero,List.getElem?_cons_succ] at zeroth first
    simp only [removeFromBlock,base,zeroth,Option.bind_eq_bind,Option.bind_some]
    split
    next cea =>
      rw [Nat.add_zero,first,Option.bind_some,if_pos]
      · rfl
      · rintro rfl
        exact other ⟨congrArg some cea,rfl⟩
    next => rfl

/-- The body of the loop over the blocks edits an extension and nothing else. -/
theorem removeFromBlock_cea (moves : memcpyS.MovesIntact) {x : Extension} (fresh : x.kept = []) (fits : x.Fits)
    (confined : Confined x.bytes) {edidBlock : Nat} (start : before.length = edidBlock * 128)
    (extension : 0 < edidBlock) (whole : before.length + 128 + after.length = edidSize)
    (small : edidSize < 0x100000000) (removed found : Nat) :
    removeFromBlock memcpyS edidSize ⟨before ++ (x.bytes ++ after),removed,found⟩ edidBlock =
      (stripBlock x.bytes).map fun e => ⟨before ++ (e.bytes ++ after),removed + e.removed,found + e.found⟩ := by
  have base : edidBlock * edidBlockSize = before.length := start.symm
  have zeroth : (before ++ (x.bytes ++ after))[before.length]? = some 0x02 := by
    simp [Extension.bytes,Extension.body]
  have first : (before ++ (x.bytes ++ after))[before.length + 1]? = some 0x03 := by
    simp [Extension.bytes,Extension.body]
  have third : (before ++ (x.bytes ++ after))[before.length + 3]? = some x.flags := by
    simp [Extension.bytes,Extension.body]
  have stored : store (before ++ (x.bytes ++ after)) (before.length + 3) (x.flags &&& ~~~0x40) =
      some (before ++ (x.quiet.bytes ++ after)) := by
    have stored := store_here (show before.length + 3 = (before ++ [0x02,0x03,x.offset]).length by simp) x.flags
      (x.flags &&& ~~~0x40) (x.kept ++ x.rest ++ x.check :: after)
    simpa [Extension.bytes,Extension.body,Extension.quiet] using stored
  have second := read_offset before after x.quiet
  simp only [removeFromBlock,base,zeroth,first,third,stored,second,Option.bind_eq_bind,Option.bind_some,
    if_true,ne_eq,not_true_eq_false,if_false]
  rw [stripBlock,if_pos (isCeaV3_bytes x),ofBlock_bytes fresh fits]
  by_cases none_ : x.quiet.offset ≤ 4
  · rw [if_pos none_,if_pos none_]
    rfl
  · rw [if_neg none_,if_neg none_]
    have above : 4 < x.offset.toNat := by
      simpa [Extension.quiet,UInt8.le_iff_toNat_le] using none_
    have content : x.rest.length = 123 := by
      simpa [Extension.Fits,fresh] using fits
    obtain ⟨inside,readable⟩ := confined (isCeaV3_bytes x)
    rw [ofBlock_bytes fresh fits] at inside readable
    have stands : Stands before after x.quiet (x.offset.toNat - 4) removed
        ⟨before ++ (x.quiet.bytes ++ after),before.length + 4,before.length + x.offset.toNat,removed⟩ := by
      constructor
      · rfl
      · simp only
        omega
      · intro _
        simp [Extension.quiet,fresh]
      · simp only [Extension.quiet]
        omega
      · exact readable
      · rfl
    have stripped := removeDataBlocks_strips moves stands (by omega) fits ⟨edidBlock,by omega⟩ (by omega)
      whole small
    have counted : ∀ looped : Option Cursor,
        (looped.bind fun c => pure (⟨c.pEdidBuf,c.numAudioBlocksRemoved,found + 1⟩ : Progress)) =
          (looped.map Cursor.outcome).map fun o => ⟨o.1,o.2,found + 1⟩ := by
      intro looped
      cases looped <;> rfl
    refine (counted _).trans ?_
    change Option.map _ (Option.map Cursor.outcome (removeDataBlocks memcpyS edidSize before.length
      ⟨_,_,before.length + x.offset.toNat,removed⟩)) = _
    rw [stripped,Option.map_map,Option.map_map]
    rfl

theorem removeFromBlock_strips (moves : memcpyS.MovesIntact) (before after : List UInt8)
    {block : List UInt8} (length : block.length = 128)
    (confined : Confined block) {edidBlock : Nat} (start : before.length = edidBlock * 128)
    (extension : 0 < edidBlock) (whole : before.length + 128 + after.length = edidSize)
    (small : edidSize < 0x100000000) (removed found : Nat) :
    removeFromBlock memcpyS edidSize ⟨before ++ (block ++ after),removed,found⟩ edidBlock =
      (stripBlock block).map fun e => ⟨before ++ (e.bytes ++ after),removed + e.removed,found + e.found⟩ := by
  by_cases cea : isCeaV3 block
  · obtain ⟨x,fresh,fits,rfl⟩ := exists_extension length cea
    exact removeFromBlock_cea moves fresh fits confined start extension whole small removed found
  · rw [stripBlock,if_neg cea,removeFromBlock_other length cea start]
    rfl

theorem stripBlock_length {block : List UInt8} (length : block.length = 128) {e : Edited}
    (edited : stripBlock block = some e) : e.bytes.length = 128 := by
  by_cases cea : isCeaV3 block
  · obtain ⟨x,fresh,fits,rfl⟩ := exists_extension length cea
    have content : x.rest.length = 123 := by simpa [Extension.Fits,fresh] using fits
    rw [stripBlock,if_pos cea,ofBlock_bytes fresh fits] at edited
    by_cases none_ : x.quiet.offset ≤ 4
    · rw [if_pos none_] at edited
      rw [← Option.some.inj edited]
      exact length
    · rw [if_neg none_,Option.map_eq_some_iff] at edited
      obtain ⟨s,stripped,rfl⟩ := edited
      have left : s.left.length = x.rest.length := strip_length stripped
      simp [Extension.finish,Extension.bytes,Extension.body,Extension.quiet,fresh,left,content]
  · rw [stripBlock,if_neg cea] at edited
    rw [← Option.some.inj edited]
    exact length

theorem removeFromBlocks_strips (moves : memcpyS.MovesIntact) (before after : List UInt8) (edidBlock : Nat)
    {extensions : List (List UInt8)} (lengths : ∀ block ∈ extensions, block.length = 128)
    (confined : ∀ block ∈ extensions, Confined block) (start : before.length = edidBlock * 128)
    (extension : 0 < edidBlock) (whole : before.length + extensions.flatten.length + after.length = edidSize)
    (small : edidSize < 0x100000000) (removed found : Nat) :
    (List.range' edidBlock extensions.length).foldlM (removeFromBlock memcpyS edidSize)
        ⟨before ++ (extensions.flatten ++ after),removed,found⟩ =
      (extensions.mapM stripBlock).map fun edited =>
        ⟨before ++ ((edited.map Edited.bytes).flatten ++ after),removed + (edited.map Edited.removed).sum,
          found + (edited.map Edited.found).sum⟩ := by
  induction extensions generalizing before edidBlock removed found with
  | nil => simp
  | cons block extensions ih =>
    have length := lengths block List.mem_cons_self
    simp only [List.flatten_cons,List.length_append] at whole
    have visited := removeFromBlock_strips moves before (extensions.flatten ++ after) length
      (confined block List.mem_cons_self) start extension
      (by rw [List.length_append]; omega) small removed found
    rw [List.length_cons,List.range'_succ,List.foldlM_cons,List.flatten_cons,List.append_assoc,visited,
      List.mapM_cons]
    cases edited : stripBlock block with
    | none => rfl
    | some e =>
      have size := stripBlock_length length edited
      have rest := ih (before ++ e.bytes) (edidBlock + 1)
        (fun b member => lengths b (List.mem_cons_of_mem _ member))
        (fun b member => confined b (List.mem_cons_of_mem _ member))
        (by rw [List.length_append]; omega) (by omega)
        (by rw [List.length_append]; omega) (removed + e.removed) (found + e.found)
      simp only [List.append_assoc] at rest
      simp only [Option.map_some,Option.bind_eq_bind,Option.bind_some,rest]
      cases extensions.mapM stripBlock <;> simp [Nat.add_assoc]

theorem flatten_length {blocks : List (List UInt8)} (lengths : ∀ block ∈ blocks, block.length = 128) :
    blocks.flatten.length = blocks.length * 128 := by
  rw [List.length_flatten,List.map_congr_left lengths]
  simp

theorem removeAudioCapsFromEdid_eq (moves : memcpyS.MovesIntact) {base : List UInt8}
    {extensions : List (List UInt8)} {rest : List UInt8} (baseLength : base.length = 128)
    (lengths : ∀ block ∈ extensions, block.length = 128) (restLength : rest.length < 128)
    (confined : ∀ block ∈ extensions, Confined block)
    (small : (base ++ (extensions.flatten ++ rest)).length < 0x100000000) (found : Nat) :
    removeAudioCapsFromEdid memcpyS (base ++ (extensions.flatten ++ rest))
        (base ++ (extensions.flatten ++ rest)).length found =
      (extensions.mapM stripBlock).map fun edited =>
        ⟨base ++ ((edited.map Edited.bytes).flatten ++ rest),(edited.map Edited.removed).sum,
          found + (edited.map Edited.found).sum⟩ := by
  have size := flatten_length lengths
  have blocks : (base ++ (extensions.flatten ++ rest)).length / edidBlockSize - 1 = extensions.length := by
    simp only [List.length_append,size,baseLength,edidBlockSize]
    omega
  rw [removeAudioCapsFromEdid,blocks]
  have looped := removeFromBlocks_strips moves base rest 1 lengths confined baseLength (by omega)
    (by simp [Nat.add_assoc]) small 0 found
  simpa using looped

def blockAt (edid : List UInt8) (k : Nat) : List UInt8 := (edid.drop (k * 128)).take 128

def extensionAt (edid : List UInt8) (k : Nat) : List UInt8 := blockAt edid (k + 1)

def extensionCount (edid : List UInt8) : Nat := edid.length / 128 - 1

theorem blockAt_front {block : List UInt8} (length : block.length = 128) (rest : List UInt8) :
    blockAt (block ++ rest) 0 = block := by
  rw [blockAt,Nat.zero_mul,List.drop_zero]
  exact List.take_left' length

theorem blockAt_further {block : List UInt8} (length : block.length = 128) (rest : List UInt8) (k : Nat) :
    blockAt (block ++ rest) (k + 1) = blockAt rest k := by
  rw [blockAt,Nat.succ_mul,Nat.add_comm,← List.drop_drop,List.drop_left' length]
  rfl

theorem forall_blockAt {blocks : List (List UInt8)} (lengths : ∀ block ∈ blocks, block.length = 128)
    (rest : List UInt8) (P : List UInt8 → Prop) :
    (∀ k < blocks.length, P (blockAt (blocks.flatten ++ rest) k)) ↔ ∀ block ∈ blocks, P block := by
  induction blocks with
  | nil => simp
  | cons block blocks ih =>
    have length := lengths block List.mem_cons_self
    rw [List.forall_mem_cons,← ih fun b member => lengths b (List.mem_cons_of_mem _ member),
      List.flatten_cons,List.append_assoc,List.length_cons]
    constructor
    · intro all
      refine ⟨blockAt_front length _ ▸ all 0 (by omega),fun k below => ?_⟩
      rw [← blockAt_further length]
      exact all (k + 1) (by omega)
    · intro given k below
      cases k with
      | zero => rw [blockAt_front length]; exact given.1
      | succ k =>
        rw [blockAt_further length]
        exact given.2 k (by omega)

/-- The parts of a buffer that has at least a base block. -/
structure Parts (edid base : List UInt8) (extensions : List (List UInt8)) (rest : List UInt8) : Prop where
  whole : edid = base ++ (extensions.flatten ++ rest)
  baseLength : base.length = 128
  lengths : ∀ block ∈ extensions, block.length = 128
  restLength : rest.length < 128

theorem exists_blocks (n : Nat) (bytes : List UInt8) (enough : n * 128 ≤ bytes.length) :
    ∃ blocks : List (List UInt8), blocks.length = n ∧ (∀ block ∈ blocks, block.length = 128) ∧
      bytes = blocks.flatten ++ bytes.drop (n * 128) := by
  induction n generalizing bytes with
  | zero => exact ⟨[],rfl,by simp,by simp⟩
  | succ n ih =>
    obtain ⟨blocks,count,lengths,split⟩ := ih (bytes.drop 128) (by rw [List.length_drop]; omega)
    refine ⟨bytes.take 128 :: blocks,by simp [count],?_,?_⟩
    · rw [List.forall_mem_cons]
      exact ⟨by rw [List.length_take]; omega,lengths⟩
    · rw [List.drop_drop] at split
      rw [List.flatten_cons,List.append_assoc,Nat.succ_mul,Nat.add_comm,← split,List.take_append_drop]

theorem exists_parts {edid : List UInt8} (enough : 128 ≤ edid.length) :
    ∃ base extensions rest, Parts edid base extensions rest := by
  obtain ⟨blocks,count,lengths,split⟩ := exists_blocks (extensionCount edid) (edid.drop 128)
    (by rw [List.length_drop,extensionCount]; omega)
  refine ⟨edid.take 128,blocks,(edid.drop 128).drop (extensionCount edid * 128),?_⟩
  constructor
  · rw [← split,List.take_append_drop]
  · rw [List.length_take]; omega
  · exact lengths
  · simp only [List.length_drop,extensionCount]
    omega

namespace Parts

variable {edid base rest : List UInt8} {extensions : List (List UInt8)} (parts : Parts edid base extensions rest)

include parts

theorem count : extensionCount edid = extensions.length := by
  have size := flatten_length parts.lengths
  have baseLength := parts.baseLength
  have restLength := parts.restLength
  rw [extensionCount,parts.whole]
  simp only [List.length_append,size]
  omega

theorem forall_extensions (P : List UInt8 → Prop) :
    (∀ k < extensionCount edid, P (extensionAt edid k)) ↔ ∀ block ∈ extensions, P block := by
  rw [parts.count,← forall_blockAt parts.lengths rest P]
  simp only [extensionAt,parts.whole,blockAt_further parts.baseLength]

end Parts

theorem mapM_none_iff {extensions : List (List UInt8)} :
    extensions.mapM stripBlock = none ↔ ∃ block ∈ extensions, stripBlock block = none := by
  induction extensions with
  | nil => simp
  | cons block extensions ih =>
    rw [List.mapM_cons]
    cases edited : stripBlock block with
    | none => simp [edited]
    | some e => cases others : extensions.mapM stripBlock <;> simp [edited,← ih,others]

theorem edited_each {extensions : List (List UInt8)} (lengths : ∀ block ∈ extensions, block.length = 128)
    {edited : List Edited} (done : extensions.mapM stripBlock = some edited) (rest : List UInt8) :
    edited.length = extensions.length ∧ (∀ e ∈ edited, e.bytes.length = 128) ∧
      ∀ k (below : k < edited.length),
        stripBlock (blockAt (extensions.flatten ++ rest) k) = some edited[k] ∧
          blockAt ((edited.map Edited.bytes).flatten ++ rest) k = edited[k].bytes := by
  induction extensions generalizing edited with
  | nil =>
    obtain rfl : edited = [] := by simpa using done.symm
    simp
  | cons block extensions ih =>
    simp only [List.mapM_cons,Option.bind_eq_bind,Option.bind_eq_some_iff,Option.pure_def,
      Option.some.injEq] at done
    obtain ⟨e,first,others,later,rfl⟩ := done
    have length := lengths block List.mem_cons_self
    have size := stripBlock_length length first
    obtain ⟨count,sizes,each⟩ := ih (fun b member => lengths b (List.mem_cons_of_mem _ member)) later
    refine ⟨by simp [count],?_,?_⟩
    · rw [List.forall_mem_cons]
      exact ⟨size,sizes⟩
    · intro k below
      rw [List.flatten_cons,List.map_cons,List.flatten_cons,List.append_assoc,List.append_assoc]
      cases k with
      | zero =>
        rw [blockAt_front length,blockAt_front size]
        exact ⟨first,rfl⟩
      | succ k =>
        rw [blockAt_further length,blockAt_further size]
        exact each k (by simpa using below)

/-- An EDID whose only audio block begins at byte 121 of the extension and has 32 bytes. -/
def longAudio : List UInt8 :=
  List.replicate 128 0 ++ ([0x02,0x03,126,0] ++ (0x5F :: List.replicate 31 0) ++
    (0x5F :: List.replicate 31 0) ++ (0x5F :: List.replicate 31 0) ++ (0x54 :: List.replicate 20 0) ++
    [0x3F,0,0,0,0,0,0])

/-- An EDID with basic audio and one short audio block, and three bytes behind the last block. -/
def shortAudio : List UInt8 :=
  List.replicate 128 0 ++ (0x02 :: 0x03 :: 8 :: 0x40 :: 0x23 :: 9 :: 7 :: 7 :: List.replicate 119 0 ++
    [0x79,1,2,3])

theorem shortAudio_confined : ∀ k < extensionCount shortAudio, Confined (extensionAt shortAudio k) := by
  intro k below
  have one : extensionCount shortAudio = 1 := by decide +kernel
  obtain rfl : k = 0 := by omega
  exact confined_of_le (by decide +kernel) (by decide +kernel)

end IGCL.Edid

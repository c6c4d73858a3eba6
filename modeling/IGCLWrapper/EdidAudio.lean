import IGCLWrapper.EdidWhole

/-! CEA data blocks: what the sample does to an EDID that is made of them. Blocks with an extended
tag are left out here, because the sample counts them one byte short. -/
namespace IGCL.Edid

open CheckedBuffer RecordStrip

/-- A data block: three bits of tag and up to 31 bytes of payload. -/
structure DataBlock where
  tag : Fin 8
  payload : List UInt8
  short : payload.length < 32

namespace DataBlock

def encode (b : DataBlock) : List UInt8 := UInt8.ofNat (b.tag.val * 32 + b.payload.length) :: b.payload

/-- The tag 7 with a payload says that the tag proper is in the payload. -/
def Plain (b : DataBlock) : Prop := b.tag = 7 → b.payload = []

def audio (b : DataBlock) : Bool := b.tag == 1

end DataBlock

theorem header_fields : ∀ (tag : Fin 8) (length : Fin 32),
    ((UInt8.ofNat (tag.val * 32 + length.val) &&& 0xE0) >>> 5).toNat = tag.val ∧
      (UInt8.ofNat (tag.val * 32 + length.val) &&& 0x1F).toNat = length.val := by
  decide +kernel

theorem DataBlock.fields (b : DataBlock) :
    ((UInt8.ofNat (b.tag.val * 32 + b.payload.length) &&& 0xE0) >>> 5).toNat = b.tag.val ∧
      (UInt8.ofNat (b.tag.val * 32 + b.payload.length) &&& 0x1F).toNat = b.payload.length :=
  header_fields b.tag ⟨b.payload.length,b.short⟩

theorem DataBlock.Plain.short {b : DataBlock} (plain : b.Plain) :
    ¬extended (UInt8.ofNat (b.tag.val * 32 + b.payload.length)) := by
  rintro ⟨seven,nonempty⟩
  rw [b.fields.1] at seven
  rw [b.fields.2,plain (Fin.ext seven)] at nonempty
  exact nonempty rfl

/-- A plain block is read as it was written, whatever follows it. -/
theorem DataBlock.Plain.seen {b : DataBlock} (plain : b.Plain) (more : List UInt8) :
    Edid.seen (b.encode ++ more) = (b.tag.val,b.encode.length) := by
  have read := dataBlockHeader_short plain.short [] (b.payload ++ more ++ [0])
    (show 0 = ([] : List UInt8).length from rfl)
  rw [List.nil_append,b.fields.1,b.fields.2] at read
  simp [Edid.seen,DataBlock.encode] at read ⊢
  rw [read,Option.getD_some]

theorem isAudio_tag : ∀ tag : Fin 8, isAudio tag.val = (tag == 1) := by decide

theorem DataBlock.Plain.goes {b : DataBlock} (plain : b.Plain) (more : List UInt8) :
    dataBlocks.goes (b.encode ++ more) = b.audio := by
  change isAudio (Edid.seen (b.encode ++ more)).1 = _
  rw [plain.seen]
  exact isAudio_tag b.tag

theorem DataBlock.Plain.delimited {b : DataBlock} (plain : b.Plain) : Delimited dataBlocks b.encode := by
  intro more
  constructor
  · change (Edid.seen (b.encode ++ more)).2 = _
    rw [plain.seen]
  · rw [plain.goes more]
    have alone := plain.goes []
    rw [List.append_nil] at alone
    exact alone.symm

/-- The bytes of a data block collection. -/
def collection (blocks : List DataBlock) : List UInt8 := (blocks.map DataBlock.encode).flatten

/-- A CEA extension of version 3: its data blocks and the timing descriptors that follow them. -/
structure Cea where
  flags : UInt8
  blocks : List DataBlock
  timings : List UInt8
  check : UInt8
  sized : (collection blocks).length + timings.length = 123

namespace Cea

def extension (c : Cea) : Extension :=
  ⟨UInt8.ofNat (4 + (collection c.blocks).length),c.flags,[],collection c.blocks ++ c.timings,c.check⟩

def encode (c : Cea) : List UInt8 := c.extension.bytes

theorem fits (c : Cea) : c.extension.Fits := by
  simpa [Extension.Fits,extension] using c.sized

theorem encode_length (c : Cea) : c.encode.length = 128 := by
  simp [encode,Extension.bytes,c.fits.body]

end Cea

theorem collection_filter (blocks : List DataBlock) :
    (collection (blocks.filter (!·.audio))).length + (collection (blocks.filter (·.audio))).length =
      (collection blocks).length := by
  induction blocks with
  | nil => rfl
  | cons b blocks ih =>
    simp only [collection] at ih ⊢
    cases kind : b.audio <;> simp [kind] at ih ⊢ <;> omega

namespace Cea

/-- The extension without basic audio and without its audio blocks, filled up with zeros. -/
def muted (c : Cea) : Cea where
  flags := c.flags &&& ~~~0x40
  blocks := c.blocks.filter (!·.audio)
  timings := c.timings ++ List.replicate (collection (c.blocks.filter (·.audio))).length 0
  check := c.check
  sized := by
    have parts := collection_filter c.blocks
    have sized := c.sized
    rw [List.length_append,List.length_replicate]
    omega

/-- The checksum is only set anew where a block has gone. -/
def silence (c : Cea) : Cea :=
  if c.blocks.any (·.audio) then { c.muted with check := calcEdidChecksum c.muted.extension.body }
  else c.muted

def Plain (c : Cea) : Prop := ∀ b ∈ c.blocks, b.Plain

theorem proper {c : Cea} (plain : c.Plain) :
    ∀ record ∈ c.blocks.map DataBlock.encode, Delimited dataBlocks record := by
  intro record member
  obtain ⟨b,inside,rfl⟩ := List.mem_map.mp member
  exact (plain b inside).delimited

theorem offset_toNat (c : Cea) : c.extension.offset.toNat = 4 + (collection c.blocks).length := by
  have sized := c.sized
  rw [extension,UInt8.toNat_ofNat']
  omega

theorem confined {c : Cea} (plain : c.Plain) : Confined c.encode := by
  intro _
  have sized := c.sized
  rw [encode,ofBlock_bytes rfl c.fits,c.offset_toNat]
  constructor
  · omega
  · rw [Nat.add_sub_cancel_left]
    apply along_records (proper plain)
    intro record member more header alone
    obtain ⟨b,inside,rfl⟩ := List.mem_map.mp member
    obtain ⟨same,_⟩ := List.cons.inj alone
    exact same ▸ (plain b inside).short

theorem filter_goes {blocks : List DataBlock} (plain : ∀ b ∈ blocks, b.Plain) (kind : Bool → Bool) :
    (blocks.map DataBlock.encode).filter (fun record => kind (dataBlocks.goes record)) =
      (blocks.filter fun b => kind b.audio).map DataBlock.encode := by
  rw [List.filter_map]
  congr 1
  apply List.filter_congr
  intro b member
  have alone := (plain b member).goes []
  rw [List.append_nil] at alone
  simp [alone]

theorem strip_collection {c : Cea} (plain : c.Plain) :
    strip dataBlocks 0 (collection c.blocks).length (collection c.blocks ++ c.timings) =
      some ⟨collection c.muted.blocks ++ c.muted.timings,(c.blocks.filter (·.audio)).length,
        (collection (c.blocks.filter (·.audio))).length⟩ := by
  have stripped := strip_records 0 (proper plain) c.timings
  have stay := filter_goes plain (!·)
  have go := filter_goes plain id
  simp only [id] at go
  rw [stay,go,List.length_map] at stripped
  exact stripped

theorem muted_offset (c : Cea) :
    c.extension.offset - UInt8.ofNat (collection (c.blocks.filter (·.audio))).length =
      c.muted.extension.offset := by
  have parts := collection_filter c.blocks
  simp only [extension,muted]
  rw [← parts,← Nat.add_assoc,UInt8.ofNat_add]
  grind

theorem finish_silence (c : Cea) :
    (c.extension.quiet.finish ⟨collection c.muted.blocks ++ c.muted.timings,
      (c.blocks.filter (·.audio)).length,(collection (c.blocks.filter (·.audio))).length⟩).bytes =
      c.silence.encode := by
  have body : ∀ check : UInt8, (⟨c.extension.quiet.offset -
      UInt8.ofNat (collection (c.blocks.filter (·.audio))).length,c.extension.quiet.flags,
      c.extension.quiet.kept ++ (collection c.muted.blocks ++ c.muted.timings),[],check⟩ : Extension).body =
      c.muted.extension.body := by
    intro check
    have offset : c.extension.quiet.offset - _ = c.muted.extension.offset := c.muted_offset
    rw [offset]
    simp [Extension.body,Extension.quiet,extension,muted]
  by_cases some_ : c.blocks.any (·.audio) = true
  · have counted : (c.blocks.filter (·.audio)).length ≠ 0 := by
      simpa [List.filter_eq_nil_iff] using some_
    simp only [Extension.finish,Extension.bytes,body,if_neg counted,encode,silence,if_pos some_]
    rfl
  · have counted : (c.blocks.filter (·.audio)).length = 0 := by
      simpa [List.filter_eq_nil_iff] using some_
    simp only [Extension.finish,Extension.bytes,body,if_pos counted,encode,silence,if_neg some_]
    rfl

/-- On a CEA extension without extended tags the edit removes the basic audio flag and the audio data
blocks, and nothing else. -/
theorem stripBlock_encode {c : Cea} (plain : c.Plain) :
    stripBlock c.encode = some ⟨c.silence.encode,(c.blocks.filter (·.audio)).length,1⟩ := by
  have offset := c.offset_toNat
  have stripped := strip_collection plain
  have finished := c.finish_silence
  have small : c.extension.quiet.offset ≤ 4 ↔ collection c.blocks = [] := by
    rw [← List.length_eq_zero_iff,UInt8.le_iff_toNat_le]
    change c.extension.offset.toNat ≤ 4 ↔ _
    omega
  rw [encode,stripBlock,if_pos (isCeaV3_bytes _),ofBlock_bytes rfl c.fits]
  by_cases empty : collection c.blocks = []
  · have none_ : c.blocks = [] := by
      apply List.eq_nil_iff_forall_not_mem.mpr
      simpa [collection,DataBlock.encode] using empty
    have untouched : (⟨collection c.muted.blocks ++ c.muted.timings,(c.blocks.filter (·.audio)).length,
        (collection (c.blocks.filter (·.audio))).length⟩ : Stripped UInt8) = ⟨c.extension.quiet.rest,0,0⟩ := by
      simp [none_,muted,collection,extension,Extension.quiet]
    rw [untouched,Extension.finish_none] at finished
    rw [if_pos (small.mpr empty),finished,none_]
    rfl
  · rw [if_neg (mt small.mp empty)]
    change (strip dataBlocks 0 (c.extension.offset.toNat - 4) (collection c.blocks ++ c.timings)).map _ = _
    rw [offset,Nat.add_sub_cancel_left,stripped,Option.map_some,finished]

@[simp] theorem silence_blocks (c : Cea) : c.silence.blocks = c.blocks.filter (!·.audio) := by
  unfold silence
  split <;> rfl

theorem silence_silent (c : Cea) : ∀ b ∈ c.silence.blocks, b.audio = false := by simp

theorem silence_plain {c : Cea} (plain : c.Plain) : c.silence.Plain := by
  intro b member
  rw [silence_blocks] at member
  exact plain b (List.mem_filter.mp member).1

theorem muted_silent {c : Cea} (flags : c.flags &&& ~~~0x40 = c.flags)
    (silent : ∀ b ∈ c.blocks, b.audio = false) : c.muted = c := by
  have stay : c.blocks.filter (!·.audio) = c.blocks := by
    apply List.filter_eq_self.mpr
    intro b member
    rw [silent b member]
    rfl
  have none_ : c.blocks.filter (·.audio) = [] := by
    apply List.filter_eq_nil_iff.mpr
    intro b member
    simp [silent b member]
  obtain ⟨oldFlags,blocks,timings,check,sized⟩ := c
  simp only at flags stay none_
  simp [muted,flags,stay,none_,collection]

theorem silence_silence (c : Cea) : c.silence.silence = c.silence := by
  have flags : c.silence.flags &&& ~~~0x40 = c.silence.flags := by
    have cleared : c.silence.flags = c.flags &&& ~~~0x40 := by unfold silence; split <;> rfl
    rw [cleared,UInt8.and_assoc,UInt8.and_self]
  have silent := c.silence_silent
  have quiet : ¬c.silence.blocks.any (·.audio) = true := by simp
  rw [silence.eq_def c.silence,if_neg quiet,muted_silent flags silent]

end Cea

/-- A block after the base block: a CEA extension of version 3, or one that the sample leaves alone. -/
inductive Block where
  | cea (c : Cea)
  | other (bytes : List UInt8) (length : bytes.length = 128) (foreign : ¬isCeaV3 bytes)

namespace Block

def encode : Block → List UInt8
  | .cea c => c.encode
  | .other bytes _ _ => bytes

def silence : Block → Block
  | .cea c => .cea c.silence
  | .other bytes length foreign => .other bytes length foreign

def Plain : Block → Prop
  | .cea c => c.Plain
  | .other _ _ _ => True

def audioBlocks : Block → Nat
  | .cea c => (c.blocks.filter (·.audio)).length
  | .other _ _ _ => 0

def ceaExtensions : Block → Nat
  | .cea _ => 1
  | .other _ _ _ => 0

theorem encode_length (b : Block) : b.encode.length = 128 := by
  cases b with
  | cea c => exact c.encode_length
  | other bytes length _ => exact length

theorem confined {b : Block} (plain : b.Plain) : Confined b.encode := by
  cases b with
  | cea c => exact Cea.confined plain
  | other bytes _ foreign => exact fun cea => absurd cea foreign

theorem stripBlock_encode {b : Block} (plain : b.Plain) :
    stripBlock b.encode = some ⟨b.silence.encode,b.audioBlocks,b.ceaExtensions⟩ := by
  cases b with
  | cea c => exact Cea.stripBlock_encode plain
  | other bytes _ foreign => exact if_neg foreign

theorem silence_plain {b : Block} (plain : b.Plain) : b.silence.Plain := by
  cases b with
  | cea c => exact Cea.silence_plain plain
  | other _ _ _ => trivial

theorem silence_silence (b : Block) : b.silence.silence = b.silence := by
  cases b with
  | cea c => exact congrArg Block.cea c.silence_silence
  | other _ _ _ => rfl

theorem silence_audioBlocks (b : Block) : b.silence.audioBlocks = 0 := by
  cases b with
  | cea c =>
    change (c.silence.blocks.filter (·.audio)).length = 0
    simp
  | other _ _ _ => rfl

theorem silence_ceaExtensions (b : Block) : b.silence.ceaExtensions = b.ceaExtensions := by
  cases b <;> rfl

end Block

/-- An EDID: the base block, its extensions and what may follow the last whole block. -/
structure Image where
  base : List UInt8
  extensions : List Block
  rest : List UInt8
  baseLength : base.length = 128
  restLength : rest.length < 128

namespace Image

def encode (e : Image) : List UInt8 := e.base ++ ((e.extensions.map Block.encode).flatten ++ e.rest)

/-- The EDID without basic audio and without audio data blocks. -/
def silence (e : Image) : Image := { e with extensions := e.extensions.map Block.silence }

/-- No data block of the EDID has an extended tag. -/
def Plain (e : Image) : Prop := ∀ b ∈ e.extensions, b.Plain

def audioBlocks (e : Image) : Nat := (e.extensions.map Block.audioBlocks).sum

def ceaExtensions (e : Image) : Nat := (e.extensions.map Block.ceaExtensions).sum

theorem mapM_stripBlock {blocks : List Block} (plain : ∀ b ∈ blocks, b.Plain) :
    (blocks.map Block.encode).mapM stripBlock =
      some (blocks.map fun b => ⟨b.silence.encode,b.audioBlocks,b.ceaExtensions⟩) := by
  induction blocks with
  | nil => rfl
  | cons b blocks ih =>
    rw [List.map_cons,List.mapM_cons,Block.stripBlock_encode (plain b List.mem_cons_self),
      ih fun b member => plain b (List.mem_cons_of_mem _ member)]
    rfl

theorem removeAudioCaps {memcpyS : MemcpyS UInt8} (moves : memcpyS.MovesIntact) {e : Image}
    (plain : e.Plain) (small : e.encode.length < 0x100000000) (found : Nat) :
    removeAudioCapsFromEdid memcpyS e.encode e.encode.length found =
      some ⟨e.silence.encode,e.audioBlocks,found + e.ceaExtensions⟩ := by
  have lengths : ∀ block ∈ e.extensions.map Block.encode, block.length = 128 := by
    simpa using fun b _ => b.encode_length
  have confined : ∀ block ∈ e.extensions.map Block.encode, Confined block := by
    simpa using fun b member => Block.confined (plain b member)
  rw [encode,removeAudioCapsFromEdid_eq moves e.baseLength lengths e.restLength confined small,
    mapM_stripBlock plain]
  simp [silence,encode,audioBlocks,ceaExtensions,Function.comp_def]

theorem silence_length (e : Image) : e.silence.encode.length = e.encode.length := by
  have lengths : ∀ blocks : List Block, (blocks.map Block.encode).flatten.length = blocks.length * 128 := by
    intro blocks
    rw [flatten_length (by simpa using fun b _ => b.encode_length),List.length_map]
  simp only [encode,silence,List.length_append,lengths,List.length_map]

theorem silence_silence (e : Image) : e.silence.silence = e.silence := by
  simp [silence,Block.silence_silence]

theorem silence_plain {e : Image} (plain : e.Plain) : e.silence.Plain := by
  simpa [Plain,silence] using fun b member => Block.silence_plain (plain b member)

theorem silence_audioBlocks (e : Image) : e.silence.audioBlocks = 0 := by
  simp [audioBlocks,silence,Function.comp_def,Block.silence_audioBlocks]

theorem silence_ceaExtensions (e : Image) : e.silence.ceaExtensions = e.ceaExtensions := by
  simp [ceaExtensions,silence,Function.comp_def,Block.silence_ceaExtensions]

end Image

/-- An EDID without extended tags is left without audio capabilities and otherwise as it was, and
editing it again changes nothing. -/
theorem audio_removed_once {memcpyS : MemcpyS UInt8} (moves : memcpyS.MovesIntact) (e : Image)
    (plain : e.Plain) (small : e.encode.length < 0x100000000) (found : Nat) :
    removeAudioCapsFromEdid memcpyS e.encode e.encode.length found =
        some ⟨e.silence.encode,e.audioBlocks,found + e.ceaExtensions⟩ ∧
      removeAudioCapsFromEdid memcpyS e.silence.encode e.silence.encode.length found =
        some ⟨e.silence.encode,0,found + e.ceaExtensions⟩ := by
  refine ⟨Image.removeAudioCaps moves plain small found,?_⟩
  rw [Image.removeAudioCaps moves (Image.silence_plain plain) (by rwa [e.silence_length]) found,
    e.silence_silence,e.silence_audioBlocks,e.silence_ceaExtensions]

/-- A display with basic audio, an audio block and a vendor-specific block. -/
def loudDisplay : Image where
  base := List.replicate 128 0
  extensions := [.cea {
    flags := 0x70
    blocks := [⟨1,[0x09,0x07,0x07],by decide⟩,⟨3,[0x03,0x0C,0x00],by decide⟩]
    timings := List.replicate 115 0x11
    check := 0
    sized := by decide +kernel }]
  rest := []
  baseLength := List.length_replicate
  restLength := by decide

theorem loudDisplay_plain : loudDisplay.Plain := by
  simp [Image.Plain,loudDisplay,Block.Plain,Cea.Plain,DataBlock.Plain]

theorem loud_display_silenced :
    removeAudioCapsFromEdid memmoveS loudDisplay.encode loudDisplay.encode.length 0 =
      some ⟨loudDisplay.silence.encode,1,1⟩ :=
  (audio_removed_once memmoveS_movesIntact loudDisplay loudDisplay_plain (by decide +kernel) 0).1

end IGCL.Edid

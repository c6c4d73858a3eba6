import IGCLWrapper.CheckedBuffer

/-! `RemoveAudioCapsFromEdid` and `CalcEdidChecksum` of the EDID management sample. The EDID is
edited in place; an access outside the buffer and a call that `memcpy_s` refuses have no result.
Addresses are natural numbers, which is right for an `EdidSize` below 2^32 - 128: no sum of them wraps
around then. -/
namespace IGCL.Edid

open CheckedBuffer

def edidBlockSize : Nat := 128
def checksumOffset : Nat := edidBlockSize - 1
def ceaAudioDatablock : Nat := 1
def ceaDatablockHeaderSize : Nat := 1

/-- A difference in `uint32_t`. -/
def sub32 (a b : Nat) : Nat := (a + 0x100000000 - b) % 0x100000000

def calcEdidChecksum (pBuffer : List UInt8) : UInt8 :=
  let chksum := (pBuffer.take (edidBlockSize - 1)).foldl (fun chksum byte => chksum + byte) 0
  UInt8.ofNat (256 - chksum.toNat)

/-- The fields of a data block header: the tag and the length of the block with its header. -/
def dataBlockHeader (pEdidBuf : List UInt8) (blockHeaderStart : Nat) : Option (Nat × Nat) := do
  let header ← pEdidBuf[blockHeaderStart]?
  let blockTag := ((header &&& 0xE0) >>> 5).toNat
  let blockLen := (header &&& 0x1F).toNat
  if blockTag = 0x07 ∧ blockLen ≠ 0 then
    let extendedTag ← pEdidBuf[blockHeaderStart + 1]?
    return (0x700 + extendedTag.toNat,blockLen - 1 + ceaDatablockHeaderSize)
  else return (blockTag,blockLen + ceaDatablockHeaderSize)

def isAudio (blockTag : Nat) : Bool :=
  blockTag == ceaAudioDatablock || (decide (0x0710 ≤ blockTag) && decide (blockTag ≤ 0x071F))

/-- The variables of the loop over the data blocks of one extension. -/
structure Cursor where
  pEdidBuf : List UInt8
  blockHeaderStart : Nat
  timingDescStart : Nat
  numAudioBlocksRemoved : Nat
  deriving DecidableEq, Repr

/-- Shifts the rest of the extension over an audio block and pads it with zeros. -/
def removeDataBlock (memcpyS : MemcpyS UInt8) (edidSize baseAddress totalBlockLen : Nat) (c : Cursor) :
    Option Cursor := do
  let checkSumAddress := baseAddress + checksumOffset
  let offset ← c.pEdidBuf[baseAddress + 2]?
  let buf ← store c.pEdidBuf (baseAddress + 2) (offset - UInt8.ofNat totalBlockLen)
  let copyAmount := sub32 checkSumAddress (c.blockHeaderStart + totalBlockLen)
  let buf ← memcpyS.copy buf c.blockHeaderStart edidSize (c.blockHeaderStart + totalBlockLen) copyAmount
  let buf ← fill buf (checkSumAddress - totalBlockLen) 0 totalBlockLen
  let buf ← store buf checkSumAddress (calcEdidChecksum (buf.drop baseAddress))
  return ⟨buf,c.blockHeaderStart - totalBlockLen,c.timingDescStart - totalBlockLen,
    c.numAudioBlocksRemoved + 1⟩

def visitDataBlock (memcpyS : MemcpyS UInt8) (edidSize baseAddress : Nat) (c : Cursor) : Option Cursor := do
  let (blockTag,totalBlockLen) ← dataBlockHeader c.pEdidBuf c.blockHeaderStart
  let c ← (if isAudio blockTag then removeDataBlock memcpyS edidSize baseAddress totalBlockLen c else some c)
  return { c with blockHeaderStart := c.blockHeaderStart + totalBlockLen }

variable {memcpyS : MemcpyS UInt8}

theorem dataBlockHeader_pos {buf : List UInt8} {at_ tag size : Nat}
    (header : dataBlockHeader buf at_ = some (tag,size)) : 0 < size := by
  simp only [dataBlockHeader,ceaDatablockHeaderSize,Option.bind_eq_bind,Option.bind_eq_some_iff] at header
  obtain ⟨byte,_,header⟩ := header
  split at header
  · obtain ⟨_,_,header⟩ := Option.bind_eq_some_iff.mp header
    simp only [Option.pure_def,Option.some.injEq,Prod.mk.injEq] at header
    omega
  · simp only [Option.pure_def,Option.some.injEq,Prod.mk.injEq] at header
    omega

theorem removeDataBlock_moves {edidSize baseAddress size : Nat} {c c' : Cursor}
    (removed : removeDataBlock memcpyS edidSize baseAddress size c = some c') :
    c'.blockHeaderStart = c.blockHeaderStart - size ∧ c'.timingDescStart = c.timingDescStart - size := by
  simp only [removeDataBlock,Option.bind_eq_bind,Option.bind_eq_some_iff,Option.pure_def,
    Option.some.injEq] at removed
  obtain ⟨_,_,_,_,_,_,_,_,_,_,rfl⟩ := removed
  exact ⟨rfl,rfl⟩

/-- Each pass that is not the last one comes closer to the timing descriptors. -/
theorem visitDataBlock_progress {edidSize baseAddress : Nat} {c c' : Cursor}
    (visited : visitDataBlock memcpyS edidSize baseAddress c = some c')
    (more : c'.blockHeaderStart < c'.timingDescStart) :
    c'.timingDescStart - c'.blockHeaderStart < c.timingDescStart - c.blockHeaderStart := by
  simp only [visitDataBlock,Option.bind_eq_bind,Option.bind_eq_some_iff,Option.pure_def,
    Option.some.injEq,Prod.exists] at visited
  obtain ⟨tag,size,header,moved,audio,rfl⟩ := visited
  have positive := dataBlockHeader_pos header
  split at audio
  · obtain ⟨start,stop⟩ := removeDataBlock_moves audio
    simp only at more ⊢
    omega
  · obtain rfl := Option.some.inj audio
    simp only at more ⊢
    omega

def removeDataBlocks (memcpyS : MemcpyS UInt8) (edidSize baseAddress : Nat) (c : Cursor) : Option Cursor :=
  match _visited : visitDataBlock memcpyS edidSize baseAddress c with
  | none => none
  | some c' =>
    if c'.blockHeaderStart < c'.timingDescStart then removeDataBlocks memcpyS edidSize baseAddress c'
    else some c'
termination_by c.timingDescStart - c.blockHeaderStart
decreasing_by
  exact visitDataBlock_progress _visited ‹_›

theorem removeDataBlocks_refused {edidSize baseAddress : Nat} {c : Cursor}
    (refused : visitDataBlock memcpyS edidSize baseAddress c = none) :
    removeDataBlocks memcpyS edidSize baseAddress c = none := by
  rw [removeDataBlocks]
  split
  next => rfl
  next found => rw [refused] at found; contradiction

theorem removeDataBlocks_visited {edidSize baseAddress : Nat} {c c' : Cursor}
    (visited : visitDataBlock memcpyS edidSize baseAddress c = some c') :
    removeDataBlocks memcpyS edidSize baseAddress c =
      if c'.blockHeaderStart < c'.timingDescStart then removeDataBlocks memcpyS edidSize baseAddress c'
      else some c' := by
  rw [removeDataBlocks]
  split
  next refused => rw [visited] at refused; contradiction
  next found =>
    obtain rfl := Option.some.inj (visited.symm.trans found)
    rfl

/-- The edited buffer and the two counters; that of the extensions is a global variable. -/
structure Progress where
  pEdidBuf : List UInt8
  numAudioBlocksRemoved : Nat
  numCeaV3ExtensionsFound : Nat
  deriving DecidableEq, Repr

/-- The body of the loop over the EDID's blocks. -/
def removeFromBlock (memcpyS : MemcpyS UInt8) (edidSize : Nat) (p : Progress) (edidBlock : Nat) :
    Option Progress := do
  let baseAddress := edidBlock * edidBlockSize
  let blockTagCode ← p.pEdidBuf[baseAddress]?
  if blockTagCode = 0x02 then
    let version ← p.pEdidBuf[baseAddress + 1]?
    if version ≠ 3 then return p
    let flags ← p.pEdidBuf[baseAddress + 3]?
    let buf ← store p.pEdidBuf (baseAddress + 3) (flags &&& ~~~0x40)
    let found := p.numCeaV3ExtensionsFound + 1
    let timingDescStartOffset ← buf[baseAddress + 2]?
    if timingDescStartOffset ≤ 4 then return ⟨buf,p.numAudioBlocksRemoved,found⟩
    let c ← removeDataBlocks memcpyS edidSize baseAddress
      ⟨buf,baseAddress + 4,baseAddress + timingDescStartOffset.toNat,p.numAudioBlocksRemoved⟩
    return ⟨c.pEdidBuf,c.numAudioBlocksRemoved,found⟩
  else return p

/-- The extensions are the blocks after the first one. -/
def removeAudioCapsFromEdid (memcpyS : MemcpyS UInt8) (pEdidBuf : List UInt8)
    (edidSize numCeaV3ExtensionsFound : Nat) : Option Progress :=
  (List.range' 1 (edidSize / edidBlockSize - 1)).foldlM (removeFromBlock memcpyS edidSize)
    ⟨pEdidBuf,0,numCeaV3ExtensionsFound⟩

theorem removeDataBlock_length {edidSize baseAddress size : Nat} {c c' : Cursor}
    (removed : removeDataBlock memcpyS edidSize baseAddress size c = some c') :
    c'.pEdidBuf.length = c.pEdidBuf.length := by
  simp only [removeDataBlock,Option.bind_eq_bind,Option.bind_eq_some_iff,Option.pure_def,
    Option.some.injEq] at removed
  obtain ⟨_,_,offset,storedOffset,moved,copied,padded,filled,checked,storedCheck,rfl⟩ := removed
  rw [store_length storedCheck,fill_length filled,memcpyS.sized copied,store_length storedOffset]

theorem visitDataBlock_length {edidSize baseAddress : Nat} {c c' : Cursor}
    (visited : visitDataBlock memcpyS edidSize baseAddress c = some c') :
    c'.pEdidBuf.length = c.pEdidBuf.length := by
  simp only [visitDataBlock,Option.bind_eq_bind,Option.bind_eq_some_iff,Option.pure_def,
    Option.some.injEq,Prod.exists] at visited
  obtain ⟨_,_,_,moved,audio,rfl⟩ := visited
  change moved.pEdidBuf.length = c.pEdidBuf.length
  split at audio
  next => exact removeDataBlock_length audio
  next => rw [Option.some.inj audio]

theorem removeDataBlocks_length {edidSize baseAddress : Nat} {c c' : Cursor}
    (done : removeDataBlocks memcpyS edidSize baseAddress c = some c') :
    c'.pEdidBuf.length = c.pEdidBuf.length := by
  induction c using removeDataBlocks.induct memcpyS edidSize baseAddress with
  | case1 c refused =>
    rw [removeDataBlocks_refused refused] at done
    contradiction
  | case2 c mid visited more ih =>
    rw [removeDataBlocks_visited visited,if_pos more] at done
    rw [ih done,visitDataBlock_length visited]
  | case3 c mid visited last =>
    rw [removeDataBlocks_visited visited,if_neg last] at done
    rw [← Option.some.inj done,visitDataBlock_length visited]

theorem removeFromBlock_length {edidSize edidBlock : Nat} {p p' : Progress}
    (done : removeFromBlock memcpyS edidSize p edidBlock = some p') :
    p'.pEdidBuf.length = p.pEdidBuf.length := by
  simp only [removeFromBlock,Option.bind_eq_bind,Option.bind_eq_some_iff,Option.pure_def] at done
  obtain ⟨_,_,done⟩ := done
  split at done
  next =>
    obtain ⟨_,_,done⟩ := Option.bind_eq_some_iff.mp done
    split at done
    next => rw [← Option.some.inj done]
    next =>
      simp only [Option.bind_eq_some_iff] at done
      obtain ⟨_,_,buf,stored,_,_,done⟩ := done
      split at done
      next => rw [← Option.some.inj done,store_length stored]
      next =>
        obtain ⟨c,removed,same⟩ := Option.bind_eq_some_iff.mp done
        rw [← Option.some.inj same,removeDataBlocks_length removed,store_length stored]
  next => rw [← Option.some.inj done]

theorem removeAudioCapsFromEdid_length {edid : List UInt8} {edidSize found : Nat} {p : Progress}
    (done : removeAudioCapsFromEdid memcpyS edid edidSize found = some p) :
    p.pEdidBuf.length = edid.length := by
  have along (blocks : List Nat) : ∀ p p' : Progress,
      blocks.foldlM (removeFromBlock memcpyS edidSize) p = some p' →
      p'.pEdidBuf.length = p.pEdidBuf.length := by
    induction blocks with
    | nil =>
      intro p p' same
      rw [Option.some.inj same]
    | cons edidBlock blocks ih =>
      intro p p' done
      rw [List.foldlM_cons] at done
      obtain ⟨mid,first,rest⟩ := Option.bind_eq_some_iff.mp done
      rw [ih mid p' rest,removeFromBlock_length first]
  exact along _ _ _ done

end IGCL.Edid

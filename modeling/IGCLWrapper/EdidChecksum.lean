import IGCLWrapper.EdidWhole

/-! When the sample leaves every block of an EDID with a valid checksum. It sets the checksum anew
when it removes a data block, but not when it only clears the basic audio flag. -/
namespace IGCL.Edid

open CheckedBuffer RecordStrip

/-- The bytes of a block add up to zero. -/
def Valid (block : List UInt8) : Prop := block.foldl (fun sum byte => sum + byte) 0 = 0

instance (block : List UInt8) : Decidable (Valid block) := inferInstanceAs (Decidable (_ = _))

theorem foldl_add (bytes : List UInt8) (start : UInt8) :
    bytes.foldl (fun sum byte => sum + byte) start = start + bytes.foldl (fun sum byte => sum + byte) 0 := by
  induction bytes generalizing start with
  | nil => simp
  | cons byte bytes ih =>
    rw [List.foldl_cons,List.foldl_cons,ih (start + byte),ih (0 + byte),UInt8.zero_add,UInt8.add_assoc]

theorem complement (sum : UInt8) : UInt8.ofNat (256 - sum.toNat) = 0 - sum := by
  have bound := sum.toNat_lt
  apply UInt8.toNat_inj.mp
  rw [UInt8.toNat_ofNat',UInt8.toNat_sub]
  simp

theorem valid_iff {body : List UInt8} (whole : body.length = 127) (check : UInt8) :
    Valid (body ++ [check]) ↔ check = calcEdidChecksum body := by
  have all : body.take 127 = body := List.take_of_length_le (by omega)
  simp only [Valid,calcEdidChecksum,edidBlockSize,all,complement,List.foldl_append,List.foldl_cons,
    List.foldl_nil]
  constructor
  · intro zero
    grind
  · rintro rfl
    grind

theorem valid_bytes_iff {x : Extension} (fits : x.Fits) : Valid x.bytes ↔ x.check = calcEdidChecksum x.body :=
  valid_iff fits.body x.check

theorem flag_cleared_iff (flags : UInt8) : flags &&& ~~~0x40 = flags ↔ flags &&& 0x40 = 0 := by
  cases flags with
  | ofBitVec flags =>
    cases flags with
    | ofFin flags =>
      revert flags
      decide +kernel

/-- Clearing the flag changes the sum of the bytes just when the flag was set. -/
theorem quiet_checksum_iff (x : Extension) (fits : x.Fits) :
    calcEdidChecksum x.quiet.body = calcEdidChecksum x.body ↔ x.flags &&& 0x40 = 0 := by
  have quietFits : x.quiet.Fits := fits
  have left : x.quiet.body.take 127 = x.quiet.body := List.take_of_length_le (Nat.le_of_eq quietFits.body)
  have right : x.body.take 127 = x.body := List.take_of_length_le (Nat.le_of_eq fits.body)
  simp only [calcEdidChecksum,edidBlockSize,left,right,complement]
  simp only [Extension.quiet,Extension.body,List.foldl_cons]
  rw [foldl_add,foldl_add _ (0 + 0x02 + 0x03 + x.offset + x.flags),← flag_cleared_iff]
  constructor
  · intro same
    grind
  · intro same
    rw [same]

/-- The sample takes the display for one with basic audio. -/
def basicAudio (block : List UInt8) : Prop := isCeaV3 block ∧ block.getD 3 0 &&& 0x40 ≠ 0

def removesAudio (block : List UInt8) : Prop := ∃ e, stripBlock block = some e ∧ 0 < e.removed

theorem stripBlock_valid_iff {block : List UInt8} (length : block.length = 128) (valid : Valid block)
    {e : Edited} (edited : stripBlock block = some e) :
    Valid e.bytes ↔ (basicAudio block → removesAudio block) := by
  by_cases cea : isCeaV3 block
  · obtain ⟨x,fresh,fits,rfl⟩ := exists_extension length cea
    have quietFits : x.quiet.Fits := fits
    have flag : (x.bytes.getD 3 0) = x.flags := rfl
    have checked := (valid_bytes_iff fits).mp valid
    have quiet : Valid x.quiet.bytes ↔ x.flags &&& 0x40 = 0 := by
      rw [valid_bytes_iff quietFits,← quiet_checksum_iff x fits,← checked]
      exact eq_comm
    have only : removesAudio x.bytes ↔ 0 < e.removed := by
      constructor
      · intro given
        obtain ⟨e',edited',some_⟩ := given
        obtain rfl := Option.some.inj (edited.symm.trans edited')
        exact some_
      · exact fun some_ => ⟨e,edited,some_⟩
    rw [only,basicAudio,flag]
    rw [stripBlock,if_pos cea,ofBlock_bytes fresh fits] at edited
    by_cases none_ : x.quiet.offset ≤ 4
    · rw [if_pos none_] at edited
      obtain rfl := Option.some.inj edited
      rw [quiet]
      constructor
      · intro clear set
        exact absurd clear set.2
      · intro removes
        by_contra set
        exact Nat.lt_irrefl 0 (removes ⟨cea,set⟩)
    · rw [if_neg none_,Option.map_eq_some_iff] at edited
      obtain ⟨s,stripped,rfl⟩ := edited
      by_cases untouched : s.records = 0
      · have same := strip_untouched stripped untouched
        rw [same,Extension.finish_none,quiet]
        constructor
        · intro clear set
          exact absurd clear set.2
        · intro removes
          by_contra set
          exact Nat.lt_irrefl 0 (removes ⟨cea,set⟩)
      · have left : (x.quiet.finish s).Fits := by
          have size := strip_length stripped
          simp only [Extension.Fits] at quietFits ⊢
          simp only [Extension.finish,List.length_append,List.length_nil]
          omega
        have renewed : Valid (x.quiet.finish s).bytes := by
          rw [valid_bytes_iff left]
          simp [Extension.finish,untouched,Extension.body]
        exact ⟨fun _ _ => Nat.pos_of_ne_zero untouched,fun _ => renewed⟩
  · rw [stripBlock,if_neg cea] at edited
    obtain rfl := Option.some.inj edited
    exact ⟨fun _ basic => absurd basic.1 cea,fun _ => valid⟩

/-- An EDID whose blocks all have a valid checksum keeps them if and only if every extension with
basic audio also has an audio data block that is removed. -/
theorem checksums_kept_iff {memcpyS : MemcpyS UInt8} (moves : memcpyS.MovesIntact) (edid : List UInt8)
    (enough : 128 ≤ edid.length)
    (small : edid.length < 0x100000000) (confined : ∀ k < extensionCount edid, Confined (extensionAt edid k))
    (valid : ∀ k < extensionCount edid + 1, Valid (blockAt edid k)) {found : Nat} {p : Progress}
    (done : removeAudioCapsFromEdid memcpyS edid edid.length found = some p) :
    (∀ k < extensionCount edid + 1, Valid (blockAt p.pEdidBuf k)) ↔
      ∀ k < extensionCount edid, basicAudio (extensionAt edid k) → removesAudio (extensionAt edid k) := by
  obtain ⟨base,extensions,rest,parts⟩ := exists_parts enough
  have each := (parts.forall_extensions Confined).mp confined
  rw [parts.whole] at done
  rw [removeAudioCapsFromEdid_eq moves parts.baseLength parts.lengths parts.restLength each
    (parts.whole ▸ small),Option.map_eq_some_iff] at done
  obtain ⟨edited,stripped,rfl⟩ := done
  obtain ⟨count,sizes,each⟩ := edited_each parts.lengths stripped rest
  have edit : ∀ k, k < extensionCount edid → (Valid (extensionAt
      (base ++ ((edited.map Edited.bytes).flatten ++ rest)) k) ↔
        (basicAudio (extensionAt edid k) → removesAudio (extensionAt edid k))) := by
    intro k below
    have inside : k < edited.length := by rw [count,← parts.count]; exact below
    obtain ⟨before,after⟩ := each k inside
    have original : extensionAt edid k = blockAt (extensions.flatten ++ rest) k := by
      rw [extensionAt,parts.whole,blockAt_further parts.baseLength]
    have length : (extensionAt edid k).length = 128 := by
      have all := (parts.forall_extensions fun block => block.length = 128).mpr parts.lengths
      exact all k below
    rw [← original] at before
    rw [extensionAt,blockAt_further parts.baseLength,after]
    exact stripBlock_valid_iff length (valid (k + 1) (by omega)) before
  have front : blockAt (base ++ ((edited.map Edited.bytes).flatten ++ rest)) 0 = blockAt edid 0 := by
    rw [parts.whole,blockAt_front parts.baseLength,blockAt_front parts.baseLength]
  constructor
  · intro all k below
    exact (edit k below).mp (all (k + 1) (by omega))
  · intro removes k below
    cases k with
    | zero => rw [front]; exact valid 0 (by omega)
    | succ k => exact (edit k (by omega)).mpr (removes k (by omega))

/-- An EDID with basic audio and no data blocks. -/
def basicOnly (flags : UInt8) : List UInt8 :=
  List.replicate 128 0 ++ (0x02 :: 0x03 :: 0x04 :: flags :: (List.replicate 123 0 ++ [0xB7]))

theorem basic_audio_spoils_checksum :
    (¬∀ k < extensionCount (basicOnly 0x40) + 1, Valid (blockAt (basicOnly 0) k)) ∧
    ∃ p, removeAudioCapsFromEdid memmoveS shortAudio shortAudio.length 0 = some p ∧
      ∀ k < extensionCount shortAudio + 1, Valid (blockAt p.pEdidBuf k) := by
  constructor
  · have one : extensionCount (basicOnly 0x40) = 1 := by decide +kernel
    have confined : ∀ k < extensionCount (basicOnly 0x40), Confined (extensionAt (basicOnly 0x40) k) := by
      intro k below
      obtain rfl : k = 0 := by omega
      exact confined_of_le (by decide +kernel) (by decide +kernel)
    have done : removeAudioCapsFromEdid memmoveS (basicOnly 0x40) (basicOnly 0x40).length 0 =
        some ⟨basicOnly 0,0,1⟩ := by decide +kernel
    intro kept
    have removes := (checksums_kept_iff memmoveS_movesIntact (basicOnly 0x40) (by decide +kernel)
      (by decide +kernel) confined (by decide +kernel) done).mp kept
    obtain ⟨e,edited,some_⟩ := removes 0 (by omega) ⟨by decide +kernel,by decide +kernel⟩
    have untouched : stripBlock (extensionAt (basicOnly 0x40) 0) =
        some ⟨extensionAt (basicOnly 0) 0,0,1⟩ := by
      decide +kernel
    obtain rfl := Option.some.inj (untouched.symm.trans edited)
    exact Nat.lt_irrefl 0 some_
  · have one : extensionCount shortAudio = 1 := by decide +kernel
    have ends : (removeAudioCapsFromEdid memmoveS shortAudio shortAudio.length 0).isSome := by
      decide +kernel
    obtain ⟨p,done⟩ := Option.isSome_iff_exists.mp ends
    refine ⟨p,done,(checksums_kept_iff memmoveS_movesIntact shortAudio (by decide +kernel)
      (by decide +kernel) shortAudio_confined (by decide +kernel) done).mpr ?_⟩
    intro k below _
    obtain rfl : k = 0 := by omega
    have removed : (stripBlock (extensionAt shortAudio 0)).map Edited.removed = some 1 := by
      decide +kernel
    obtain ⟨e,edited,gone⟩ := Option.map_eq_some_iff.mp removed
    exact ⟨e,edited,by omega⟩

end IGCL.Edid

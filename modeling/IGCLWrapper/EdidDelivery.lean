import IGCLWrapper.EdidAudio
import IGCLWrapper.EdidSample

/-! Displays whose EDID is read as documented: what becomes of the EDID between the display and the
file. -/
namespace IGCL.Samples.EdidManagement

open BlockMemory ExitLabel

variable {t : Target} {ε : Type} {host : Host t} {hDisplayOutput : CtlDisplayOutputHandle t}
  {edid : List UInt8} {o : Options}

/-- The two passes of a read in the comments of `igcl_api.h`. -/
structure ReadProtocol (call : CtlEdidManagementArgs → Heap → Reply CtlEdidManagementArgs)
    (edid : List UInt8) : Prop where
  query : ∀ args m, args.opType = .readEdid → args.edidType = .current → args.edidSize = 0 →
    args.pEdidBuf = .heap 0 → (call args m).code = .success ∧
      (call args m).out.edidSize = UInt32.ofNat edid.length ∧ (call args m).stores = []
  delivers : ∀ args m a, args.opType = .readEdid → args.edidType = .current →
    args.edidSize = UInt32.ofNat edid.length → args.pEdidBuf = .heap a → a ≠ 0 →
      (call args m).code = .success ∧ (call args m).out.edidSize = UInt32.ofNat edid.length ∧
        (call args m).stores = [⟨a,0,edid⟩]

/-- Every runtime along the way reads this EDID of the display. -/
structure Reads (host : Host t) (hDisplayOutput : CtlDisplayOutputHandle t) (edid : List UInt8) :
    Prop where
  follows : ∀ n, ReadProtocol (ctlEdidManagement (host.runtime n) hDisplayOutput) edid
  bound : edid.length < 0x100000000

/-- The EDID as it is used, with the number of audio blocks that were removed. -/
def edit (o : Options) (host : Host t) (edid : List UInt8) : Option (List UInt8 × Nat) :=
  if o.disableAudioInEdid then
    (Edid.removeAudioCapsFromEdid host.memcpyS edid edid.length 0).map fun p =>
      (p.pEdidBuf,p.numAudioBlocksRemoved)
  else some (edid,0)

theorem edit_length {edited : List UInt8 × Nat} (done : edit o host edid = some edited) :
    edited.1.length = edid.length := by
  unfold edit at done
  split at done
  next =>
    obtain ⟨p,removed,rfl⟩ := Option.map_eq_some_iff.mp done
    exact Edid.removeAudioCapsFromEdid_length removed
  next => rw [← Option.some.inj done]

def useLines (t : Target) (o : Options) (edited : List UInt8 × Nat) : List (Event t) :=
  (if o.disableAudioInEdid ∧ edited.2 = 0 then [.audioNotFound] else []) ++
    ((if o.writeBinaryFile then [.fileWritten edited.1] else []) ++ [.edidPrinted edited.1])

variable {m : Heap} {a : Addr} (nonnull : a ≠ 0) {calls : Nat} {printed : List (Event t)}
  {gResult : CtlResult}

theorem loadBytes_eq (bound : edid.length < 0x100000000) :
    (loadBytes a (UInt32.ofNat edid.length) : Body ε (Sample (Event t)) _)
        ⟨m.set a nonnull (some edid),calls,printed,gResult⟩ =
      some (.ok edid,⟨m.set a nonnull (some edid),calls,printed,gResult⟩) := by
  have whole : (m.set a nonnull (some edid)).read a 0 (UInt32.ofNat edid.length).toNat = some edid := by
    rw [UInt32.toNat_ofNat_of_lt' bound]
    simp [Mem.read]
  simp only [loadBytes,Body.act,whole,Option.map_some]

theorem removeAudioCaps_eq (dead : m.block a = none) (bound : edid.length < 0x100000000) :
    (removeAudioCaps host a (UInt32.ofNat edid.length) : Body ε (Sample (Event t)) _)
        ⟨m.set a nonnull (some edid),calls,printed,gResult⟩ =
      (Edid.removeAudioCapsFromEdid host.memcpyS edid edid.length 0).map fun p =>
        (.ok p.numAudioBlocksRemoved,⟨m.set a nonnull (some p.pEdidBuf),calls,printed,gResult⟩) := by
  simp only [removeAudioCaps,Body.act,Mem.block_set_self,Option.bind_some,
    UInt32.toNat_ofNat_of_lt' bound]
  cases removed : Edid.removeAudioCapsFromEdid host.memcpyS edid edid.length 0 with
  | none => rfl
  | some p =>
    have stored : (m.set a nonnull (some edid)).write ⟨a,0,p.pEdidBuf⟩ =
        some (m.set a nonnull (some p.pEdidBuf)) :=
      Mem.write_fresh ⟨a,edid,nonnull,dead⟩ (Edid.removeAudioCapsFromEdid_length removed).symm
    simp only [Option.bind_some,stored,Option.map_some]

theorem disableAudio_eq (dead : m.block a = none) (bound : edid.length < 0x100000000) :
    (disableAudio o host a (UInt32.ofNat edid.length) : Body ε (Sample (Event t)) _)
        ⟨m.set a nonnull (some edid),calls,printed,gResult⟩ =
      (edit o host edid).map fun edited => (.ok (),⟨m.set a nonnull (some edited.1),calls,
        printed ++ if o.disableAudioInEdid ∧ edited.2 = 0 then [.audioNotFound] else [],gResult⟩) := by
  by_cases noaud : o.disableAudioInEdid
  · unfold disableAudio edit
    rw [if_pos noaud,if_pos noaud,Option.map_map]
    refine Body.bind_map (removeAudioCaps_eq nonnull dead bound) ?_
    intro p _
    by_cases nothing : p.numAudioBlocksRemoved = 0 <;> simp [noaud,nothing,print_eq,more]
  · simp [disableAudio,edit,noaud]

theorem writeEdidToFile_eq (bound : edid.length < 0x100000000) :
    (writeEdidToFile o a (UInt32.ofNat edid.length) : Body ε (Sample (Event t)) _)
        ⟨m.set a nonnull (some edid),calls,printed,gResult⟩ =
      some (.ok (),⟨m.set a nonnull (some edid),calls,
        printed ++ if o.writeBinaryFile then [.fileWritten edid] else [],gResult⟩) := by
  by_cases file : o.writeBinaryFile
  · unfold writeEdidToFile
    rw [if_pos file,if_pos file]
    exact (Body.bind_ok (loadBytes_eq nonnull bound)).trans (print_eq _ _)
  · simp [writeEdidToFile,file]

theorem useEdid_eq (dead : m.block a = none) (bound : edid.length < 0x100000000) :
    (useEdid o host a (UInt32.ofNat edid.length) : Body ε (Sample (Event t)) _)
        ⟨m.set a nonnull (some edid),calls,printed,gResult⟩ =
      (edit o host edid).map fun edited => (.ok (),⟨m.set a nonnull (some edited.1),calls,
        printed ++ useLines t o edited,gResult⟩) := by
  refine Body.bind_map (disableAudio_eq nonnull dead bound) ?_
  intro edited done
  have length := edit_length done
  rw [← length] at bound ⊢
  refine (Body.bind_ok (writeEdidToFile_eq nonnull bound)).trans ?_
  refine (Body.bind_ok (loadBytes_eq nonnull bound)).trans ?_
  simp [print_eq,useLines,more]

theorem takeEdid_eq (dead : m.block a = none) (bound : edid.length < 0x100000000) (given : UInt32)
    {edidSize : UInt32} (whole : edidSize = UInt32.ofNat edid.length) :
    (takeEdid o host (some given) (.heap a) edidSize : Body ε (Sample (Event t)) _)
        ⟨m.set a nonnull (some edid),calls,printed,gResult⟩ =
      (edit o host edid).map fun edited => (.ok (),⟨m.set a nonnull (some edited.1),calls,
        printed ++ .edidSize (UInt32.ofNat edid.length) :: useLines t o edited,gResult⟩) := by
  subst whole
  refine (Body.bind_ok (print_eq _ _)).trans ?_
  refine (congrFun (if_pos nonnull) _).trans ?_
  refine (useEdid_eq nonnull dead bound).trans ?_
  simp

section Calls

variable (reads : Reads host hDisplayOutput edid)
include reads

theorem edidMgmtApi_query (m : Heap) (calls : Nat) (printed : List (Event t)) (gResult : CtlResult) :
    (edidMgmtApi o host hDisplayOutput .readEdid .current (some 0) (.heap 0) : Body ε _ _)
        ⟨m,calls,printed,gResult⟩ =
      some (.ok ⟨.success,some (UInt32.ofNat edid.length)⟩,⟨m,calls + 1,
        printed ++ [.managed hDisplayOutput .readEdid .current .success,
          .edidSize (UInt32.ofNat edid.length)],gResult⟩) := by
  let args := managementArgs t .readEdid .current (some 0) (.heap 0)
  obtain ⟨out,size,called⟩ : ∃ out, out.edidSize = UInt32.ofNat edid.length ∧
      (call host fun runtime => ctlEdidManagement runtime hDisplayOutput args :
        Body ε (Sample (Event t)) _) ⟨m,calls,printed,gResult⟩ =
          some (.ok ⟨.success,out⟩,⟨m,calls + 1,printed,gResult⟩) := by
    obtain ⟨ok,size,stores⟩ := (reads.follows calls).query args m rfl rfl rfl rfl
    refine ⟨_,size,?_⟩
    simp only [call,Body.act,stores,Mem.writes_nil,Option.map_some,ok]
  refine (Body.bind_ok called).trans ?_
  refine (Body.bind_ok (print_eq _ _)).trans ?_
  refine (congrFun (if_neg (not_not.mpr rfl)) _).trans ?_
  refine (congrFun (if_pos rfl) _).trans ?_
  simp [takeEdid,logEdidSize,Body.bind_apply,print_eq,more,size]

/-- The second pass, into the buffer that was allocated for it. -/
theorem edidMgmtApi_delivers (m : Heap) (f : Fresh m) (sized : f.cells.length = edid.length)
    (calls : Nat) (printed : List (Event t)) (gResult : CtlResult) :
    (edidMgmtApi o host hDisplayOutput .readEdid .current (some (UInt32.ofNat edid.length))
        (.heap f.addr) : Body ε _ _) ⟨m.alloc f,calls,printed,gResult⟩ =
      (edit o host edid).map fun edited => (.ok ⟨.success,some (UInt32.ofNat edid.length)⟩,
        ⟨m.set f.addr f.nonnull (some edited.1),calls + 1,
          printed ++ .managed hDisplayOutput .readEdid .current .success ::
            .edidSize (UInt32.ofNat edid.length) :: useLines t o edited,gResult⟩) := by
  let args := managementArgs t .readEdid .current (some (UInt32.ofNat edid.length)) (.heap f.addr)
  obtain ⟨out,size,called⟩ : ∃ out, out.edidSize = UInt32.ofNat edid.length ∧
      (call host fun runtime => ctlEdidManagement runtime hDisplayOutput args :
        Body ε (Sample (Event t)) _) ⟨m.alloc f,calls,printed,gResult⟩ =
          some (.ok ⟨.success,out⟩,
            ⟨m.set f.addr f.nonnull (some edid),calls + 1,printed,gResult⟩) := by
    obtain ⟨ok,size,stores⟩ :=
      (reads.follows calls).delivers args (m.alloc f) f.addr rfl rfl rfl rfl f.nonnull
    refine ⟨_,size,?_⟩
    simp only [call,Body.act,stores,Mem.writes_singleton,Mem.write_fresh f sized,Option.map_some,ok]
  refine (Body.bind_ok called).trans ?_
  refine (Body.bind_ok (print_eq _ _)).trans ?_
  refine (congrFun (if_neg (not_not.mpr rfl)) _).trans ?_
  refine (congrFun (if_pos rfl) _).trans ?_
  refine Body.bind_map (takeEdid_eq f.nonnull f.dead reads.bound _ size) ?_
  intro edited _
  simp [size]

/-- The lines of a read, from its first request to the report of the EDID. -/
def readLines (hDisplayOutput : CtlDisplayOutputHandle t) (o : Options) (size : UInt32)
    (edited : List UInt8 × Nat) : List (Event t) :=
  .managed hDisplayOutput .readEdid .current .success :: .edidSize size ::
    .managed hDisplayOutput .readEdid .current .success :: .edidSize size :: useLines t o edited

/-- A read leaves the edited EDID in the buffer it allocated. -/
theorem readTwice_eq (m : Heap) {f : Fresh m} (granted : host.malloc.grant m edid.length = some f)
    (calls : Nat) (printed : List (Event t)) (gResult : CtlResult) :
    readTwice o host hDisplayOutput ⟨m,calls,printed,gResult⟩ =
      (edit o host edid).map fun edited => (.ok f.addr,⟨m.set f.addr f.nonnull (some edited.1),calls + 2,
        printed ++ readLines hDisplayOutput o (UInt32.ofNat edid.length) edited,gResult⟩) := by
  have length := UInt32.toNat_ofNat_of_lt' reads.bound
  refine (Body.bind_ok (edidMgmtApi_query reads _ _ _ _)).trans ?_
  refine (Body.bind_ok (logAndExitOnError_passed _ _ _)).trans ?_
  refine (Body.bind_ok (malloc_eq (f := f) (length.symm ▸ granted) _ _ _)).trans ?_
  refine (Body.bind_ok (exitOnMemAllocFailure_passed f.nonnull _ _ _)).trans ?_
  refine Body.bind_map (edidMgmtApi_delivers reads m f (host.malloc.sized granted) _ _ _) ?_
  intro edited _
  refine (Body.bind_ok (logAndExitOnError_passed _ _ _)).trans ?_
  simp [readLines]

theorem testTarget_read (chosen : o.edidMgmtOpType = .readEdid) (isDisplayAttached : Bool) (m : Heap)
    {f : Fresh m} (granted : host.malloc.grant m edid.length = some f) (calls : Nat)
    (printed : List (Event t)) (gResult : CtlResult) :
    testTarget o host hDisplayOutput isDisplayAttached ⟨m,calls,printed,gResult⟩ =
      (edit o host edid).map fun edited => (.ok f.addr,⟨m.set f.addr f.nonnull (some edited.1),calls + 2,
        printed ++ (readLines hDisplayOutput o (UInt32.ofNat edid.length) edited ++ [.passed .read]),
        gResult⟩) := by
  unfold testTarget
  rw [chosen]
  refine Body.bind_map (readTwice_eq reads m granted calls printed gResult) ?_
  intro edited _
  refine (Body.bind_ok (print_eq _ _)).trans ?_
  simp [more]

theorem testAttached_read (chosen : o.edidMgmtOpType = .readEdid) (m : Heap) {f : Fresh m}
    (granted : host.malloc.grant m edid.length = some f) (calls : Nat) (printed : List (Event t))
    (gResult : CtlResult) :
    testAttached o host hDisplayOutput ⟨m,calls,printed,gResult⟩ =
      (edit o host edid).map fun edited => (.ok 0,⟨m,calls + 2,
        printed ++ (readLines hDisplayOutput o (UInt32.ofNat edid.length) edited ++ [.passed .read]),
        gResult⟩) := by
  have reading : testRead o host hDisplayOutput ⟨m,calls,printed,gResult⟩ =
      (edit o host edid).map fun edited => (.ok (),⟨m,calls + 2,
        printed ++ (readLines hDisplayOutput o (UInt32.ofNat edid.length) edited ++ [.passed .read]),
        gResult⟩) := by
    unfold testRead
    rw [if_pos (.inl chosen)]
    refine Body.bind_map (readTwice_eq reads m granted calls printed gResult) ?_
    intro edited _
    refine (Body.bind_ok (ctlFreeMem_eq f.nonnull f.dead edited.1 rfl)).trans ?_
    refine (print_eq _ _).trans ?_
    simp [more]
  have skipped {c : Prop} [Decidable c] {x : Body Locals (Sample (Event t)) Unit} (other : ¬c)
      (s : Sample (Event t)) : (if c then x else pure ()) s = some (.ok (),s) := by
    rw [if_neg other]
    rfl
  refine (Body.bind_ok (skipped (by simp [chosen]) _)).trans ?_
  refine (Body.bind_ok (skipped (by simp [chosen]) _)).trans ?_
  refine (Body.bind_ok (skipped (by simp [chosen]) _)).trans ?_
  refine Body.bind_map reading ?_
  intro edited _
  refine (Body.bind_ok (skipped (by simp [chosen]) _)).trans ?_
  exact Body.bind_ok (skipped (by simp [chosen]) _)

end Calls

def readingHost (edid : List UInt8) : Host Target.x64 where
  runtime _ := some {
    ctlPanelDescriptorAccess := none
    ctlEnumerateDisplayOutputs := none
    ctlEnumerateDevices := none
    ctlGetDisplayProperties := none
    ctlEdidManagement := some fun _ args _ => ⟨.success,{ args with edidSize := UInt32.ofNat edid.length },
      match args.pEdidBuf with
      | .heap a => if a = 0 then [] else [⟨a,0,edid⟩]
      | .static _ => []⟩ }
  malloc := mallocTwo
  memcpyS := CheckedBuffer.memmoveS

theorem readingHost_reads (bound : edid.length < 0x100000000)
    (hDisplayOutput : CtlDisplayOutputHandle Target.x64) :
    Reads (readingHost edid) hDisplayOutput edid where
  follows n := {
    query := by
      intro args m _ _ _ null
      simp [readingHost,ctlEdidManagement,forward,null]
    delivers := by
      intro args m a _ _ _ buffer nonnull
      simp [readingHost,ctlEdidManagement,forward,buffer,nonnull] }
  bound := bound

/-- The options of a read to a file, without audio. -/
def silentRead : Options := ⟨.readEdid,0,false,0,true,true,[]⟩

end IGCL.Samples.EdidManagement

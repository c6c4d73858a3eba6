import IGCLWrapper.PrepareSteps

/-! What exit code zero of `prepare_igcl.ps1` says about the files it leaves. -/
namespace IGCL.Prepare

open FileTree AbruptScript

variable {κ : Type} {env : Env κ} {zip : ZipFormat κ}

/-- What the build expects after exit code zero. -/
structure Trustworthy (w : World κ) : Prop where
  swig : SwigReady w
  sdk : sdkComplete w.fs Dependency.igcl.destinationFolder = true
  out : w.fs.isDir outFolder = true

/-- The state in which the SDK part begins, if the script gets there. -/
def sdkStart (env : Env κ) (zip : ZipFormat κ) (fs : Tree String κ) : Option (World κ) :=
  match swigStage env zip (World.start fs) with
  | (.ok (),w) => some w
  | (.error _,_) => none

/-- Where the SDK part, begun on these files, leaves an output folder. Beside a complete SDK it is
there already or nothing is in the way of `New-Item`; after a fresh download no plain file takes
its path, neither an old one nor one from the archive. -/
def OutFolderReady (env : Env κ) (zip : ZipFormat κ) (fs : Tree String κ) : Prop :=
  if sdkComplete fs Dependency.igcl.destinationFolder = true then
    fs.isDir outFolder = true ∨
      fs.has outFolder = false ∧ ∃ fs', OutFolderMade env .existingSdk fs fs'
  else
    fs.file? outFolder = none ∧ ∀ content es, env.download .igcl = .done content →
      zip.entries content = some es → Tree.content es outFolder = none

/-- How a run that ends with code zero has gone through the SDK part. -/
inductive Finished (env : Env κ) (zip : ZipFormat κ) (start w : World κ) : Prop
  | kept (kept : Kept env start w)
  | refreshed (incomplete : sdkComplete start.fs Dependency.igcl.destinationFolder = false)
      (refreshed : Refreshed env zip
        { start with fs := start.fs.remove Dependency.igcl.destinationFolder } w)

theorem prepare_done (env : Env κ) (zip : ZipFormat κ) (fs : Tree String κ) :
    Triple (fun w => w = World.start fs) (prepare env zip)
      (fun _ w => ∃ start, sdkStart env zip fs = some start ∧ SwigReady start ∧
        SwigSettled env zip (World.start fs) start ∧ Finished env zip start w)
      (fun e w => e = .exited 0 → ∃ start, sdkStart env zip fs = some start ∧ SwigReady start ∧
        SwigSettled env zip (World.start fs) start ∧ Finished env zip start w) := by
  apply Triple.bind (R := fun _ w => swigStage env zip (World.start fs) = (.ok (),w) ∧
    SwigReady w ∧ SwigSettled env zip (World.start fs) w)
  · exact Triple.unfinished_or _ (Triple.ran (swigStage_done env zip (World.start fs)))
  intro _
  apply Triple.each
  intro start given
  obtain ⟨ran,ready,settled⟩ := given
  have started : sdkStart env zip fs = some start := by rw [sdkStart,ran]
  apply Triple.bind (R := fun _ w => sdkComplete start.fs Dependency.igcl.destinationFolder = false ∧
    w = { start with fs := start.fs.remove Dependency.igcl.destinationFolder })
  · apply (existingIGCL_done env start).consequence (fun _ same => same) (fun _ _ post => post)
    intro e w kept zero
    exact ⟨start,started,ready,settled,.kept (kept zero)⟩
  · intro _
    apply Triple.each
    intro w₁ given
    obtain ⟨incomplete,rfl⟩ := given
    apply Triple.unfinished_or
    apply (freshIGCL_done env zip _).post
    intro _ w refreshed
    exact ⟨start,started,ready,settled,.refreshed incomplete refreshed⟩

theorem run_exits_zero {fs : Tree String κ} (zero : (run zip env fs).1 = some 0) :
    ∃ start, sdkStart env zip fs = some start ∧ SwigReady start ∧
      SwigSettled env zip (World.start fs) start ∧ Finished env zip start (run zip env fs).2 := by
  have done := prepare_done env zip fs
  change exitCode (prepare env zip (World.start fs)).1 = some 0 at zero
  change ∃ start, _ ∧ _ ∧ _ ∧ Finished env zip start (prepare env zip (World.start fs)).2
  cases ended : prepare env zip (World.start fs) with
  | mk outcome w =>
    rw [ended] at zero
    cases outcome with
    | ok value => exact done.returned rfl ended
    | error e =>
      cases e with
      | exited code =>
        obtain rfl := Option.some.inj zero
        exact done.stopped rfl ended rfl
      | thrown => simp [exitCode] at zero
      | killed => simp [exitCode] at zero

theorem sdkComplete_congr {fs fs' : Tree String κ} {iGCLPath : Path}
    (same : ∀ r, fs'.node (iGCLPath ++ r) = fs.node (iGCLPath ++ r)) :
    sdkComplete fs' iGCLPath = sdkComplete fs iGCLPath := by
  rw [Bool.eq_iff_iff,sdkComplete_iff,sdkComplete_iff,Tree.has_of_node (same _),
    Tree.has_of_node (same _)]

theorem ensured_has {fs fs' : Tree String κ} (ensured : OutFolderEnsured fs fs') {q : Path}
    (there : fs.has q = true) : fs'.has q = true := by
  rcases ensured with ⟨_,rfl⟩ | ⟨_,made⟩
  · exact there
  · exact Tree.put_has made there

theorem ensured_isDir_iff {fs fs' : Tree String κ} (ensured : OutFolderEnsured fs fs') :
    fs'.isDir outFolder = true ↔ fs.file? outFolder = none := by
  rcases ensured with ⟨taken,rfl⟩ | ⟨free,made⟩
  · rw [Tree.isDir_iff]
    exact ⟨And.right,fun noFile => ⟨taken,noFile⟩⟩
  · exact ⟨fun _ => Tree.file?_of_not_has free,fun _ => Tree.put_dir_isDir made⟩

theorem kept_trustworthy_iff {start w : World κ} (ready : SwigReady start) (kept : Kept env start w) :
    Trustworthy w ↔ OutFolderReady env zip start.fs := by
  obtain ⟨complete,out⟩ := kept
  rw [OutFolderReady,if_pos complete]
  rcases out with ⟨taken,rfl⟩ | ⟨free,made | ⟨refused,rfl⟩⟩
  · constructor
    · intro trusted
      exact .inl trusted.out
    · intro either
      rcases either with there | ⟨free,_⟩
      · exact ⟨ready,complete,there⟩
      · rw [taken] at free
        contradiction
  · obtain ⟨fs,made,rfl⟩ := made
    have sdk := (sdkComplete_iff _ _).mp complete
    refine ⟨fun _ => .inr ⟨free,fs,made⟩,fun _ => ?_⟩
    exact ⟨⟨Tree.put_has made.2 ready.1,ready.2⟩,
      (sdkComplete_iff _ _).mpr ⟨Tree.put_has made.2 sdk.1,Tree.put_has made.2 sdk.2⟩,
      Tree.put_dir_isDir made.2⟩
  · constructor
    · intro trusted
      have there := ((Tree.isDir_iff _ _).mp trusted.out).1
      rw [free] at there
      contradiction
    · intro either
      rcases either with there | ⟨_,made⟩
      · have there := ((Tree.isDir_iff _ _).mp there).1
        rw [free] at there
        contradiction
      · exact absurd made refused

theorem refreshed_trustworthy_iff {start w : World κ} (ready : SwigReady start)
    (incomplete : sdkComplete start.fs Dependency.igcl.destinationFolder = false)
    (refreshed : Refreshed env zip
      { start with fs := start.fs.remove Dependency.igcl.destinationFolder } w) :
    Trustworthy w ↔ OutFolderReady env zip start.fs := by
  obtain ⟨content,es,fs₁,fs₂,fs₃,downloaded,written,opened,⟨mid,extracted,renamed⟩,complete,dropped,
    ensured,checked,_⟩ := refreshed
  have removed := Tree.remove_outside start.fs Dependency.igcl.destinationFolder
  have zipped := put_zip_outside .igcl written
  have moved := Tree.move_outside renamed
  have swig : w.fs.has swigExecutablePath = true := by
    apply ensured_has ensured
    rw [Tree.has_of_node (dropped _ (by decide)),Tree.has_of_node (moved _ (by decide))]
    apply Tree.putAll_has extracted
    rw [Tree.has_of_node (zipped _ (by decide)),Tree.has_of_node (removed _ (by decide))]
    exact ready.1
  have sdk : sdkComplete w.fs Dependency.igcl.destinationFolder = true := by
    have found := (sdkComplete_iff _ _).mp complete
    apply (sdkComplete_iff _ _).mpr
    constructor
    · apply ensured_has ensured
      rw [Tree.has_of_node (dropped _ (by decide))]
      exact found.1
    · apply ensured_has ensured
      rw [Tree.has_of_node (dropped _ (by decide))]
      exact found.2
  have file : fs₃.file? outFolder = (Tree.content es outFolder).or (start.fs.file? outFolder) := by
    rw [Tree.file?_of_node (dropped _ (by decide)),Tree.file?_of_node (moved _ (by decide)),
      Tree.putAll_file? extracted,Tree.file?_of_node (zipped _ (by decide)),
      Tree.file?_of_node (removed _ (by decide))]
  have out : w.fs.isDir outFolder = true ↔
      start.fs.file? outFolder = none ∧ Tree.content es outFolder = none := by
    rw [ensured_isDir_iff ensured,file,Option.or_eq_none_iff,and_comm]
  have trusted : Trustworthy w ↔ w.fs.isDir outFolder = true :=
    ⟨Trustworthy.out,fun there => ⟨⟨swig,checked.trans ready.2⟩,sdk,there⟩⟩
  rw [trusted,out,OutFolderReady,if_neg (by rw [incomplete]; exact Bool.noConfusion)]
  apply and_congr_right
  intro _
  constructor
  · intro noEntry content' es' downloaded' opened'
    obtain rfl := Fate.done.inj (downloaded.symm.trans downloaded')
    obtain rfl := Option.some.inj (opened.symm.trans opened')
    exact noEntry
  · intro noEntry
    exact noEntry content es downloaded opened

theorem finished_trustworthy_iff {start w : World κ} (ready : SwigReady start)
    (finished : Finished env zip start w) : Trustworthy w ↔ OutFolderReady env zip start.fs := by
  cases finished with
  | kept kept => exact kept_trustworthy_iff ready kept
  | refreshed incomplete refreshed => exact refreshed_trustworthy_iff ready incomplete refreshed

/-- SWIG's own files have no part in the condition. -/
theorem outFolderReady_congr {fs fs' : Tree String κ}
    (same : Tree.SameOutside Dependency.swig.footprint fs fs') :
    OutFolderReady env zip fs' ↔ OutFolderReady env zip fs := by
  have sdk : sdkComplete fs' Dependency.igcl.destinationFolder =
      sdkComplete fs Dependency.igcl.destinationFolder :=
    sdkComplete_congr fun r => same _ (by simp [Dependency.footprint,Dependency.zipFilePath,
      Dependency.destinationFolder,Dependency.tempExtractFolder])
  have above : ∀ q, q <+: outFolder → fs'.node q = fs.node q := by
    intro q prior
    rcases List.mem_inits q outFolder |>.mpr prior with _ | ⟨_,_ | ⟨_,_ | ⟨_,impossible⟩⟩⟩
    · rw [fs'.root,fs.root]
    · exact same _ (by decide)
    · exact same _ (by decide)
    · contradiction
  have here := above outFolder (List.prefix_refl _)
  have room : (∃ fs₁, OutFolderMade env .existingSdk fs' fs₁) ↔
      ∃ fs₁, OutFolderMade env .existingSdk fs fs₁ := by
    simp only [OutFolderMade,exists_and_left,Tree.put_room,Tree.room_congr .dir above]
  have folder : fs'.isDir outFolder = fs.isDir outFolder := by
    rw [Bool.eq_iff_iff,Tree.isDir_iff,Tree.isDir_iff,Tree.has_of_node here,Tree.file?_of_node here]
  rw [OutFolderReady,OutFolderReady,sdk,room,folder,Tree.has_of_node here,Tree.file?_of_node here]

/-- Exit code zero is trustworthy exactly when the SDK part finds the output folder's path ready;
with a SWIG archive of the expected shape this can be read off the files before the run. -/
theorem exit_zero_trustworthy_iff (zip : ZipFormat κ) (env : Env κ) (fs : Tree String κ)
    (zero : (run zip env fs).1 = some 0) :
    ∃ start, sdkStart env zip fs = some start ∧
      (Trustworthy (run zip env fs).2 ↔ OutFolderReady env zip start.fs) ∧
      (Rooted env zip .swig → (Trustworthy (run zip env fs).2 ↔ OutFolderReady env zip fs)) := by
  obtain ⟨start,started,ready,settled,finished⟩ := run_exits_zero zero
  have trusted := finished_trustworthy_iff ready finished
  refine ⟨start,started,trusted,?_⟩
  intro rooted
  exact trusted.trans (outFolderReady_congr (settled.2 rooted))

/-- A machine that is prepared except for the output folder. -/
def preparedTree : Tree String String :=
  (Tree.empty.putAll [(swigExecutablePath,.file "swig"),
    (Dependency.igcl.destinationFolder ++ ["Source","cApiWrapper.cpp"],.file "wrapper"),
    (Dependency.igcl.destinationFolder ++ ["include","igcl_api.h"],.file "api")]).getD Tree.empty

def offlineEnv (made : Fate Unit Unit) : Env String where
  probe := .done ()
  swigVersion _ := .done ⟨0,true⟩
  download _ := .failed none
  remove _ _ := .done ()
  expand _ := .done ()
  rename _ := .done ()
  newItem _ := made

def noZip : ZipFormat String := ⟨String.length,fun _ => none⟩

theorem out_folder_missing : (run noZip (offlineEnv (.failed ())) preparedTree).1 = some 0 ∧
    ¬Trustworthy (run noZip (offlineEnv (.failed ())) preparedTree).2 :=
  ⟨by decide,fun trusted => absurd trusted.out (by decide)⟩

theorem out_folder_made : Trustworthy (run noZip (offlineEnv (.done ())) preparedTree).2 := by
  obtain ⟨_,_,_,rooted⟩ := exit_zero_trustworthy_iff noZip (offlineEnv (.done ())) preparedTree (by decide)
  apply (rooted nofun).mpr
  rw [OutFolderReady,if_pos (by decide)]
  exact .inr ⟨by decide,_,rfl,rfl⟩

end IGCL.Prepare

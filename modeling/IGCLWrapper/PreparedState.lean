import IGCLWrapper.PrepareFrame

/-! Long histories of `prepare_igcl.ps1`: what no run touches, what a complete SDK folder is safe
from, and that a prepared directory stays as it is. -/
namespace IGCL.Prepare

open FileTree AbruptScript

variable {κ : Type}

/-- Outside the places of the two dependencies everything is as it was, except that the output
folder and the folder above it may have come into being. -/
def RestKept (fs fs' : Tree String κ) : Prop :=
  ∀ q, (∀ d : Dependency, ∀ p ∈ d.footprint, ¬p <+: q) →
    fs'.node q = fs.node q ∨ q <+: outFolder ∧ fs.node q = none ∧ fs'.node q = some .dir

theorem restKept_unaffected (fs₀ : Tree String κ) (d : Dependency) :
    Unaffected d.footprint (RestKept fs₀) := by
  intro fs fs' same rest q outside
  rw [same q (outside d)]
  exact rest q outside

theorem restKept_made (fs₀ fs fs' : Tree String κ) (rest : RestKept fs₀ fs)
    (made : fs.put outFolder .dir = some fs') : RestKept fs₀ fs' := by
  intro q outside
  obtain ⟨room,after⟩ := Tree.put_node made
  have there := rest q outside
  by_cases prior : q <+: outFolder
  · have dir : fs'.node q = some .dir := by
      rw [after q,if_pos prior]
      split <;> rfl
    have kind : fs.node q = none ∨ fs.node q = some .dir := by
      have noFile : fs.file? q = none := by
        by_cases last : q = outFolder
        · cases taken : fs.has outFolder with
          | false => rw [last]; exact Tree.file?_of_not_has taken
          | true => rw [last]; exact Option.isNone_iff_eq_none.mp (room.2 taken)
        · exact room.above prior last
      cases found : fs.node q with
      | none => exact .inl rfl
      | some n =>
        rw [Tree.file?,found] at noFile
        cases n with
        | dir => exact .inr rfl
        | file content => contradiction
    rcases there with same | ⟨_,free,_⟩
    · rcases kind with none | folder
      · exact .inr ⟨prior,same ▸ none,dir⟩
      · exact .inl (by rw [dir,← same,folder])
    · exact .inr ⟨prior,free,dir⟩
  · have apart : q ≠ outFolder := fun here => prior (here ▸ List.prefix_refl _)
    rw [after q,if_neg apart,if_neg prior]
    exact there

/-- Whatever goes wrong in a history of runs, what is outside the places of the two dependencies
(the sources, the generated bindings) is never removed or changed. -/
theorem history_keeps_rest (zip : ZipFormat κ) (history : List (Env κ))
    (rooted : ∀ env ∈ history, ∀ d, Rooted env zip d) (fs : Tree String κ) :
    RestKept fs (filesAfter zip fs history) := by
  apply history_keeps (I := RestKept fs)
  · intro env member
    exact prepare_frame (restKept_unaffected fs) (restKept_made fs) (rooted env member)
  · exact fun _ _ => .inl rfl

theorem twoSnapshots_rooted (sdk : Nat) (below : sdk = 1 ∨ sdk = 2) (renamed : Fate Unit Unit)
    (d : Dependency) : Rooted (onlineEnv sdk renamed) twoSnapshots d := by
  cases d with
  | swig => exact rooted_of_done rfl rfl (by decide)
  | igcl =>
    rcases below with rfl | rfl
    · exact rooted_of_done rfl rfl (by decide)
    · exact rooted_of_done rfl rfl (by decide)

def checkout : Tree String Nat := (Tree.empty.put ["IGCLWrapper","IGCLWrapper.i"] (.file 7)).getD Tree.empty

theorem interface_file_kept :
    (filesAfter twoSnapshots checkout [killedRun,laterRun]).node ["IGCLWrapper","IGCLWrapper.i"] =
      some (.file 7) := by
  have rooted : ∀ env ∈ [killedRun,laterRun], ∀ d, Rooted env twoSnapshots d := by
    intro env member
    rcases List.mem_pair.mp member with rfl | rfl
    · exact twoSnapshots_rooted 1 (.inl rfl) _
    · exact twoSnapshots_rooted 2 (.inr rfl) _
  rcases history_keeps_rest twoSnapshots [killedRun,laterRun] rooted checkout
    ["IGCLWrapper","IGCLWrapper.i"] (by rintro (_ | _) <;> decide) with same | made
  · rw [same]
    rfl
  · exact absurd made.1 (by decide)

/-- The SDK folder holds what it held in `fs`. -/
def SameSdk (fs fs' : Tree String κ) : Prop :=
  ∀ q, fs'.node (Dependency.igcl.destinationFolder ++ q) = fs.node (Dependency.igcl.destinationFolder ++ q)

theorem sameSdk_outside {ps : List Path} {fs₀ fs fs' : Tree String κ} (sdk : SameSdk fs₀ fs)
    (same : Tree.SameOutside ps fs fs')
    (apart : ∀ p ∈ ps, ¬p <+: Dependency.igcl.destinationFolder ∧ ¬Dependency.igcl.destinationFolder <+: p) :
    SameSdk fs₀ fs' :=
  fun q => (outside_of_head same apart q).trans (sdk q)

theorem existingIGCL_complete {env : Env κ} {fs₀ : Tree String κ}
    (complete : sdkComplete fs₀ Dependency.igcl.destinationFolder = true) :
    Triple (OnFiles (SameSdk fs₀)) (existingIGCL env) (fun _ _ => False) fun _ => OnFiles (SameSdk fs₀) := by
  have still : ∀ w : World κ, OnFiles (SameSdk fs₀) w →
      sdkComplete w.fs Dependency.igcl.destinationFolder = true := by
    intro w sdk
    rw [sdkComplete_congr sdk]
    exact complete
  apply Triple.test
  · apply Triple.test
    · apply Triple.bind (R := fun _ => OnFiles (SameSdk fs₀))
      · apply (createOutFolderQuietly_frame _).weaken fun w given => given.1.1
        exact fun fs fs' sdk made => sameSdk_outside sdk (Tree.put_outside made) (by decide)
      · exact fun _ => Triple.stop fun _ sdk => sdk
    · intro w given
      obtain ⟨⟨sdk,_⟩,incomplete⟩ := given
      rw [still w sdk] at incomplete
      contradiction
  · intro w given
    obtain ⟨sdk,free⟩ := given
    have file := ((sdkComplete_iff w.fs Dependency.igcl.destinationFolder).mp (still w sdk)).1
    rw [Tree.has_above file (List.prefix_append _ _)] at free
    contradiction

/-- A complete SDK folder is never changed again, by any run that ends in any way. -/
theorem complete_sdk_survives (zip : ZipFormat κ) (history : List (Env κ))
    (rooted : ∀ env ∈ history, Rooted env zip .swig) (fs : Tree String κ)
    (complete : sdkComplete fs Dependency.igcl.destinationFolder = true) :
    SameSdk fs (filesAfter zip fs history) := by
  apply history_keeps (I := SameSdk fs)
  · intro env member
    apply Triple.bind
    · apply swigStage_frame _ (rooted env member)
      exact fun _ _ same sdk => sameSdk_outside sdk same (by decide)
    · intro _
      exact Triple.bind (existingIGCL_complete complete) fun _ _ impossible => impossible.elim
  · exact fun _ => rfl

theorem first_sdk_survives :
    SameSdk (filesAfter twoSnapshots Tree.empty [laterRun])
      (filesAfter twoSnapshots (filesAfter twoSnapshots Tree.empty [laterRun]) [killedRun,laterRun]) := by
  apply complete_sdk_survives twoSnapshots [killedRun,laterRun] _ _ (by decide)
  intro env member
  rcases List.mem_pair.mp member with rfl | rfl
  · exact twoSnapshots_rooted 1 (.inl rfl) _ .swig
  · exact twoSnapshots_rooted 2 (.inr rfl) _ .swig

structure Prepared (fs : Tree String κ) : Prop where
  swig : fs.file? swigExecutablePath ≠ none
  sdk : sdkComplete fs Dependency.igcl.destinationFolder = true
  out : fs.has outFolder = true

/-- In this run `swig.exe` answers the version check as SWIG does, unless the run is killed there. -/
def SwigWorks (env : Env κ) : Prop :=
  (∃ v, env.swigVersion .existing = .done v ∧ v.functional = true) ∨
    ∃ left, env.swigVersion .existing = .killed left

/-- How the outside decides the exit code of a run that has nothing to do. -/
def preparedExit (env : Env κ) : Option Nat := match env.probe, env.swigVersion .existing with
  | .failed _, _ => some 1
  | .killed _, _ => none
  | .done _, .killed _ => none
  | .done _, _ => some 0

theorem testInternetConnection_answer (env : Env κ) (w : World κ) :
    testInternetConnection env w = match env.probe with
      | .done _ => (.ok true,w)
      | .failed _ => (.ok false,w)
      | .killed _ => (.error .killed,w) := by
  unfold testInternetConnection Script.guarded Script.tryCatch
  cases answer : env.probe with
  | done result => rfl
  | failed left => rfl
  | killed left => rfl

theorem testSwigInstallation_works {env : Env κ} (works : SwigWorks env) {w : World κ}
    (there : w.fs.file? swigExecutablePath ≠ none) :
    testSwigInstallation env .existing swigExecutablePath w = match env.swigVersion .existing with
      | .killed _ => (.error .killed,w)
      | _ => (.ok true,{ w with checked := some true }) := by
  obtain ⟨executable,found⟩ := Option.ne_none_iff_exists'.mp there
  have swig : w.fs.has swigExecutablePath = true := by
    by_contra free
    exact there (Tree.file?_of_not_has (Bool.not_eq_true _ ▸ free))
  have opened : testSwigInstallation env .existing swigExecutablePath w =
      Script.tryCatch (swigVersion env .existing swigExecutablePath) (pure false) w :=
    Script.test_passed swig
  rw [opened]
  rcases works with ⟨v,answered,functional⟩ | ⟨left,killed⟩
  · simp [Script.tryCatch,swigVersion,found,answered,functional]
  · simp [Script.tryCatch,swigVersion,found,killed]

theorem existingIGCL_prepared {env : Env κ} {w : World κ}
    (complete : sdkComplete w.fs Dependency.igcl.destinationFolder = true)
    (out : w.fs.has outFolder = true) : existingIGCL env w = (.error (.exited 0),w) := by
  have folder : w.fs.has Dependency.igcl.destinationFolder = true :=
    Tree.has_above ((sdkComplete_iff _ _).mp complete).1 (List.prefix_append _ _)
  have quiet : createOutFolderQuietly env w = (.ok (),w) := Script.test_passed out
  calc existingIGCL env w = _ := Script.test_passed folder
    _ = _ := Script.test_passed complete
    _ = _ := Script.bind_returned quiet

/-- A run in a prepared directory changes no file and downloads nothing. -/
theorem prepared_run (zip : ZipFormat κ) {env : Env κ} {fs : Tree String κ} (prepared : Prepared fs)
    (works : SwigWorks env) :
    (run zip env fs).1 = preparedExit env ∧ (run zip env fs).2.fs = fs ∧
      (run zip env fs).2.fetched = fun _ => none := by
  have probed := testInternetConnection_answer env (World.start fs)
  have checked := testSwigInstallation_works works (w := World.start fs) prepared.swig
  unfold run preparedExit
  cases answer : env.probe with
  | done result =>
    rw [answer] at probed
    have online : swigStage env zip (World.start fs) = _ :=
      Script.bind_returned (Script.bind_returned probed)
    rcases works with ⟨v,answered,_⟩ | ⟨left,killed⟩
    · rw [answered] at checked ⊢
      have swig : swigStage env zip (World.start fs) =
          (.ok (),{ World.start fs with checked := some true }) :=
        online.trans (Script.bind_returned checked)
      have ended : prepare env zip (World.start fs) =
          (.error (.exited 0),{ World.start fs with checked := some true }) :=
        calc prepare env zip (World.start fs) = _ := Script.bind_returned swig
          _ = _ := Script.bind_stopped (existingIGCL_prepared prepared.sdk prepared.out)
      rw [ended]
      exact ⟨rfl,rfl,rfl⟩
    · rw [killed] at checked ⊢
      have ended : prepare env zip (World.start fs) = (.error .killed,World.start fs) :=
        Script.bind_stopped (online.trans (Script.bind_stopped checked))
      rw [ended]
      exact ⟨rfl,rfl,rfl⟩
  | failed left =>
    rw [answer] at probed
    have ended : prepare env zip (World.start fs) = (.error (.exited 1),World.start fs) :=
      Script.bind_stopped (Script.bind_stopped (Script.bind_returned probed))
    rw [ended]
    exact ⟨rfl,rfl,rfl⟩
  | killed left =>
    rw [answer] at probed
    have ended : prepare env zip (World.start fs) = (.error .killed,World.start fs) :=
      Script.bind_stopped (Script.bind_stopped (Script.bind_stopped probed))
    rw [ended]
    exact ⟨rfl,rfl,rfl⟩

/-- SWIG is left as an executable file by a version check that went well. -/
theorem testSwigInstallation_file (env : Env κ) (check : VersionCheck) (swigPath : Path) :
    Triple (fun _ => True) (testSwigInstallation env check swigPath)
      (fun ok w => ok = true → w.fs.file? swigPath ≠ none) Unfinished := by
  apply Triple.test _ Triple.refused
  apply Triple.tryCatch (C := fun _ => True) _ Triple.refused
  rintro w -
  cases content : w.fs.file? swigPath with
  | none => simp [swigVersion,content]
  | some executable =>
    cases ended : env.swigVersion check with
    | done v => simp [swigVersion,content,ended]
    | failed left => simp [swigVersion,content,ended]
    | killed left => simp [swigVersion,content,ended,Unfinished]

theorem passes_of_done {x : Prog κ Bool} {Q : World κ → Bool → World κ → Prop}
    (done : ∀ w₀, Triple (fun w => w = w₀) x (Q w₀) Unfinished) :
    Triple (fun _ => True) x (fun ok _ => ok = true → True) Unfinished :=
  Triple.each fun w₀ _ => (done w₀).post fun _ _ _ _ => trivial

theorem swigStage_file (env : Env κ) (zip : ZipFormat κ) :
    Triple (fun _ => True) (swigStage env zip) (fun _ w => w.fs.file? swigExecutablePath ≠ none) Unfinished := by
  apply Triple.bind (R := fun _ _ => True)
  · exact Triple.require (passes_of_done (testInternetConnection_same env))
  intro _
  apply Triple.bind (testSwigInstallation_file env .existing swigExecutablePath)
  intro valid
  apply Triple.ite
  · exact fun found => Triple.pure fun _ there => there found
  · intro _
    apply Triple.weaken _ fun _ _ => trivial
    apply Triple.require
    apply Triple.andThen (passes_of_done (fetch_staged env zip .swig))
    apply Triple.andThen (M := fun _ => True)
    · apply Triple.test _ (Triple.pure fun _ _ _ => trivial)
      apply Triple.guarded _ (cleanUpZip_any env .swig .removeExisting)
      exact (removeItem_any env .swig _ _ _).weaken fun _ _ => trivial
    apply Triple.andThen (passes_of_done (unpack_done env zip .swig))
    apply Triple.bind (R := fun _ _ => True)
    · exact Triple.each fun w _ => (dropZip_done env .swig w).post fun _ _ _ => trivial
    · exact fun _ => testSwigInstallation_file env .installed swigExecutablePath

theorem finished_file {env : Env κ} {zip : ZipFormat κ} {start w : World κ} {q : Path}
    (apart : ∀ p ∈ Dependency.igcl.footprint, ¬p <+: q) (there : start.fs.file? q ≠ none)
    (finished : Finished env zip start w) : w.fs.file? q ≠ none := by
  have made : ∀ {fs fs' : Tree String κ}, fs.put outFolder .dir = some fs' → fs.file? q ≠ none →
      fs'.file? q ≠ none := by
    intro fs fs' put there'
    rw [Tree.put_file? put q]
    simpa [Option.or_eq_none_iff] using fun _ => there'
  cases finished with
  | kept kept =>
    rcases kept.2 with ⟨_,rfl⟩ | ⟨_,⟨fs,put,rfl⟩ | ⟨_,rfl⟩⟩
    · exact there
    · exact made put.2 there
    · exact there
  | refreshed incomplete refreshed =>
    obtain ⟨content,es,fs₁,fs₂,fs₃,_,written,_,⟨mid,extracted,renamed⟩,_,dropped,ensured,_⟩ := refreshed
    have onZip : ∀ p ∈ [Dependency.igcl.zipFilePath], ¬p <+: q :=
      fun p member => apart p (by simp_all [Dependency.footprint])
    have onFolder : ∀ p ∈ [Dependency.igcl.destinationFolder], ¬p <+: q :=
      fun p member => apart p (by simp_all [Dependency.footprint])
    have onBoth : ∀ p ∈ [Dependency.igcl.tempExtractFolder,Dependency.igcl.destinationFolder], ¬p <+: q := by
      intro p member
      apply apart p
      simp only [Dependency.footprint,List.mem_cons,List.not_mem_nil,or_false] at member ⊢
      tauto
    have last : fs₃.file? q ≠ none := by
      rw [Tree.file?_of_node (dropped q onZip),Tree.file?_of_node (Tree.move_outside renamed q onBoth),
        Tree.putAll_file? extracted q,Tree.file?_of_node (put_zip_outside .igcl written q onZip),
        Tree.file?_of_node (Tree.remove_outside start.fs _ q onFolder)]
      simpa [Option.or_eq_none_iff] using fun _ => there
    rcases ensured with ⟨_,same⟩ | ⟨_,put⟩
    · rw [same]; exact last
    · exact made put last

theorem trustworthy_prepared {zip : ZipFormat κ} {env : Env κ} {fs : Tree String κ}
    (zero : (run zip env fs).1 = some 0) (trusted : Trustworthy (run zip env fs).2) :
    Prepared (run zip env fs).2.fs := by
  obtain ⟨start,started,_,_,finished⟩ := run_exits_zero zero
  have swig : start.fs.file? swigExecutablePath ≠ none := by
    have staged := swigStage_file env zip (World.start fs) trivial
    rw [sdkStart] at started
    split at started
    next w ended =>
      rw [ended,Option.some.inj started] at staged
      exact staged
    next => contradiction
  exact ⟨finished_file (by decide) swig finished,trusted.sdk,((Tree.isDir_iff _ _).mp trusted.out).1⟩

/-- Once a run has left what the build needs, further runs change nothing, however many there are
and wherever they are stopped, as long as `swig.exe` works; a run that is not stopped exits with zero
unless the connectivity probe fails. -/
theorem prepared_once (zip : ZipFormat κ) (env : Env κ) (fs : Tree String κ)
    (zero : (run zip env fs).1 = some 0) (trusted : Trustworthy (run zip env fs).2)
    (history : List (Env κ)) (works : ∀ later ∈ history, SwigWorks later) :
    filesAfter zip (run zip env fs).2.fs history = (run zip env fs).2.fs ∧
      ∀ later ∈ history, (run zip later (run zip env fs).2.fs).1 = preparedExit later := by
  have prepared := trustworthy_prepared zero trusted
  refine ⟨?_,fun later member => (prepared_run zip prepared (works later member)).1⟩
  generalize (run zip env fs).2.fs = settled at prepared
  induction history with
  | nil => rfl
  | cons later history ih =>
    have same := (prepared_run zip prepared (works later List.mem_cons_self)).2.1
    calc filesAfter zip settled (later :: history)
        = filesAfter zip (run zip later settled).2.fs history := rfl
      _ = filesAfter zip settled history := by rw [same]
      _ = settled := ih fun next member => works next (List.mem_cons_of_mem _ member)

/-- Runs that are killed in the probe and in the version check, one without a network, and one that
ends well. -/
def laterRuns : List (Env Nat) :=
  [{ laterRun with probe := .killed () },{ laterRun with swigVersion := fun _ => .killed () },
    { laterRun with probe := .failed () },laterRun]

theorem first_download_stays :
    let settled := (run twoSnapshots laterRun Tree.empty).2.fs
    filesAfter twoSnapshots settled laterRuns = settled ∧
      laterRuns.map (fun later => (run twoSnapshots later settled).1) = [none,none,some 1,some 0] := by
  intro settled
  have works : ∀ later ∈ laterRuns, SwigWorks later := by
    intro later member
    simp only [laterRuns,List.mem_cons,List.not_mem_nil,or_false] at member
    rcases member with rfl | rfl | rfl | rfl
    · exact .inl ⟨_,rfl,rfl⟩
    · exact .inr ⟨_,rfl⟩
    · exact .inl ⟨_,rfl,rfl⟩
    · exact .inl ⟨_,rfl,rfl⟩
  obtain ⟨files,codes⟩ := prepared_once twoSnapshots laterRun Tree.empty (by decide)
    ⟨⟨by decide,by decide⟩,by decide,by decide⟩ laterRuns works
  exact ⟨files,List.map_congr_left codes⟩

end IGCL.Prepare

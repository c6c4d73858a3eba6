import IGCLWrapper.Snapshot

/-! What `prepare_igcl.ps1` cannot reach. Each part keeps every property of the files that is not
affected at the places the part works on, however the part ends. -/
namespace IGCL.Prepare

open FileTree AbruptScript

variable {κ : Type}

/-- A property of the files that nothing at or below `ps` has a part in. -/
def Unaffected (ps : List Path) (I : Tree String κ → Prop) : Prop :=
  ∀ fs fs', Tree.SameOutside ps fs fs' → I fs → I fs'

theorem Unaffected.mono {ps ps' : List Path} {I : Tree String κ → Prop} (apart : Unaffected ps' I)
    (fewer : ps ⊆ ps') : Unaffected ps I :=
  fun fs fs' same => apart fs fs' (same.mono fewer)

/-- The property of a state that its files have `I`. -/
def OnFiles (I : Tree String κ → Prop) : World κ → Prop := fun w => I w.fs

section Parts

variable {I : Tree String κ → Prop} (env : Env κ) (zip : ZipFormat κ) (d : Dependency)

theorem removeItem_frame (action : ErrorAction) (site : RemoveSite) {p : Path}
    (apart : Unaffected [p] I) : Keeps (OnFiles I) (removeItem env d action site p) := by
  apply Triple.each
  intro w holds
  have kept : ∀ w', (∃ fs, Tree.SameOutside [p] w.fs fs ∧ w' = { w with fs }) → OnFiles I w' := by
    intro w' given
    obtain ⟨fs,same,rfl⟩ := given
    exact apart w.fs fs same holds
  exact (removeItem_outside env d action site p w).consequence (fun _ same => same)
    (fun _ w' after => kept w' after) fun _ w' after => kept w' after.2

theorem cleanUpZip_frame (failed : Stage) (apart : Unaffected [d.zipFilePath] I) :
    Keeps (OnFiles I) (cleanUpZip env d failed) :=
  Keeps.test (removeItem_frame env d _ _ apart) (Keeps.pure ())

theorem fetch_frame (apart : Unaffected [d.zipFilePath] I) : Keeps (OnFiles I) (fetch env zip d) := by
  apply Keeps.guarded _ (cleanUpZip_frame env d .download apart)
  apply Keeps.bind
  · apply Keeps.command
    · intro content w w' holds result
      split at result
      next fs written =>
        obtain rfl := Except.ok.inj result
        exact apart w.fs fs (put_zip_outside d written) holds
      next => contradiction
    · intro content w w' holds result
      split at result
      next => contradiction
      next => exact Except.error.inj result ▸ holds
    · intro left w holds
      cases left with
      | none => exact holds
      | some content =>
        cases written : w.fs.put d.zipFilePath (.file content) with
        | none => simp only [Option.bind_some,written]; exact holds
        | some fs =>
          simp only [Option.bind_some,written]
          exact apart w.fs fs (put_zip_outside d written) holds
  · intro _
    apply Keeps.test
    · exact Keeps.bind (Keeps.inspect _) fun _ => Keeps.ite (Keeps.stop _) (Keeps.pure ())
    · exact Keeps.stop _

theorem removeExisting_frame {onError : Prog κ Unit} (apart : Unaffected [d.destinationFolder] I)
    (caught : Keeps (OnFiles I) onError) : Keeps (OnFiles I) (removeExisting env d onError) :=
  Keeps.guarded (removeItem_frame env d _ _ apart) caught

theorem dropZip_frame (apart : Unaffected [d.zipFilePath] I) : Keeps (OnFiles I) (dropZip env d) :=
  Keeps.tryCatch (removeItem_frame env d _ _ apart) (Keeps.pure ())

/-- A file operation done completely or not at all keeps what its result keeps. -/
theorem replace_frame {ρ : Type} {action : ErrorAction} (fate : Fate ρ Unit)
    {next : World κ → Option (Tree String κ)}
    (kept : ∀ w fs, OnFiles I w → next w = some fs → I fs) :
    Keeps (OnFiles I) (command action fate (fun _ w => w.replace (next w)) fun _ w => w) := by
  apply Keeps.command
  · intro _ w w' holds result
    obtain ⟨fs,done,rfl⟩ := replace_ok result
    exact kept w fs holds done
  · intro _ w w' holds result
    exact replace_error result ▸ holds
  · intro _ _ holds
    exact holds

theorem renameItem_frame (apart : Unaffected [d.tempExtractFolder,d.destinationFolder] I) :
    Keeps (OnFiles I) (renameItem env d) := by
  apply replace_frame
  intro w fs holds moved
  exact apart w.fs fs (Tree.move_outside moved) holds

theorem newItem_frame (action : ErrorAction) (site : NewItemSite)
    (made : ∀ fs fs', I fs → fs.put outFolder .dir = some fs' → I fs') :
    Keeps (OnFiles I) (newItem env action site) :=
  replace_frame _ fun w fs holds done => made w.fs fs holds done

theorem testSwigInstallation_frame (check : VersionCheck) (swigPath : Path) :
    Keeps (OnFiles I) (testSwigInstallation env check swigPath) := by
  apply Keeps.test _ (Keeps.pure false)
  apply Keeps.tryCatch _ (Keeps.pure false)
  intro w holds
  cases content : w.fs.file? swigPath with
  | none => simp only [swigVersion,content]; exact holds
  | some executable =>
    cases ended : env.swigVersion check with
    | done v => simp only [swigVersion,content,ended]; exact holds
    | failed left => simp only [swigVersion,content,ended]; exact holds
    | killed left => simp only [swigVersion,content,ended]; exact holds

theorem testInternetConnection_frame : Keeps (OnFiles I) (testInternetConnection env) := by
  apply Keeps.guarded _ (Keeps.pure ())
  apply Keeps.command
  · intro _ w w' holds result
    exact Except.ok.inj result ▸ holds
  · intro _ w w' holds result
    contradiction
  · intro _ _ holds
    exact holds

end Parts

/-- An extraction stays in the folder its entries lie in, also when it stops half-way. -/
theorem expandArchive_outside {env : Env κ} {zip : ZipFormat κ} {d : Dependency} {w₀ : World κ}
    (below : ∀ es, archived zip d w₀ = some es → ∀ e ∈ es, d.tempExtractFolder <+: e.1) :
    Triple (fun w => w = w₀) (expandArchive env zip d)
      (fun _ w => Tree.SameOutside [d.tempExtractFolder] w₀.fs w.fs)
      fun e w => e ≠ .exited 0 ∧ Tree.SameOutside [d.tempExtractFolder] w₀.fs w.fs := by
  apply Triple.command_any
  · rintro _ w w' rfl result
    split at result
    next => contradiction
    next es opened =>
      split at result
      next fs written =>
        obtain rfl := Except.ok.inj result
        exact putAll_below d (below es opened) written
      next => contradiction
  · rintro _ w w' rfl result
    split at result
    next =>
      obtain rfl := Except.error.inj result
      exact Tree.SameOutside.refl _ _
    next es opened =>
      split at result
      next => contradiction
      next =>
        obtain rfl := Except.error.inj result
        exact putUntil_below d w.fs (below es opened)
  · rintro n w rfl
    apply putUntil_below d w.fs
    intro e member
    have there := List.mem_of_mem_take member
    cases opened : archived zip d w with
    | none => rw [opened] at there; contradiction
    | some es => rw [opened] at there; exact below es opened e there

section Stages

variable {I : Tree String κ → Prop} {env : Env κ} {zip : ZipFormat κ} {d : Dependency}

/-- The zip file at hand is the one downloaded in this run. -/
def Downloaded (env : Env κ) (d : Dependency) (w : World κ) : Prop :=
  ∃ content, env.download d = .done content ∧ w.fs.file? d.zipFilePath = some content

theorem Staged.downloaded {w₀ w : World κ} (staged : Staged env d w₀ w) : Downloaded env d w := by
  obtain ⟨content,done,zipped,_⟩ := staged
  exact ⟨content,done,zipped⟩

/-- Extracting and renaming stay in the folders of the dependency if its archive does. -/
theorem unpack_frame (apart : Unaffected d.footprint I) (rooted : Rooted env zip d) :
    Triple (fun w => OnFiles I w ∧ Downloaded env d w) (unpack env zip d)
      (fun _ => OnFiles I) fun _ => OnFiles I := by
  have onZip : Unaffected [d.zipFilePath] I := apart.mono (by simp [Dependency.footprint])
  have onTemp : Unaffected [d.tempExtractFolder] I := apart.mono (by simp [Dependency.footprint])
  apply Triple.bind (R := fun _ => OnFiles I)
  · apply Triple.tryCatch (C := OnFiles I)
    · apply Triple.bind (R := fun _ => OnFiles I) _ fun _ => fun _ holds => holds
      apply Triple.each
      intro w given
      obtain ⟨holds,content,downloaded,zipped⟩ := given
      have below : ∀ es, archived zip d w = some es → ∀ e ∈ es, d.tempExtractFolder <+: e.1 := by
        intro es opened
        rw [archived,zipped] at opened
        exact rooted content es downloaded opened
      apply (expandArchive_outside below).consequence (fun _ same => same)
      · intro _ w' same
        exact onTemp w.fs w'.fs same holds
      · intro e w' abrupt
        have after : OnFiles I w' := onTemp w.fs w'.fs abrupt.2 holds
        split <;> exact after
    · exact Keeps.bind (cleanUpZip_frame env d .expand onZip) fun _ => Keeps.pure false
  · intro extracted
    apply Keeps.ite _ (Keeps.pure false)
    apply Keeps.andThen
    · exact Keeps.test (Keeps.pure true)
        (Keeps.bind (cleanUpZip_frame env d .locate onZip) fun _ => Keeps.pure false)
    · apply Keeps.guarded
      · exact renameItem_frame env d (apart.mono (by simp [Dependency.footprint]))
      · apply Keeps.bind (cleanUpZip_frame env d .rename onZip)
        intro _
        exact Keeps.test (removeItem_frame env d _ _ onTemp) (Keeps.pure ())

theorem installSwigWindows_frame (apart : Unaffected Dependency.swig.footprint I)
    (rooted : Rooted env zip .swig) : Keeps (OnFiles I) (installSwigWindows env zip) := by
  have onZip : Unaffected [Dependency.swig.zipFilePath] I :=
    apart.mono (by simp [Dependency.footprint])
  have onFolder : Unaffected [Dependency.swig.destinationFolder] I :=
    apart.mono (by simp [Dependency.footprint])
  apply Triple.each
  intro w₀ holds
  have chain : Triple (fun w => w = w₀) (installSwigWindows env zip)
      (fun ok w => OnFiles I w ∧ (ok = true → True)) fun _ => OnFiles I := by
    apply Triple.andThen_along (M := Staged env .swig w₀)
    · exact (fetch_frame env zip .swig onZip).along (fun _ same => same ▸ holds)
        (fetch_staged env zip .swig w₀)
    apply Triple.andThen_along (M := Staged env .swig w₀)
    · apply Keeps.along _ (fun _ both => both.1)
        ((removeExistingSwig_staged env w₀).weaken fun _ both => both.2)
      exact Keeps.test
        (removeExisting_frame env .swig onFolder (cleanUpZip_frame env .swig .removeExisting onZip))
        (Keeps.pure true)
    apply Triple.andThen_along (M := fun _ => True)
    · exact (unpack_frame apart rooted).consequence (fun _ both => ⟨both.1,both.2.downloaded⟩)
        (fun _ _ after => ⟨after,fun _ => trivial⟩) fun _ _ abrupt => abrupt
    · apply Triple.bind (R := fun _ => OnFiles I)
      · exact (dropZip_frame env .swig onZip).weaken fun _ both => both.1
      · intro _
        exact (testSwigInstallation_frame env .installed swigExecutablePath).consequence
          (fun _ same => same) (fun _ _ after => ⟨after,fun _ => trivial⟩) fun _ _ abrupt => abrupt
  exact chain.consequence (fun _ same => same) (fun _ _ both => both.1) fun _ _ abrupt => abrupt

/-- The SWIG part of a run, however it ends, only reaches SWIG's places. -/
theorem swigStage_frame (apart : Unaffected Dependency.swig.footprint I)
    (rooted : Rooted env zip .swig) : Keeps (OnFiles I) (swigStage env zip) := by
  apply Keeps.bind (Keeps.require (testInternetConnection_frame env))
  intro _
  apply Keeps.bind (testSwigInstallation_frame env .existing swigExecutablePath)
  intro _
  exact Keeps.ite (Keeps.pure ()) (Keeps.require (installSwigWindows_frame apart rooted))

theorem createOutFolderQuietly_frame
    (made : ∀ fs fs', I fs → fs.put outFolder .dir = some fs' → I fs') :
    Keeps (OnFiles I) (createOutFolderQuietly env) :=
  Keeps.test (Keeps.pure ()) (newItem_frame env _ _ made)

theorem existingIGCL_frame (apart : Unaffected [Dependency.igcl.destinationFolder] I)
    (made : ∀ fs fs', I fs → fs.put outFolder .dir = some fs' → I fs') :
    Keeps (OnFiles I) (existingIGCL env) := by
  apply Keeps.test _ (Keeps.pure ())
  apply Keeps.test
  · exact Keeps.bind (createOutFolderQuietly_frame made) fun _ => Keeps.stop _
  · exact Keeps.require (removeExisting_frame env .igcl apart (Keeps.pure ()))

theorem freshIGCL_frame (apart : Unaffected Dependency.igcl.footprint I)
    (rooted : Rooted env zip .igcl)
    (made : ∀ fs fs', I fs → fs.put outFolder .dir = some fs' → I fs') :
    Keeps (OnFiles I) (freshIGCL env zip) := by
  have onZip : Unaffected [Dependency.igcl.zipFilePath] I :=
    apart.mono (by simp [Dependency.footprint])
  have onFolder : Unaffected [Dependency.igcl.destinationFolder] I :=
    apart.mono (by simp [Dependency.footprint])
  apply Triple.bind (R := fun _ w => OnFiles I w ∧ Downloaded env .igcl w)
  · apply Triple.each
    intro w₀ holds
    apply Triple.bind (R := fun ok w => OnFiles I w ∧ (ok = true → Staged env .igcl w₀ w))
    · exact (fetch_frame env zip .igcl onZip).along (fun _ same => same ▸ holds)
        (fetch_staged env zip .igcl w₀)
    · intro ok
      apply Triple.ite
      · intro passed
        exact Triple.pure fun w both => ⟨both.1,(both.2 passed).downloaded⟩
      · intro _
        exact Triple.stop fun w both => both.1
  · intro _
    apply Triple.bind (R := fun _ => OnFiles I)
    · apply Triple.bind (unpack_frame apart rooted)
      intro _
      exact Keeps.ite (Keeps.pure ()) (Keeps.stop _)
    · intro _
      apply Keeps.bind
      · apply Keeps.require
        apply Keeps.test (Keeps.pure true)
        apply Keeps.bind (cleanUpZip_frame env .igcl .validate onZip)
        intro _
        apply Keeps.bind _ fun _ => Keeps.pure false
        exact Keeps.test (removeItem_frame env .igcl _ _ onFolder) (Keeps.pure ())
      · intro _
        apply Keeps.bind (dropZip_frame env .igcl onZip)
        intro _
        apply Keeps.require
        exact Keeps.test (Keeps.pure true) (Keeps.guarded (newItem_frame env _ _ made) (Keeps.pure ()))

/-- What neither installer's places nor the output folder have a part in, no run changes. -/
theorem prepare_frame (apart : ∀ d : Dependency, Unaffected d.footprint I)
    (made : ∀ fs fs', I fs → fs.put outFolder .dir = some fs' → I fs')
    (rooted : ∀ d, Rooted env zip d) : Keeps (OnFiles I) (prepare env zip) := by
  apply Keeps.bind (swigStage_frame (apart .swig) (rooted .swig))
  intro _
  apply Keeps.bind
  · exact existingIGCL_frame ((apart .igcl).mono (by simp [Dependency.footprint])) made
  · intro _
    exact freshIGCL_frame (apart .igcl) (rooted .igcl) made

end Stages

/-- What the script keeps holds of the files after a run, however the run ends. -/
theorem run_keeps {I : Tree String κ → Prop} {zip : ZipFormat κ} {env : Env κ}
    (keeps : Keeps (OnFiles I) (prepare env zip)) {fs : Tree String κ} (holds : I fs) :
    I (run zip env fs).2.fs := by
  have kept := keeps (World.start fs) holds
  change I (prepare env zip (World.start fs)).2.fs
  split at kept
  next ended => rw [ended]; exact kept
  next ended => rw [ended]; exact kept

theorem history_keeps {I : Tree String κ → Prop} {zip : ZipFormat κ} {history : List (Env κ)}
    (keeps : ∀ env ∈ history, Keeps (OnFiles I) (prepare env zip)) (fs : Tree String κ) (holds : I fs) :
    I (filesAfter zip fs history) := by
  induction history generalizing fs with
  | nil => exact holds
  | cons env history ih =>
    exact ih (fun later member => keeps later (List.mem_cons_of_mem _ member)) _
      (run_keeps (keeps env List.mem_cons_self) holds)

end IGCL.Prepare

import IGCLWrapper.Prepare

/-! What each part of `prepare_igcl.ps1` has done when the script goes on after it. A part that
gives up leads to an exit with code one, so nothing is said about the state it leaves. -/
namespace IGCL.Prepare

open FileTree AbruptScript

variable {κ : Type} (env : Env κ) (zip : ZipFormat κ) (d : Dependency)

theorem replace_ok {w w' : World κ} {fs? : Option (Tree String κ)} (result : w.replace fs? = .ok w') :
    ∃ fs, fs? = some fs ∧ w' = { w with fs } := by
  cases fs? with
  | none => contradiction
  | some fs => exact ⟨fs,rfl,(Except.ok.inj result).symm⟩

theorem replace_error {w w' : World κ} {fs? : Option (Tree String κ)}
    (result : w.replace fs? = .error w') : w' = w := by
  cases fs? with
  | none => exact (Except.error.inj result).symm
  | some fs => contradiction

/-- A file operation called with the error action `stop` was done when the script goes on. -/
theorem replace_done {ρ π : Type} (fate : Fate ρ π) (next : World κ → Option (Tree String κ))
    (part : π → World κ → World κ) (w₀ : World κ) :
    Triple (fun w => w = w₀) (command .stop fate (fun _ w => w.replace (next w)) part)
      (fun _ w => (∃ result, fate = .done result) ∧ ∃ fs, next w₀ = some fs ∧ w = { w₀ with fs })
      Unfinished := by
  apply (Triple.command_stop fate _ part w₀).post
  intro _ w after
  obtain ⟨result,done,replaced⟩ := after
  exact ⟨⟨result,done⟩,replace_ok replaced⟩

theorem removeItem_done (site : RemoveSite) (p : Path) (w₀ : World κ) :
    Triple (fun w => w = w₀) (removeItem env d .stop site p)
      (fun _ w => w = { w₀ with fs := w₀.fs.remove p }) Unfinished := by
  apply (replace_done _ _ _ w₀).post
  intro _ w after
  obtain ⟨_,fs,removed,rfl⟩ := after
  split at removed
  next => rw [← Option.some.inj removed]
  next => contradiction

/-- Whatever becomes of a removal, only paths below its target change. -/
theorem removeItem_outside (action : ErrorAction) (site : RemoveSite) (p : Path) (w₀ : World κ) :
    Triple (fun w => w = w₀) (removeItem env d action site p)
      (fun _ w => ∃ fs, Tree.SameOutside [p] w₀.fs fs ∧ w = { w₀ with fs })
      fun e w => e ≠ .exited 0 ∧ ∃ fs, Tree.SameOutside [p] w₀.fs fs ∧ w = { w₀ with fs } := by
  apply Triple.command_any
  · rintro _ w w' rfl result
    obtain ⟨fs,removed,rfl⟩ := replace_ok result
    split at removed
    next =>
      obtain rfl := Option.some.inj removed
      exact ⟨_,Tree.remove_outside w.fs p,rfl⟩
    next => contradiction
  · rintro _ w w' rfl result
    obtain rfl := replace_error result
    exact ⟨_,Tree.SameOutside.refl _ _,rfl⟩
  · rintro gone w rfl
    exact ⟨_,Tree.removeBelow_outside w.fs p gone,rfl⟩

theorem removeItem_any (action : ErrorAction) (site : RemoveSite) (p : Path) :
    Triple (fun _ => True) (removeItem env d action site p) (fun _ _ => True) Unfinished := by
  apply Triple.each
  intro w₀ _
  exact (removeItem_outside env d action site p w₀).consequence (fun _ same => same)
    (fun _ _ _ => trivial) fun _ _ abrupt => abrupt.1

theorem cleanUpZip_any (failed : Stage) :
    Triple (fun _ => True) (cleanUpZip env d failed) (fun _ _ => True) Unfinished := by
  apply Triple.test
  · exact (removeItem_any env d _ _ _).weaken fun _ _ => trivial
  · exact Triple.pure fun _ _ => trivial

theorem fetch_done (w₀ : World κ) :
    Triple (fun w => w = w₀) (fetch env zip d) (fun ok w => ok = true →
      ∃ content fs, env.download d = .done content ∧
        w₀.fs.put d.zipFilePath (.file content) = some fs ∧
        w = ⟨fs,w₀.checked,Function.update w₀.fetched d (some content)⟩) Unfinished := by
  apply Triple.guarded _ (cleanUpZip_any env d .download)
  apply Triple.bind (R := fun _ w => ∃ content fs, env.download d = .done content ∧
    w₀.fs.put d.zipFilePath (.file content) = some fs ∧
    w = ⟨fs,w₀.checked,Function.update w₀.fetched d (some content)⟩)
  · apply (Triple.command_stop _ _ _ w₀).post
    intro _ w after
    obtain ⟨content,downloaded,result⟩ := after
    split at result
    next fs written => exact ⟨content,fs,downloaded,written,(Except.ok.inj result).symm⟩
    next => contradiction
  · intro _
    apply Triple.test
    · apply Triple.bind (R := fun _ w => ∃ content fs, env.download d = .done content ∧
        w₀.fs.put d.zipFilePath (.file content) = some fs ∧
        w = ⟨fs,w₀.checked,Function.update w₀.fetched d (some content)⟩)
      · exact Triple.inspect fun _ there => there.1
      · intro fileSize
        apply Triple.ite
        · intro _; exact Triple.stop fun _ _ => Stop.noConfusion
        · intro _; exact Triple.pure fun _ there => there
    · exact Triple.stop fun _ _ => Stop.noConfusion

/-- The entries of an archive were all written and the extracted folder was renamed. -/
def Unpacked (es : Entries κ) (fs fs' : Tree String κ) : Prop :=
  ∃ mid, fs.putAll es = some mid ∧ mid.move d.tempExtractFolder d.destinationFolder = some fs'

theorem unpack_done (w₀ : World κ) :
    Triple (fun w => w = w₀) (unpack env zip d) (fun ok w => ok = true →
      ∃ es fs, archived zip d w₀ = some es ∧ Unpacked d es w₀.fs fs ∧ w = { w₀ with fs }) Unfinished := by
  apply Triple.andThen (M := fun w => ∃ es mid, archived zip d w₀ = some es ∧
    w₀.fs.putAll es = some mid ∧ w = { w₀ with fs := mid })
  · apply Triple.guarded _ (cleanUpZip_any env d .expand)
    apply (Triple.command_stop _ _ _ w₀).post
    intro _ w after
    obtain ⟨_,_,result⟩ := after
    split at result
    next => contradiction
    next es opened =>
      split at result
      next mid written => exact ⟨es,mid,opened,written,(Except.ok.inj result).symm⟩
      next => contradiction
  · apply Triple.andThen (M := fun w => ∃ es mid, archived zip d w₀ = some es ∧
      w₀.fs.putAll es = some mid ∧ w = { w₀ with fs := mid })
    · apply Triple.test
      · exact Triple.pure fun _ there _ => there.1
      · apply Triple.bind ((cleanUpZip_any env d .locate).weaken fun _ _ => trivial)
        intro _
        exact Triple.refused
    · apply Triple.guarded
      · apply Triple.each
        intro _ after
        obtain ⟨es,mid,opened,written,rfl⟩ := after
        apply (replace_done _ _ _ _).post
        intro _ w after
        obtain ⟨_,fs,renamed,rfl⟩ := after
        exact ⟨es,fs,opened,⟨mid,written,renamed⟩,rfl⟩
      · apply Triple.bind (cleanUpZip_any env d .rename)
        intro _
        apply Triple.test
        · exact (removeItem_any env d _ _ _).weaken fun _ _ => trivial
        · exact Triple.pure fun _ _ => trivial

theorem dropZip_done (w₀ : World κ) :
    Triple (fun w => w = w₀) (dropZip env d)
      (fun _ w => ∃ fs, Tree.SameOutside [d.zipFilePath] w₀.fs fs ∧ w = { w₀ with fs }) Unfinished := by
  apply Triple.tryCatch
  · apply (removeItem_outside env d .stop .zip d.zipFilePath w₀).consequence (fun _ same => same)
      (fun _ _ post => post)
    intro e w abrupt
    split
    next => exact abrupt.2
    next => exact abrupt.1
  · exact Triple.pure fun _ there => there

theorem testSwigInstallation_done (check : VersionCheck) (swigPath : Path) (w₀ : World κ) :
    Triple (fun w => w = w₀) (testSwigInstallation env check swigPath)
      (fun ok w => w.fs = w₀.fs ∧ w.fetched = w₀.fetched ∧
        (ok = true → w.fs.has swigPath = true ∧ w.checked = some true)) Unfinished := by
  apply Triple.test
  · apply Triple.tryCatch (C := fun w => w.fs = w₀.fs ∧ w.fetched = w₀.fetched)
    · intro w given
      obtain ⟨rfl,there⟩ := given
      cases content : w.fs.file? swigPath with
      | none => simp [swigVersion,content]
      | some executable =>
        cases ended : env.swigVersion check with
        | done v => simp [swigVersion,content,ended,there]
        | failed left => simp [swigVersion,content,ended]
        | killed left => simp [swigVersion,content,ended,Unfinished]
    · exact Triple.pure fun _ same => ⟨same.1,same.2,fun impossible => Bool.noConfusion impossible⟩
  · apply Triple.pure
    intro w given
    obtain ⟨rfl,_⟩ := given
    exact ⟨rfl,rfl,fun impossible => Bool.noConfusion impossible⟩

/-- The places a dependency is downloaded to, extracted to and kept in. -/
def Dependency.footprint (d : Dependency) : List Path :=
  [d.zipFilePath,d.destinationFolder,d.tempExtractFolder]

/-- The archive a run downloads for a dependency has all its entries under the folder that the
script looks for after extracting it. -/
def Rooted : Prop := ∀ content es, env.download d = .done content → zip.entries content = some es →
  ∀ e ∈ es, d.tempExtractFolder <+: e.1

theorem putAll_below {es : Entries κ} {fs fs' : Tree String κ}
    (below : ∀ e ∈ es, d.tempExtractFolder <+: e.1) (written : fs.putAll es = some fs') :
    Tree.SameOutside [d.tempExtractFolder] fs fs' := by
  cases d with
  | swig => exact Tree.putAll_outside below written
  | igcl => exact Tree.putAll_outside below written

theorem putUntil_below {es : Entries κ} (fs : Tree String κ)
    (below : ∀ e ∈ es, d.tempExtractFolder <+: e.1) :
    Tree.SameOutside [d.tempExtractFolder] fs (fs.putUntil es) := by
  cases d with
  | swig => exact Tree.putUntil_outside fs below
  | igcl => exact Tree.putUntil_outside fs below

theorem Unpacked.outside {d : Dependency} {es : Entries κ} {fs fs' : Tree String κ}
    (unpacked : Unpacked d es fs fs') (below : ∀ e ∈ es, d.tempExtractFolder <+: e.1) :
    Tree.SameOutside [d.destinationFolder,d.tempExtractFolder] fs fs' := by
  obtain ⟨mid,written,renamed⟩ := unpacked
  apply ((putAll_below d below written).mono _).trans ((Tree.move_outside renamed).mono _)
  · exact fun p member => List.mem_cons_of_mem _ member
  · intro p member
    simp only [List.mem_cons,List.not_mem_nil,or_false] at member ⊢
    exact member.symm

def SwigReady (w : World κ) : Prop := w.fs.has swigExecutablePath = true ∧ w.checked = some true

theorem file?_put_self {fs fs' : Tree String κ} {p : Path} {content : κ}
    (written : fs.put p (.file content) = some fs') : fs'.file? p = some content := by
  rw [Tree.put_file? written p,if_pos rfl]
  rfl

theorem put_zip_outside {fs fs' : Tree String κ} {content : κ}
    (written : fs.put d.zipFilePath (.file content) = some fs') :
    Tree.SameOutside [d.zipFilePath] fs fs' := by
  cases d with
  | swig => exact Tree.put_outside written
  | igcl => exact Tree.put_outside written

/-- Between download and extraction: the zip file holds what was downloaded. -/
def Staged (w₀ w : World κ) : Prop :=
  ∃ content, env.download d = .done content ∧ w.fs.file? d.zipFilePath = some content ∧
    w.fetched = Function.update w₀.fetched d (some content) ∧
    Tree.SameOutside d.footprint w₀.fs w.fs

theorem fetch_staged (w₀ : World κ) :
    Triple (fun w => w = w₀) (fetch env zip d) (fun ok w => ok = true → Staged env d w₀ w) Unfinished := by
  apply (fetch_done env zip d w₀).post
  intro ok w ended passed
  obtain ⟨content,fs,downloaded,written,rfl⟩ := ended passed
  refine ⟨content,downloaded,file?_put_self written,rfl,?_⟩
  exact (put_zip_outside d written).mono (by simp [Dependency.footprint])

theorem removeExistingSwig_staged (w₀ : World κ) :
    Triple (Staged env .swig w₀) (removeExistingSwig env)
      (fun ok w => ok = true → Staged env .swig w₀ w) Unfinished := by
  apply Triple.test
  · apply Triple.guarded _ (cleanUpZip_any env .swig .removeExisting)
    apply Triple.each
    intro w given
    obtain ⟨⟨content,downloaded,zipped,fetched,outside⟩,_⟩ := given
    apply (removeItem_done env .swig _ _ w).post
    rintro _ _ rfl
    have removed := Tree.remove_outside w.fs Dependency.swig.destinationFolder
    refine ⟨content,downloaded,?_,fetched,?_⟩
    · rw [← zipped]
      exact Tree.file?_of_node (removed _ (by decide))
    · exact outside.trans (removed.mono (by simp [Dependency.footprint]))
  · exact Triple.pure fun _ staged _ => staged.1

/-- After SWIG's extraction, whether or not all clean-up succeeded. -/
def SwigSettled (w₀ w : World κ) : Prop :=
  w.fetched .igcl = w₀.fetched .igcl ∧
    (Rooted env zip .swig → Tree.SameOutside Dependency.swig.footprint w₀.fs w.fs)

theorem installSwigWindows_done (w₀ : World κ) :
    Triple (fun w => w = w₀) (installSwigWindows env zip)
      (fun ok w => ok = true → SwigReady w ∧ SwigSettled env zip w₀ w) Unfinished := by
  apply Triple.andThen (fetch_staged env zip .swig w₀)
  apply Triple.andThen (removeExistingSwig_staged env w₀)
  apply Triple.andThen (M := SwigSettled env zip w₀)
  · apply Triple.each
    intro w given
    obtain ⟨content,downloaded,zipped,fetched,outside⟩ := given
    apply (unpack_done env zip .swig w).post
    intro ok w' ended passed
    obtain ⟨es,fs,opened,unpacked,rfl⟩ := ended passed
    constructor
    · change w.fetched .igcl = _
      rw [fetched]
      exact Function.update_of_ne Dependency.noConfusion _ _
    · intro rooted
      rw [archived,zipped] at opened
      apply outside.trans
      exact (unpacked.outside (rooted content es downloaded opened)).mono (by simp [Dependency.footprint])
  apply Triple.bind (R := fun _ => SwigSettled env zip w₀)
  · apply Triple.each
    intro w settled
    apply (dropZip_done env .swig w).post
    intro _ _ after
    obtain ⟨fs,dropped,rfl⟩ := after
    refine ⟨settled.1,?_⟩
    intro rooted
    exact (settled.2 rooted).trans (dropped.mono (by simp [Dependency.footprint]))
  · intro _
    apply Triple.each
    intro w settled
    apply (testSwigInstallation_done env .installed swigExecutablePath w).post
    intro ok w' given passed
    obtain ⟨files,fetched,ready⟩ := given
    refine ⟨ready passed,?_,?_⟩
    · rw [fetched]; exact settled.1
    · rw [files]; exact settled.2

theorem testInternetConnection_same (w₀ : World κ) :
    Triple (fun w => w = w₀) (testInternetConnection env) (fun ok w => ok = true → w = w₀) Unfinished := by
  apply Triple.guarded
  · apply (Triple.command_stop _ _ _ w₀).post
    intro _ w after
    obtain ⟨_,_,result⟩ := after
    exact (Except.ok.inj result).symm
  · exact Triple.pure fun _ _ => trivial

/-- When the SDK part begins SWIG works, and outside of SWIG's own files nothing has changed if
its archive is as expected. -/
theorem swigStage_done (w₀ : World κ) :
    Triple (fun w => w = w₀) (swigStage env zip)
      (fun _ w => SwigReady w ∧ SwigSettled env zip w₀ w) Unfinished := by
  apply Triple.bind (Triple.require (testInternetConnection_same env w₀))
  intro _
  apply Triple.bind (testSwigInstallation_done env .existing swigExecutablePath w₀)
  intro valid
  apply Triple.ite
  · intro found
    apply Triple.pure
    intro w given
    obtain ⟨files,fetched,ready⟩ := given
    refine ⟨ready found,?_,?_⟩
    · rw [fetched]
    · intro _; rw [files]; exact Tree.SameOutside.refl _ _
  · intro _
    apply Triple.require
    apply Triple.each
    intro w given
    obtain ⟨files,fetched,_⟩ := given
    apply (installSwigWindows_done env zip w).post
    intro ok w' installed passed
    obtain ⟨ready,settled⟩ := installed passed
    refine ⟨ready,?_,?_⟩
    · rw [settled.1,fetched]
    · rw [← files]; exact settled.2

/-- `New-Item` for the output folder has worked: it was let to, and there was room. -/
def OutFolderMade (site : NewItemSite) (fs fs' : Tree String κ) : Prop :=
  env.newItem site = .done () ∧ fs.put outFolder .dir = some fs'

/-- Without an error action the script goes on whether or not the folder was made. -/
theorem newItem_silent (site : NewItemSite) (w₀ : World κ) :
    Triple (fun w => w = w₀) (newItem env .silentlyGoOn site)
      (fun _ w => (∃ fs, OutFolderMade env site w₀.fs fs ∧ w = { w₀ with fs }) ∨
        (¬∃ fs, OutFolderMade env site w₀.fs fs) ∧ w = w₀) Unfinished := by
  rintro w rfl
  cases ended : env.newItem site with
  | done result =>
    cases made : w.fs.put outFolder .dir with
    | some fs =>
      simp only [newItem,command,ended,made]
      exact .inl ⟨fs,⟨ended,made⟩,rfl⟩
    | none =>
      simp only [newItem,command,ended,made]
      refine .inr ⟨?_,rfl⟩
      intro given
      obtain ⟨fs,_,made'⟩ := given
      rw [made] at made'
      contradiction
  | failed left =>
    simp only [newItem,command,ended]
    refine .inr ⟨?_,rfl⟩
    intro given
    obtain ⟨fs,done,_⟩ := given
    rw [ended] at done
    contradiction
  | killed left =>
    simp only [newItem,command,ended]
    exact Stop.noConfusion

theorem newItem_made (site : NewItemSite) (w₀ : World κ) :
    Triple (fun w => w = w₀) (newItem env .stop site)
      (fun _ w => ∃ fs, OutFolderMade env site w₀.fs fs ∧ w = { w₀ with fs }) Unfinished := by
  apply (replace_done _ _ _ w₀).post
  intro _ w after
  obtain ⟨⟨⟨⟩,done⟩,fs,made,rfl⟩ := after
  exact ⟨fs,⟨done,made⟩,rfl⟩

/-- The script ended beside a complete SDK: the output folder path was taken, or `New-Item` was
called for it and may have failed. -/
def Kept (w₀ w : World κ) : Prop :=
  sdkComplete w₀.fs Dependency.igcl.destinationFolder = true ∧
    (w₀.fs.has outFolder = true ∧ w = w₀ ∨
      w₀.fs.has outFolder = false ∧
        ((∃ fs, OutFolderMade env .existingSdk w₀.fs fs ∧ w = { w₀ with fs }) ∨
          (¬∃ fs, OutFolderMade env .existingSdk w₀.fs fs) ∧ w = w₀))

theorem sdkComplete_iff (fs : Tree String κ) (iGCLPath : Path) :
    sdkComplete fs iGCLPath = true ↔ fs.has (iGCLPath ++ ["Source","cApiWrapper.cpp"]) = true ∧
      fs.has (iGCLPath ++ ["include","igcl_api.h"]) = true := by
  simp [sdkComplete,List.filter_cons]
  split <;> split <;> simp_all

theorem existingIGCL_done (w₀ : World κ) :
    Triple (fun w => w = w₀) (existingIGCL env)
      (fun _ w => sdkComplete w₀.fs Dependency.igcl.destinationFolder = false ∧
        w = { w₀ with fs := w₀.fs.remove Dependency.igcl.destinationFolder })
      fun e w => e = .exited 0 → Kept env w₀ w := by
  apply Triple.test
  · apply Triple.test
    · apply Triple.bind (R := fun _ => Kept env w₀)
      · apply Triple.unfinished_or
        apply Triple.test
        · apply Triple.pure
          intro w given
          obtain ⟨⟨⟨rfl,_⟩,complete⟩,taken⟩ := given
          exact ⟨complete,.inl ⟨taken,rfl⟩⟩
        · apply Triple.each
          intro w given
          obtain ⟨⟨⟨rfl,_⟩,complete⟩,free⟩ := given
          apply (newItem_silent env .existingSdk w).post
          intro _ w' called
          exact ⟨complete,.inr ⟨free,called⟩⟩
      · intro _
        exact Triple.stop fun _ kept _ => kept
    · apply Triple.unfinished_or
      apply Triple.require
      apply Triple.guarded
      · apply Triple.each
        intro w given
        obtain ⟨⟨rfl,_⟩,incomplete⟩ := given
        apply (removeItem_done env .igcl _ _ w).post
        rintro _ _ rfl
        exact ⟨incomplete,rfl⟩
      · exact Triple.pure fun _ _ => trivial
  · apply Triple.pure
    intro w given
    obtain ⟨rfl,free⟩ := given
    rw [Tree.remove_free _ free]
    refine ⟨?_,rfl⟩
    by_contra complete
    rw [Bool.not_eq_false,sdkComplete_iff] at complete
    have above := Tree.has_above complete.1 (List.prefix_append Dependency.igcl.destinationFolder _)
    rw [free] at above
    contradiction

/-- The output folder at the end of a fresh installation: its path was taken, or it was made. -/
def OutFolderEnsured (fs fs' : Tree String κ) : Prop :=
  fs.has outFolder = true ∧ fs' = fs ∨
    fs.has outFolder = false ∧ fs.put outFolder .dir = some fs'

/-- The script ran to its end after a download, from a tree without an SDK folder. -/
def Refreshed (w₀ w : World κ) : Prop :=
  ∃ content es fs₁ fs₂ fs₃, env.download .igcl = .done content ∧
    w₀.fs.put Dependency.igcl.zipFilePath (.file content) = some fs₁ ∧
    zip.entries content = some es ∧ Unpacked .igcl es fs₁ fs₂ ∧
    sdkComplete fs₂ Dependency.igcl.destinationFolder = true ∧
    Tree.SameOutside [Dependency.igcl.zipFilePath] fs₂ fs₃ ∧ OutFolderEnsured fs₃ w.fs ∧
    w.checked = w₀.checked ∧ w.fetched = Function.update w₀.fetched .igcl (some content)

theorem freshIGCL_done (w₀ : World κ) :
    Triple (fun w => w = w₀) (freshIGCL env zip) (fun _ w => Refreshed env zip w₀ w) Unfinished := by
  apply Triple.bind (Triple.require (fetch_done env zip .igcl w₀))
  intro _
  apply Triple.each
  intro w₁ given
  obtain ⟨content,fs₁,downloaded,written,rfl⟩ := given
  apply Triple.bind (Triple.require (unpack_done env zip .igcl _))
  intro _
  apply Triple.each
  intro w₂ given
  obtain ⟨es,fs₂,opened,unpacked,same₂⟩ := given
  have entries : zip.entries content = some es := by
    rw [archived,file?_put_self written] at opened
    exact opened
  apply Triple.bind (R := fun _ w => w = w₂ ∧ sdkComplete fs₂ Dependency.igcl.destinationFolder = true)
  · apply Triple.require
    apply Triple.test
    · apply Triple.pure
      intro w given _
      obtain ⟨rfl,complete⟩ := given
      refine ⟨rfl,?_⟩
      rw [same₂] at complete
      exact complete
    · apply Triple.bind ((cleanUpZip_any env .igcl .validate).weaken fun _ _ => trivial)
      intro _
      apply Triple.bind (R := fun _ _ => True)
      · apply Triple.test
        · exact (removeItem_any env .igcl _ _ _).weaken fun _ _ => trivial
        · exact Triple.pure fun _ _ => trivial
      · intro _
        exact Triple.refused
  intro _
  apply Triple.each
  intro w given
  obtain ⟨rfl,complete⟩ := given
  apply Triple.bind (dropZip_done env .igcl w)
  intro _
  apply Triple.each
  intro w₃ given
  obtain ⟨fs₃,dropped,same₃⟩ := given
  apply Triple.require
  have finish : ∀ fs, OutFolderEnsured fs₃ fs → Refreshed env zip w₀ { w₃ with fs } := by
    intro fs ensured
    rw [same₂] at dropped
    refine ⟨content,es,fs₁,fs₂,fs₃,downloaded,written,entries,unpacked,complete,dropped,ensured,?_,?_⟩
    · rw [same₃,same₂]
    · rw [same₃,same₂]
  have here : w₃.fs = fs₃ := by rw [same₃]
  apply Triple.test
  · apply Triple.pure
    intro w' given _
    obtain ⟨rfl,taken⟩ := given
    rw [here] at taken
    have ensured := finish fs₃ (.inl ⟨taken,rfl⟩)
    rwa [← here] at ensured
  · apply Triple.guarded
    · apply Triple.each
      intro w' given
      obtain ⟨rfl,free⟩ := given
      apply (newItem_made env .freshSdk w').post
      intro _ _ after
      obtain ⟨fs,made,rfl⟩ := after
      rw [here] at free
      exact finish fs (.inr ⟨free,here ▸ made.2⟩)
    · exact Triple.pure fun _ _ => trivial

end IGCL.Prepare

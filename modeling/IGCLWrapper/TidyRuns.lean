import IGCLWrapper.PrepareFrame

/-! Histories whose SDK extractions run through. A run may still fail or be killed almost anywhere
else; none of them leaves a temporary folder, so a later download is never mixed with an old one. -/
namespace IGCL.Prepare

open FileTree AbruptScript

variable {κ : Type}

/-- The renaming of the SDK folder fails, and what is done about it goes through. -/
structure RenameCleanedUp (env : Env κ) : Prop where
  failed : env.rename .igcl = .failed ()
  zipSpared : ∀ left, env.remove .igcl (.zipAfter .rename) ≠ .killed left
  folderRemoved : env.remove .igcl .tempFolderAfterRename = .done ()

/-- What a run must be let do for the temporary folder to be gone after it: the extraction of the
SDK goes through, and the renaming or what is done when that fails; the archives have the expected
shape. -/
structure Tidy (zip : ZipFormat κ) (env : Env κ) : Prop where
  swigRooted : Rooted env zip .swig
  rooted : Rooted env zip .igcl
  extractable : ∀ content es, env.download .igcl = .done content → zip.entries content = some es →
    ∃ T, Tree.empty.putAll es = some T
  expanded : env.expand .igcl = .done ()
  renamed : env.rename .igcl = .done () ∨ RenameCleanedUp env

def NoLeftover (w : World κ) : Prop := w.fs.has Dependency.igcl.tempExtractFolder = false

theorem noLeftover_unaffected {ps : List Path}
    (apart : ∀ p ∈ ps, ¬p <+: Dependency.igcl.tempExtractFolder) :
    Unaffected ps fun fs : Tree String κ => fs.has Dependency.igcl.tempExtractFolder = false := by
  intro fs fs' same clear
  rw [Tree.has_of_node (same _ apart)]
  exact clear

section Stages

variable {env : Env κ} {zip : ZipFormat κ}

theorem swigStage_keeps (rooted : Rooted env zip .swig) : Keeps NoLeftover (swigStage env zip) :=
  swigStage_frame (noLeftover_unaffected (by decide)) rooted

theorem out_keeps_clear (fs fs' : Tree String κ) (clear : fs.has Dependency.igcl.tempExtractFolder = false)
    (made : fs.put outFolder .dir = some fs') : fs'.has Dependency.igcl.tempExtractFolder = false :=
  noLeftover_unaffected (by decide) fs fs' (Tree.put_outside made) clear

theorem existingIGCL_keeps : Keeps NoLeftover (existingIGCL env) :=
  existingIGCL_frame (noLeftover_unaffected (by decide)) out_keeps_clear

theorem cleanUpZip_keeps (failed : Stage) : Keeps NoLeftover (cleanUpZip env .igcl failed) :=
  cleanUpZip_frame env .igcl failed (noLeftover_unaffected (by decide))

/-- The SDK's zip file is there and its final folder is not. -/
def ReadyToUnpack (env : Env κ) (w : World κ) : Prop :=
  w.fs.has Dependency.igcl.destinationFolder = false ∧
    ∃ content, env.download .igcl = .done content ∧
      w.fs.file? Dependency.igcl.zipFilePath = some content

/-- With nothing in the temporary folder a proper archive is extracted without a conflict. -/
theorem expandArchive_tidy (tidy : Tidy zip env) :
    Triple (fun w => NoLeftover w ∧ ReadyToUnpack env w) (expandArchive env zip .igcl)
      (fun _ w => w.fs.has Dependency.igcl.destinationFolder = false) fun _ => NoLeftover := by
  intro w given
  obtain ⟨clear,free,content,downloaded,zipped⟩ := given
  have opened : archived zip .igcl w = zip.entries content := by rw [archived,zipped]; rfl
  cases entries : zip.entries content with
  | none =>
    simp only [expandArchive,command,tidy.expanded,opened,entries]
    exact clear
  | some es =>
    have below := tidy.rooted content es downloaded entries
    obtain ⟨T,written⟩ := tidy.extractable content es downloaded entries
    have vacant : ∀ q, Dependency.igcl.tempExtractFolder <+: q →
        w.fs.node q = (Tree.empty : Tree String κ).node q := by
      intro q inside
      rw [Tree.node_below_free clear inside]
      obtain ⟨r,rfl⟩ := inside
      rfl
    obtain ⟨fs,written'⟩ := Tree.putAll_congr below vacant written
    simp only [expandArchive,command,tidy.expanded,opened,entries,written']
    rw [Tree.has_of_node (putAll_below .igcl below written' _ (by decide))]
    exact free

theorem renameItem_tidy (tidy : Tidy zip env) :
    Triple (fun w => w.fs.has Dependency.igcl.destinationFolder = false ∧
        w.fs.has Dependency.igcl.tempExtractFolder = true) (renameItem env .igcl)
      (fun _ => NoLeftover) fun e _ => e = .thrown ∧ RenameCleanedUp env := by
  intro w given
  obtain ⟨free,there⟩ := given
  rcases tidy.renamed with renamed | cleaned
  · obtain ⟨fs,moved⟩ := (Tree.move_movable w.fs Dependency.igcl.tempExtractFolder
      Dependency.igcl.destinationFolder).mpr ⟨there,free,w.fs.isDir_root,by decide⟩
    simp only [renameItem,command,renamed,moved]
    exact Tree.move_left moved (by decide)
  · simp only [renameItem,command,cleaned.failed]
    exact ⟨rfl,cleaned⟩

theorem renameExtracted_tidy (tidy : Tidy zip env) :
    Triple (fun w => w.fs.has Dependency.igcl.destinationFolder = false ∧
        w.fs.has Dependency.igcl.tempExtractFolder = true) (renameExtracted env .igcl)
      (fun _ => NoLeftover) fun _ => NoLeftover := by
  apply Triple.tryCatch (C := fun _ => RenameCleanedUp env)
  · apply Triple.bind (R := fun _ => NoLeftover)
    · apply (renameItem_tidy tidy).consequence (fun _ holds => holds) (fun _ _ post => post)
      intro e w failed
      rw [if_pos failed.1]
      exact failed.2
    · exact fun _ => Triple.pure fun _ clear => clear
  apply Triple.bind (R := fun _ => NoLeftover)
  · apply Triple.bind (R := fun _ _ => RenameCleanedUp env)
    · intro w cleaned
      have went : Triple (fun _ => True) (cleanUpZip env .igcl .rename) (fun _ _ => True)
          fun _ _ => False := by
        apply Triple.test
        · exact (Triple.command_silent cleaned.zipSpared _ _).weaken fun _ _ => trivial
        · exact Triple.pure fun _ _ => trivial
      have kept : Triple (fun _ => True) (cleanUpZip env .igcl .rename) (fun _ _ => RenameCleanedUp env)
          fun _ => NoLeftover :=
        went.consequence (fun _ holds => holds) (fun _ _ _ => cleaned) fun _ _ stopped => stopped.elim
      exact kept w trivial
    intro _
    apply Triple.test
    · intro w given
      obtain ⟨cleaned,there⟩ := given
      simp only [removeItem,command,cleaned.folderRemoved,there,if_true,World.replace]
      rw [NoLeftover,Tree.has,Tree.remove_inside _ (by decide) (List.prefix_refl _)]
      rfl
    · exact Triple.pure fun _ given => given.2
  · exact fun _ => Triple.pure fun _ clear => clear

theorem unpack_tidy (tidy : Tidy zip env) :
    Triple (fun w => NoLeftover w ∧ ReadyToUnpack env w) (unpack env zip .igcl)
      (fun _ => NoLeftover) fun _ => NoLeftover := by
  apply Triple.bind (R := fun ok w => if ok = true then
    w.fs.has Dependency.igcl.destinationFolder = false else NoLeftover w)
  · apply Triple.tryCatch (C := NoLeftover)
    · apply Triple.bind
      · apply (expandArchive_tidy tidy).consequence (fun _ holds => holds) (fun _ _ post => post)
        intro e w clear
        split <;> exact clear
      · intro _
        exact Triple.pure fun w free => free
    · apply Triple.bind (cleanUpZip_keeps .expand)
      intro _
      exact Triple.pure fun w clear => clear
  · intro extracted
    apply Triple.ite
    · intro passed
      subst passed
      apply Triple.bind (R := fun ok w => if ok = true then
        w.fs.has Dependency.igcl.destinationFolder = false ∧
          w.fs.has Dependency.igcl.tempExtractFolder = true else NoLeftover w)
      · apply Triple.test
        · exact Triple.pure fun w both => both
        · apply Triple.bind (R := fun _ => NoLeftover)
          · exact (cleanUpZip_keeps .locate).weaken fun _ both => both.2
          · intro _
            exact Triple.pure fun w clear => clear
      · intro located
        apply Triple.ite
        · intro passed
          subst passed
          exact renameExtracted_tidy tidy
        · intro failed
          exact Triple.pure fun w clear => by rwa [if_neg failed] at clear
    · intro failed
      exact Triple.pure fun w clear => by rwa [if_neg failed] at clear

theorem freshIGCL_tidy (tidy : Tidy zip env) :
    Triple (fun w => NoLeftover w ∧ w.fs.has Dependency.igcl.destinationFolder = false)
      (freshIGCL env zip) (fun _ => NoLeftover) fun _ => NoLeftover := by
  apply Triple.bind (R := fun _ w => NoLeftover w ∧ ReadyToUnpack env w)
  · apply Triple.each
    intro w₀ given
    obtain ⟨clear,free⟩ := given
    apply Triple.bind (R := fun ok w => NoLeftover w ∧ (ok = true → ReadyToUnpack env w))
    · have kept := fetch_frame env zip .igcl (noLeftover_unaffected (by decide))
      apply kept.along (P := fun w => w = w₀) (fun w same => same ▸ clear)
      apply (fetch_done env zip .igcl w₀).post
      intro ok w ended passed
      obtain ⟨content,fs,downloaded,written,rfl⟩ := ended passed
      refine ⟨?_,content,downloaded,file?_put_self written⟩
      rw [Tree.has_of_node (put_zip_outside .igcl written _ (by decide))]
      exact free
    · intro ok
      apply Triple.ite
      · intro passed
        exact Triple.pure fun w both => ⟨both.1,both.2 passed⟩
      · intro _
        exact Triple.stop fun w both => both.1
  · intro _
    apply Triple.bind (R := fun _ => NoLeftover)
    · apply Triple.bind (unpack_tidy tidy)
      intro _
      exact Keeps.ite (Keeps.pure ()) (Keeps.stop _)
    · intro _
      apply Keeps.bind
      · apply Keeps.require
        apply Keeps.test (Keeps.pure true)
        apply Keeps.bind (cleanUpZip_keeps .validate)
        intro _
        apply Keeps.bind _ fun _ => Keeps.pure false
        exact Keeps.test (removeItem_frame env .igcl _ _ (noLeftover_unaffected (by decide))) (Keeps.pure ())
      · intro _
        apply Keeps.bind (dropZip_frame env .igcl (noLeftover_unaffected (by decide)))
        intro _
        apply Keeps.require
        exact Keeps.test (Keeps.pure true) (Keeps.guarded (newItem_frame env _ _ out_keeps_clear) (Keeps.pure ()))

theorem prepare_tidy (tidy : Tidy zip env) : Keeps NoLeftover (prepare env zip) := by
  apply Keeps.bind (swigStage_keeps tidy.swigRooted)
  intro _
  apply Triple.each
  intro w₀ clear
  apply Triple.bind (R := fun _ w => NoLeftover w ∧ w.fs.has Dependency.igcl.destinationFolder = false)
  · have keeps : Triple (fun w => w = w₀) (existingIGCL env) (fun _ => NoLeftover) fun _ => NoLeftover :=
      existingIGCL_keeps.weaken fun w same => same ▸ clear
    apply (keeps.and (existingIGCL_done env w₀)).consequence (fun _ same => same) _
      fun _ _ abrupt => abrupt.1
    intro _ w after
    obtain ⟨after,_,rfl⟩ := after
    refine ⟨after,?_⟩
    rw [Tree.has,Tree.remove_inside _ (by decide) (List.prefix_refl _)]
    rfl
  · intro _
    exact freshIGCL_tidy tidy

end Stages

/-- Tidy runs leave no temporary folder if they found none. -/
theorem tidy_history {zip : ZipFormat κ} {history : List (Env κ)} (tidy : ∀ env ∈ history, Tidy zip env)
    (fs : Tree String κ) (clear : fs.has Dependency.igcl.tempExtractFolder = false) :
    (filesAfter zip fs history).has Dependency.igcl.tempExtractFolder = false :=
  history_keeps (I := fun fs => fs.has Dependency.igcl.tempExtractFolder = false)
    (fun env member => prepare_tidy (tidy env member)) fs clear

/-- After a history of tidy runs from an empty directory every fresh download is exact. -/
theorem tidy_history_exact {zip : ZipFormat κ} {history : List (Env κ)}
    (tidy : ∀ env ∈ history, Tidy zip env) {later : Env κ} (rooted : Rooted later zip .swig)
    {content : κ} {es : Entries κ}
    (zero : (run zip later (filesAfter zip Tree.empty history)).1 = some 0)
    (fetched : (run zip later (filesAfter zip Tree.empty history)).2.fetched .igcl = some content)
    (opened : zip.entries content = some es) :
    ExactSnapshot es (run zip later (filesAfter zip Tree.empty history)).2.fs := by
  obtain ⟨start,_,settled,exact⟩ := run_exactSnapshot_iff zero fetched opened
  apply (exact.trans (overwritten_congr (settled.2 rooted))).mpr
  intro q leftover
  have clear := tidy_history tidy Tree.empty rfl
  rw [Tree.file?,World.start,Tree.node_below_free clear (List.prefix_append _ q)] at leftover
  exact absurd rfl leftover

/-- The first snapshot is downloaded and extracted, and then its folder cannot be renamed. -/
def refusedRun : Env Nat := onlineEnv 1 (.failed ())

theorem refusedRun_tidy : Tidy twoSnapshots refusedRun where
  swigRooted := rooted_of_done rfl rfl (by decide)
  rooted := rooted_of_done rfl rfl (by decide)
  extractable := by
    intro content es downloaded opened
    obtain rfl := Fate.done.inj downloaded
    obtain rfl := Option.some.inj opened
    exact ⟨_,rfl⟩
  expanded := rfl
  renamed := .inr ⟨rfl,nofun,rfl⟩

theorem exact_after_refused_run :
    (run twoSnapshots refusedRun Tree.empty).2.fetched .igcl = some 1 ∧
    ExactSnapshot (sdkEntries [])
      (run twoSnapshots laterRun (filesAfter twoSnapshots Tree.empty [refusedRun])).2.fs := by
  have tidy : ∀ env ∈ [refusedRun], Tidy twoSnapshots env := by
    intro env member
    rw [List.mem_singleton.mp member]
    exact refusedRun_tidy
  have fetched : (run twoSnapshots laterRun (filesAfter twoSnapshots Tree.empty [refusedRun])).2.fetched
      .igcl = some 2 := by decide
  exact ⟨by decide,tidy_history_exact tidy (rooted_of_done rfl rfl (by decide)) (by decide) fetched rfl⟩

end IGCL.Prepare

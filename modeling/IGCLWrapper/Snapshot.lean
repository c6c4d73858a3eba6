import IGCLWrapper.ExitCode

/-! Which files the SDK folder holds after a fresh download, given what earlier runs have left.
Extraction writes into the temporary folder without emptying it first. -/
namespace IGCL.Prepare

open FileTree AbruptScript

variable {κ : Type}

/-- The files after a sequence of runs, each with its own outside. -/
def filesAfter (zip : ZipFormat κ) (fs : Tree String κ) (history : List (Env κ)) : Tree String κ :=
  history.foldl (fun fs env => (run zip env fs).2.fs) fs

/-- The file content an SDK archive has for a path below its top folder. -/
def snapshot (es : Entries κ) (q : Path) : Option κ :=
  Tree.content es (Dependency.igcl.tempExtractFolder ++ q)

/-- The SDK folder holds the files of the archive, with their content, and no others. -/
def ExactSnapshot (es : Entries κ) (fs : Tree String κ) : Prop :=
  ∀ q, fs.file? (Dependency.igcl.destinationFolder ++ q) = snapshot es q

/-- Every file lying in the temporary folder has the path of a file of the archive. -/
def Overwritten (es : Entries κ) (fs : Tree String κ) : Prop :=
  ∀ q, fs.file? (Dependency.igcl.tempExtractFolder ++ q) ≠ none → snapshot es q ≠ none

theorem or_eq_left_iff {α : Type} (a b : Option α) : a.or b = a ↔ (b ≠ none → a ≠ none) := by
  cases a <;> cases b <;> simp

theorem outside_of_head {ps : List Path} {folder : Path} {fs fs' : Tree String κ}
    (same : Tree.SameOutside ps fs fs') (apart : ∀ p ∈ ps, ¬p <+: folder ∧ ¬folder <+: p) (q : Path) :
    fs'.node (folder ++ q) = fs.node (folder ++ q) := by
  apply same
  intro p member inside
  rcases List.prefix_or_prefix_of_prefix inside (List.prefix_append folder q) with below | above
  · exact (apart p member).1 below
  · exact (apart p member).2 above

/-- After a fresh installation the SDK folder is what lay in the temporary folder, overwritten by
the archive. -/
theorem refreshed_file? {env : Env κ} {zip : ZipFormat κ} {w₀ w : World κ} {content : κ}
    {es : Entries κ} (refreshed : Refreshed env zip w₀ w) (fetched : w.fetched .igcl = some content)
    (opened : zip.entries content = some es) (q : Path) :
    w.fs.file? (Dependency.igcl.destinationFolder ++ q) =
      (snapshot es q).or (w₀.fs.file? (Dependency.igcl.tempExtractFolder ++ q)) := by
  obtain ⟨content',es',fs₁,fs₂,fs₃,_,written,opened',⟨mid,extracted,renamed⟩,_,dropped,ensured,_,
    recorded⟩ := refreshed
  rw [recorded,Function.update_self] at fetched
  obtain rfl := Option.some.inj fetched
  obtain rfl := Option.some.inj (opened.symm.trans opened')
  have zipped := put_zip_outside .igcl written
  have final : w.fs.file? (Dependency.igcl.destinationFolder ++ q) =
      fs₃.file? (Dependency.igcl.destinationFolder ++ q) := by
    rcases ensured with ⟨_,same⟩ | ⟨_,made⟩
    · rw [same]
    · exact Tree.file?_of_node (outside_of_head (Tree.put_outside made) (by decide) q)
  rw [final,Tree.file?_of_node (outside_of_head dropped (by decide) q),
    Tree.file?_of_node (Tree.move_arrived renamed q),Tree.putAll_file? extracted,snapshot,
    Tree.file?_of_node (outside_of_head zipped (by decide) q)]

/-- A run that downloads an SDK archive and exits with zero, on any files: the SDK folder is
exactly the archive if and only if every left-over file was overwritten. -/
theorem run_exactSnapshot_iff {env : Env κ} {zip : ZipFormat κ} {fs : Tree String κ} {content : κ}
    {es : Entries κ} (zero : (run zip env fs).1 = some 0)
    (fetched : (run zip env fs).2.fetched .igcl = some content)
    (opened : zip.entries content = some es) :
    ∃ start, sdkStart env zip fs = some start ∧ SwigSettled env zip (World.start fs) start ∧
      (ExactSnapshot es (run zip env fs).2.fs ↔ Overwritten es start.fs) := by
  obtain ⟨start,started,_,settled,finished⟩ := run_exits_zero zero
  refine ⟨start,started,settled,?_⟩
  cases finished with
  | kept kept =>
    have unfetched : (run zip env fs).2.fetched .igcl = none := by
      rcases kept.2 with ⟨_,same⟩ | ⟨_,⟨fs',_,same⟩ | ⟨_,same⟩⟩
      · rw [same]; exact settled.1
      · rw [same]; exact settled.1
      · rw [same]; exact settled.1
    rw [unfetched] at fetched
    contradiction
  | refreshed incomplete refreshed =>
    have leftover : ∀ q, (start.fs.remove Dependency.igcl.destinationFolder).file?
        (Dependency.igcl.tempExtractFolder ++ q) =
          start.fs.file? (Dependency.igcl.tempExtractFolder ++ q) :=
      fun q => Tree.file?_of_node (outside_of_head (Tree.remove_outside _ _) (by decide) q)
    apply forall_congr'
    intro q
    rw [refreshed_file? refreshed fetched opened q,leftover q]
    exact or_eq_left_iff _ _

theorem overwritten_congr {es : Entries κ} {fs fs' : Tree String κ}
    (same : Tree.SameOutside Dependency.swig.footprint fs fs') :
    Overwritten es fs' ↔ Overwritten es fs := by
  apply forall_congr'
  intro q
  rw [Tree.file?_of_node (outside_of_head same (by decide) q)]

/-- After any history of runs from an empty directory, interrupted or not, a later run that downloads
an SDK archive and exits with zero leaves exactly that archive if and only if each file left in the
temporary folder is also in the archive. -/
theorem fresh_download_exact_iff (zip : ZipFormat κ) (history : List (Env κ)) (later : Env κ)
    (content : κ) (es : Entries κ)
    (zero : (run zip later (filesAfter zip Tree.empty history)).1 = some 0)
    (fetched : (run zip later (filesAfter zip Tree.empty history)).2.fetched .igcl = some content)
    (opened : zip.entries content = some es) :
    ∃ start, sdkStart later zip (filesAfter zip Tree.empty history) = some start ∧
      (ExactSnapshot es (run zip later (filesAfter zip Tree.empty history)).2.fs ↔
        Overwritten es start.fs) ∧
      (Rooted later zip .swig →
        (ExactSnapshot es (run zip later (filesAfter zip Tree.empty history)).2.fs ↔
          Overwritten es (filesAfter zip Tree.empty history))) := by
  obtain ⟨start,started,settled,exact⟩ := run_exactSnapshot_iff zero fetched opened
  refine ⟨start,started,exact,?_⟩
  intro rooted
  exact exact.trans (overwritten_congr (settled.2 rooted))

theorem rooted_of_done {env : Env κ} {zip : ZipFormat κ} {d : Dependency} {content : κ}
    {es : Entries κ} (downloaded : env.download d = .done content) (opened : zip.entries content = some es)
    (below : ∀ e ∈ es, d.tempExtractFolder <+: e.1) : Rooted env zip d := by
  intro content' es' downloaded' opened'
  obtain rfl := Fate.done.inj (downloaded.symm.trans downloaded')
  obtain rfl := Option.some.inj (opened.symm.trans opened')
  exact below

def sdkEntries (headers : List String) : Entries Nat :=
  (["Source","cApiWrapper.cpp"] :: ["include","igcl_api.h"] :: headers.map fun name => ["include",name]).map
    fun path => (Dependency.igcl.tempExtractFolder ++ path,.file 0)

def twoSnapshots : ZipFormat Nat where
  length _ := 6 * 1024 * 1024
  entries
    | 0 => some [(["swigwin-4.3.1","swig.exe"],.file 0)]
    | 1 => some (sdkEntries ["ctl_api_old.h"])
    | 2 => some (sdkEntries [])
    | _ => none

def onlineEnv (sdk : Nat) (renamed : Fate Unit Unit) : Env Nat where
  probe := .done ()
  swigVersion _ := .done ⟨0,true⟩
  download
    | .swig => .done 0
    | .igcl => .done sdk
  remove _ _ := .done ()
  expand _ := .done ()
  rename
    | .swig => .done ()
    | .igcl => renamed
  newItem _ := .done ()

/-- Killed between the extraction and the renaming of the first snapshot. -/
def killedRun : Env Nat := onlineEnv 1 (.killed ())

def laterRun : Env Nat := onlineEnv 2 (.done ())

theorem dropped_header_survives :
    (∀ d, Rooted killedRun twoSnapshots d ∧ Rooted laterRun twoSnapshots d) ∧
    (run twoSnapshots laterRun (filesAfter twoSnapshots Tree.empty [killedRun])).1 = some 0 ∧
    (run twoSnapshots laterRun (filesAfter twoSnapshots Tree.empty [killedRun])).2.fetched .igcl = some 2 ∧
    ¬ExactSnapshot (sdkEntries [])
      (run twoSnapshots laterRun (filesAfter twoSnapshots Tree.empty [killedRun])).2.fs := by
  refine ⟨?_,by decide,by decide,?_⟩
  · intro d
    cases d with
    | swig => exact ⟨rooted_of_done rfl rfl (by decide),rooted_of_done rfl rfl (by decide)⟩
    | igcl => exact ⟨rooted_of_done rfl rfl (by decide),rooted_of_done rfl rfl (by decide)⟩
  · intro exact
    exact absurd (exact ["include","ctl_api_old.h"]) (by decide)

theorem first_download_exact :
    ExactSnapshot (sdkEntries []) (run twoSnapshots laterRun Tree.empty).2.fs := by
  obtain ⟨_,_,_,rooted⟩ := fresh_download_exact_iff twoSnapshots [] laterRun 2 (sdkEntries [])
    (by decide) (by decide) rfl
  apply (rooted (rooted_of_done rfl rfl (by decide))).mpr
  intro q leftover
  exact absurd rfl leftover

end IGCL.Prepare

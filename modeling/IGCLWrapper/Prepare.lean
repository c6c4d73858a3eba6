import IGCLWrapper.AbruptScript
import IGCLWrapper.FileTree

/-! `prepare_igcl.ps1` over the files below its working directory. A path name stands for all names
that Windows takes for the same, whatever the case of their letters. What the outside does in one run
(the network, the file system's refusals, `swig.exe`, a kill) is fixed beforehand in an environment;
console output and the progress preference are left out. -/
namespace IGCL.Prepare

open FileTree AbruptScript

abbrev Path := List String

inductive Dependency where
  | swig
  | igcl
  deriving DecidableEq, Repr

namespace Dependency

/-- `$swigZipFilePath` and `$zipFilePath`. -/
def zipFilePath : Dependency → Path
  | .swig => ["swigwin.zip"]
  | .igcl => ["master.zip"]

/-- `$swigDestinationFolder` and `$destinationFolder`. -/
def destinationFolder : Dependency → Path
  | .swig => ["swigwin"]
  | .igcl => ["drivers.gpu.control-library"]

/-- `$swigTempExtractFolder` and `$tempExtractFolder`. -/
def tempExtractFolder : Dependency → Path
  | .swig => ["swigwin-4.3.1"]
  | .igcl => ["drivers.gpu.control-library-master"]

/-- A smaller download is taken for an error page: 5MB and 100KB. -/
def minimumLength : Dependency → Nat
  | .swig => 5 * 1024 * 1024
  | .igcl => 100 * 1024

end Dependency

def swigExecutablePath : Path := ["swigwin","swig.exe"]
def outFolder : Path := ["IGCLWrapper","cs_bindings"]

abbrev Entries (κ : Type) := List (Path × Node κ)

/-- What the script needs of the archive format: a file's length and, if the file is a readable
archive, its entries. -/
structure ZipFormat (κ : Type) where
  length : κ → Nat
  entries : κ → Option (Entries κ)

structure SwigVersion where
  lastExitCode : Int
  namesSwig : Bool
  deriving DecidableEq, Repr

def SwigVersion.functional (v : SwigVersion) : Bool := v.lastExitCode == 0 && v.namesSwig

inductive VersionCheck where
  | existing
  | installed
  deriving DecidableEq, Repr

/-- The part of an installer that failed when the zip file is cleaned up. -/
inductive Stage where
  | download
  | removeExisting
  | expand
  | locate
  | rename
  | validate
  deriving DecidableEq, Repr

inductive RemoveSite where
  | existingFolder
  | zipAfter (failed : Stage)
  | tempFolderAfterRename
  | incompleteFolder
  | zip
  deriving DecidableEq, Repr

/-- The calls of `New-Item`: beside an existing SDK and after a fresh one. -/
inductive NewItemSite where
  | existingSdk
  | freshSdk
  deriving DecidableEq, Repr

/-- What the outside does in one run. A download that breaks off may leave a partial file, a
removal may have got to some of the files, and an extraction to some of the entries. -/
structure Env (κ : Type) where
  probe : Fate Unit Unit
  swigVersion : VersionCheck → Fate SwigVersion Unit
  download : Dependency → Fate κ (Option κ)
  remove : Dependency → RemoveSite → Fate Unit (List Path)
  expand : Dependency → Fate Unit Nat
  rename : Dependency → Fate Unit Unit
  newItem : NewItemSite → Fate Unit Unit

/-- The file tree, the outcome of the last version check and what was downloaded in this run. -/
structure World (κ : Type) where
  fs : Tree String κ
  checked : Option Bool
  fetched : Dependency → Option κ

def World.start {κ : Type} (fs : Tree String κ) : World κ := ⟨fs,none,fun _ => none⟩

abbrev Prog (κ α : Type) := Script (World κ) α

variable {κ : Type}

section Cmdlets

def testPath (p : Path) : Prog κ Bool := Script.inspect fun w => w.fs.has p

def World.replace (w : World κ) : Option (Tree String κ) → Except (World κ) (World κ)
  | some fs => .ok { w with fs }
  | none => .error w

/-- `(Get-Item p).Length`, which is one for a folder. -/
def getItemLength (zip : ZipFormat κ) (p : Path) : Prog κ Nat :=
  Script.inspect fun w => (w.fs.file? p).elim 1 zip.length

variable (env : Env κ) (zip : ZipFormat κ) (d : Dependency)

def invokeWebRequest : Prog κ Unit :=
  command .stop (env.download d)
    (fun content w => match w.fs.put d.zipFilePath (.file content) with
      | some fs => .ok { w with fs, fetched := Function.update w.fetched d (some content) }
      | none => .error w)
    (fun left w => { w with
      fs := (left.bind fun content => w.fs.put d.zipFilePath (.file content)).getD w.fs })

def removeItem (action : ErrorAction) (site : RemoveSite) (p : Path) : Prog κ Unit :=
  command action (env.remove d site)
    (fun _ w => w.replace (if w.fs.has p then some (w.fs.remove p) else none))
    (fun gone w => { w with fs := w.fs.removeBelow p gone })

def archived (w : World κ) : Option (Entries κ) := (w.fs.file? d.zipFilePath).bind zip.entries

def expandArchive : Prog κ Unit :=
  command .stop (env.expand d)
    (fun _ w => match archived zip d w with
      | none => .error w
      | some es => match w.fs.putAll es with
        | some fs => .ok { w with fs }
        | none => .error { w with fs := w.fs.putUntil es })
    (fun n w => { w with fs := w.fs.putUntil (((archived zip d w).getD []).take n) })

def renameItem : Prog κ Unit :=
  command .stop (env.rename d)
    (fun _ w => w.replace (w.fs.move d.tempExtractFolder d.destinationFolder))
    (fun _ w => w)

def newItem (action : ErrorAction) (site : NewItemSite) : Prog κ Unit :=
  command action (env.newItem site)
    (fun _ w => w.replace (w.fs.put outFolder .dir))
    (fun _ w => w)

/-- `& $swigPath -version`. What is not a file cannot be executed. -/
def swigVersion (check : VersionCheck) (swigPath : Path) : Prog κ Bool := fun w =>
  match w.fs.file? swigPath, env.swigVersion check with
  | none, _ => (.error .thrown,{ w with checked := some false })
  | some _, .done v => (.ok v.functional,{ w with checked := some v.functional })
  | some _, .failed _ => (.error .thrown,{ w with checked := some false })
  | some _, .killed _ => (.error .killed,w)

end Cmdlets

section Parts

variable (env : Env κ) (zip : ZipFormat κ) (d : Dependency)

/-- The clean-up that every failure of an installer starts with. -/
def cleanUpZip (failed : Stage) : Prog κ Unit := do
  if ← testPath d.zipFilePath then
    removeItem env d .silentlyGoOn (.zipAfter failed) d.zipFilePath

def downloadAndValidate : Prog κ Unit := do
  invokeWebRequest env d
  if ← testPath d.zipFilePath then
    let fileSize ← getItemLength zip d.zipFilePath
    if fileSize < d.minimumLength then Script.stop .thrown
  else Script.stop .thrown

def fetch : Prog κ Bool :=
  Script.guarded (downloadAndValidate env zip d) (cleanUpZip env d .download)

def removeExisting (onError : Prog κ Unit) : Prog κ Bool :=
  Script.guarded (removeItem env d .stop .existingFolder d.destinationFolder) onError

def extract : Prog κ Bool :=
  Script.guarded (expandArchive env zip d) (cleanUpZip env d .expand)

def locateExtracted : Prog κ Bool := do
  if ← testPath d.tempExtractFolder then
    return true
  else
    cleanUpZip env d .locate
    return false

def renameExtracted : Prog κ Bool :=
  Script.guarded (renameItem env d) do
    cleanUpZip env d .rename
    if ← testPath d.tempExtractFolder then
      removeItem env d .silentlyGoOn .tempFolderAfterRename d.tempExtractFolder

/-- The zip file is removed after a success; a failure to do so is only a warning. -/
def dropZip : Prog κ Unit :=
  Script.tryCatch (removeItem env d .stop .zip d.zipFilePath) (pure ())

def unpack : Prog κ Bool :=
  Script.andThen (extract env zip d) (Script.andThen (locateExtracted env d) (renameExtracted env d))

end Parts

section Functions

variable (env : Env κ) (zip : ZipFormat κ)

def sdkComplete (fs : Tree String κ) (iGCLPath : Path) : Bool :=
  let requiredPaths := [iGCLPath ++ ["Source","cApiWrapper.cpp"],iGCLPath ++ ["include","igcl_api.h"]]
  let missingFiles := requiredPaths.filter fun path => !fs.has path
  missingFiles.isEmpty

def testIGCLSDKCompleteness (iGCLPath : Path) : Prog κ Bool :=
  Script.inspect fun w => sdkComplete w.fs iGCLPath

def testInternetConnection : Prog κ Bool :=
  Script.guarded (command .stop env.probe (fun _ w => .ok w) (fun _ w => w)) (pure ())

def testSwigInstallation (check : VersionCheck) (swigPath : Path) : Prog κ Bool := do
  if ← testPath swigPath then
    Script.tryCatch (swigVersion env check swigPath) (pure false)
  else
    return false

def removeExistingSwig : Prog κ Bool := do
  if ← testPath Dependency.swig.destinationFolder then
    removeExisting env .swig (cleanUpZip env .swig .removeExisting)
  else
    return true

/-- `Install-SwigWindows`: the existing folder goes after the download. -/
def installSwigWindows : Prog κ Bool :=
  Script.andThen (fetch env zip .swig) <|
  Script.andThen (removeExistingSwig env) <|
  Script.andThen (unpack env zip .swig) do
    dropZip env .swig
    testSwigInstallation env .installed swigExecutablePath

/-- Everything before the SDK: the connectivity probe and the SWIG dependency check. -/
def swigStage : Prog κ Unit := do
  Script.require (testInternetConnection env)
  if ← testSwigInstallation env .existing swigExecutablePath then
    pure ()
  else
    Script.require (installSwigWindows env zip)

/-- Beside an existing SDK the output folder is created without an error action. -/
def createOutFolderQuietly : Prog κ Unit := do
  if ← testPath outFolder then pure ()
  else newItem env .silentlyGoOn .existingSdk

/-- An existing SDK folder ends the script if it is complete and is removed if it is not. -/
def existingIGCL : Prog κ Unit := do
  if ← testPath Dependency.igcl.destinationFolder then
    if ← testIGCLSDKCompleteness Dependency.igcl.destinationFolder then
      createOutFolderQuietly env
      Script.stop (.exited 0)
    else
      Script.require (removeExisting env .igcl (pure ()))

def removeIncomplete : Prog κ Unit := do
  if ← testPath Dependency.igcl.destinationFolder then
    removeItem env .igcl .silentlyGoOn .incompleteFolder Dependency.igcl.destinationFolder

def validateFresh : Prog κ Bool := do
  if ← testIGCLSDKCompleteness Dependency.igcl.destinationFolder then
    return true
  else
    cleanUpZip env .igcl .validate
    removeIncomplete env
    return false

def createOutFolder : Prog κ Bool := do
  if ← testPath outFolder then
    return true
  else
    Script.guarded (newItem env .stop .freshSdk) (pure ())

/-- The rest of the script: download, extract, rename, validate. -/
def freshIGCL : Prog κ Unit := do
  Script.require (fetch env zip .igcl)
  Script.require (unpack env zip .igcl)
  Script.require (validateFresh env)
  dropZip env .igcl
  Script.require (createOutFolder env)

def prepare : Prog κ Unit := do
  swigStage env zip
  existingIGCL env
  freshIGCL env zip

end Functions

/-- The exit code of a run: zero at the end of the script, one for an uncaught exception, and
none for a killed run. -/
def exitCode : Except Stop Unit → Option Nat
  | .ok () => some 0
  | .error (.exited code) => some code
  | .error .thrown => some 1
  | .error .killed => none

def run (zip : ZipFormat κ) (env : Env κ) (fs : Tree String κ) : Option Nat × World κ :=
  let ended := prepare env zip (World.start fs)
  (exitCode ended.1,ended.2)

end IGCL.Prepare

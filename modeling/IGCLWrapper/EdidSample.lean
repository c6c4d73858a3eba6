import IGCLWrapper.Edid
import IGCLWrapper.SampleHost

/-! The EDID management sample below its `main`: what it asks of each display, for the options it
was started with. -/
namespace IGCL.Samples.EdidManagement

open BlockMemory ExitLabel

variable {t : Target} {ε : Type}

abbrev Optype := CtlEdidManagementOptype

/-- The calls and the allocations that a macro's line can name. -/
inductive Site where
  | displayOutput | getDisplayProperties | lockMonitor | lockSupplied | unlock | override | remove
  | read1 | read2 | edidBuf
  deriving DecidableEq, Repr

/-- The tests that are reported as passed. -/
inductive Test where
  | lockSupplied | lockMonitor | unlock | override | read | removeOverridden
  deriving DecidableEq, Repr

/-- The calls of `ctlEdidManagement` with their codes, what is written to the file and the lines that
are printed, without their wording. -/
inductive Event (t : Target) where
  | managed (hDisplayOutput : CtlDisplayOutputHandle t) (opType : Optype) (edidType : CtlEdidType)
      (code : CtlResult)
  | fileWritten (edid : List UInt8)
  | edidSize (size : UInt32)
  | audioNotFound
  | edidPrinted (edid : List UInt8)
  | failed (site : Site) (code : CtlResult)
  | allocationFailed (site : Site)
  | passed (test : Test)
  | enumerateDisplayOutputsFailed (code : CtlResult)
  | skippingAdapter (adapterIndex : Nat)
  | enumerateDisplayHandlesFailed (code : CtlResult)
  deriving DecidableEq, Repr

/-- The statics that `main` sets from the command line. -/
structure Options where
  edidMgmtOpType : Optype
  tgtId : UInt32
  isCustomEdid : Bool
  adapterNumber : UInt32
  writeBinaryFile : Bool
  disableAudioInEdid : Bool
  edidOverrideBuf : List UInt8
  deriving DecidableEq, Repr

def loadBytes (pEdidBuf : Addr) (size : UInt32) : Body ε (Sample (Event t)) (List UInt8) :=
  Body.act fun s => (s.heap.read pEdidBuf 0 size.toNat).map fun bytes => (bytes,s)

/-- `RemoveAudioCapsFromEdid` on a heap buffer. -/
def removeAudioCaps (host : Host t) (pEdidBuf : Addr) (edidSize : UInt32) :
    Body ε (Sample (Event t)) Nat :=
  Body.act fun s =>
    (s.heap.block pEdidBuf).bind fun cells =>
      (Edid.removeAudioCapsFromEdid host.memcpyS cells edidSize.toNat 0).bind fun edited =>
        (s.heap.write ⟨pEdidBuf,0,edited.pEdidBuf⟩).map fun heap =>
          (edited.numAudioBlocksRemoved,{ s with heap := heap })

/-- The part of `EdidMgmtApi` for `-noaud`. -/
def disableAudio (o : Options) (host : Host t) (pEdidBuf : Addr) (edidSize : UInt32) :
    Body ε (Sample (Event t)) Unit :=
  if o.disableAudioInEdid then do
    let numAudioBlocksRemoved ← removeAudioCaps host pEdidBuf edidSize
    if numAudioBlocksRemoved = 0 then print .audioNotFound else pure ()
  else pure ()

/-- `WriteEdidToFile`, when there is a file to write. -/
def writeEdidToFile (o : Options) (pEdidBuf : Addr) (edidSize : UInt32) :
    Body ε (Sample (Event t)) Unit :=
  if o.writeBinaryFile then do
    let edid ← loadBytes pEdidBuf edidSize
    print (.fileWritten edid)
  else pure ()

def useEdid (o : Options) (host : Host t) (pEdidBuf : Addr) (edidSize : UInt32) :
    Body ε (Sample (Event t)) Unit := do
  disableAudio o host pEdidBuf edidSize
  writeEdidToFile o pEdidBuf edidSize
  let edid ← loadBytes pEdidBuf edidSize
  print (.edidPrinted edid)

/-- The argument block of `EdidMgmtApi`; the size is zero without a `pEdidSz`. -/
def managementArgs (t : Target) (opType : Optype) (edidType : CtlEdidType) (pEdidSz : Option UInt32)
    (pEdidBuf : EdidBuffer) : CtlEdidManagementArgs :=
  ⟨UInt32.ofNat t.ctlEdidManagementArgs.size,0,opType,edidType,pEdidSz.getD 0,pEdidBuf,0⟩

def logEdidSize (pEdidSz : Option UInt32) (edidSize : UInt32) : Body ε (Sample (Event t)) Unit :=
  match pEdidSz with
  | none => pure ()
  | some _ => print (.edidSize edidSize)

def takeEdid (o : Options) (host : Host t) (pEdidSz : Option UInt32) (pEdidBuf : EdidBuffer)
    (edidSize : UInt32) : Body ε (Sample (Event t)) Unit := do
  logEdidSize pEdidSz edidSize
  match pEdidBuf with
  | .heap buf => if buf ≠ 0 then useEdid o host buf edidSize else pure ()
  | .static _ => pure ()

/-- `EdidMgmtApi`, with what it leaves in `*pEdidSz`. The static vector is never read into. -/
def edidMgmtApi (o : Options) (host : Host t) (hDisplayOutput : CtlDisplayOutputHandle t)
    (opType : Optype) (edidType : CtlEdidType) (pEdidSz : Option UInt32) (pEdidBuf : EdidBuffer) :
    Body ε (Sample (Event t)) (Answer (Option UInt32)) := do
  let answer ← call host fun runtime =>
    ctlEdidManagement runtime hDisplayOutput (managementArgs t opType edidType pEdidSz pEdidBuf)
  print (.managed hDisplayOutput opType edidType answer.code)
  if answer.code ≠ .success then pure ⟨answer.code,pEdidSz⟩
  else if opType = .readEdid then do
    takeEdid o host pEdidSz pEdidBuf answer.out.edidSize
    pure ⟨answer.code,pEdidSz.map fun _ => answer.out.edidSize⟩
  else pure ⟨answer.code,pEdidSz⟩

structure Locals where
  pEdidBuf : Addr
  result : CtlResult
  deriving DecidableEq, Repr

/-- One operation with its check. No buffer is allocated at these places. -/
def manage (o : Options) (host : Host t) (hDisplayOutput : CtlDisplayOutputHandle t)
    (opType : Optype) (edidType : CtlEdidType) (pEdidSz : Option UInt32) (pEdidBuf : EdidBuffer)
    (site : Site) : Body Locals (Sample (Event t)) Unit := do
  let answer ← edidMgmtApi o host hDisplayOutput opType edidType pEdidSz pEdidBuf
  logAndExitOnError answer.code (.failed site answer.code) ⟨0,answer.code⟩

/-- `&EdidOverrideBuf[0]` with the size of the vector; undefined for an empty one. -/
def manageSupplied (o : Options) (host : Host t) (hDisplayOutput : CtlDisplayOutputHandle t)
    (opType : Optype) (site : Site) : Body Locals (Sample (Event t)) Unit :=
  if o.edidOverrideBuf = [] then Body.undefined
  else manage o host hDisplayOutput opType .override
    (some (UInt32.ofNat o.edidOverrideBuf.length)) (.static o.edidOverrideBuf) site

def readTwice (o : Options) (host : Host t) (hDisplayOutput : CtlDisplayOutputHandle t) :
    Body Locals (Sample (Event t)) Addr := do
  let size ← edidMgmtApi o host hDisplayOutput .readEdid .current (some 0) (.heap 0)
  logAndExitOnError size.code (.failed .read1 size.code) ⟨0,size.code⟩
  let edidSize := size.out.getD 0
  let pEdidBuf ← malloc host edidSize.toNat
  exitOnMemAllocFailure pEdidBuf (.allocationFailed .edidBuf) ⟨pEdidBuf,.errorInvalidNullPointer⟩
  let read ← edidMgmtApi o host hDisplayOutput .readEdid .current (some edidSize) (.heap pEdidBuf)
  logAndExitOnError read.code (.failed .read2 read.code) ⟨pEdidBuf,read.code⟩
  pure pEdidBuf

/-- The branch of `TestEDIDManagement` for one chosen target, with what it leaves in `pEdidBuf`. -/
def testTarget (o : Options) (host : Host t) (hDisplayOutput : CtlDisplayOutputHandle t)
    (isDisplayAttached : Bool) : Body Locals (Sample (Event t)) Addr :=
  match o.edidMgmtOpType with
  | .lockEdid => do
    if isDisplayAttached then
      manage o host hDisplayOutput .lockEdid .monitor none (.heap 0) .lockSupplied
    else manageSupplied o host hDisplayOutput .lockEdid .lockSupplied
    print (.passed .lockSupplied)
    pure 0
  | .unlockEdid => do
    manage o host hDisplayOutput .unlockEdid .current none (.heap 0) .unlock
    print (.passed .unlock)
    pure 0
  | .overrideEdid => do
    manageSupplied o host hDisplayOutput .overrideEdid .override
    print (.passed .override)
    pure 0
  | .undoOverrideEdid => do
    manage o host hDisplayOutput .undoOverrideEdid .current none (.heap 0) .remove
    print (.passed .removeOverridden)
    pure 0
  | .readEdid => do
    let pEdidBuf ← readTwice o host hDisplayOutput
    print (.passed .read)
    pure pEdidBuf
  | .max => pure 0

def lockMonitor (o : Options) (host : Host t) (hDisplayOutput : CtlDisplayOutputHandle t) :
    Body Locals (Sample (Event t)) Unit :=
  if o.isCustomEdid then manageSupplied o host hDisplayOutput .lockEdid .lockMonitor
  else manage o host hDisplayOutput .lockEdid .monitor none (.heap 0) .lockMonitor

/-- The parts of the branch for attached displays, each for one operation or for all of them. -/
def testLock (o : Options) (host : Host t) (hDisplayOutput : CtlDisplayOutputHandle t) :
    Body Locals (Sample (Event t)) Unit :=
  if o.edidMgmtOpType = .lockEdid ∨ o.edidMgmtOpType = .max then do
    lockMonitor o host hDisplayOutput
    print (.passed .lockMonitor)
  else pure ()

def testUnlock (o : Options) (host : Host t) (hDisplayOutput : CtlDisplayOutputHandle t) :
    Body Locals (Sample (Event t)) Unit :=
  if o.edidMgmtOpType = .unlockEdid ∨ o.edidMgmtOpType = .max then do
    manage o host hDisplayOutput .unlockEdid .current none (.heap 0) .unlock
    print (.passed .unlock)
  else pure ()

def testOverride (o : Options) (host : Host t) (hDisplayOutput : CtlDisplayOutputHandle t) :
    Body Locals (Sample (Event t)) Unit :=
  if o.edidMgmtOpType = .overrideEdid ∨ o.edidMgmtOpType = .max then do
    manageSupplied o host hDisplayOutput .overrideEdid .override
    print (.passed .override)
  else pure ()

def testRead (o : Options) (host : Host t) (hDisplayOutput : CtlDisplayOutputHandle t) :
    Body Locals (Sample (Event t)) Unit :=
  if o.edidMgmtOpType = .readEdid ∨ o.edidMgmtOpType = .max then do
    let pEdidBuf ← readTwice o host hDisplayOutput
    let _ ← ctlFreeMem pEdidBuf
    print (.passed .read)
  else pure ()

def testUndoOverride (o : Options) (host : Host t) (hDisplayOutput : CtlDisplayOutputHandle t) :
    Body Locals (Sample (Event t)) Unit :=
  if o.edidMgmtOpType = .undoOverrideEdid ∨ o.edidMgmtOpType = .max then do
    manage o host hDisplayOutput .undoOverrideEdid .current none (.heap 0) .remove
    let pEdidBuf ← readTwice o host hDisplayOutput
    let _ ← ctlFreeMem pEdidBuf
    print (.passed .removeOverridden)
  else pure ()

def testLockSupplied (o : Options) (host : Host t) (hDisplayOutput : CtlDisplayOutputHandle t) :
    Body Locals (Sample (Event t)) Unit :=
  if o.edidMgmtOpType = .max then do
    manageSupplied o host hDisplayOutput .lockEdid .lockSupplied
    print (.passed .lockSupplied)
    manage o host hDisplayOutput .unlockEdid .current none (.heap 0) .unlock
    print (.passed .unlock)
  else pure ()

def testAttached (o : Options) (host : Host t) (hDisplayOutput : CtlDisplayOutputHandle t) :
    Body Locals (Sample (Event t)) Addr := do
  testLock o host hDisplayOutput
  testUnlock o host hDisplayOutput
  testOverride o host hDisplayOutput
  testRead o host hDisplayOutput
  testUndoOverride o host hDisplayOutput
  testLockSupplied o host hDisplayOutput
  pure 0

def isDisplayAttached (properties : CtlDisplayProperties) : Bool :=
  properties.displayConfigFlags &&& displayConfigFlagDisplayAttached ≠ 0

def testDisplay (o : Options) (host : Host t) (hDisplayOutput : CtlDisplayOutputHandle t)
    (isDisplayAttached : Bool) : Body Locals (Sample (Event t)) Addr :=
  if o.tgtId > 0 then testTarget o host hDisplayOutput isDisplayAttached
  else if isDisplayAttached then testAttached o host hDisplayOutput
  else pure 0

/-- Every call before the end of the body has succeeded, and so `Result` is a success there. -/
def testEDIDManagement (o : Options) (host : Host t) (hDisplayOutput : CtlDisplayOutputHandle t)
    (displayProperties : CtlDisplayProperties) : Body ε (Sample (Event t)) CtlResult :=
  Body.label
    (do
      let pEdidBuf ← testDisplay o host hDisplayOutput (isDisplayAttached displayProperties)
      pure ⟨pEdidBuf,.success⟩)
    fun atExit => do
      let _ ← ctlFreeMem atExit.pEdidBuf
      pure atExit.result

def visitDisplay (o : Options) (host : Host t) (hDisplayOutput : Addr) (displayIndex : Nat)
    (_result : CtlResult) : Body CtlResult (Sample (Event t)) CtlResult := do
  let display ← loadHandle t hDisplayOutput displayIndex
  let properties ← call host fun runtime =>
    ctlGetDisplayProperties runtime display (displayPropertiesRequest t)
  logAndExitOnError properties.code (.failed .getDisplayProperties properties.code) properties.code
  if o.tgtId ≠ 0 ∧ o.tgtId ≠ properties.out.windowsDisplayEncoderID then pure properties.code
  else
    let display ← loadHandle t hDisplayOutput displayIndex
    let result ← testEDIDManagement o host display properties.out
    storeAndResetError result

def enumerateDisplayHandles (o : Options) (host : Host t) (hDisplayOutput : Addr)
    (displayCount : UInt32) : Body ε (Sample (Event t)) CtlResult :=
  Body.label (Body.countUp (visitDisplay o host hDisplayOutput) displayCount.toNat 0 .success) pure

structure AdapterLocals where
  hDisplayOutput : Addr
  result : CtlResult
  deriving DecidableEq, Repr

/-- One turn of the loop of `EnumerateTargetDisplays`. The array stays allocated when it cannot be filled. -/
def visitAdapter (o : Options) (host : Host t) (hDevices : Addr) (adapterIndex : Nat)
    (locals : AdapterLocals) : Body AdapterLocals (Sample (Event t)) AdapterLocals :=
  if o.adapterNumber ≠ 0 ∧ UInt32.ofNat (adapterIndex + 1) ≠ o.adapterNumber then pure locals
  else do
    let device ← loadHandle t hDevices adapterIndex
    let query ← call host fun runtime =>
      ctlEnumerateDisplayOutputs (runtime.map (·.toRuntime)) device 0 locals.hDisplayOutput
    if query.code ≠ .success then
      print (.enumerateDisplayOutputsFailed query.code)
      let result ← storeAndResetError query.code
      pure { locals with result := result }
    else if query.out = 0 then
      print (.skippingAdapter adapterIndex)
      pure { locals with result := query.code }
    else
      let handles ← malloc host (t.sizeMul t.pointerBytes query.out.toNat)
      exitOnMemAllocFailure handles (.allocationFailed .displayOutput) ⟨handles,.errorInvalidNullPointer⟩
      let device ← loadHandle t hDevices adapterIndex
      let read ← call host fun runtime =>
        ctlEnumerateDisplayOutputs (runtime.map (·.toRuntime)) device query.out handles
      if read.code ≠ .success then
        print (.enumerateDisplayOutputsFailed read.code)
        let result ← storeAndResetError read.code
        pure ⟨handles,result⟩
      else
        let result ← enumerateDisplayHandles o host handles read.out
        logOnError result (.enumerateDisplayHandlesFailed result)
        let handles ← ctlFreeMem handles
        pure ⟨handles,result⟩

def enumerateTargetDisplays (o : Options) (host : Host t) (adapterCount : UInt32) (hDevices : Addr) :
    Body ε (Sample (Event t)) CtlResult :=
  Body.label (Body.countUp (visitAdapter o host hDevices) adapterCount.toNat 0 ⟨0,.success⟩)
    fun atExit => do
      let _ ← ctlFreeMem atExit.hDisplayOutput
      pure atExit.result

end IGCL.Samples.EdidManagement

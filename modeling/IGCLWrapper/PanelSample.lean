import IGCLWrapper.SampleHost

/-! The panel descriptor sample, from the enumeration of the adapters down to the bytes it prints. -/
namespace IGCL.Samples.Panel

open BlockMemory ExitLabel

/-- The calls and the allocations that a macro's line can name. -/
inductive Site where
  | init | enumerateDevices | devices | displayOutput | getDisplayProperties | panelDescriptorAccess
  | panelDescriptorData | extensionSize | extensionData
  deriving DecidableEq, Repr

inductive Line where
  | failed (site : Site) (code : CtlResult)
  | allocationFailed (site : Site)
  | descriptorDataSize (size : UInt32)
  | dataOnBlock (number : UInt32)
  | byte (value : UInt8)
  | noExtensionBlock
  | extensionDataSize (size : UInt32)
  | extensionFailed (blockIndex : Nat) (code : CtlResult)
  | invalidDisplayCount
  | notAttached (displayIndex : Nat)
  | enumerateDisplayOutputsFailed (code : CtlResult)
  | skippingAdapter (adapterIndex : Nat)
  | enumerateDisplayHandlesFailed (code : CtlResult)
  | enumerateTargetDisplaysFailed (code : CtlResult)
  | overallResult (code : CtlResult)
  deriving DecidableEq, Repr

variable {t : Target} {ε : Type}

/-- A zeroed argument block with the fields that the sample sets for block `number`. -/
def readRequest (t : Target) (number size : UInt32) (data : Addr) : CtlPanelDescriptorAccessArgs :=
  ⟨UInt32.ofNat t.sizeofPanelDescriptorAccessArgs,0,.read,number,size,data⟩

def access (host : Host t) (hDisplayOutput : CtlDisplayOutputHandle t)
    (args : CtlPanelDescriptorAccessArgs) :
    Body ε (Sample Line) (Answer CtlPanelDescriptorAccessArgs) :=
  call host fun runtime => ctlPanelDescriptorAccess (runtime.map (·.toRuntime)) hDisplayOutput args

/-- The inner loop of the dump, `count` bytes from `j` on. -/
def printBytes (data : Addr) : (count j : Nat) → Body ε (Sample Line) Unit
  | 0, _ => pure ()
  | count + 1, j => do
    let value ← loadByte data j
    print (.byte value)
    printBytes data count (j + 1)

/-- The outer loop of the dump. The bound `i + 16` of the inner loop wraps around, and then `i` starts
again from the beginning. -/
def printRows (data : Addr) (size : UInt32) : (fuel : Nat) → (i : UInt32) → Body ε (Sample Line) Unit
  | 0, _ => Body.undefined
  | fuel + 1, i =>
    if i < size then do
      printBytes data ((i + 16).toNat - i.toNat) i.toNat
      printRows data size fuel (i + 16)
    else pure ()

/-- `i` has 2^28 values, so a dump that is not over after as many rows never ends. -/
def printData (data : Addr) (size : UInt32) : Body ε (Sample Line) Unit :=
  printRows data size 0x10000001 0

/-- One turn of the loop over the extension blocks. `base` is `*pPanelDescArgs`, and of each block as many
bytes are dumped as that says. -/
def readExtensionBlock (host : Host t) (hDisplayOutput : CtlDisplayOutputHandle t)
    (base : CtlPanelDescriptorAccessArgs) (blockIndex : Nat) (_result : CtlResult) :
    Body (Answer CtlPanelDescriptorAccessArgs) (Sample Line) CtlResult := do
  let number := UInt32.ofNat (blockIndex + 1)
  let query ← access host hDisplayOutput (readRequest t number 0 0)
  logAndExitOnError query.code (.failed .extensionSize query.code) ⟨query.code,base⟩
  let size := query.out.descriptorDataSize
  print (.extensionDataSize size)
  let data ← malloc host size.toNat
  exitOnMemAllocFailure data (.allocationFailed .extensionData) ⟨.errorInvalidNullPointer,base⟩
  let read ← access host hDisplayOutput (readRequest t number size data)
  if read.code ≠ .success then
    print (.extensionFailed blockIndex read.code)
    let _ ← ctlFreeMem read.out.pDescriptorData
    Body.goto ⟨read.code,base⟩
  else
    print (.dataOnBlock read.out.blockNumber)
    printData read.out.pDescriptorData base.descriptorDataSize
    let _ ← ctlFreeMem read.out.pDescriptorData
    pure read.code

/-- The body of `GetPanelDescriptor` before its label. -/
def readPanel (host : Host t) (hDisplayOutput : CtlDisplayOutputHandle t)
    (pPanelDescArgs : CtlPanelDescriptorAccessArgs) :
    Body (Answer CtlPanelDescriptorAccessArgs) (Sample Line) (Answer CtlPanelDescriptorAccessArgs) := do
  let query ← access host hDisplayOutput pPanelDescArgs
  logAndExitOnError query.code (.failed .panelDescriptorAccess query.code) query
  let size := query.out.descriptorDataSize
  print (.descriptorDataSize size)
  let data ← malloc host size.toNat
  let args := { query.out with
    size := UInt32.ofNat t.sizeofPanelDescriptorAccessArgs
    opType := .read
    blockNumber := 0
    descriptorDataSize := size
    pDescriptorData := data }
  exitOnMemAllocFailure data (.allocationFailed .panelDescriptorData) ⟨.errorInvalidNullPointer,args⟩
  let read ← access host hDisplayOutput args
  logAndExitOnError read.code (.failed .panelDescriptorAccess read.code) read
  print (.dataOnBlock read.out.blockNumber)
  printData read.out.pDescriptorData read.out.descriptorDataSize
  let numberOfExtnBlocks ← loadByte read.out.pDescriptorData 126
  if numberOfExtnBlocks = 0 then
    print .noExtensionBlock
    Body.goto read
  else
    let result ← Body.countUp (readExtensionBlock host hDisplayOutput read.out)
      numberOfExtnBlocks.toNat 0 read.code
    pure ⟨result,read.out⟩

def getPanelDescriptor (host : Host t) (hDisplayOutput : CtlDisplayOutputHandle t)
    (pPanelDescArgs : CtlPanelDescriptorAccessArgs) :
    Body ε (Sample Line) (Answer CtlPanelDescriptorAccessArgs) :=
  Body.label (readPanel host hDisplayOutput pPanelDescArgs) fun atExit => do
    let data ← ctlFreeMem atExit.out.pDescriptorData
    pure ⟨atExit.code,{ atExit.out with pDescriptorData := data }⟩

def visitDisplay (host : Host t) (hDisplayOutput : Addr) (displayIndex : Nat) (_result : CtlResult) :
    Body CtlResult (Sample Line) CtlResult := do
  let display ← loadHandle t hDisplayOutput displayIndex
  let properties ← call host fun runtime =>
    ctlGetDisplayProperties runtime display (displayPropertiesRequest t)
  logAndExitOnError properties.code (.failed .getDisplayProperties properties.code) properties.code
  if properties.out.displayConfigFlags &&& displayConfigFlagDisplayAttached = 0 then
    print (.notAttached displayIndex)
    pure properties.code
  else
    let display ← loadHandle t hDisplayOutput displayIndex
    let panel ← getPanelDescriptor host display (readRequest t 0 0 0)
    storeAndResetError panel.code

def enumerateDisplayHandles (host : Host t) (hDisplayOutput : Addr) (displayCount : UInt32) :
    Body ε (Sample Line) CtlResult :=
  Body.label
    (if displayCount = 0 then do
      print .invalidDisplayCount
      Body.goto .success
    else Body.countUp (visitDisplay host hDisplayOutput) displayCount.toNat 0 .success)
    pure

structure Locals where
  hDisplayOutput : Addr
  result : CtlResult
  deriving DecidableEq, Repr

/-- One turn of the loop of `EnumerateTargetDisplays`. The displays are visited even if their handles could
not be read. -/
def visitAdapter (host : Host t) (hDevices : Addr) (adapterIndex : Nat) (locals : Locals) :
    Body Locals (Sample Line) Locals := do
  let device ← loadHandle t hDevices adapterIndex
  let query ← call host fun runtime =>
    ctlEnumerateDisplayOutputs (runtime.map (·.toRuntime)) device 0 locals.hDisplayOutput
  if query.code ≠ .success then
    print (.enumerateDisplayOutputsFailed query.code)
    let result ← storeAndResetError query.code
    pure { locals with result := result }
  else if query.out = 0 then
    print (.skippingAdapter adapterIndex)
    pure { locals with result := query.code }
  else
    let handles ← malloc host (t.sizeMul t.pointerBytes query.out.toNat)
    exitOnMemAllocFailure handles (.allocationFailed .displayOutput) ⟨handles,.errorInvalidNullPointer⟩
    let device ← loadHandle t hDevices adapterIndex
    let read ← call host fun runtime =>
      ctlEnumerateDisplayOutputs (runtime.map (·.toRuntime)) device query.out handles
    logAndStoreResetResultOnError read.code (.enumerateDisplayOutputsFailed read.code)
    let result ← enumerateDisplayHandles host handles read.out
    logOnError result (.enumerateDisplayHandlesFailed result)
    let handles ← ctlFreeMem handles
    pure ⟨handles,result⟩

def enumerateTargetDisplays (host : Host t) (adapterCount : UInt32) (hDevices : Addr) :
    Body ε (Sample Line) CtlResult :=
  Body.label (Body.countUp (visitAdapter host hDevices) adapterCount.toNat 0 ⟨0,.success⟩)
    fun atExit => do
      let _ ← ctlFreeMem atExit.hDisplayOutput
      pure atExit.result

/-- The body of `main` before its label, which reads `hDevices`. `init` is what `ctlInit` answered. -/
def mainBody (host : Host t) (init : Answer (CtlApiHandle t)) : Body Addr (Sample Line) Addr := do
  logAndExitOnError init.code (.failed .init init.code) 0
  let count ← call host fun runtime => ctlEnumerateDevices runtime init.out 0 0
  logAndExitOnError count.code (.failed .enumerateDevices count.code) 0
  let hDevices ← malloc host (t.sizeMul t.pointerBytes count.out.toNat)
  exitOnMemAllocFailure hDevices (.allocationFailed .devices) hDevices
  let devices ← call host fun runtime => ctlEnumerateDevices runtime init.out count.out hDevices
  logAndExitOnError devices.code (.failed .enumerateDevices devices.code) hDevices
  let result ← enumerateTargetDisplays host devices.out hDevices
  logAndStoreResetResultOnError result (.enumerateTargetDisplaysFailed result)
  pure hDevices

/-- `main`, without the call of `ctlClose` at its label, whose answer is not read. -/
def main (host : Host t) (init : Answer (CtlApiHandle t)) : Body ε (Sample Line) CtlResult :=
  Body.label (mainBody host init) fun hDevices => do
    let _ ← ctlFreeMem hDevices
    let code ← Body.look (·.gResult)
    print (.overallResult code)
    pure code

end IGCL.Samples.Panel

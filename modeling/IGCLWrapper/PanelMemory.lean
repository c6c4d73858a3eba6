import IGCLWrapper.DriverProtocol
import IGCLWrapper.PanelSample
import IGCLWrapper.SampleRules

/-! Memory over whole runs of the panel descriptor sample: on every way to a label, what was
allocated is either released before it or named by the pointer that is released there. -/
namespace IGCL.Samples.Panel

open BlockMemory ExitLabel

variable {t : Target} {ε : Type} {P : Set Addr → Prop} {L : Set Addr} {E : ε → Sample Line → Prop}

/-- The runtime leaves the input field `pDescriptorData` as it is. -/
def KeepsPointer (host : Host t) : Prop :=
  ∀ n hDisplayOutput args m, (ctlPanelDescriptorAccess ((host.runtime n).map (·.toRuntime))
    hDisplayOutput args m).out.pDescriptorData = args.pDescriptorData

theorem printBytes_live (data : Addr) (count j : Nat) :
    Triple (Live P) (printBytes data count j) (fun _ => Live P) E := by
  induction count generalizing j with
  | zero => exact Triple.pure fun _ holds => holds
  | succ count ih =>
    apply Triple.bind (loadByte_live data j)
    intro value
    exact Triple.bind (print_live _) fun _ => ih (j + 1)

theorem printRows_live (data : Addr) (size : UInt32) (fuel : Nat) (i : UInt32) :
    Triple (Live P) (printRows data size fuel i) (fun _ => Live P) E := by
  induction fuel generalizing i with
  | zero => exact Triple.undefined
  | succ fuel ih =>
    apply Triple.ite
    · intro _
      exact Triple.bind (printBytes_live data _ _) fun _ => ih (i + 16)
    · intro _
      exact Triple.pure fun _ holds => holds

section Runs

variable {host : Host t} (keeps : KeepsPointer host)
include keeps

theorem access_live (hDisplayOutput : CtlDisplayOutputHandle t) (args : CtlPanelDescriptorAccessArgs) :
    Triple (Live P) (access host hDisplayOutput args)
      (fun answer s => Live P s ∧ answer.out.pDescriptorData = args.pDescriptorData) E :=
  call_live_known _ host _ fun n m => keeps n hDisplayOutput args m

theorem readExtensionBlock_live (hDisplayOutput : CtlDisplayOutputHandle t)
    (base : CtlPanelDescriptorAccessArgs) (blockIndex : Nat) (result : CtlResult) :
    Triple (Live (· = L)) (readExtensionBlock host hDisplayOutput base blockIndex result)
      (fun _ => Live (· = L)) fun atExit s => Live (· = L) s ∧ atExit.out = base := by
  apply Triple.bind ((access_live keeps hDisplayOutput _).post fun _ _ both => both.1)
  intro query
  apply Triple.bind (logAndExitOnError_live _ _ _ fun s bare => ⟨bare,rfl⟩)
  intro _
  apply Triple.bind (print_live _)
  intro _
  apply Triple.bind (malloc_owned host _)
  intro data
  apply Triple.bind (exitOnMemAllocFailure_live _ _ _ fun s null owned => by
    subst null
    exact ⟨owned_null.mp owned,rfl⟩)
  intro _
  apply Triple.bind (access_live keeps hDisplayOutput _)
  intro read
  apply Triple.given
  intro (unmoved : read.out.pDescriptorData = data)
  have released {ε : Type} {E : ε → Sample Line → Prop} :
      Triple (Live (Owned L data)) (ctlFreeMem read.out.pDescriptorData) (fun _ => Live (· = L)) E := by
    rw [unmoved]
    exact (ctlFreeMem_owned data).post fun _ _ both => both.1
  apply Triple.ite
  · intro _
    apply Triple.bind (print_live _)
    intro _
    exact Triple.bind released fun _ => Triple.goto fun s bare => ⟨bare,rfl⟩
  · intro _
    apply Triple.bind (print_live _)
    intro _
    apply Triple.bind (printRows_live _ _ _ _)
    intro _
    exact Triple.bind released fun _ => Triple.pure fun s bare => bare

/-- At the label of `GetPanelDescriptor` the block it allocated is the one in `pDescriptorData`. -/
theorem readPanel_live (hDisplayOutput : CtlDisplayOutputHandle t)
    (pPanelDescArgs : CtlPanelDescriptorAccessArgs) (null : pPanelDescArgs.pDescriptorData = 0) :
    Triple (Live (· = L)) (readPanel host hDisplayOutput pPanelDescArgs)
      (fun atExit => Live (Owned L atExit.out.pDescriptorData))
      fun atExit => Live (Owned L atExit.out.pDescriptorData) := by
  apply Triple.bind (access_live keeps hDisplayOutput _)
  intro query
  apply Triple.given
  intro unset
  apply Triple.bind (logAndExitOnError_live _ _ _ fun s bare => .inl ⟨unset.trans null,bare⟩)
  intro _
  apply Triple.bind (print_live _)
  intro _
  apply Triple.bind (malloc_owned host _)
  intro data
  apply Triple.bind
  · exact exitOnMemAllocFailure_live _ _ _ fun s _ owned => owned
  intro _
  apply Triple.bind (access_live keeps hDisplayOutput _)
  intro read
  apply Triple.given
  intro (unmoved : read.out.pDescriptorData = data)
  subst unmoved
  apply Triple.bind
  · exact logAndExitOnError_live _ _ _ fun s owned => owned
  intro _
  apply Triple.bind (print_live _)
  intro _
  apply Triple.bind (printRows_live _ _ _ _)
  intro _
  apply Triple.bind (loadByte_live _ _)
  intro numberOfExtnBlocks
  apply Triple.ite
  · intro _
    exact Triple.bind (print_live _) fun _ => Triple.goto fun s owned => owned
  · intro _
    have turns := Triple.countUp (fun index result => live_frame (P := Owned L read.out.pDescriptorData)
      fun L' => readExtensionBlock_live (L := L') keeps hDisplayOutput read.out index result)
      numberOfExtnBlocks.toNat 0 read.code
    apply Triple.bind
    · apply turns.consequence (fun _ owned => owned) (fun _ _ owned => owned)
      intro atExit s jumped
      rw [jumped.2]
      exact jumped.1
    · intro result
      exact Triple.pure fun _ owned => owned

theorem getPanelDescriptor_live (hDisplayOutput : CtlDisplayOutputHandle t)
    (pPanelDescArgs : CtlPanelDescriptorAccessArgs) (null : pPanelDescArgs.pDescriptorData = 0) :
    Triple (Live (· = L)) (getPanelDescriptor host hDisplayOutput pPanelDescArgs)
      (fun panel s => Live (· = L) s ∧ panel.out.pDescriptorData = 0) E := by
  apply Triple.label (readPanel_live keeps hDisplayOutput pPanelDescArgs null)
  intro atExit
  exact Triple.bind (ctlFreeMem_owned _) fun data => Triple.pure fun s both => both

theorem visitDisplay_live (hDisplayOutput : Addr) (displayIndex : Nat) (result : CtlResult) :
    Triple (Live (· = L)) (visitDisplay host hDisplayOutput displayIndex result)
      (fun _ => Live (· = L)) fun _ => Live (· = L) := by
  apply Triple.bind (loadHandle_live _ _)
  intro display
  apply Triple.bind (call_live host _)
  intro properties
  apply Triple.bind
  · exact logAndExitOnError_live _ _ _ fun _ bare => bare
  intro _
  apply Triple.ite
  · intro _
    exact Triple.bind (print_live _) fun _ => Triple.pure fun _ bare => bare
  · intro _
    apply Triple.bind (loadHandle_live _ _)
    intro display
    apply Triple.bind ((getPanelDescriptor_live keeps _ _ rfl).post fun _ _ both => both.1)
    intro panel
    exact storeAndResetError_live _

theorem enumerateDisplayHandles_live (hDisplayOutput : Addr) (displayCount : UInt32) :
    Triple (Live (· = L)) (enumerateDisplayHandles host hDisplayOutput displayCount)
      (fun _ => Live (· = L)) E := by
  apply Triple.label (R := fun _ => Live (· = L))
  · apply Triple.ite
    · intro _
      exact Triple.bind (print_live _) fun _ => Triple.goto fun _ bare => bare
    · intro _
      exact Triple.countUp (fun index result => visitDisplay_live keeps hDisplayOutput index result) _ _ _
  · intro result
    exact Triple.pure fun _ bare => bare

theorem visitAdapter_live (hDevices : Addr) (adapterIndex : Nat) (locals : Locals) :
    Triple (fun s => Live (· = L) s ∧ locals.hDisplayOutput = 0)
      (visitAdapter host hDevices adapterIndex locals)
      (fun later s => Live (· = L) s ∧ later.hDisplayOutput = 0)
      fun atExit => Live (Owned L atExit.hDisplayOutput) := by
  apply Triple.given
  intro null
  apply Triple.bind (loadHandle_live _ _)
  intro device
  apply Triple.bind (call_live host _)
  intro query
  apply Triple.ite
  · intro _
    apply Triple.bind (print_live _)
    intro _
    exact Triple.bind (storeAndResetError_live _) fun _ => Triple.pure fun s bare => ⟨bare,null⟩
  intro _
  apply Triple.ite
  · intro _
    exact Triple.bind (print_live _) fun _ => Triple.pure fun s bare => ⟨bare,null⟩
  · intro _
    apply Triple.bind (malloc_owned host _)
    intro handles
    apply Triple.bind
    · exact exitOnMemAllocFailure_live _ _ _ fun _ _ owned => owned
    intro _
    apply Triple.bind (loadHandle_live _ _)
    intro device
    apply Triple.bind (call_live host _)
    intro read
    apply Triple.bind (logAndStoreResetResultOnError_live _ _)
    intro _
    apply Triple.bind (live_frame_through fun L' _ => enumerateDisplayHandles_live (L := L') keeps _ _)
    intro result
    apply Triple.bind (logOnError_live _ _)
    intro _
    exact Triple.bind (ctlFreeMem_owned _) fun freed => Triple.pure fun s both => both

theorem enumerateTargetDisplays_live (adapterCount : UInt32) (hDevices : Addr) :
    Triple (Live (· = L)) (enumerateTargetDisplays host adapterCount hDevices)
      (fun _ => Live (· = L)) E := by
  apply Triple.label (R := fun atExit => Live (Owned L atExit.hDisplayOutput))
  · have turns := Triple.countUp
      (I := fun (locals : Locals) s => Live (· = L) s ∧ locals.hDisplayOutput = 0)
      (fun index locals => visitAdapter_live keeps hDevices index locals) adapterCount.toNat 0 ⟨0,.success⟩
    apply turns.consequence
    · exact fun s bare => ⟨bare,rfl⟩
    · exact fun locals s both => .inl ⟨both.2,both.1⟩
    · exact fun _ _ owned => owned
  · intro atExit
    apply Triple.bind (ctlFreeMem_owned _)
    intro freed
    exact Triple.pure fun s both => both.1

theorem main_live (init : Answer (CtlApiHandle t)) :
    Triple (Live (· = L)) (main host init) (fun _ => Live (· = L)) E := by
  apply Triple.label (R := fun hDevices => Live (Owned L hDevices))
  · apply Triple.bind (logAndExitOnError_live _ _ _ fun _ bare => .inl ⟨rfl,bare⟩)
    intro _
    apply Triple.bind (call_live host _)
    intro count
    apply Triple.bind (logAndExitOnError_live _ _ _ fun _ bare => .inl ⟨rfl,bare⟩)
    intro _
    apply Triple.bind (malloc_owned host _)
    intro hDevices
    apply Triple.bind
    · exact exitOnMemAllocFailure_live _ _ _ fun _ _ owned => owned
    intro _
    apply Triple.bind (call_live host _)
    intro devices
    apply Triple.bind
    · exact logAndExitOnError_live _ _ _ fun _ owned => owned
    intro _
    apply Triple.bind (live_frame_through fun L' _ => enumerateTargetDisplays_live (L := L') keeps _ _)
    intro result
    exact Triple.bind (logAndStoreResetResultOnError_live _ _) fun _ => Triple.pure fun s owned => owned
  · intro hDevices
    apply Triple.bind ((ctlFreeMem_owned _).post fun _ _ both => both.1)
    intro _
    apply Triple.bind (Triple.look (Q := fun _ => Live (· = L)) fun _ bare => bare)
    intro code
    exact Triple.bind (print_live _) fun _ => Triple.pure fun _ bare => bare

end Runs

/-- A run that is defined to its end leaves the same blocks live as before, whatever the runtime
answers and whenever memory runs out. -/
theorem run_balanced {host : Host t} (keeps : KeepsPointer host) (init : Answer (CtlApiHandle t))
    {s s' : Sample Line} {code : CtlResult}
    (ran : (main host init : Body Empty (Sample Line) CtlResult) s = some (.ok code,s')) :
    s'.heap.live = s.heap.live :=
  (main_live keeps init).ended (P := Live (· = s.heap.live)) (E := fun _ _ => True) rfl ran

/-- One adapter with one attached display, on a machine that has memory for two blocks. -/
def oneDisplayHost : Host Target.x64 where
  runtime _ := some { documentedRuntime [0x2a] (List.replicate 128 0) with
    ctlEnumerateDevices := some fun _ _ _ _ => ⟨.success,1,[]⟩
    ctlGetDisplayProperties := some fun _ properties _ =>
      ⟨.success,{ properties with displayConfigFlags := displayConfigFlagDisplayAttached },[]⟩
    ctlEdidManagement := none }
  malloc := mallocTwo
  memcpyS := CheckedBuffer.memmoveS

theorem oneDisplayHost_keeps : KeepsPointer oneDisplayHost := by
  intro n hDisplayOutput args m
  simp only [oneDisplayHost,Option.map_some,ctlPanelDescriptorAccess,IGCL.forward,documentedRuntime,
    Option.bind_some]
  split
  · rfl
  · split
    · rfl
    · split <;> rfl

/-- The two arrays of handles are released although there is no memory for the descriptor. -/
theorem short_memory_balanced : ∃ last,
    (main oneDisplayHost ⟨.success,0⟩ : Body Empty (Sample Line) CtlResult) ⟨Mem.empty,0,[],.success⟩ =
        some (.ok .errorInvalidNullPointer,last) ∧
      .allocationFailed .panelDescriptorData ∈ last.printed ∧
      last.heap.live = (Mem.empty : Heap).live := by
  have shown : ((main oneDisplayHost ⟨.success,0⟩ : Body Empty (Sample Line) CtlResult)
      ⟨Mem.empty,0,[],.success⟩).map (fun r => (r.1.toOption,r.2.printed)) =
        some (some .errorInvalidNullPointer,[.descriptorDataSize 128,
          .allocationFailed .panelDescriptorData,.overallResult .errorInvalidNullPointer]) := by
    decide +kernel
  obtain ⟨⟨ended,last⟩,ran,same⟩ := Option.map_eq_some_iff.mp shown
  obtain ⟨exit,printed⟩ := Prod.mk.inj same
  cases ended with
  | error e => exact e.elim
  | ok code =>
    obtain rfl := Option.some.inj exit
    have reported : .allocationFailed .panelDescriptorData ∈ last.printed := by
      rw [show last.printed = _ from printed]
      simp
    exact ⟨last,ran,reported,run_balanced oneDisplayHost_keeps _ ran⟩

end IGCL.Samples.Panel

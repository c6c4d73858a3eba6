import IGCLWrapper.PanelMemory

/-! What the panel descriptor sample's exit code says about the lines it printed. -/
namespace IGCL.Samples.Panel

open BlockMemory ExitLabel

variable {t : Target} {ε : Type} {γ : Type} {E : ε → Sample Line → Prop} {g c : CtlResult}

/-- The code that a line leaves in `GResult` sooner or later. -/
def Line.recorded : Line → Option CtlResult
  | .failed .panelDescriptorAccess code => some code
  | .failed .extensionSize code => some code
  | .allocationFailed .panelDescriptorData => some .errorInvalidNullPointer
  | .allocationFailed .extensionData => some .errorInvalidNullPointer
  | .extensionFailed _ code => some code
  | .enumerateDisplayOutputsFailed code => some code
  | .enumerateTargetDisplaysFailed code => some code
  | _ => none

def lastRecorded (printed : List Line) : CtlResult :=
  (printed.filterMap Line.recorded).getLast?.getD .success

@[simp] theorem lastRecorded_append (printed : List Line) (line : Line) :
    lastRecorded (printed ++ [line]) = line.recorded.getD (lastRecorded printed) := by
  cases recorded : line.recorded <;> simp [lastRecorded,List.filterMap_append,recorded]

/-- A line that is recorded tells of a failure. -/
def Line.Sound (line : Line) : Prop := ∀ code, line.recorded = some code → code ≠ .success

theorem Line.sound_of_recorded {line : Line} {code : CtlResult} (recorded : line.recorded = some code)
    (failed : code ≠ .success) : line.Sound := by
  intro other same
  rw [recorded] at same
  exact Option.some.inj same ▸ failed

/-- `GResult` is `g` while the lines so far say `c`. -/
structure Logged (g c : CtlResult) (s : Sample Line) : Prop where
  stored : s.gResult = g
  last : lastRecorded s.printed = c
  sound : ∀ line ∈ s.printed, line.Sound

def Settled (s : Sample Line) : Prop := ∃ c, Logged c c s

/-- What is said after a function has returned `code`. -/
def after (c code : CtlResult) : CtlResult := if code = .success then c else code

@[simp] theorem after_success : after c .success = c := if_pos rfl

theorem after_failure {code : CtlResult} (failed : code ≠ .success) : after c code = code :=
  if_neg failed

theorem print_logged (line : Line) (sound : line.Sound) :
    Triple (Logged g c) (print line) (fun _ => Logged g (line.recorded.getD c)) E := by
  apply Triple.act
  intro s logged _ s' printed
  obtain ⟨_,rfl⟩ := Prod.mk.inj (Option.some.inj printed)
  refine ⟨logged.stored,by simp [logged.last],?_⟩
  intro l member
  rcases List.mem_append.mp member with before | here
  · exact logged.sound l before
  · rw [List.mem_singleton.mp here]
    exact sound

theorem print_unrecorded (line : Line) (unrecorded : line.recorded = none) :
    Triple (Logged g c) (print line) (fun _ => Logged g c) E := by
  have printed : Triple (Logged g c) (print line) (fun _ => Logged g (line.recorded.getD c)) E :=
    print_logged line fun code recorded => by simp [unrecorded] at recorded
  rwa [unrecorded] at printed

/-- Everything but `print` and `STORE_AND_RESET_ERROR` leaves the report alone. -/
theorem logged_act {α : Type} {f : Sample Line → Option (α × Sample Line)}
    (silent : ∀ s a s', f s = some (a,s') → s'.gResult = s.gResult ∧ s'.printed = s.printed) :
    Triple (Logged g c) (Body.act f) (fun _ => Logged g c) E := by
  apply Triple.act
  intro s logged a s' done
  obtain ⟨stored,printed⟩ := silent s a s' done
  exact ⟨stored.trans logged.stored,by rw [printed,logged.last],by rw [printed]; exact logged.sound⟩

theorem call_logged (host : Host t) (api : Option (SampleRuntime t) → Heap → Reply γ) :
    Triple (Logged g c) (call host api) (fun _ => Logged g c) E := by
  apply logged_act
  intro s a s' called
  obtain ⟨heap,_,same⟩ := Option.map_eq_some_iff.mp called
  obtain ⟨_,rfl⟩ := Prod.mk.inj same
  exact ⟨rfl,rfl⟩

theorem malloc_logged (host : Host t) (size : Nat) :
    Triple (Logged g c) (malloc host size) (fun _ => Logged g c) E := by
  apply logged_act
  intro s a s' done
  split at done <;> (obtain ⟨_,rfl⟩ := Prod.mk.inj (Option.some.inj done); exact ⟨rfl,rfl⟩)

theorem ctlFreeMem_logged (ptr : Addr) :
    Triple (Logged g c) (ctlFreeMem ptr) (fun _ => Logged g c) E := by
  apply logged_act
  intro s a s' done
  split at done
  · obtain ⟨_,_,same⟩ := Option.map_eq_some_iff.mp done
    obtain ⟨_,rfl⟩ := Prod.mk.inj same
    exact ⟨rfl,rfl⟩
  · obtain ⟨_,rfl⟩ := Prod.mk.inj (Option.some.inj done)
    exact ⟨rfl,rfl⟩

theorem loadByte_logged (data : Addr) (index : Nat) :
    Triple (Logged g c) (loadByte data index) (fun _ => Logged g c) E := by
  apply logged_act
  intro s a s' done
  obtain ⟨_,_,same⟩ := Option.map_eq_some_iff.mp done
  obtain ⟨_,rfl⟩ := Prod.mk.inj same
  exact ⟨rfl,rfl⟩

theorem loadHandle_logged (handles : Addr) (index : Nat) :
    Triple (Logged g c) (loadHandle t handles index) (fun _ => Logged g c) E := by
  apply logged_act
  intro s a s' done
  obtain ⟨_,_,same⟩ := Option.map_eq_some_iff.mp done
  obtain ⟨_,rfl⟩ := Prod.mk.inj same
  exact ⟨rfl,rfl⟩

/-- Storing what the last line said brings `GResult` up to date. -/
theorem storeAndResetError_logged (code : CtlResult) :
    Triple (Logged c (after c code)) (storeAndResetError code)
      (fun result s => Logged (after c code) (after c code) s ∧ result = .success) E := by
  apply Triple.act
  intro s logged result s' done
  obtain ⟨rfl,rfl⟩ := Prod.mk.inj (Option.some.inj done)
  refine ⟨?_,rfl⟩
  by_cases ok : code = .success
  · rw [if_neg (not_not.mpr ok)]
    rw [ok,after_success] at logged ⊢
    exact logged
  · rw [if_pos ok]
    exact ⟨(after_failure ok).symm,logged.last,logged.sound⟩

theorem logAndExitOnError_logged (result : CtlResult) (line : Line) (locals : ε)
    (sound : result ≠ .success → line.Sound)
    (atLabel : ∀ s, result ≠ .success → Logged g (line.recorded.getD c) s → E locals s) :
    Triple (Logged g c) (logAndExitOnError result line locals)
      (fun _ s => Logged g c s ∧ result = .success) E := by
  apply Triple.ite
  · intro failed
    apply Triple.bind (print_logged line (sound failed))
    intro _
    exact Triple.goto fun s logged => atLabel s failed logged
  · intro ok
    exact Triple.pure fun s logged => ⟨logged,not_not.mp ok⟩

theorem exitOnMemAllocFailure_logged (ptr : Addr) (line : Line) (locals : ε) (sound : line.Sound)
    (atLabel : ∀ s, Logged g (line.recorded.getD c) s → E locals s) :
    Triple (Logged g c) (exitOnMemAllocFailure ptr line locals) (fun _ => Logged g c) E := by
  apply Triple.ite
  · intro _
    exact Triple.bind (print_logged line sound) fun _ => Triple.goto atLabel
  · intro _
    exact Triple.pure fun s logged => logged

theorem printBytes_logged (data : Addr) (count j : Nat) :
    Triple (Logged g c) (printBytes data count j) (fun _ => Logged g c) E := by
  induction count generalizing j with
  | zero => exact Triple.pure fun _ logged => logged
  | succ count ih =>
    apply Triple.bind (loadByte_logged data j)
    intro value
    exact Triple.bind (print_unrecorded (.byte value) rfl) fun _ => ih (j + 1)

theorem printRows_logged (data : Addr) (size : UInt32) (fuel : Nat) (i : UInt32) :
    Triple (Logged g c) (printRows data size fuel i) (fun _ => Logged g c) E := by
  induction fuel generalizing i with
  | zero => exact Triple.undefined
  | succ fuel ih =>
    apply Triple.ite
    · intro _
      exact Triple.bind (printBytes_logged data _ _) fun _ => ih (i + 16)
    · intro _
      exact Triple.pure fun _ logged => logged

/-- A jump leaves the code it carries as the last one recorded. -/
theorem readExtensionBlock_logged (host : Host t) (hDisplayOutput : CtlDisplayOutputHandle t)
    (base : CtlPanelDescriptorAccessArgs) (blockIndex : Nat) (result : CtlResult) :
    Triple (fun s => Logged g c s ∧ result = .success)
      (readExtensionBlock host hDisplayOutput base blockIndex result)
      (fun later s => Logged g c s ∧ later = .success) fun atExit => Logged g (after c atExit.code) := by
  apply Triple.given
  intro _
  apply Triple.bind (call_logged host _)
  intro query
  apply Triple.bind
  · exact logAndExitOnError_logged _ _ _ (Line.sound_of_recorded rfl)
      fun s failed logged => (after_failure failed).symm ▸ logged
  intro _
  apply Triple.given
  intro _
  apply Triple.bind (print_unrecorded _ rfl)
  intro _
  apply Triple.bind (malloc_logged host _)
  intro data
  apply Triple.bind
  · exact exitOnMemAllocFailure_logged _ _ _ (Line.sound_of_recorded rfl (by decide))
      fun s logged => logged
  intro _
  apply Triple.bind (call_logged host _)
  intro read
  apply Triple.ite
  · intro failed
    apply Triple.bind (print_logged _ (Line.sound_of_recorded rfl failed))
    intro _
    apply Triple.bind (ctlFreeMem_logged _)
    intro _
    exact Triple.goto fun s logged => (after_failure failed).symm ▸ logged
  · intro ok
    apply Triple.bind (print_unrecorded _ rfl)
    intro _
    apply Triple.bind (printRows_logged _ _ _ _)
    intro _
    apply Triple.bind (ctlFreeMem_logged _)
    intro _
    exact Triple.pure fun s logged => ⟨logged,not_not.mp ok⟩

theorem readPanel_logged (host : Host t) (hDisplayOutput : CtlDisplayOutputHandle t)
    (pPanelDescArgs : CtlPanelDescriptorAccessArgs) :
    Triple (Logged g c) (readPanel host hDisplayOutput pPanelDescArgs)
      (fun atExit => Logged g (after c atExit.code)) fun atExit => Logged g (after c atExit.code) := by
  apply Triple.bind (call_logged host _)
  intro query
  apply Triple.bind
  · exact logAndExitOnError_logged _ _ _ (Line.sound_of_recorded rfl)
      fun s failed logged => (after_failure failed).symm ▸ logged
  intro _
  apply Triple.given
  intro _
  apply Triple.bind (print_unrecorded _ rfl)
  intro _
  apply Triple.bind (malloc_logged host _)
  intro data
  apply Triple.bind
  · exact exitOnMemAllocFailure_logged _ _ _ (Line.sound_of_recorded rfl (by decide))
      fun s logged => logged
  intro _
  apply Triple.bind (call_logged host _)
  intro read
  apply Triple.bind
  · exact logAndExitOnError_logged _ _ _ (Line.sound_of_recorded rfl)
      fun s failed logged => (after_failure failed).symm ▸ logged
  intro _
  apply Triple.given
  intro ok
  apply Triple.bind (print_unrecorded _ rfl)
  intro _
  apply Triple.bind (printRows_logged _ _ _ _)
  intro _
  apply Triple.bind (loadByte_logged _ _)
  intro numberOfExtnBlocks
  apply Triple.ite
  · intro _
    apply Triple.bind (print_unrecorded _ rfl)
    intro _
    exact Triple.goto fun s logged => by rw [ok,after_success]; exact logged
  · intro _
    have turns := Triple.countUp
      (fun index result => readExtensionBlock_logged (g := g) (c := c) host hDisplayOutput read.out index
        result) numberOfExtnBlocks.toNat 0 read.code
    apply Triple.bind (turns.weaken fun s logged => ⟨logged,ok⟩)
    intro result
    exact Triple.pure fun s logged => by rw [logged.2,after_success]; exact logged.1

/-- Every failure of `GetPanelDescriptor` is the last one recorded when it returns. -/
theorem getPanelDescriptor_logged (host : Host t) (hDisplayOutput : CtlDisplayOutputHandle t)
    (pPanelDescArgs : CtlPanelDescriptorAccessArgs) :
    Triple (Logged g c) (getPanelDescriptor host hDisplayOutput pPanelDescArgs)
      (fun panel => Logged g (after c panel.code)) E := by
  apply Triple.label (readPanel_logged host hDisplayOutput pPanelDescArgs)
  intro atExit
  exact Triple.bind (ctlFreeMem_logged _) fun data => Triple.pure fun s logged => logged

/-- A failure has been printed that is not stored yet. -/
def Pending (code : CtlResult) (s : Sample Line) : Prop := ∃ c, Logged c (after c code) s

/-- A part that keeps every report keeps it up to date. -/
theorem settled_of_logged {α : Type} {x : Body ε (Sample Line) α} {Q : α → Sample Line → Prop}
    (each : ∀ c, Triple (Logged c c) x Q E) : Triple Settled x Q E := Triple.choose each

theorem settled_of_silent {α : Type} {x : Body ε (Sample Line) α}
    (silent : ∀ c, Triple (Logged c c) x (fun _ => Logged c c) E) :
    Triple Settled x (fun _ => Settled) E :=
  settled_of_logged fun c => (silent c).post fun _ _ logged => ⟨c,logged⟩

theorem print_settled (line : Line) (unrecorded : line.recorded = none) :
    Triple Settled (print line) (fun _ => Settled) E :=
  settled_of_silent fun _ => print_unrecorded line unrecorded

theorem print_pending (line : Line) {code : CtlResult} (recorded : line.recorded = some code)
    (failed : code ≠ .success) : Triple Settled (print line) (fun _ => Pending code) E := by
  apply settled_of_logged
  intro c
  apply (print_logged line (Line.sound_of_recorded recorded failed)).post
  intro _ s logged
  rw [recorded,Option.getD_some,← after_failure (c := c) failed] at logged
  exact ⟨c,logged⟩

theorem storeAndResetError_settled (code : CtlResult) :
    Triple (Pending code) (storeAndResetError code) (fun _ => Settled) E := by
  apply Triple.choose
  intro c
  exact (storeAndResetError_logged code).post fun _ s both => ⟨_,both.1⟩

/-- Failures that are only printed do not touch the report, with or without a jump. -/
theorem logAndExitOnError_settled (result : CtlResult) (line : Line) (locals : ε)
    (unrecorded : line.recorded = none) (atLabel : ∀ s, Settled s → E locals s) :
    Triple Settled (logAndExitOnError result line locals) (fun _ => Settled) E := by
  apply Triple.ite
  · intro _
    exact Triple.bind (print_settled line unrecorded) fun _ => Triple.goto atLabel
  · intro _
    exact Triple.pure fun s settled => settled

theorem exitOnMemAllocFailure_settled (ptr : Addr) (line : Line) (locals : ε)
    (unrecorded : line.recorded = none) (atLabel : ∀ s, Settled s → E locals s) :
    Triple Settled (exitOnMemAllocFailure ptr line locals) (fun _ => Settled) E := by
  apply Triple.ite
  · intro _
    exact Triple.bind (print_settled line unrecorded) fun _ => Triple.goto atLabel
  · intro _
    exact Triple.pure fun s settled => settled

theorem logOnError_settled (result : CtlResult) (line : Line) (unrecorded : line.recorded = none) :
    Triple Settled (logOnError result line) (fun _ => Settled) E :=
  Triple.ite (fun _ => print_settled line unrecorded) fun _ => Triple.pure fun _ settled => settled

theorem logAndStoreResetResultOnError_settled (result : CtlResult) (line : Line)
    (recorded : line.recorded = some result) :
    Triple Settled (logAndStoreResetResultOnError result line) (fun _ => Settled) E := by
  apply Triple.ite
  · intro failed
    apply Triple.bind (print_pending line recorded failed)
    intro _
    exact Triple.bind (storeAndResetError_settled result) fun _ => Triple.pure fun _ settled => settled
  · intro _
    exact Triple.pure fun _ settled => settled

theorem visitDisplay_settled (host : Host t) (hDisplayOutput : Addr) (displayIndex : Nat)
    (result : CtlResult) : Triple Settled (visitDisplay host hDisplayOutput displayIndex result)
      (fun _ => Settled) fun _ => Settled := by
  apply Triple.bind (settled_of_silent fun _ => loadHandle_logged _ _)
  intro display
  apply Triple.bind (settled_of_silent fun _ => call_logged host _)
  intro properties
  apply Triple.bind
  · exact logAndExitOnError_settled _ _ _ rfl fun s settled => settled
  intro _
  apply Triple.ite
  · intro _
    exact Triple.bind (print_settled _ rfl) fun _ => Triple.pure fun s settled => settled
  · intro _
    apply Triple.bind (settled_of_silent fun _ => loadHandle_logged _ _)
    intro display
    apply Triple.bind (R := fun panel => Pending panel.code)
    · apply settled_of_logged
      intro c
      exact (getPanelDescriptor_logged host _ _).post fun _ s logged => ⟨c,logged⟩
    intro panel
    exact storeAndResetError_settled panel.code

theorem enumerateDisplayHandles_settled (host : Host t) (hDisplayOutput : Addr)
    (displayCount : UInt32) : Triple Settled (enumerateDisplayHandles host hDisplayOutput displayCount)
      (fun _ => Settled) E := by
  apply Triple.label (R := fun _ => Settled)
  · apply Triple.ite
    · intro _
      exact Triple.bind (print_settled _ rfl) fun _ => Triple.goto fun s settled => settled
    · intro _
      exact Triple.countUp (fun index result => visitDisplay_settled host hDisplayOutput index result) _ _ _
  · intro result
    exact Triple.pure fun s settled => settled

theorem visitAdapter_settled (host : Host t) (hDevices : Addr) (adapterIndex : Nat) (locals : Locals) :
    Triple Settled (visitAdapter host hDevices adapterIndex locals) (fun _ => Settled)
      fun _ => Settled := by
  apply Triple.bind (settled_of_silent fun _ => loadHandle_logged _ _)
  intro device
  apply Triple.bind (settled_of_silent fun _ => call_logged host _)
  intro query
  apply Triple.ite
  · intro failed
    apply Triple.bind (print_pending _ rfl failed)
    intro _
    exact Triple.bind (storeAndResetError_settled _) fun _ => Triple.pure fun s settled => settled
  intro _
  apply Triple.ite
  · intro _
    exact Triple.bind (print_settled _ rfl) fun _ => Triple.pure fun s settled => settled
  · intro _
    apply Triple.bind (settled_of_silent fun _ => malloc_logged host _)
    intro handles
    apply Triple.bind
    · exact exitOnMemAllocFailure_settled _ _ _ rfl fun s settled => settled
    intro _
    apply Triple.bind (settled_of_silent fun _ => loadHandle_logged _ _)
    intro device
    apply Triple.bind (settled_of_silent fun _ => call_logged host _)
    intro read
    apply Triple.bind (logAndStoreResetResultOnError_settled _ _ rfl)
    intro _
    apply Triple.bind (enumerateDisplayHandles_settled host _ _)
    intro result
    apply Triple.bind (logOnError_settled _ _ rfl)
    intro _
    apply Triple.bind (settled_of_silent fun _ => ctlFreeMem_logged _)
    intro freed
    exact Triple.pure fun s settled => settled

theorem enumerateTargetDisplays_settled (host : Host t) (adapterCount : UInt32) (hDevices : Addr) :
    Triple Settled (enumerateTargetDisplays host adapterCount hDevices) (fun _ => Settled) E := by
  apply Triple.label (R := fun _ => Settled)
  · exact Triple.countUp (fun index locals => visitAdapter_settled host hDevices index locals) _ _ _
  · intro atExit
    apply Triple.bind (settled_of_silent fun _ => ctlFreeMem_logged _)
    intro _
    exact Triple.pure fun s settled => settled

theorem mainBody_settled (host : Host t) (init : Answer (CtlApiHandle t)) :
    Triple Settled (mainBody host init) (fun _ => Settled) fun _ => Settled := by
  apply Triple.bind
  · exact logAndExitOnError_settled _ _ _ rfl fun s settled => settled
  intro _
  apply Triple.bind (settled_of_silent fun _ => call_logged host _)
  intro count
  apply Triple.bind
  · exact logAndExitOnError_settled _ _ _ rfl fun s settled => settled
  intro _
  apply Triple.bind (settled_of_silent fun _ => malloc_logged host _)
  intro hDevices
  apply Triple.bind
  · exact exitOnMemAllocFailure_settled _ _ _ rfl fun s settled => settled
  intro _
  apply Triple.bind (settled_of_silent fun _ => call_logged host _)
  intro devices
  apply Triple.bind
  · exact logAndExitOnError_settled _ _ _ rfl fun s settled => settled
  intro _
  apply Triple.bind (enumerateTargetDisplays_settled host _ _)
  intro result
  apply Triple.bind (logAndStoreResetResultOnError_settled _ _ rfl)
  intro _
  exact Triple.pure fun s settled => settled

theorem main_settled (host : Host t) (init : Answer (CtlApiHandle t)) :
    Triple Settled (main host init) (fun code => Logged code code) E := by
  apply Triple.label (mainBody_settled host init)
  intro hDevices
  apply Triple.bind (settled_of_silent fun _ => ctlFreeMem_logged _)
  intro _
  apply Triple.bind (R := fun code => Logged code code)
  · apply Triple.look
    intro s settled
    obtain ⟨c,logged⟩ := settled
    exact logged.stored ▸ logged
  intro code
  exact Triple.bind (print_unrecorded _ rfl) fun _ => Triple.pure fun s logged => logged

/-- A report of soundly recorded failures ends with success only when there are none. -/
theorem lastRecorded_success_iff {printed : List Line} (sound : ∀ line ∈ printed, line.Sound) :
    lastRecorded printed = .success ↔ ∀ line ∈ printed, line.recorded = none := by
  constructor
  · intro ok
    have none_recorded : printed.filterMap Line.recorded = [] := by
      cases last : (printed.filterMap Line.recorded).getLast? with
      | none => exact List.getLast?_eq_none_iff.mp last
      | some code =>
        obtain ⟨line,member,recorded⟩ := List.mem_filterMap.mp (List.mem_of_getLast? last)
        rw [lastRecorded,last,Option.getD_some] at ok
        exact absurd ok (sound line member code recorded)
    exact List.filterMap_eq_nil_iff.mp none_recorded
  · intro unrecorded
    simp [lastRecorded,List.filterMap_eq_nil_iff.mpr unrecorded]

/-- A run that gets no list of adapters stores nothing. -/
theorem main_unstarted {host : Host t} {init : Answer (CtlApiHandle t)} {s s' : Sample Line}
    {code : CtlResult}
    (failed : init.code ≠ .success ∨
      (ctlEnumerateDevices (host.runtime s.calls) init.out 0 0 s.heap).code ≠ .success)
    (ran : (main host init : Body Empty (Sample Line) CtlResult) s = some (.ok code,s')) :
    code = s.gResult := by
  have nothing {α : Type} {x : Body Addr (Sample Line) α} {Q : α → Sample Line → Prop}
      {E : Addr → Sample Line → Prop} : Triple (fun _ => False) x Q E := fun _ absurd => absurd.elim
  have body : Triple (· = s) (mainBody host init) (fun _ later => later.gResult = s.gResult)
      fun _ later => later.gResult = s.gResult := by
    apply Triple.bind (R := fun _ later => later = s ∧ init.code = .success)
    · apply Triple.ite
      · intro _
        exact Triple.bind (R := fun _ later => later.gResult = s.gResult)
          (Triple.act (by rintro _ rfl _ _ done; cases done; rfl)) fun _ => Triple.goto fun _ same => same
      · exact fun ok => Triple.pure fun _ same => ⟨same,not_not.mp ok⟩
    intro _
    apply Triple.given
    intro ok
    have refused := failed.resolve_left (not_not.mpr ok)
    apply Triple.bind (R := fun answer later => answer.code ≠ .success ∧ later.gResult = s.gResult)
    · apply Triple.act
      rintro _ rfl answer later called
      obtain ⟨heap,_,same⟩ := Option.map_eq_some_iff.mp called
      obtain ⟨rfl,rfl⟩ := Prod.mk.inj same
      exact ⟨refused,rfl⟩
    intro count
    apply Triple.bind (R := fun _ _ => False)
    · apply Triple.ite
      · intro _
        exact Triple.bind (R := fun _ later => later.gResult = s.gResult)
          (Triple.act (by rintro _ both _ _ done; cases done; exact both.2))
          fun _ => Triple.goto fun _ same => same
      · exact fun ok => Triple.pure fun _ both => both.1 (not_not.mp ok)
    exact fun _ => nothing
  have whole : Triple (· = s) (main host init : Body Empty (Sample Line) CtlResult)
      (fun code _ => code = s.gResult) fun _ _ => True := by
    apply Triple.label body
    intro hDevices
    apply Triple.bind (R := fun _ later => later.gResult = s.gResult)
    · apply Triple.act
      intro later same freed last done
      split at done
      · obtain ⟨_,_,rest⟩ := Option.map_eq_some_iff.mp done
        obtain ⟨_,rfl⟩ := Prod.mk.inj rest
        exact same
      · obtain ⟨_,rfl⟩ := Prod.mk.inj (Option.some.inj done)
        exact same
    intro _
    apply Triple.bind (Triple.look (Q := fun code _ => code = s.gResult) fun _ same => same)
    intro code
    apply Triple.bind (R := fun _ _ => code = s.gResult)
    · exact Triple.act fun _ same _ _ _ => same
    · exact fun _ => Triple.pure fun _ same => same
  exact whole.ended rfl ran

/-- The exit code is the one in the last line of a kind that is stored, and it is success exactly
when no such line was printed. A run that gets no list of adapters exits with success. -/
theorem exit_code_reports (host : Host t) (init : Answer (CtlApiHandle t)) {s s' : Sample Line}
    {code : CtlResult} (started : s.printed = [] ∧ s.gResult = .success)
    (ran : (main host init : Body Empty (Sample Line) CtlResult) s = some (.ok code,s')) :
    code = lastRecorded s'.printed ∧
      (code = .success ↔ ∀ line ∈ s'.printed, line.recorded = none) ∧
      (init.code ≠ .success ∨
        (ctlEnumerateDevices (host.runtime s.calls) init.out 0 0 s.heap).code ≠ .success →
          code = .success) := by
  obtain ⟨silent,ok⟩ := started
  have settled : Settled s := ⟨.success,ok,by simp [silent,lastRecorded],by simp [silent]⟩
  have logged := (main_settled host init).ended (E := fun _ _ => True) settled ran
  refine ⟨logged.last.symm,?_,fun failed => (main_unstarted failed ran).trans ok⟩
  rw [← lastRecorded_success_iff logged.sound,logged.last]

/-- Without memory for the descriptor the sample reports it; without the library it exits with zero. -/
theorem short_memory_reported :
    (∃ last, (main oneDisplayHost ⟨.success,0⟩ : Body Empty (Sample Line) CtlResult)
          ⟨Mem.empty,0,[],.success⟩ = some (.ok .errorInvalidNullPointer,last) ∧
        .errorInvalidNullPointer = lastRecorded last.printed ∧
        ¬∀ line ∈ last.printed, line.recorded = none) ∧
      ∀ code last, (main oneDisplayHost ⟨.errorLoad,0⟩ : Body Empty (Sample Line) CtlResult)
        ⟨Mem.empty,0,[],.success⟩ = some (.ok code,last) → code = .success := by
  constructor
  · have shown : ((main oneDisplayHost ⟨.success,0⟩ : Body Empty (Sample Line) CtlResult)
        ⟨Mem.empty,0,[],.success⟩).map (fun r => r.1.toOption) =
          some (some .errorInvalidNullPointer) := by decide +kernel
    obtain ⟨⟨ended,last⟩,ran,same⟩ := Option.map_eq_some_iff.mp shown
    cases ended with
    | error e => exact e.elim
    | ok code =>
      obtain rfl : code = .errorInvalidNullPointer := Option.some.inj same
      obtain ⟨reported,success,_⟩ := exit_code_reports oneDisplayHost _ ⟨rfl,rfl⟩ ran
      exact ⟨last,ran,reported,mt success.mpr (by decide)⟩
  · intro code last ran
    exact (exit_code_reports oneDisplayHost _ ⟨rfl,rfl⟩ ran).2.2 (.inl (by decide))

end IGCL.Samples.Panel

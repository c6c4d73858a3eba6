import IGCLWrapper.EdidSample
import IGCLWrapper.UsageRules

/-! What the EDID management sample asks of the displays. `TestEDIDManagement` follows a script for
each display and stops at the first request that fails; the rules documented for locked and
overridden displays are then a matter of the scripts. -/
namespace IGCL.Samples.EdidManagement

open BlockMemory ExitLabel UsageRules

/-- What has been done to a display. -/
structure Condition where
  locked : Bool
  overridden : Bool
  deriving DecidableEq, Repr

/-- The rules in the comments of `ctl_edid_management_optype_t`. -/
def managementRules : Rules Condition Optype where
  allows display opType := match opType with
    | .lockEdid => display.overridden = false
    | .overrideEdid => display.locked = false
    | _ => True
  next display opType := match opType with
    | .lockEdid => { display with locked := true }
    | .unlockEdid => { display with locked := false }
    | .overrideEdid => { display with overridden := true }
    | .undoOverrideEdid => { display with overridden := false }
    | _ => display

/-- The requests for one chosen target. -/
def targetScript : Optype → List Optype
  | .readEdid => [.readEdid,.readEdid]
  | .max => []
  | opType => [opType]

/-- The requests for an attached display. -/
def attachedScript : Optype → List Optype
  | .readEdid => [.readEdid,.readEdid]
  | .undoOverrideEdid => [.undoOverrideEdid,.readEdid,.readEdid]
  | .max => [.lockEdid,.unlockEdid,.overrideEdid,.readEdid,.readEdid,
      .undoOverrideEdid,.readEdid,.readEdid,.lockEdid,.unlockEdid]
  | opType => [opType]

def script (o : Options) (isDisplayAttached : Bool) : List Optype :=
  if o.tgtId > 0 then targetScript o.edidMgmtOpType
  else if isDisplayAttached then attachedScript o.edidMgmtOpType else []

variable {t : Target} {ε α β : Type} {E : ε → Sample (Event t) → Prop}

abbrev Request (t : Target) := CtlDisplayOutputHandle t × Optype

def requests (hDisplayOutput : CtlDisplayOutputHandle t) (script : List Optype) : List (Request t) :=
  script.map fun opType => (hDisplayOutput,opType)

def Event.asked : Event t → Option (Asked (Request t))
  | .managed hDisplayOutput opType _ code => some ((hDisplayOutput,opType),decide (code = .success))
  | _ => none

def asked (s : Sample (Event t)) : List (Asked (Request t)) := s.printed.filterMap Event.asked

variable {before : List (Asked (Request t))} {gResult : CtlResult}

/-- What a run has asked so far, with `GResult`. -/
def Stands (before : List (Asked (Request t))) (gResult : CtlResult) (s : Sample (Event t)) : Prop :=
  asked s = before ∧ s.gResult = gResult

theorem act_stands {f : Sample (Event t) → Option (α × Sample (Event t))}
    (kept : ∀ s a s', f s = some (a,s') → s'.printed = s.printed ∧ s'.gResult = s.gResult) :
    Triple (Stands before gResult) (Body.act f) (fun _ => Stands before gResult) E := by
  apply Triple.act
  intro s stands a s' done
  obtain ⟨printed,same⟩ := kept s a s' done
  exact ⟨(congrArg _ printed).trans stands.1,same.trans stands.2⟩

theorem call_stands {γ : Type} (host : Host t) (api : Option (SampleRuntime t) → Heap → Reply γ) :
    Triple (Stands before gResult) (call host api) (fun _ => Stands before gResult) E := by
  apply act_stands
  intro s a s' done
  obtain ⟨heap,_,same⟩ := Option.map_eq_some_iff.mp done
  obtain ⟨_,rfl⟩ := Prod.mk.inj same
  exact ⟨rfl,rfl⟩

theorem malloc_stands (host : Host t) (size : Nat) :
    Triple (Stands before gResult) (malloc host size) (fun _ => Stands before gResult) E := by
  apply act_stands
  intro s a s' done
  split at done <;> obtain ⟨_,rfl⟩ := Prod.mk.inj (Option.some.inj done) <;> exact ⟨rfl,rfl⟩

theorem ctlFreeMem_stands (ptr : Addr) :
    Triple (Stands before gResult) (ctlFreeMem ptr) (fun _ => Stands before gResult) E := by
  apply act_stands
  intro s a s' done
  split at done
  · obtain ⟨heap,_,same⟩ := Option.map_eq_some_iff.mp done
    obtain ⟨_,rfl⟩ := Prod.mk.inj same
    exact ⟨rfl,rfl⟩
  · obtain ⟨_,rfl⟩ := Prod.mk.inj (Option.some.inj done)
    exact ⟨rfl,rfl⟩

theorem loadHandle_stands (handles : Addr) (index : Nat) :
    Triple (Stands before gResult) (loadHandle t handles index) (fun _ => Stands before gResult) E := by
  apply act_stands
  intro s a s' done
  obtain ⟨cells,_,same⟩ := Option.map_eq_some_iff.mp done
  obtain ⟨_,rfl⟩ := Prod.mk.inj same
  exact ⟨rfl,rfl⟩

theorem loadBytes_stands (pEdidBuf : Addr) (size : UInt32) :
    Triple (Stands before gResult) (loadBytes pEdidBuf size) (fun _ => Stands before gResult) E := by
  apply act_stands
  intro s a s' done
  obtain ⟨bytes,_,same⟩ := Option.map_eq_some_iff.mp done
  obtain ⟨_,rfl⟩ := Prod.mk.inj same
  exact ⟨rfl,rfl⟩

theorem removeAudioCaps_stands (host : Host t) (pEdidBuf : Addr) (edidSize : UInt32) :
    Triple (Stands before gResult) (removeAudioCaps host pEdidBuf edidSize)
      (fun _ => Stands before gResult) E := by
  apply act_stands
  intro s a s' done
  obtain ⟨cells,_,done⟩ := Option.bind_eq_some_iff.mp done
  obtain ⟨edited,_,done⟩ := Option.bind_eq_some_iff.mp done
  obtain ⟨heap,_,same⟩ := Option.map_eq_some_iff.mp done
  obtain ⟨_,rfl⟩ := Prod.mk.inj same
  exact ⟨rfl,rfl⟩

theorem print_asks (line : Event t) : Triple (Stands before gResult) (print line)
    (fun _ => Stands (before ++ line.asked.toList) gResult) E := by
  apply Triple.act
  intro s stands a s' done
  obtain ⟨_,rfl⟩ := Prod.mk.inj (Option.some.inj done)
  refine ⟨?_,stands.2⟩
  obtain ⟨rfl,_⟩ := stands
  cases reported : line.asked <;> simp [asked,reported]

theorem print_stands {line : Event t} (silent : line.asked = none) :
    Triple (Stands before gResult) (print line) (fun _ => Stands before gResult) E := by
  simpa [silent] using print_asks (E := E) line

theorem takeEdid_stands (o : Options) (host : Host t) (pEdidSz : Option UInt32) (pEdidBuf : EdidBuffer)
    (edidSize : UInt32) : Triple (Stands before gResult) (takeEdid o host pEdidSz pEdidBuf edidSize)
      (fun _ => Stands before gResult) E := by
  have quiet : Triple (Stands before gResult) (pure ()) (fun _ => Stands before gResult) E :=
    Triple.pure fun _ stands => stands
  apply Triple.bind (R := fun _ => Stands before gResult)
  · cases pEdidSz with
    | none => exact quiet
    | some _ => exact print_stands rfl
  intro _
  cases pEdidBuf with
  | static edid => exact quiet
  | heap buf =>
    apply Triple.ite
    · intro _
      apply Triple.bind (R := fun _ => Stands before gResult)
      · apply Triple.ite
        · intro _
          apply Triple.bind (removeAudioCaps_stands _ _ _)
          intro numAudioBlocksRemoved
          exact Triple.ite (fun _ => print_stands rfl) fun _ => quiet
        · exact fun _ => quiet
      intro _
      apply Triple.bind (R := fun _ => Stands before gResult)
      · apply Triple.ite
        · exact fun _ => Triple.bind (loadBytes_stands _ _) fun _ => print_stands rfl
        · exact fun _ => quiet
      intro _
      exact Triple.bind (loadBytes_stands _ _) fun _ => print_stands rfl
    · exact fun _ => quiet

theorem edidMgmtApi_asks (o : Options) (host : Host t) (hDisplayOutput : CtlDisplayOutputHandle t)
    (opType : Optype) (edidType : CtlEdidType) (pEdidSz : Option UInt32) (pEdidBuf : EdidBuffer) :
    Triple (Stands before gResult) (edidMgmtApi o host hDisplayOutput opType edidType pEdidSz pEdidBuf)
      (fun answer => Stands
        (before ++ [((hDisplayOutput,opType),decide (answer.code = .success))]) gResult) E := by
  apply Triple.bind (call_stands host _)
  intro answer
  apply Triple.bind (print_asks _)
  intro _
  apply Triple.ite
  · exact fun _ => Triple.pure fun _ stands => stands
  intro _
  apply Triple.ite
  · exact fun _ => Triple.bind (takeEdid_stands _ _ _ _ _) fun _ => Triple.pure fun _ stands => stands
  · exact fun _ => Triple.pure fun _ stands => stands

/-- A part that performs a script for one display. Where it jumps it has stopped early, and an error
goes to the label. -/
def Follows (hDisplayOutput : CtlDisplayOutputHandle t) (script : List Optype)
    (x : Body Locals (Sample (Event t)) α) : Prop :=
  ∀ before gResult, Triple (Stands before gResult) x
    (fun _ => Stands (before ++ performed (requests hDisplayOutput script)) gResult)
    fun atExit s => atExit.result ≠ .success ∧
      ∃ tried, Attempt (requests hDisplayOutput script) tried ∧ Stands (before ++ tried) gResult s

section Parts

variable {hDisplayOutput : CtlDisplayOutputHandle t} {first second : List Optype}

theorem follows_nothing {x : Body Locals (Sample (Event t)) α}
    (quiet : ∀ before gResult (E : Locals → Sample (Event t) → Prop),
      Triple (Stands before gResult) x (fun _ => Stands before gResult) E) :
    Follows hDisplayOutput [] x := by
  intro before gResult
  simpa [requests] using quiet before gResult _

theorem follows_bind {x : Body Locals (Sample (Event t)) α} {f : α → Body Locals (Sample (Event t)) β}
    (follows : Follows hDisplayOutput first x) (rest : ∀ a, Follows hDisplayOutput second (f a)) :
    Follows hDisplayOutput (first ++ second) (x >>= f) := by
  intro before gResult
  apply Triple.bind
  · apply (follows before gResult).consequence (fun _ stands => stands) (fun _ _ stands => stands)
    rintro atExit s ⟨failed,tried,attempt,stands⟩
    refine ⟨failed,tried,?_,stands⟩
    simpa [requests] using attempt.before (requests hDisplayOutput second)
  · intro a
    apply (rest a _ gResult).consequence (fun _ stands => stands)
    · intro b s stands
      simpa [requests] using stands
    · rintro atExit s ⟨failed,tried,attempt,stands⟩
      refine ⟨failed,performed (requests hDisplayOutput first) ++ tried,?_,by simpa using stands⟩
      simpa [requests] using attempt.after (requests hDisplayOutput first)

theorem follows_ite {c : Prop} [Decidable c] {x y : Body Locals (Sample (Event t)) α}
    (onTrue : c → Follows hDisplayOutput first x) (onFalse : ¬c → Follows hDisplayOutput second y) :
    Follows hDisplayOutput (if c then first else second) (if c then x else y) := by
  by_cases holds : c
  · simpa [holds] using onTrue holds
  · simpa [holds] using onFalse holds

theorem pure_follows (a : α) : Follows hDisplayOutput [] (pure a : Body Locals (Sample (Event t)) α) :=
  follows_nothing fun _ _ _ => Triple.pure fun _ stands => stands

theorem print_follows {line : Event t} (silent : line.asked = none) :
    Follows hDisplayOutput [] (print line) :=
  follows_nothing fun _ _ _ => print_stands silent

theorem logAndExitOnError_follows (opType : Optype) (code : CtlResult) (site : Site) (buf : Addr) :
    Triple (Stands (before ++ [((hDisplayOutput,opType),decide (code = .success))]) gResult)
      (logAndExitOnError code (.failed site code) ⟨buf,code⟩ : Body Locals (Sample (Event t)) Unit)
      (fun _ => Stands (before ++ performed (requests hDisplayOutput [opType])) gResult)
      fun atExit s => atExit.result ≠ .success ∧ ∃ tried,
        Attempt (requests hDisplayOutput [opType]) tried ∧ Stands (before ++ tried) gResult s := by
  apply Triple.ite
  · intro refused
    apply Triple.bind (print_stands rfl)
    intro _
    apply Triple.goto
    intro s stands
    exact ⟨refused,_,.refused [] _ [] rfl,by simpa [refused] using stands⟩
  · intro granted
    obtain granted := not_not.mp granted
    exact Triple.pure fun _ stands => by simpa [granted,requests] using stands

theorem manage_follows (o : Options) (host : Host t) (opType : Optype) (edidType : CtlEdidType)
    (pEdidSz : Option UInt32) (pEdidBuf : EdidBuffer) (site : Site) : Follows hDisplayOutput [opType]
      (manage o host hDisplayOutput opType edidType pEdidSz pEdidBuf site) := by
  intro before gResult
  apply Triple.bind (edidMgmtApi_asks o host hDisplayOutput opType edidType pEdidSz pEdidBuf)
  intro answer
  exact logAndExitOnError_follows opType answer.code site 0

theorem manageSupplied_follows (o : Options) (host : Host t) (opType : Optype) (site : Site) :
    Follows hDisplayOutput [opType] (manageSupplied o host hDisplayOutput opType site) := by
  unfold manageSupplied
  split
  · exact fun _ _ => Triple.undefined
  · exact manage_follows o host opType .override _ _ site

/-- A request whose code is checked before a part goes on. -/
theorem check_follows (o : Options) (host : Host t) (opType : Optype) (edidType : CtlEdidType)
    (pEdidSz : Option UInt32) (pEdidBuf : EdidBuffer) (site : Site) (buf : Addr)
    {rest : Answer (Option UInt32) → Body Locals (Sample (Event t)) α}
    (later : ∀ answer, Follows hDisplayOutput second (rest answer)) :
    Follows hDisplayOutput (opType :: second) (do
      let answer ← edidMgmtApi o host hDisplayOutput opType edidType pEdidSz pEdidBuf
      logAndExitOnError answer.code (.failed site answer.code) ⟨buf,answer.code⟩
      rest answer) := by
  intro before gResult
  apply Triple.bind (edidMgmtApi_asks o host hDisplayOutput opType edidType pEdidSz pEdidBuf)
  intro answer
  apply Triple.bind
  · apply (logAndExitOnError_follows opType answer.code site buf).consequence
    · exact fun _ stands => stands
    · exact fun _ _ stands => stands
    · rintro atExit s ⟨failed,tried,attempt,stands⟩
      exact ⟨failed,tried,attempt.before (requests hDisplayOutput second),stands⟩
  · intro _
    apply (later answer _ gResult).consequence
    · exact fun _ stands => stands
    · intro a s stands
      simpa [requests] using stands
    · rintro atExit s ⟨failed,tried,attempt,stands⟩
      exact ⟨failed,_,attempt.after [(hDisplayOutput,opType)],by simpa [requests] using stands⟩

theorem exitOnMemAllocFailure_follows (ptr : Addr) (site : Site) {code : CtlResult}
    (failed : code ≠ .success) : Follows hDisplayOutput []
      (exitOnMemAllocFailure ptr (.allocationFailed site) ⟨ptr,code⟩) := by
  intro before gResult
  apply Triple.ite
  · intro _
    apply Triple.bind (print_stands rfl)
    intro _
    apply Triple.goto
    intro s stands
    exact ⟨failed,[],.stopped [] [] rfl,by simpa using stands⟩
  · intro _
    exact Triple.pure fun _ stands => by simpa [requests] using stands

theorem readTwice_follows (o : Options) (host : Host t) :
    Follows hDisplayOutput [.readEdid,.readEdid] (readTwice o host hDisplayOutput) := by
  apply check_follows
  intro size
  apply follows_bind (follows_nothing fun _ _ _ => malloc_stands host _)
  intro pEdidBuf
  apply follows_bind (exitOnMemAllocFailure_follows pEdidBuf .edidBuf (by decide))
  intro _
  apply check_follows
  exact fun _ => pure_follows _

/-- A part that reads the EDID only to print it. -/
theorem readAndFree_follows (o : Options) (host : Host t) (test : Test) :
    Follows hDisplayOutput [.readEdid,.readEdid] (do
      let pEdidBuf ← readTwice o host hDisplayOutput
      let _ ← ctlFreeMem pEdidBuf
      print (.passed test)) := by
  apply follows_bind (readTwice_follows o host)
  intro pEdidBuf
  apply follows_bind (follows_nothing fun _ _ _ => ctlFreeMem_stands pEdidBuf)
  exact fun _ => print_follows rfl

/-- One of the tests for attached displays: made for its own operation and for all of them. -/
theorem passed_follows {x : Body Locals (Sample (Event t)) Unit} (test : Test)
    (follows : Follows hDisplayOutput first x) :
    Follows hDisplayOutput first (do
      x
      print (.passed test)) := by
  simpa using follows_bind follows fun _ => print_follows rfl

theorem lockMonitor_follows (o : Options) (host : Host t) :
    Follows hDisplayOutput [.lockEdid] (lockMonitor o host hDisplayOutput) := by
  unfold lockMonitor
  split
  · exact manageSupplied_follows o host .lockEdid _
  · exact manage_follows o host .lockEdid .monitor _ _ _

theorem testLock_follows (o : Options) (host : Host t) : Follows hDisplayOutput
    (if o.edidMgmtOpType = .lockEdid ∨ o.edidMgmtOpType = .max then [.lockEdid] else [])
    (testLock o host hDisplayOutput) :=
  follows_ite (fun _ => passed_follows .lockMonitor (lockMonitor_follows o host))
    fun _ => pure_follows ()

theorem testUnlock_follows (o : Options) (host : Host t) : Follows hDisplayOutput
    (if o.edidMgmtOpType = .unlockEdid ∨ o.edidMgmtOpType = .max then [.unlockEdid] else [])
    (testUnlock o host hDisplayOutput) :=
  follows_ite (fun _ => passed_follows .unlock (manage_follows o host .unlockEdid .current _ _ _))
    fun _ => pure_follows ()

theorem testOverride_follows (o : Options) (host : Host t) : Follows hDisplayOutput
    (if o.edidMgmtOpType = .overrideEdid ∨ o.edidMgmtOpType = .max then [.overrideEdid] else [])
    (testOverride o host hDisplayOutput) :=
  follows_ite (fun _ => passed_follows .override (manageSupplied_follows o host .overrideEdid _))
    fun _ => pure_follows ()

theorem testRead_follows (o : Options) (host : Host t) : Follows hDisplayOutput
    (if o.edidMgmtOpType = .readEdid ∨ o.edidMgmtOpType = .max then [.readEdid,.readEdid] else [])
    (testRead o host hDisplayOutput) :=
  follows_ite (fun _ => readAndFree_follows o host .read) fun _ => pure_follows ()

theorem testUndoOverride_follows (o : Options) (host : Host t) : Follows hDisplayOutput
    (if o.edidMgmtOpType = .undoOverrideEdid ∨ o.edidMgmtOpType = .max
      then [.undoOverrideEdid,.readEdid,.readEdid] else [])
    (testUndoOverride o host hDisplayOutput) := by
  refine follows_ite (fun _ => ?_) fun _ => pure_follows ()
  exact follows_bind (manage_follows o host .undoOverrideEdid .current _ _ _)
    fun _ => readAndFree_follows o host .removeOverridden

theorem testLockSupplied_follows (o : Options) (host : Host t) : Follows hDisplayOutput
    (if o.edidMgmtOpType = .max then [.lockEdid,.unlockEdid] else [])
    (testLockSupplied o host hDisplayOutput) := by
  refine follows_ite (fun _ => ?_) fun _ => pure_follows ()
  apply follows_bind (manageSupplied_follows o host .lockEdid _)
  intro _
  apply follows_bind (print_follows rfl)
  intro _
  exact passed_follows .unlock (manage_follows o host .unlockEdid .current _ _ _)

theorem testAttached_follows (o : Options) (host : Host t) :
    Follows hDisplayOutput (attachedScript o.edidMgmtOpType) (testAttached o host hDisplayOutput) := by
  have parts : Follows hDisplayOutput _ (testAttached o host hDisplayOutput) :=
    follows_bind (testLock_follows o host) fun _ =>
    follows_bind (testUnlock_follows o host) fun _ =>
    follows_bind (testOverride_follows o host) fun _ =>
    follows_bind (testRead_follows o host) fun _ =>
    follows_bind (testUndoOverride_follows o host) fun _ =>
    follows_bind (testLockSupplied_follows o host) fun _ => pure_follows 0
  cases chosen : o.edidMgmtOpType <;> simpa [chosen,attachedScript] using parts

theorem testTarget_follows (o : Options) (host : Host t) (isDisplayAttached : Bool) :
    Follows hDisplayOutput (targetScript o.edidMgmtOpType)
      (testTarget o host hDisplayOutput isDisplayAttached) := by
  have ending (test : Test) (pEdidBuf : Addr) :
      Follows hDisplayOutput [] (do
        print (.passed test)
        pure pEdidBuf : Body Locals (Sample (Event t)) Addr) :=
    follows_bind (print_follows rfl) fun _ => pure_follows pEdidBuf
  unfold testTarget
  cases chosen : o.edidMgmtOpType with
  | lockEdid =>
    cases isDisplayAttached with
    | true =>
      exact follows_bind (manage_follows o host .lockEdid .monitor _ _ _) fun _ => ending .lockSupplied 0
    | false =>
      exact follows_bind (manageSupplied_follows o host .lockEdid _) fun _ => ending .lockSupplied 0
  | unlockEdid =>
    exact follows_bind (manage_follows o host .unlockEdid .current _ _ _) fun _ => ending .unlock 0
  | overrideEdid =>
    exact follows_bind (manageSupplied_follows o host .overrideEdid _) fun _ => ending .override 0
  | undoOverrideEdid =>
    exact follows_bind (manage_follows o host .undoOverrideEdid .current _ _ _) fun _ =>
      ending .removeOverridden 0
  | readEdid =>
    exact follows_bind (readTwice_follows o host) fun pEdidBuf => ending .read pEdidBuf
  | max => exact pure_follows _

theorem testDisplay_follows (o : Options) (host : Host t) (isDisplayAttached : Bool) :
    Follows hDisplayOutput (script o isDisplayAttached)
      (testDisplay o host hDisplayOutput isDisplayAttached) :=
  follows_ite (fun _ => testTarget_follows o host isDisplayAttached) fun _ =>
    follows_ite (fun _ => testAttached_follows o host) fun _ => pure_follows 0

/-- What a test of one display has asked by the time it returns its result. -/
def Tested (hDisplayOutput : CtlDisplayOutputHandle t) (script : List Optype) (result : CtlResult)
    (tried : List (Asked (Request t))) : Prop :=
  result = .success ∧ tried = performed (requests hDisplayOutput script) ∨
    result ≠ .success ∧ Attempt (requests hDisplayOutput script) tried

/-- A test that reports success has carried out its script; any other has stopped early. -/
theorem testEDIDManagement_tested (o : Options) (host : Host t)
    (displayProperties : CtlDisplayProperties) :
    Triple (Stands before gResult) (testEDIDManagement o host hDisplayOutput displayProperties)
      (fun result s => ∃ tried, Stands (before ++ tried) gResult s ∧
        Tested hDisplayOutput (script o (isDisplayAttached displayProperties)) result tried) E := by
  apply Triple.label (R := fun atExit s => ∃ tried, Stands (before ++ tried) gResult s ∧
    Tested hDisplayOutput (script o (isDisplayAttached displayProperties)) atExit.result tried)
  · apply Triple.bind
    · apply (testDisplay_follows o host (isDisplayAttached displayProperties) before gResult).consequence
      · exact fun _ stands => stands
      · exact fun _ _ stands => stands
      · rintro atExit s ⟨failed,tried,attempt,stands⟩
        exact ⟨tried,stands,.inr ⟨failed,attempt⟩⟩
    · intro pEdidBuf
      exact Triple.pure fun s stands => ⟨_,stands,.inl ⟨rfl,rfl⟩⟩
  · intro atExit
    apply Triple.bind (R := fun _ s => ∃ tried, Stands (before ++ tried) gResult s ∧
      Tested hDisplayOutput (script o (isDisplayAttached displayProperties)) atExit.result tried)
    · apply Triple.choose
      intro tried
      apply Triple.given
      intro tested
      exact (ctlFreeMem_stands _).post fun _ s stands => ⟨tried,stands,tested⟩
    · exact fun _ => Triple.pure fun _ tested => tested

end Parts

/-- A condition on a run between two tests. -/
def Session (I : CtlResult → List (Asked (Request t)) → Prop) (s : Sample (Event t)) : Prop :=
  I s.gResult (asked s)

/-- What has to be shown of a condition to have it after every run. -/
structure Kept (o : Options) (I : CtlResult → List (Asked (Request t)) → Prop) : Prop where
  stored : ∀ gResult result before, I gResult before → result ≠ .success → I result before
  passed : ∀ gResult before hDisplayOutput isDisplayAttached, I gResult before →
    I gResult (before ++ performed (requests hDisplayOutput (script o isDisplayAttached)))
  failed : ∀ gResult before hDisplayOutput isDisplayAttached result tried, I gResult before →
    result ≠ .success → Attempt (requests hDisplayOutput (script o isDisplayAttached)) tried →
    I result (before ++ tried)

section Runs

variable {o : Options} {host : Host t} {I : CtlResult → List (Asked (Request t)) → Prop}

theorem session_frame {x : Body ε (Sample (Event t)) α}
    (quiet : ∀ before gResult, Triple (Stands before gResult) x (fun _ => Stands before gResult) E) :
    Triple (Session I) x (fun _ => Session I) E := by
  apply Triple.each
  intro s₀ holds
  apply (quiet (asked s₀) s₀.gResult).consequence
  · rintro s rfl
    exact ⟨rfl,rfl⟩
  · rintro _ s ⟨same,unchanged⟩
    rw [Session,same,unchanged]
    exact holds
  · exact fun _ _ abrupt => abrupt

theorem print_session {line : Event t} (silent : line.asked = none) :
    Triple (Session I) (print line) (fun _ => Session I) E :=
  session_frame fun _ _ => print_stands silent

theorem storeAndResetError_session (kept : Kept o I) (result : CtlResult) :
    Triple (Session I) (storeAndResetError result) (fun _ => Session I) E := by
  apply Triple.act
  intro s holds a s' done
  obtain ⟨_,rfl⟩ := Prod.mk.inj (Option.some.inj done)
  split
  next failed => exact kept.stored _ _ _ holds failed
  next => exact holds

/-- Its result goes to `STORE_AND_RESET_ERROR`. -/
theorem testEDIDManagement_session (kept : Kept o I) (hDisplayOutput : CtlDisplayOutputHandle t)
    (displayProperties : CtlDisplayProperties) :
    Triple (Session I) (do
      let result ← testEDIDManagement o host hDisplayOutput displayProperties
      storeAndResetError result) (fun _ => Session I) E := by
  apply Triple.each
  intro s₀ holds
  apply Triple.bind ((testEDIDManagement_tested o host displayProperties).weaken
    (P := Stands (asked s₀) s₀.gResult) (by rintro s rfl; exact ⟨rfl,rfl⟩))
  intro result
  apply Triple.act
  rintro s ⟨tried,⟨same,unchanged⟩,tested⟩ a s' done
  obtain ⟨_,rfl⟩ := Prod.mk.inj (Option.some.inj done)
  rcases tested with ⟨rfl,rfl⟩ | ⟨failed,attempt⟩
  · simpa [Session,same,unchanged] using kept.passed _ _ hDisplayOutput _ holds
  · have later := kept.failed _ _ hDisplayOutput _ result tried holds failed attempt
    rw [if_pos failed]
    rw [← same] at later
    exact later

theorem visitDisplay_session (kept : Kept o I) (hDisplayOutput : Addr) (displayIndex : Nat)
    (result : CtlResult) : Triple (Session I) (visitDisplay o host hDisplayOutput displayIndex result)
      (fun _ => Session I) fun _ => Session I := by
  apply Triple.bind (session_frame fun _ _ => loadHandle_stands _ _)
  intro display
  apply Triple.bind (session_frame fun _ _ => call_stands host _)
  intro properties
  apply Triple.bind (R := fun _ => Session I)
  · apply Triple.ite
    · exact fun _ => Triple.bind (print_session rfl) fun _ => Triple.goto fun _ holds => holds
    · exact fun _ => Triple.pure fun _ holds => holds
  intro _
  apply Triple.ite
  · exact fun _ => Triple.pure fun _ holds => holds
  · intro _
    apply Triple.bind (session_frame fun _ _ => loadHandle_stands _ _)
    intro display
    exact testEDIDManagement_session kept display properties.out

theorem enumerateDisplayHandles_session (kept : Kept o I) (hDisplayOutput : Addr)
    (displayCount : UInt32) :
    Triple (Session I) (enumerateDisplayHandles o host hDisplayOutput displayCount)
      (fun _ => Session I) E := by
  apply Triple.label (R := fun _ => Session I)
  · exact Triple.countUp (fun index result => visitDisplay_session kept hDisplayOutput index result) _ _ _
  · exact fun _ => Triple.pure fun _ holds => holds

theorem visitAdapter_session (kept : Kept o I) (hDevices : Addr) (adapterIndex : Nat)
    (locals : AdapterLocals) : Triple (Session I) (visitAdapter o host hDevices adapterIndex locals)
      (fun _ => Session I) fun _ => Session I := by
  apply Triple.ite
  · exact fun _ => Triple.pure fun _ holds => holds
  intro _
  apply Triple.bind (session_frame fun _ _ => loadHandle_stands _ _)
  intro device
  apply Triple.bind (session_frame fun _ _ => call_stands host _)
  intro query
  apply Triple.ite
  · intro _
    apply Triple.bind (print_session rfl)
    intro _
    exact Triple.bind (storeAndResetError_session kept _) fun _ => Triple.pure fun _ holds => holds
  intro _
  apply Triple.ite
  · exact fun _ => Triple.bind (print_session rfl) fun _ => Triple.pure fun _ holds => holds
  intro _
  apply Triple.bind (session_frame fun _ _ => malloc_stands host _)
  intro handles
  apply Triple.bind (R := fun _ => Session I)
  · apply Triple.ite
    · exact fun _ => Triple.bind (print_session rfl) fun _ => Triple.goto fun _ holds => holds
    · exact fun _ => Triple.pure fun _ holds => holds
  intro _
  apply Triple.bind (session_frame fun _ _ => loadHandle_stands _ _)
  intro device
  apply Triple.bind (session_frame fun _ _ => call_stands host _)
  intro read
  apply Triple.ite
  · intro _
    apply Triple.bind (print_session rfl)
    intro _
    exact Triple.bind (storeAndResetError_session kept _) fun _ => Triple.pure fun _ holds => holds
  · intro _
    apply Triple.bind (enumerateDisplayHandles_session kept _ _)
    intro result
    apply Triple.bind (R := fun _ => Session I)
    · exact Triple.ite (fun _ => print_session rfl) fun _ => Triple.pure fun _ holds => holds
    intro _
    apply Triple.bind (session_frame fun _ _ => ctlFreeMem_stands _)
    exact fun _ => Triple.pure fun _ holds => holds

/-- What every test keeps is kept by the whole run. -/
theorem enumerateTargetDisplays_session (kept : Kept o I) (adapterCount : UInt32) (hDevices : Addr) :
    Triple (Session I) (enumerateTargetDisplays o host adapterCount hDevices)
      (fun _ => Session I) E := by
  apply Triple.label (R := fun _ => Session I)
  · exact Triple.countUp (fun index locals => visitAdapter_session kept hDevices index locals) _ _ _
  · intro atExit
    exact Triple.bind (session_frame fun _ _ => ctlFreeMem_stands _) fun _ => Triple.pure fun _ holds => holds

end Runs

/-- The requests of one operation, which may read the EDID besides. With all operations, while no
error is stored, every display that was asked anything has been through the whole script. -/
structure Orderly (o : Options) (found : CtlDisplayOutputHandle t → Condition) (gResult : CtlResult)
    (trace : List (Asked (Request t))) : Prop where
  single : o.edidMgmtOpType ≠ .max →
    ∀ asked ∈ trace, asked.1.2 = o.edidMgmtOpType ∨ asked.1.2 = .readEdid
  obeyed : o.edidMgmtOpType = .max → gResult = .success → (managementRules.each.Obeyed found trace ↔
    ∀ asked ∈ trace, (found asked.1.1).overridden = false)
  restored : o.edidMgmtOpType = .max → gResult = .success →
    ∀ asked ∈ trace, managementRules.each.state found trace asked.1.1 = ⟨false,false⟩

theorem script_single {o : Options} (single : o.edidMgmtOpType ≠ .max) (isDisplayAttached : Bool) :
    ∀ opType ∈ script o isDisplayAttached, opType = o.edidMgmtOpType ∨ opType = .readEdid := by
  unfold script
  split
  · cases chosen : o.edidMgmtOpType <;> simp_all [targetScript]
  · split
    · cases chosen : o.edidMgmtOpType <;> simp_all [attachedScript]
    · simp

/-- The script of all operations starts with a lock and ends with an unlocked display. -/
theorem script_all {o : Options} (all : o.edidMgmtOpType = .max) (isDisplayAttached : Bool) :
    script o isDisplayAttached = [] ∨ script o isDisplayAttached ≠ [] ∧ ∀ display : Condition,
      (managementRules.Permits display (script o isDisplayAttached) ↔ display.overridden = false) ∧
      (script o isDisplayAttached).foldl managementRules.next display = ⟨false,false⟩ := by
  unfold script
  rw [all]
  split
  · exact .inl rfl
  · split
    · right
      simp [managementRules,attachedScript,Rules.Permits]
    · exact .inl rfl

/-- One operation does not get in its own way. -/
theorem single_indifferent (opType : Optype) (display : Condition) (a b : Optype)
    (first : a = opType ∨ a = .readEdid) (second : b = opType ∨ b = .readEdid) :
    managementRules.allows (managementRules.next display a) b ↔ managementRules.allows display b := by
  rcases first with rfl | rfl <;> rcases second with rfl | rfl
  · cases b <;> simp [managementRules]
  · simp [managementRules]
  · simp [managementRules]
  · simp [managementRules]

section Rounds

variable {o : Options} {found : CtlDisplayOutputHandle t → Condition} {hDisplayOutput : CtlDisplayOutputHandle t}
  {isDisplayAttached : Bool} {gResult : CtlResult} {trace : List (Asked (Request t))}

theorem orderly_single (orderly : Orderly o found gResult trace) {result : CtlResult}
    {tried : List (Asked (Request t))} (single : o.edidMgmtOpType ≠ .max)
    (listed : ∀ asked ∈ tried, asked.1 ∈ requests hDisplayOutput (script o isDisplayAttached)) :
    Orderly o found result (trace ++ tried) where
  single := by
    intro _ asked member
    rcases List.mem_append.mp member with before | here
    · exact orderly.single single asked before
    · obtain ⟨opType,among,same⟩ := List.mem_map.mp (listed asked here)
      rw [← same]
      exact script_single single isDisplayAttached opType among
  obeyed all := absurd all single
  restored all := absurd all single

/-- A display found without an override can go through the script of all operations. -/
theorem orderly_all (orderly : Orderly o found gResult trace) (all : o.edidMgmtOpType = .max) :
    Orderly o found gResult
      (trace ++ performed (requests hDisplayOutput (script o isDisplayAttached))) := by
  rcases script_all all isDisplayAttached with none_ | ⟨some_,each⟩
  · simpa [none_,requests] using orderly
  have asked_ (asked : Asked (Request t))
      (member : asked ∈ performed (requests hDisplayOutput (script o isDisplayAttached))) :
      asked.1.1 = hDisplayOutput := by
    obtain ⟨request,among,rfl⟩ := List.mem_map.mp member
    obtain ⟨opType,_,rfl⟩ := List.mem_map.mp among
    rfl
  have now : (managementRules.each.Permits (managementRules.each.state found trace)
      (requests hDisplayOutput (script o isDisplayAttached))) ↔
        (managementRules.each.state found trace hDisplayOutput).overridden = false := by
    rw [requests,Rules.permits_each]
    exact (each _).1
  have ends : managementRules.each.state found
      (trace ++ performed (requests hDisplayOutput (script o isDisplayAttached))) =
        Function.update (managementRules.each.state found trace) hDisplayOutput ⟨false,false⟩ := by
    rw [Rules.state_append,Rules.state_performed,requests,Rules.foldl_each,(each _).2]
  refine ⟨fun single => absurd all single,?_,?_⟩
  · intro _ success
    rw [Rules.obeyed_append,Rules.obeyed_performed,now,orderly.obeyed all success,List.forall_mem_append]
    apply and_congr_right
    intro clear
    obtain ⟨first,rest,same⟩ := List.exists_cons_of_ne_nil some_
    by_cases earlier : ∃ asked ∈ trace, asked.1.1 = hDisplayOutput
    · obtain ⟨asked,member,rfl⟩ := earlier
      rw [orderly.restored all success asked member]
      refine ⟨fun _ later among => ?_,fun _ => rfl⟩
      rw [asked_ later among]
      exact clear asked member
    · rw [Rules.each_unasked _ _ _ fun asked member same => earlier ⟨asked,member,same⟩]
      constructor
      · intro clean asked member
        rw [asked_ asked member]
        exact clean
      · intro clean
        exact clean ((hDisplayOutput,first),true) (by simp [requests,same])
  · intro _ success asked member
    rw [ends]
    by_cases here : asked.1.1 = hDisplayOutput
    · rw [here,Function.update_self]
    · rw [Function.update_of_ne here]
      rcases List.mem_append.mp member with before | after
      · exact orderly.restored all success asked before
      · exact absurd (asked_ asked after) here

end Rounds

theorem orderly_kept (o : Options) (found : CtlDisplayOutputHandle t → Condition) :
    Kept o (Orderly o found) where
  stored gResult result before orderly failed :=
    ⟨orderly.single,fun _ success => absurd success failed,fun _ success => absurd success failed⟩
  passed gResult before hDisplayOutput isDisplayAttached orderly := by
    by_cases all : o.edidMgmtOpType = .max
    · exact orderly_all orderly all
    · exact orderly_single orderly all fun asked member =>
        (Attempt.whole (requests hDisplayOutput (script o isDisplayAttached))).listed member
  failed gResult before hDisplayOutput isDisplayAttached result tried orderly failed attempt := by
    by_cases all : o.edidMgmtOpType = .max
    · exact ⟨fun single => absurd all single,fun _ success => absurd success failed,
        fun _ success => absurd success failed⟩
    · exact orderly_single orderly all fun asked member => attempt.listed member

/-- In whatever conditions the displays are found. A run for one operation obeys the rules in the
comments of the header exactly when each request was allowed on its display as found. A run of all
operations that stores no error obeys them exactly when no display it asked was found overridden; those
it asked are then neither locked nor overridden, and the others as they were found. -/
theorem documented_rules_obeyed (o : Options) (host : Host t) (adapterCount : UInt32) (hDevices : Addr)
    (found : CtlDisplayOutputHandle t → Condition) {s s' : Sample (Event t)} {code : CtlResult}
    (started : asked s = [] ∧ s.gResult = .success)
    (ran : (enumerateTargetDisplays o host adapterCount hDevices :
      Body Empty (Sample (Event t)) CtlResult) s = some (.ok code,s')) :
    (o.edidMgmtOpType ≠ .max → (managementRules.each.Obeyed found (asked s') ↔
      ∀ request ∈ asked s', managementRules.allows (found request.1.1) request.1.2)) ∧
    (o.edidMgmtOpType = .max → s'.gResult = .success →
      (managementRules.each.Obeyed found (asked s') ↔
        ∀ request ∈ asked s', (found request.1.1).overridden = false) ∧
      (∀ request ∈ asked s',
        managementRules.each.state found (asked s') request.1.1 = ⟨false,false⟩) ∧
      ∀ display, (∀ request ∈ asked s', request.1.1 ≠ display) →
        managementRules.each.state found (asked s') display = found display) := by
  have orderly : Orderly o found s'.gResult (asked s') := by
    apply (enumerateTargetDisplays_session (orderly_kept o found) adapterCount hDevices).ended
      (E := fun _ _ => True) _ ran
    rw [Session,started.1]
    exact ⟨by simp,by simp,by simp⟩
  constructor
  · intro single
    exact managementRules.each.obeyed_iff_of_indifferent found (asked s')
      (P := fun request => request.2 = o.edidMgmtOpType ∨ request.2 = .readEdid)
      (fun displays => managementRules.each_indifferent displays (single_indifferent o.edidMgmtOpType))
      (orderly.single single)
  · intro all success
    exact ⟨orderly.obeyed all success,orderly.restored all success,
      fun display unasked => managementRules.each_unasked found (asked s') unasked⟩

/-- One adapter with one attached display, which grants everything. -/
def grantingHost : Host Target.x64 where
  runtime _ := some {
    ctlPanelDescriptorAccess := none
    ctlEnumerateDisplayOutputs := some fun _ _ _ _ => ⟨.success,1,[]⟩
    ctlEnumerateDevices := none
    ctlGetDisplayProperties := some fun _ properties _ =>
      ⟨.success,{ properties with displayConfigFlags := displayConfigFlagDisplayAttached },[]⟩
    ctlEdidManagement := some fun _ args _ => ⟨.success,{ args with edidSize := 1 },[]⟩ }
  malloc := mallocTwo
  memcpyS := CheckedBuffer.memmoveS

def allOperations : Options := ⟨.max,0,false,0,false,false,[0]⟩

def oneAdapter : Heap := Mem.empty.set 3 (Nat.succ_ne_zero 2) (some [0,0,0,0,0,0,0,0])

theorem granted_rules_obeyed : ∃ code last,
    (enumerateTargetDisplays allOperations grantingHost 1 3 :
      Body Empty (Sample (Event Target.x64)) CtlResult) ⟨oneAdapter,0,[],.success⟩ =
        some (.ok code,last) ∧
    managementRules.each.Obeyed (fun _ => ⟨true,false⟩) (asked last) ∧
    ¬managementRules.each.Obeyed (fun _ => ⟨false,true⟩) (asked last) := by
  have shown : ((enumerateTargetDisplays allOperations grantingHost 1 3 :
      Body Empty (Sample (Event Target.x64)) CtlResult) ⟨oneAdapter,0,[],.success⟩).map
        (fun r => ((asked r.2).length,r.2.gResult)) = some (10,.success) := by decide +kernel
  obtain ⟨⟨ended,last⟩,ran,same⟩ := Option.map_eq_some_iff.mp shown
  obtain ⟨all,success⟩ := Prod.mk.inj same
  cases ended with
  | error e => exact e.elim
  | ok code =>
    have rules (found : CtlDisplayOutputHandle .x64 → Condition) :=
      ((documented_rules_obeyed allOperations grantingHost 1 3 found ⟨rfl,rfl⟩ ran).2 rfl success).1
    refine ⟨code,last,ran,(rules _).mpr fun _ _ => rfl,fun obeyed => ?_⟩
    obtain ⟨request,member⟩ := List.exists_mem_of_length_pos
      (show 0 < (asked last).length by rw [show (asked last).length = 10 from all]; exact Nat.succ_pos 9)
    exact Bool.noConfusion ((rules _).mp obeyed request member)

end IGCL.Samples.EdidManagement

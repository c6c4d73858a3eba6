import IGCLWrapper.Interleaving

/-! How an error in native code becomes a C# exception. A native function that is handed null for a
struct it takes by value calls back into C#, which stores an `ArgumentNullException` in a thread-static
field and counts it in `numExceptionsPending`; when the native function is back, its C# wrapper throws
what is stored. The counter is shared by all threads and read without the lock. -/
namespace IGCL.PendingException

open Interleaving

variable {n : Nat}

inductive ByValueType
  | wchar | ctlProperty | ctlDisplayProperties | ctlDeviceAdapterProperties | ctl3dFeatureCaps
  | ctlEngineStats | ctlMemState | ctlPowerTelemetry | ctlI2cAccessArgs | ctlAuxAccessArgs
  | ctlPanelDescriptorAccessArgs | ctlDceArgs | ctlWaitPropertyChangeArgs | ctlOcVfPair
  deriving DecidableEq, Repr

def ByValueType.spelling : ByValueType → String
  | .wchar => "WCHAR"
  | .ctlProperty => "ctl_property_t"
  | .ctlDisplayProperties => "ctl_display_properties_t"
  | .ctlDeviceAdapterProperties => "ctl_device_adapter_properties_t"
  | .ctl3dFeatureCaps => "ctl_3d_feature_caps_t"
  | .ctlEngineStats => "ctl_engine_stats_t"
  | .ctlMemState => "ctl_mem_state_t"
  | .ctlPowerTelemetry => "ctl_power_telemetry_t"
  | .ctlI2cAccessArgs => "ctl_i2c_access_args_t"
  | .ctlAuxAccessArgs => "ctl_aux_access_args_t"
  | .ctlPanelDescriptorAccessArgs => "ctl_panel_descriptor_access_args_t"
  | .ctlDceArgs => "ctl_dce_args_t"
  | .ctlWaitPropertyChangeArgs => "ctl_wait_property_change_args_t"
  | .ctlOcVfPair => "ctl_oc_vf_pair_t"

/-- `paramName` is null in every call the native code makes. -/
structure ArgumentNullException where
  message : String
  deriving DecidableEq, Repr

/-- A call of a wrapped function: one of `copy_X`, `X_assign` and `ctlOverclockGpuLockSet`, which take
a struct by value and test `Pending` when they are back, or any other, which does neither. -/
inductive Call
  | plain
  | byValue (T : ByValueType) (isNull : Bool)
  deriving DecidableEq, Repr

inductive Outcome
  | returned
  | threw (e : ArgumentNullException)
  | threwNull
  deriving DecidableEq, Repr

/-- Where a thread is between two accesses to `numExceptionsPending`. -/
inductive Control
  | idle
  /-- In `SetPendingArgumentNullException`, at the test of `Retrieve`. -/
  | callback (message : String)
  /-- `Retrieve` took the exception `e` and is about to count it off. -/
  | callbackTook (message : String) (e : ArgumentNullException)
  /-- At `Set`, with what `Retrieve` answered. -/
  | settle (message : String) (e : Option ArgumentNullException)
  /-- `Set` stored the exception and is about to count it. -/
  | stored
  /-- The native function has returned; at the test of `Pending`. -/
  | back
  /-- `Pending` was true; at the test of `Retrieve`. -/
  | throwing
  /-- `Retrieve` took the exception `e` and is about to count it off. -/
  | throwingTook (e : ArgumentNullException)
  /-- `Set` found an earlier exception and threw inside the callback. -/
  | fatal
  deriving DecidableEq, Repr

structure Thread where
  pendingException : Option ArgumentNullException
  control : Control
  calls : List Call
  outcomes : List Outcome
  deriving DecidableEq, Repr

def nullMessage (T : ByValueType) : String := "Attempt to dereference null " ++ T.spelling

namespace Thread

def finish (l : Thread) (outcome : Outcome) : Thread :=
  { l with control := .idle, outcomes := l.outcomes ++ [outcome] }

/-- `SWIGPendingException.Retrieve` up to the lock: with an exception to take it goes on to `took`,
without one to `empty`. -/
def retrieve (l : Thread) (numExceptionsPending : Int) (took : ArgumentNullException → Control)
    (empty : Thread) : Thread :=
  if 0 < numExceptionsPending then
    match l.pendingException with
    | some e => { l with pendingException := none, control := took e }
    | none => empty
  else empty

theorem retrieve_none (l : Thread) (count : Int) (took : ArgumentNullException → Control)
    (empty : Thread) (nothing : l.pendingException = none) : l.retrieve count took empty = empty := by
  simp [retrieve,nothing]

theorem retrieve_some {l : Thread} {count : Int} (took : ArgumentNullException → Control)
    (empty : Thread) {e : ArgumentNullException} (counted : 0 < count) (holds : l.pendingException = some e) :
    l.retrieve count took empty = { l with pendingException := none, control := took e } := by
  simp [retrieve,counted,holds]

def pending (l : Thread) (numExceptionsPending : Int) : Bool :=
  0 < numExceptionsPending && l.pendingException.isSome

/-- `SWIGPendingException.Set` up to the lock. -/
def set (e : ArgumentNullException) (l : Thread) : Thread :=
  match l.pendingException with
  | some _ => { l with control := .fatal }
  | none => { l with pendingException := some e, control := .stored }

end Thread

/-- A thread's turn, up to and including its next access to the shared counter, an `int` that never
leaves the range from zero to the number of threads. -/
def turn (numExceptionsPending : Int) (l : Thread) : Int × Thread :=
  match l.control with
  | .idle =>
    match l.calls with
    | [] => (numExceptionsPending,l)
    | .plain :: rest => (numExceptionsPending,Thread.finish { l with calls := rest } .returned)
    | .byValue T true :: rest =>
      (numExceptionsPending,{ l with control := .callback (nullMessage T), calls := rest })
    | .byValue _ false :: rest => (numExceptionsPending,{ l with control := .back, calls := rest })
  | .callback message =>
    (numExceptionsPending,
      l.retrieve numExceptionsPending (.callbackTook message) { l with control := .settle message none })
  | .callbackTook message e => (numExceptionsPending - 1,{ l with control := .settle message (some e) })
  | .settle message none => (numExceptionsPending,l.set ⟨message⟩)
  | .settle message (some e) =>
    (numExceptionsPending,l.set ⟨message ++ " Inner Exception: " ++ e.message⟩)
  | .stored => (numExceptionsPending + 1,{ l with control := .back })
  | .back =>
    if l.pending numExceptionsPending then (numExceptionsPending,{ l with control := .throwing })
    else (numExceptionsPending,l.finish .returned)
  | .throwing =>
    (numExceptionsPending,l.retrieve numExceptionsPending .throwingTook (l.finish .threwNull))
  | .throwingTook e => (numExceptionsPending - 1,l.finish (.threw e))
  | .fatal => (numExceptionsPending,l)

/-- What a wrapped call does in a program with one thread and no earlier error. -/
def Call.expected : Call → Outcome
  | .plain => .returned
  | .byValue T true => .threw ⟨nullMessage T⟩
  | .byValue _ false => .returned

/-- The thread's share of `numExceptionsPending`. -/
def Thread.credit (l : Thread) : Int :=
  match l.control with
  | .callbackTook .. | .throwingTook _ => 1
  | .stored => 0
  | _ => if l.pendingException.isSome then 1 else 0

/-- A thread in the middle of `program`: the calls that are over had their expected outcomes, and the
one under way is where its own code brings it, with nothing of the other threads in it. -/
inductive OnTrack (program : List Call) : Thread → Prop
  | idle (done rest : List Call) (split : program = done ++ rest) :
    OnTrack program ⟨none,.idle,rest,done.map Call.expected⟩
  | callback (done rest : List Call) (T : ByValueType)
      (split : program = done ++ .byValue T true :: rest) :
    OnTrack program ⟨none,.callback (nullMessage T),rest,done.map Call.expected⟩
  | settle (done rest : List Call) (T : ByValueType)
      (split : program = done ++ .byValue T true :: rest) :
    OnTrack program ⟨none,.settle (nullMessage T) none,rest,done.map Call.expected⟩
  | stored (done rest : List Call) (T : ByValueType)
      (split : program = done ++ .byValue T true :: rest) :
    OnTrack program ⟨some ⟨nullMessage T⟩,.stored,rest,done.map Call.expected⟩
  | backRaised (done rest : List Call) (T : ByValueType)
      (split : program = done ++ .byValue T true :: rest) :
    OnTrack program ⟨some ⟨nullMessage T⟩,.back,rest,done.map Call.expected⟩
  | back (done rest : List Call) (T : ByValueType)
      (split : program = done ++ .byValue T false :: rest) :
    OnTrack program ⟨none,.back,rest,done.map Call.expected⟩
  | throwing (done rest : List Call) (T : ByValueType)
      (split : program = done ++ .byValue T true :: rest) :
    OnTrack program ⟨some ⟨nullMessage T⟩,.throwing,rest,done.map Call.expected⟩
  | throwingTook (done rest : List Call) (T : ByValueType)
      (split : program = done ++ .byValue T true :: rest) :
    OnTrack program ⟨none,.throwingTook ⟨nullMessage T⟩,rest,done.map Call.expected⟩

/-- The thread's turn when it finds in the counter what it put there itself. -/
def alone (l : Thread) : Thread := (turn l.credit l).2

namespace OnTrack

variable {program : List Call} {l : Thread}

theorem outcomes (track : OnTrack program l) :
    ∃ done rest, program = done ++ rest ∧ l.outcomes = done.map Call.expected := by
  cases track with
  | idle done rest split => exact ⟨done,rest,split,rfl⟩
  | callback done rest T split => exact ⟨done,_,split,rfl⟩
  | settle done rest T split => exact ⟨done,_,split,rfl⟩
  | stored done rest T split => exact ⟨done,_,split,rfl⟩
  | backRaised done rest T split => exact ⟨done,_,split,rfl⟩
  | back done rest T split => exact ⟨done,_,split,rfl⟩
  | throwing done rest T split => exact ⟨done,_,split,rfl⟩
  | throwingTook done rest T split => exact ⟨done,_,split,rfl⟩

theorem not_fatal (track : OnTrack program l) : l.control ≠ .fatal := by
  cases track <;> simp

theorem credit_bounds (track : OnTrack program l) : 0 ≤ l.credit ∧ l.credit ≤ 1 := by
  cases track <;> simp [Thread.credit]

theorem finished {done rest : List Call} {call : Call} {outcome : Outcome}
    (split : program = done ++ call :: rest) (expected : call.expected = outcome) :
    OnTrack program ⟨none,.idle,rest,done.map Call.expected ++ [outcome]⟩ := by
  subst expected
  have whole : done.map Call.expected ++ [call.expected] = (done ++ [call]).map Call.expected := by simp
  rw [whole]
  exact .idle (done ++ [call]) rest (by simp [split])

theorem alone (track : OnTrack program l) : OnTrack program (alone l) := by
  cases track with
  | idle done rest split =>
    cases rest with
    | nil => exact .idle done [] split
    | cons call rest =>
      cases call with
      | plain => exact finished split rfl
      | byValue T isNull =>
        cases isNull with
        | true => exact .callback done rest T split
        | false => exact .back done rest T split
  | callback done rest T split =>
    simp only [PendingException.alone,turn,Thread.retrieve_none]
    exact .settle done rest T split
  | settle done rest T split => exact .stored done rest T split
  | stored done rest T split => exact .backRaised done rest T split
  | backRaised done rest T split => exact .throwing done rest T split
  | back done rest T split => exact finished split rfl
  | throwing done rest T split => exact .throwingTook done rest T split
  | throwingTook done rest T split => exact finished split rfl

end OnTrack

/-- An error of the thread is counted while the thread can still meet it, so the tests of the shared
counter answer as if the thread were alone. -/
theorem discipline : Discipline turn id Thread.credit (fun l => ∃ program, OnTrack program l) alone where
  nonneg := fun _ ⟨_,track⟩ => track.credit_bounds.1
  kept := fun _ ⟨program,track⟩ => ⟨program,track.alone⟩
  balanced := by
    rintro x l ⟨program,track⟩ covered
    cases track with
    | idle done rest split =>
      cases rest with
      | nil => rfl
      | cons call rest =>
        cases call with
        | plain => rfl
        | byValue T isNull => cases isNull <;> rfl
    | callback done rest T split => simp [turn,Thread.retrieve_none,Thread.credit]
    | settle done rest T split => rfl
    | stored done rest T split => simp [turn,Thread.credit]
    | backRaised done rest T split =>
      have counted : 0 < x := Int.lt_of_lt_of_le Int.zero_lt_one covered
      simp [turn,Thread.pending,counted,Thread.credit]
    | back done rest T split => simp [turn,Thread.pending,Thread.finish,Thread.credit]
    | throwing done rest T split =>
      have counted : 0 < x := Int.lt_of_lt_of_le Int.zero_lt_one covered
      simp [turn,Thread.retrieve_some,counted,Thread.credit]
    | throwingTook done rest T split => simp [turn,Thread.finish,Thread.credit]
  blind := by
    rintro x l ⟨program,track⟩ covered
    cases track with
    | idle done rest split =>
      cases rest with
      | nil => rfl
      | cons call rest =>
        cases call with
        | plain => rfl
        | byValue T isNull => cases isNull <;> rfl
    | callback done rest T split => simp [alone,turn,Thread.retrieve_none]
    | settle done rest T split => rfl
    | stored done rest T split => rfl
    | backRaised done rest T split =>
      have counted : 0 < x := Int.lt_of_lt_of_le Int.zero_lt_one covered
      simp [alone,turn,Thread.pending,counted,Thread.credit]
    | back done rest T split => simp [alone,turn,Thread.pending]
    | throwing done rest T split =>
      have counted : 0 < x := Int.lt_of_lt_of_le Int.zero_lt_one covered
      simp [alone,turn,Thread.retrieve_some,counted,Thread.credit]
    | throwingTook done rest T split => rfl

def start (programs : Fin n → List Call) : State Int Thread n :=
  ⟨0,fun i => ⟨none,.idle,programs i,[]⟩⟩

theorem start_onTrack (programs : Fin n → List Call) (i : Fin n) :
    OnTrack (programs i) ((start programs).locals i) := .idle [] (programs i) rfl

theorem start_accounted (programs : Fin n → List Call) :
    Accounted id Thread.credit (fun l => ∃ program, OnTrack program l) (start programs) where
  counted := by simp [start,Thread.credit]
  good i := ⟨programs i,start_onTrack programs i⟩

theorem iterate_onTrack {program : List Call} {l : Thread} (track : OnTrack program l) (k : Nat) :
    OnTrack program (alone^[k] l) := by
  induction k generalizing l with
  | zero => exact track
  | succ k ih => exact ih track.alone

theorem run_onTrack (programs : Fin n → List Call) (schedule : List (Fin n)) (i : Fin n) :
    OnTrack (programs i) ((run turn (start programs) schedule).locals i) := by
  rw [run_alone discipline (start_accounted programs)]
  exact iterate_onTrack (start_onTrack programs i) _

def Call.turns : Call → Nat
  | .plain => 1
  | .byValue _ false => 2
  | .byValue _ true => 7

def Thread.turnsLeft (l : Thread) : Nat :=
  (match l.control with
    | .idle | .fatal => 0
    | .callback _ => 6
    | .callbackTook .. | .settle .. => 5
    | .stored => 4
    | .back => if l.pendingException.isSome then 3 else 1
    | .throwing => 2
    | .throwingTook _ => 1) + (l.calls.map Call.turns).sum

theorem OnTrack.turnsLeft_alone {program : List Call} {l : Thread} (track : OnTrack program l) :
    (PendingException.alone l).turnsLeft = l.turnsLeft - 1 := by
  cases track with
  | idle done rest split =>
    cases rest with
    | nil => rfl
    | cons call rest =>
      cases call with
      | plain => simp [PendingException.alone,turn,Thread.finish,Thread.turnsLeft,Call.turns]
      | byValue T isNull =>
        cases isNull with
        | true =>
          simp only [PendingException.alone,turn,Thread.turnsLeft,Call.turns,List.map_cons,List.sum_cons]
          omega
        | false =>
          simp only [PendingException.alone,turn,Thread.turnsLeft,Call.turns,List.map_cons,List.sum_cons,
            Option.isSome_none,Bool.false_eq_true,↓reduceIte]
          omega
  | callback done rest T split =>
    simp [PendingException.alone,turn,Thread.retrieve_none,Thread.turnsLeft]
  | settle done rest T split =>
    simp [PendingException.alone,turn,Thread.set,Thread.turnsLeft]
  | stored done rest T split =>
    simp [PendingException.alone,turn,Thread.turnsLeft]
  | backRaised done rest T split =>
    simp [PendingException.alone,turn,Thread.pending,Thread.credit,Thread.turnsLeft]
  | back done rest T split => simp [PendingException.alone,turn,Thread.pending,Thread.finish,Thread.turnsLeft]
  | throwing done rest T split =>
    simp [PendingException.alone,turn,Thread.retrieve_some,Thread.credit,Thread.turnsLeft]
  | throwingTook done rest T split => simp [PendingException.alone,turn,Thread.finish,Thread.turnsLeft]

theorem OnTrack.turnsLeft_iterate {program : List Call} {l : Thread} (track : OnTrack program l)
    (k : Nat) : (PendingException.alone^[k] l).turnsLeft = l.turnsLeft - k := by
  induction k generalizing l with
  | zero => rfl
  | succ k ih =>
    rw [Function.iterate_succ_apply,ih track.alone,track.turnsLeft_alone]
    omega

theorem OnTrack.complete {program : List Call} {l : Thread} (track : OnTrack program l)
    (done : l.turnsLeft = 0) : l = ⟨none,.idle,[],program.map Call.expected⟩ := by
  cases track with
  | idle past rest split =>
    cases rest with
    | nil => simp [split]
    | cons call rest =>
      have positive : 0 < call.turns := by
        cases call with
        | plain => exact Nat.one_pos
        | byValue T isNull => cases isNull <;> simp [Call.turns]
      simp only [Thread.turnsLeft,List.map_cons,List.sum_cons] at done
      omega
  | callback => simp [Thread.turnsLeft] at done
  | settle => simp [Thread.turnsLeft] at done
  | stored => simp [Thread.turnsLeft] at done
  | backRaised => simp [Thread.turnsLeft] at done
  | back => simp [Thread.turnsLeft] at done
  | throwing => simp [Thread.turnsLeft] at done
  | throwingTook => simp [Thread.turnsLeft] at done

/-- The thread has taken an exception that is not counted off yet. -/
def Control.took : Control → Bool
  | .callbackTook .. | .throwingTook _ => true
  | _ => false

theorem OnTrack.credit_eq {program : List Call} {l : Thread} (track : OnTrack program l) :
    l.credit + (if l.control = .stored then 1 else 0) =
      (if l.pendingException.isSome then 1 else 0) + (if l.control.took then 1 else 0) := by
  cases track <;> simp [Thread.credit,Control.took]

/-- Whatever the other threads do, a call that is over has thrown its own error or none and no stored
exception was missed. `numExceptionsPending` counts the threads that hold an exception, without those
that have only just stored it and with those that have only just taken it; it stays within an `int`
while the number of threads does. -/
theorem errors_stay_with_their_call (programs : Fin n → List Call) (schedule : List (Fin n)) :
    let s := run turn (start programs) schedule
    (∀ i, (s.locals i).outcomes <+: (programs i).map Call.expected ∧ (s.locals i).control ≠ .fatal) ∧
    s.shared + (Finset.univ.filter fun i => (s.locals i).control = .stored).card =
      (Finset.univ.filter fun i => (s.locals i).pendingException.isSome).card +
        (Finset.univ.filter fun i => (s.locals i).control.took).card ∧
    0 ≤ s.shared ∧ s.shared ≤ n := by
  intro s
  have accounted := run_accounted discipline (start_accounted programs) schedule
  refine ⟨?_,?_,accounted.count_nonneg discipline,?_⟩
  · intro i
    have track := run_onTrack programs schedule i
    obtain ⟨done,rest,split,ended⟩ := track.outcomes
    refine ⟨?_,track.not_fatal⟩
    rw [ended,split,List.map_append]
    exact List.prefix_append _ _
  · have counted : s.shared = ∑ i, (s.locals i).credit := accounted.counted
    have each := Finset.sum_congr rfl fun (i : Fin n) (_ : i ∈ Finset.univ) =>
      (run_onTrack programs schedule i).credit_eq
    rw [Finset.sum_add_distrib,Finset.sum_add_distrib,← counted] at each
    simpa [Finset.sum_boole] using each
  · have bounded := Finset.sum_le_card_nsmul Finset.univ
      (fun i => ((run turn (start programs) schedule).locals i).credit) 1
      (fun i _ => (run_onTrack programs schedule i).credit_bounds.2)
    have counted := accounted.counted
    simp only [id_eq] at counted
    rw [counted]
    simpa using bounded

/-- A thread that gets the turns its calls need ends with every call's own outcome. -/
theorem calls_end_as_expected (programs : Fin n → List Call) (schedule : List (Fin n)) (i : Fin n)
    (served : ((programs i).map Call.turns).sum ≤ schedule.count i) :
    (run turn (start programs) schedule).locals i =
      ⟨none,.idle,[],(programs i).map Call.expected⟩ := by
  refine (run_onTrack programs schedule i).complete ?_
  rw [run_alone discipline (start_accounted programs),(start_onTrack programs i).turnsLeft_iterate]
  have needed : ((start programs).locals i).turnsLeft = ((programs i).map Call.turns).sum :=
    Nat.zero_add _
  omega

theorem simultaneous_errors :
    (run turn (start fun _ : Fin 2 => [.byValue .ctlProperty true])
      [0,1,0,1,0,1,0,1,0,1,0,1,0,1]).locals 0 =
      ⟨none,.idle,[],[.threw ⟨"Attempt to dereference null ctl_property_t"⟩]⟩ :=
  calls_end_as_expected _ _ _ (by decide)

end IGCL.PendingException

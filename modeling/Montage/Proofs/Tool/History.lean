import Montage.Proofs.Tool.Outcome

/-! A runner that one caller uses over and over. Whether it was cancelled since it was last
reset is all that it keeps from one call to the next. -/

namespace Montage

/-! ## What a runner is told -/

inductive Signal where
  | cancel
  | reset
  deriving DecidableEq

def CancelledSinceReset (signals : List Signal) : Prop :=
  ∃ earlier later, signals = earlier ++ .cancel :: later ∧ .reset ∉ later

section

variable (signals : List Signal)

theorem not_cancelledSinceReset_nil : ¬ CancelledSinceReset [] := by
  rintro ⟨earlier, later, same, _⟩
  simp at same

theorem cancelledSinceReset_cancel : CancelledSinceReset (signals ++ [.cancel]) :=
  ⟨signals, [], rfl, nofun⟩

theorem not_cancelledSinceReset_reset : ¬ CancelledSinceReset (signals ++ [.reset]) := by
  rintro ⟨earlier, later, same, noReset⟩
  rcases later.eq_nil_or_concat' with rfl | ⟨initial, last, rfl⟩
  · have ends := congrArg List.getLast? same
    simp at ends
  · rw [← List.cons_append, ← List.append_assoc] at same
    have ends := (List.append_inj' same rfl).2
    rw [← List.singleton_inj.mp ends] at noReset
    simp at noReset

end

/-! ## Uses of a runner -/

inductive RunnerUse where
  | run (arguments : List String) (stage : Option String)
  | cancel
  | reset

namespace Session

def apply (session : Session) : RunnerUse → Session
  | .run arguments stage => (runTool arguments stage session).2
  | .cancel => session.cancel
  | .reset => session.reset

def applyAll (session : Session) (uses : List RunnerUse) : Session :=
  uses.foldl apply session

/-- What the runner is told by a use: a call tells it to cancel when its command starts and is
cancelled while the caller waits. -/
def signalsOf (session : Session) : RunnerUse → List Signal
  | .cancel => [.cancel]
  | .reset => [.reset]
  | .run arguments _ =>
      match (session.beginCall (session.runner.binary :: arguments)).1 with
      | .started _ course => if course.cancels then [.cancel] else []
      | _ => []

def signals (session : Session) : List RunnerUse → List Signal
  | [] => []
  | use :: rest => session.signalsOf use ++ (session.apply use).signals rest

theorem signals_append (session : Session) (first second : List RunnerUse) :
    session.signals (first ++ second) =
      session.signals first ++ (session.applyAll first).signals second := by
  induction first generalizing session with
  | nil => rfl
  | cons use rest induction =>
      simp only [List.cons_append, signals, induction, List.append_assoc]
      rfl

theorem signalsOf_run_of_cancelled {session : Session} (cancelled : session.runner.cancelled = true)
    (arguments : List String) (stage : Option String) :
    session.signalsOf (.run arguments stage) = [] := by
  simp only [signalsOf, session.beginCall_of_cancelled cancelled]

theorem signalsOf_run_of_not_cancelled {session : Session}
    (notCancelled : session.runner.cancelled = false) (arguments : List String)
    (stage : Option String) :
    session.signalsOf (.run arguments stage) =
      if (session.host.script session.host.calls.length
        (session.runner.binary :: arguments)).cancels then [.cancel] else [] := by
  unfold signalsOf
  dsimp only
  cases scripted : session.host.script session.host.calls.length
      (session.runner.binary :: arguments) with
  | cannotStart reason =>
      rw [session.beginCall_of_cannotStart notCancelled scripted]
      rfl
  | starts course =>
      rw [session.beginCall_of_course notCancelled scripted]
      rfl

/-! ## Between uses -/

structure Settled (first : Nat) (signals : List Signal) (session : Session) : Prop where
  cancelled : session.runner.cancelled = true ↔ CancelledSinceReset signals
  idle : session.runner.inFlight = none
  ended : ∀ index, first ≤ index → session.isRunning index = false

variable {first : Nat} {signals : List Signal} {session : Session}

theorem isRunning_eq_false_of_append {earlier later : List ProcessState} {index : Nat}
    (processes : session.host.processes = earlier ++ later)
    (earlierEnded : earlier[index]? ≠ some .running) (laterEnded : .running ∉ later) :
    session.isRunning index = false := by
  apply eq_false_of_ne_true
  intro runs
  rw [isRunning_iff, processes, List.getElem?_append] at runs
  split at runs
  · exact earlierEnded runs
  · exact laterEnded (List.mem_of_getElem? runs)

theorem Settled.not_cancelledSinceReset (settled : session.Settled first signals)
    (notCancelled : session.runner.cancelled = false) : ¬ CancelledSinceReset signals := by
  intro earlier
  rw [settled.cancelled.mpr earlier] at notCancelled
  cases notCancelled

theorem Settled.run (settled : session.Settled first signals) (arguments : List String)
    (stage : Option String) :
    Settled first (signals ++ session.signalsOf (.run arguments stage))
      (runTool arguments stage session).2 := by
  cases cancelled : session.runner.cancelled with
  | true =>
      rw [signalsOf_run_of_cancelled cancelled, runTool_of_cancelled arguments stage cancelled,
        List.append_nil]
      exact ⟨settled.cancelled, settled.idle, settled.ended⟩
  | false =>
      rcases runTool_of_not_cancelled arguments stage cancelled with ⟨after, ran, comes⟩
      have notBefore : ¬ CancelledSinceReset signals := settled.not_cancelledSinceReset cancelled
      rw [signalsOf_run_of_not_cancelled cancelled, ran]
      refine ⟨?_, comes.idle settled.idle, fun index later => ?_⟩
      · rw [comes.cancelled]
        split
        · rename_i cancels
          exact ⟨fun _ => cancelledSinceReset_cancel signals, fun _ => cancels⟩
        · rename_i quiet
          rw [List.append_nil]
          exact ⟨fun cancels => absurd cancels quiet, fun earlier => absurd earlier notBefore⟩
      · apply isRunning_eq_false_of_append comes.processes
        · rw [ne_eq, ← isRunning_iff session index, settled.ended index later]
          exact Bool.false_ne_true
        · cases session.host.script _ _ <;> simp [Outcome.ended]

/-- A use of a runner between uses leaves it between uses. -/
theorem Settled.apply (settled : session.Settled first signals) (use : RunnerUse) :
    Settled first (signals ++ session.signalsOf use) (session.apply use) := by
  cases use with
  | run arguments stage => exact settled.run arguments stage
  | cancel =>
      refine ⟨?_, session.inFlight_cancel.trans settled.idle, fun index later => ?_⟩
      · have told := cancelledSinceReset_cancel signals
        refine ⟨fun _ => told, fun _ => ?_⟩
        exact congrArg Runner.cancelled session.cancel_runner
      · apply eq_false_of_ne_true
        intro runs
        have ran := ((session.isRunning_cancel index).mp runs).1
        rw [settled.ended index later] at ran
        cases ran
  | reset =>
      refine ⟨?_, settled.idle, settled.ended⟩
      exact ⟨nofun, fun earlier => absurd earlier (not_cancelledSinceReset_reset signals)⟩

theorem Settled.applyAll (settled : session.Settled first signals) (uses : List RunnerUse) :
    Settled first (signals ++ session.signals uses) (session.applyAll uses) := by
  induction uses generalizing session signals with
  | nil => simpa [Session.signals, Session.applyAll] using settled
  | cons use rest induction =>
      have next := induction (settled.apply use)
      rw [List.append_assoc] at next
      exact next

/-- A runner that has just been made. -/
theorem settled_newRunner (host : Host) (named : Option String) (timeout : Option Float) :
    Settled host.processes.length [] { host, runner := host.newRunner named timeout } := by
  refine ⟨⟨nofun, fun earlier => absurd earlier not_cancelledSinceReset_nil⟩, rfl, ?_⟩
  intro index later
  apply eq_false_of_ne_true
  intro runs
  rw [isRunning_iff, List.getElem?_eq_none later] at runs
  cases runs

/-! ## Calls in a history -/

def scripted (session : Session) (arguments : List String) : Outcome :=
  session.host.script session.host.calls.length (session.runner.binary :: arguments)

/-- What a runner owes to a caller: `earlier` are the signals up to the call, `later` those up
to its end, and `called` is what the call gives and leaves. -/
structure Serves (first : Nat) (earlier later : List Signal) (before : Session)
    (arguments : List String) (stage : Option String)
    (called : Except Problem String × Session) : Prop where
  /-- The command is asked for unless the runner was cancelled. -/
  asks : called.2.host.calls = before.host.calls ++ [before.runner.binary :: arguments] ↔
    ¬ CancelledSinceReset earlier
  /-- A command that can start is that of one new process, unless the runner was cancelled. -/
  starts : ∀ course, before.scripted arguments = .starts course →
    ((∃ state, called.2.host.processes = before.host.processes ++ [state]) ↔
      ¬ CancelledSinceReset earlier)
  refuses : CancelledSinceReset earlier →
    called.1 = .error (.failure (cancelledFailure stage)) ∧
      called.2.host.processes = before.host.processes ∧ called.2.host.calls = before.host.calls
  cannotStart : ∀ reason, before.scripted arguments = .cannotStart reason →
    ¬ CancelledSinceReset earlier →
      called.1 = .error (.failure (cannotStartFailure reason stage)) ∧
        called.2.host.processes = before.host.processes
  ended : ∀ index, first ≤ index → called.2.isRunning index = false
  forgets : called.2.runner.inFlight = none
  /-- It gives what the process wrote exactly when that exited in time with return code zero,
  and nobody has cancelled. -/
  gives : ∀ stdout, called.1 = .ok stdout ↔ ¬ CancelledSinceReset later ∧
    ∃ exit, (before.scripted arguments).ownExit = some exit ∧ exit.returnCode = 0 ∧
      exit.stdout = stdout
  /-- A cancellation wins over how the process ended, if the call has waited for its end. -/
  cancelled : CancelledSinceReset later → (before.scripted arguments).waitBreak? = none →
    called.1 = .error (.failure (cancelledFailure stage))
  breaksOff : ∀ cause, (before.scripted arguments).waitBreak? = some cause →
    ¬ CancelledSinceReset earlier →
      called.1 = .error (waitProblem before.runner.timeout stage cause)
  /-- A process that is no longer waited for is killed once, whoever cancels. -/
  killsOnce : ∀ course cause, before.scripted arguments = .starts course →
    course.waitBreak? = some cause → ¬ CancelledSinceReset earlier →
      called.2.host.events = before.host.events ++
        [.communicate before.runner.timeout, .kill, cause.reaping] ++
          (if course.cancels then [.poll] else []) ∧
      called.2.host.processes = before.host.processes ++ [.exited killedCode]
  /-- A cancellation during the call kills the process only if that still runs. -/
  kills : ∀ moment exit, before.scripted arguments = .starts (.isCancelled moment exit) →
    ¬ CancelledSinceReset earlier →
      CancelledSinceReset later ∧
        called.2.host.events = before.host.events ++
          [.communicate before.runner.timeout, .poll] ++
            (if moment = .running then [.kill] else []) ∧
        called.2.host.processes = before.host.processes ++
          [.exited (if moment = .running then killedCode else exit.returnCode)]

theorem Settled.serves_of_cancelled (settled : session.Settled first signals)
    (cancelled : session.runner.cancelled = true) (arguments : List String)
    (stage : Option String) :
    Serves first signals (signals ++ session.signalsOf (.run arguments stage)) session arguments
      stage (runTool arguments stage session) := by
  have earlier := settled.cancelled.mp cancelled
  have after := settled.run arguments stage
  rw [signalsOf_run_of_cancelled cancelled, List.append_nil] at after ⊢
  rw [runTool_of_cancelled arguments stage cancelled] at after ⊢
  refine ⟨⟨fun asked => ?_, fun not => absurd earlier not⟩,
    fun course _ => ⟨fun ⟨state, started⟩ => ?_, fun not => absurd earlier not⟩,
    fun _ => ⟨rfl, rfl, rfl⟩, fun _ _ not => absurd earlier not, after.ended, after.idle,
    fun stdout => ⟨nofun, fun ⟨not, _⟩ => absurd earlier not⟩, fun _ _ => rfl,
    fun _ _ not => absurd earlier not, fun _ _ _ _ not => absurd earlier not,
    fun _ _ _ not => absurd earlier not⟩
  · exact absurd (congrArg List.length asked) (by simp [announce, updateHost, Host.writeLog])
  · exact absurd (congrArg List.length started) (by simp [announce, updateHost, Host.writeLog])

theorem Settled.serves_of_not_cancelled (settled : session.Settled first signals)
    (notCancelled : session.runner.cancelled = false) (arguments : List String)
    (stage : Option String) :
    Serves first signals (signals ++ session.signalsOf (.run arguments stage)) session arguments
      stage (runTool arguments stage session) := by
  have earlier := settled.not_cancelledSinceReset notCancelled
  have after := settled.run arguments stage
  rcases runTool_of_not_cancelled arguments stage notCancelled with ⟨next, ran, comes⟩
  change runTool arguments stage session =
    ((session.scripted arguments).answer session.runner.timeout stage, next) at ran
  change session.Ran _ (session.scripted arguments) next at comes
  rw [ran] at after ⊢
  have later := comes.cancelled ▸ after.cancelled
  constructor
  case asks => exact ⟨fun _ => earlier, fun _ => comes.calls⟩
  case starts =>
    intro course starts
    refine ⟨fun _ => earlier, fun _ => ⟨.exited course.returnCode, ?_⟩⟩
    rw [comes.processes, starts]
    rfl
  case refuses => exact fun cancelled => absurd cancelled earlier
  case cannotStart =>
    intro reason cannot _
    rw [comes.processes, cannot]
    exact ⟨rfl, List.append_nil _⟩
  case ended => exact after.ended
  case forgets => exact after.idle
  case gives =>
    intro stdout
    rw [← later, Bool.not_eq_true]
    exact Outcome.answer_eq_ok_iff
  case cancelled => exact fun cancelled => Outcome.answer_of_cancels (later.mpr cancelled)
  case breaksOff => exact fun cause breaks _ => Outcome.answer_of_waitBreak breaks
  case killsOnce =>
    intro course cause starts breaks _
    rw [comes.events, comes.processes, starts]
    match course with
    | .breaksOff other | .isCancelledLate other =>
        cases breaks
        simp [Outcome.events, Course.events, Course.cancels, Outcome.ended, Course.returnCode,
          Course.ownExit]
  case kills =>
    intro moment exit cancelled _
    rw [comes.events, comes.processes, cancelled]
    rw [cancelled] at later
    refine ⟨later.mp rfl, ?_⟩
    cases moment
    · simp [Outcome.events, Course.events, Outcome.ended, Course.returnCode, Course.ownExit]
    · simp [Outcome.events, Course.events, Outcome.ended, Course.returnCode, Course.ownExit]

end Session

open Session

/-- However a runner has been used since it was made, it serves the next call. -/
theorem newRunner_serves (host : Host) (named : Option String) (timeout : Option Float)
    (uses : List RunnerUse) (arguments : List String) (stage : Option String) :
    let made : Session := { host, runner := host.newRunner named timeout }
    let before := made.applyAll uses
    Serves host.processes.length (made.signals uses)
      (made.signals (uses ++ [.run arguments stage])) before arguments stage
      (runTool arguments stage before) := by
  intro made before
  have settled : before.Settled host.processes.length (made.signals uses) := by
    have applied := (settled_newRunner host named timeout).applyAll uses
    rwa [List.nil_append] at applied
  have later : made.signals (uses ++ [.run arguments stage]) =
      made.signals uses ++ before.signalsOf (.run arguments stage) := by
    rw [signals_append, signals, signals, List.append_nil]
  rw [later]
  cases cancelled : before.runner.cancelled with
  | true => exact settled.serves_of_cancelled cancelled arguments stage
  | false => exact settled.serves_of_not_cancelled cancelled arguments stage

end Montage

import Mathlib.Data.List.Basic
import Mathlib.Logic.Relation
import Montage.Proofs.Tool.Call

/-! Several callers of one runner at once. Each of its steps under the lock may come between
any two steps of the others. The runner knows of one process only, so that cancelling it kills
one process only. -/

namespace Montage

/-! ## Which processes run -/

namespace Session

variable (session : Session) (index other : Nat)

theorem isRunning_iff : session.isRunning index = true ↔
    session.host.processes[index]? = some .running := by
  unfold isRunning
  cases session.host.processes[index]? with
  | none => simp
  | some state => cases state <;> simp

theorem isRunning_endProcess (returnCode : Int) :
    (session.endProcess index returnCode).isRunning other = true ↔
      session.isRunning other = true ∧ other ≠ index := by
  rw [isRunning_iff, isRunning_iff]
  simp only [endProcess, updateHost, List.getElem?_modify]
  by_cases same : index = other
  · cases session.host.processes[other]? with
    | none => simp
    | some state => cases state <;> simp [same]
  · simp [same, Ne.symm same]

theorem isRunning_of_processes {first second : Session}
    (same : first.host.processes = second.host.processes) (index : Nat) :
    first.isRunning index = second.isRunning index := by
  rw [isRunning, same, isRunning]

theorem inFlight_cancel : session.cancel.runner.inFlight = session.runner.inFlight := by
  unfold cancel
  cases known : session.runner.inFlight with
  | none => exact known
  | some index =>
      dsimp only
      split <;> exact known

/-- Cancelling kills the process that the runner knows of, and no other. -/
theorem isRunning_cancel : session.cancel.isRunning other = true ↔
    session.isRunning other = true ∧ session.runner.inFlight ≠ some other := by
  unfold cancel
  cases known : session.runner.inFlight with
  | none => simp [isRunning]
  | some index =>
      dsimp only
      split
      · refine (isRunning_endProcess _ index other killedCode).trans ?_
        change session.isRunning other = true ∧ other ≠ index ↔ _
        rw [ne_eq, ne_eq, Option.some.injEq, eq_comm (a := index)]
      · rename_i ended
        change session.isRunning other = true ↔ _
        refine ⟨fun runs => ⟨runs, ?_⟩, And.left⟩
        rintro ⟨⟩
        exact ended runs

theorem not_isRunning_endProcess (returnCode : Int) :
    (session.endProcess index returnCode).isRunning index = false :=
  eq_false_of_ne_true fun runs => ((isRunning_endProcess ..).mp runs).2 rfl

theorem exitProcess_processes (command : Command) (exit : Exit) :
    (session.exitProcess index command exit).host.processes =
      (session.endProcess index exit.returnCode).host.processes := by
  simp only [exitProcess, updateHost]
  split
  · split <;> rfl
  · rfl

/-- A call that has started is that of a new process, which the runner knows of. -/
theorem exists_of_started {command : Command} {index : Nat} {course : Course} {after : Session}
    (begun : session.beginCall command = (.started index course, after)) :
    index = session.host.processes.length ∧
      after.host.processes = session.host.processes ++ [.running] ∧
      after.runner = { session.runner with inFlight := some index } := by
  unfold beginCall at begun
  split at begun
  · cases begun
  · dsimp only at begun
    split at begun
    · cases begun
    · cases begun
      exact ⟨rfl, rfl, rfl⟩

theorem same_of_not_started {command : Command} {begun : Begun} {after : Session}
    (ran : session.beginCall command = (begun, after))
    (notStarted : ∀ index course, begun ≠ .started index course) :
    after.runner = session.runner ∧ after.host.processes = session.host.processes := by
  unfold beginCall at ran
  split at ran
  · cases ran
    exact ⟨rfl, rfl⟩
  · dsimp only at ran
    split at ran
    · cases ran
      exact ⟨rfl, rfl⟩
    · cases ran
      exact absurd rfl (notStarted _ _)

theorem isRunning_of_started {command : Command} {index : Nat} {course : Course} {after : Session}
    (begun : session.beginCall command = (.started index course, after)) {other : Nat}
    (runs : after.isRunning other = true) : other = index ∨ session.isRunning other = true := by
  rcases session.exists_of_started begun with ⟨rfl, processes, _⟩
  rw [isRunning_iff, processes, List.getElem?_append] at runs
  split at runs
  · exact .inr ((session.isRunning_iff other).mpr runs)
  · rename_i later
    have inside := (List.getElem?_eq_some_iff.mp runs).1
    rw [List.length_singleton] at inside
    exact .inl (by omega)

end Session

/-! ## Callers at once -/

structure Sharing where
  session : Session
  started : List Nat := []
  waiting : List Nat := []

namespace Sharing

/-- A step of one of so many callers under the lock, the end of a process, or a cancellation.
Whatever else happens leaves the processes and the runner as they are; so do calls that are
refused or cannot start. -/
inductive Step (callers : Nat) : Sharing → Sharing → Prop
  | begins {sharing command index course after} (free : sharing.waiting.length < callers)
      (begun : sharing.session.beginCall command = (.started index course, after)) :
      Step callers sharing
        { session := after
          started := index :: sharing.started
          waiting := index :: sharing.waiting }
  | exits {sharing index} (waits : index ∈ sharing.waiting) (returnCode : Int) :
      Step callers sharing
        { sharing with session := sharing.session.endProcess index returnCode }
  | ends {sharing index} (waits : index ∈ sharing.waiting)
      (finished : sharing.session.isRunning index = false) :
      Step callers sharing
        { sharing with
          session := sharing.session.endCall
          waiting := sharing.waiting.erase index }
  | cancels {sharing} : Step callers sharing { sharing with session := sharing.session.cancel }
  | elsewhere {sharing} {after : Session} (runner : after.runner = sharing.session.runner)
      (processes : after.host.processes = sharing.session.host.processes) :
      Step callers sharing { sharing with session := after }

/-- Whatever the callers do, none of the processes that they have started runs any more at
the moment when a cancellation is over. -/
def CancelReachesAll (callers : Nat) : Prop :=
  ∀ start sharing, Relation.ReflTransGen (Step callers) { session := start } sharing →
    ∀ index ∈ sharing.started, sharing.session.cancel.isRunning index = false

variable {callers : Nat} {sharing after : Sharing}

structure Covered (sharing : Sharing) : Prop where
  few : sharing.waiting.length ≤ 1
  waits : ∀ index ∈ sharing.started, sharing.session.isRunning index = true →
    index ∈ sharing.waiting
  known : ∀ index ∈ sharing.waiting, sharing.session.runner.inFlight = some index

theorem Step.covered (step : Step callers sharing after) (single : callers ≤ 1)
    (covered : Covered sharing) : Covered after := by
  cases step with
  | @begins command index course next free begun =>
      have nobody : sharing.waiting = [] := List.eq_nil_of_length_eq_zero (by omega)
      rcases Session.exists_of_started _ begun with ⟨_, _, runner⟩
      refine ⟨by simp [nobody], fun other member runs => ?_, ?_⟩
      · rcases Session.isRunning_of_started _ begun runs with rfl | ran
        · exact List.mem_cons_self
        · rcases List.mem_cons.mp member with rfl | earlier
          · exact List.mem_cons_self
          · have waits := covered.waits other earlier ran
            rw [nobody] at waits
            cases waits
      · intro other member
        rw [nobody] at member
        rw [List.mem_singleton.mp member, runner]
  | exits waits returnCode =>
      refine ⟨covered.few, fun other member runs => ?_, covered.known⟩
      exact covered.waits other member ((Session.isRunning_endProcess _ _ _ _).mp runs).1
  | @ends index waits finished =>
      have alone : sharing.waiting = [index] := by
        rcases List.length_eq_one_iff.mp
          (Nat.le_antisymm covered.few (List.length_pos_of_mem waits)) with ⟨only, alone⟩
        rw [alone] at waits ⊢
        rw [List.mem_singleton.mp waits]
      have nobody : sharing.waiting.erase index = [] := by
        rw [alone, List.erase_cons_head]
      refine ⟨by simp [nobody], fun other member runs => ?_, by simp [nobody]⟩
      have waits := covered.waits other member runs
      rw [alone] at waits
      rw [List.mem_singleton.mp waits] at runs
      rw [show sharing.session.isRunning index = true from runs] at finished
      cases finished
  | cancels =>
      refine ⟨covered.few, fun other member runs => ?_, fun other member => ?_⟩
      · exact covered.waits other member ((Session.isRunning_cancel _ _).mp runs).1
      · exact (Session.inFlight_cancel _).trans (covered.known other member)
  | elsewhere runner processes =>
      refine ⟨covered.few, fun other member runs => ?_, fun other member => ?_⟩
      · rw [Session.isRunning_of_processes processes] at runs
        exact covered.waits other member runs
      · rw [runner]
        exact covered.known other member

theorem Covered.cancelled (covered : Covered sharing) {index : Nat}
    (member : index ∈ sharing.started) :
    sharing.session.cancel.isRunning index = false := by
  apply eq_false_of_ne_true
  intro runs
  rcases (sharing.session.isRunning_cancel index).mp runs with ⟨ran, unknown⟩
  exact unknown (covered.known index (covered.waits index member ran))

theorem covered_of_reached (single : callers ≤ 1) {start : Session}
    (reached : Relation.ReflTransGen (Step callers) { session := start } sharing) :
    Covered sharing := by
  induction reached with
  | refl => exact ⟨Nat.zero_le 1, nofun, nofun⟩
  | tail _ step induction => exact step.covered single induction

/-! ## A call of the runner -/

/-- Waiting for a process takes steps of a caller, and the process has ended then. -/
theorem await_steps {index : Nat} (waits : index ∈ sharing.waiting) (command : Command)
    (course : Course) :
    let waited := (sharing.session.await index command course).2
    Relation.ReflTransGen (Step callers) sharing { sharing with session := waited } ∧
      waited.isRunning index = false := by
  intro waited
  let waiting := sharing.session.updateHost
    (·.addEvent (.communicate sharing.session.runner.timeout))
  have begun : Relation.ReflTransGen (Step callers) sharing { sharing with session := waiting } :=
    .single (.elsewhere rfl rfl)
  have exits (session : Session) (returnCode : Int) : Step callers { sharing with session }
      { sharing with session := session.endProcess index returnCode } :=
    Step.exits (show index ∈ { sharing with session : Sharing }.waiting from waits) returnCode
  have exited (exit : Exit) : Relation.ReflTransGen (Step callers) sharing
      { sharing with session := waiting.exitProcess index command exit } := by
    have leaves : Step callers
        { sharing with session := waiting.endProcess index exit.returnCode }
        { sharing with session := waiting.exitProcess index command exit } :=
      .elsewhere rfl (waiting.exitProcess_processes index command exit)
    exact (begun.tail (exits waiting exit.returnCode)).tail leaves
  have ended (exit : Exit) : (waiting.exitProcess index command exit).isRunning index = false :=
    (Session.isRunning_of_processes (waiting.exitProcess_processes index command exit) index).trans
      (waiting.not_isRunning_endProcess index exit.returnCode)
  have killed (cause : WaitBreak) : Relation.ReflTransGen (Step callers) sharing
      { sharing with session := waiting.breakOff index cause } := by
    have noted : Step callers { sharing with session := waiting.endProcess index killedCode }
        { sharing with session := waiting.breakOff index cause } := .elsewhere rfl rfl
    exact (begun.tail (exits waiting killedCode)).tail noted
  have gone (cause : WaitBreak) : (waiting.breakOff index cause).isRunning index = false :=
    (Session.isRunning_of_processes rfl index).trans
      (waiting.not_isRunning_endProcess index killedCode)
  have cancelled (session : Session) : Step callers { sharing with session }
      { sharing with session := session.cancel } := .cancels
  have stillEnded {session : Session} (ended : session.isRunning index = false) :
      session.cancel.isRunning index = false := by
    apply eq_false_of_ne_true
    intro runs
    rw [((Session.isRunning_cancel _ _).mp runs).1] at ended
    cases ended
  rcases course with exit | cause | ⟨_ | _, exit⟩ | cause
  · exact ⟨exited exit, ended exit⟩
  · exact ⟨killed cause, gone cause⟩
  · exact ⟨(begun.tail (cancelled waiting)).tail (exits waiting.cancel killedCode),
      waiting.cancel.not_isRunning_endProcess index killedCode⟩
  · exact ⟨(exited exit).tail (cancelled _), stillEnded (ended exit)⟩
  · exact ⟨(killed cause).tail (cancelled _), stillEnded (gone cause)⟩

/-- A call from start to end takes steps of a caller who is free before and after. -/
theorem runTool_steps (free : sharing.waiting.length < callers) (arguments : List String)
    (stage : Option String) :
    ∃ started, Relation.ReflTransGen (Step callers) sharing
      { session := (runTool arguments stage sharing.session).2
        started
        waiting := sharing.waiting } := by
  let command := sharing.session.runner.binary :: arguments
  let announced : Sharing := { sharing with session := sharing.session.announce stage command }
  have first : Step callers sharing announced := .elsewhere rfl rfl
  rw [runTool_eq]
  rcases begun : announced.session.beginCall command with ⟨_ | _ | ⟨index, course⟩, after⟩
  · rcases Session.same_of_not_started _ begun nofun with ⟨runner, processes⟩
    exact ⟨sharing.started, (Relation.ReflTransGen.single first).tail (.elsewhere runner processes)⟩
  · rcases Session.same_of_not_started _ begun nofun with ⟨runner, processes⟩
    exact ⟨sharing.started, (Relation.ReflTransGen.single first).tail (.elsewhere runner processes)⟩
  · let started : Sharing :=
      { session := after
        started := index :: sharing.started
        waiting := index :: sharing.waiting }
    have second : Step callers announced started := .begins free begun
    have waits : index ∈ started.waiting := List.mem_cons_self
    let awaited : Sharing := { started with session := (after.await index command course).2 }
    obtain ⟨waited, finished⟩ : Relation.ReflTransGen (Step callers) started awaited ∧
        awaited.session.isRunning index = false := await_steps waits command course
    have last : Step callers awaited
        { session := (after.await index command course).2.endCall
          started := awaited.started
          waiting := awaited.waiting.erase index } :=
      .ends (show index ∈ awaited.waiting from waits) finished
    have whole := (((Relation.ReflTransGen.single first).tail second).trans waited).tail last
    rw [show awaited.waiting.erase index = sharing.waiting from List.erase_cons_head ..] at whole
    exact ⟨_, whole⟩

/-! ## Two callers -/

/-- When two calls begin one after the other, the runner forgets the process of the first, and
cancelling leaves that one running. -/
theorem exists_missed (several : 1 < callers) {start : Session}
    (notCancelled : start.runner.cancelled = false)
    (starts : ∀ index command, ∃ course, start.host.script index command = .starts course) :
    ∃ sharing, Relation.ReflTransGen (Step callers) { session := start } sharing ∧
      ∃ index ∈ sharing.started, sharing.session.cancel.isRunning index = true := by
  have command : Command := []
  rcases starts start.host.calls.length command with ⟨firstCourse, firstStarts⟩
  rcases Session.beginCall_of_starts start notCancelled firstStarts with
    ⟨first, one, firstBegun, firstWorld, _⟩
  rcases starts one.host.calls.length command with ⟨secondCourse, secondStarts⟩
  rw [← firstWorld.script] at secondStarts
  rcases Session.beginCall_of_starts one (firstWorld.cancelled.trans notCancelled) secondStarts with
    ⟨second, two, secondBegun, _⟩
  have oneStep : Step callers { session := start } ⟨one, [first], [first]⟩ :=
    .begins (Nat.zero_lt_of_lt several) firstBegun
  have twoStep : Step callers ⟨one, [first], [first]⟩ ⟨two, [second, first], [second, first]⟩ :=
    .begins several secondBegun
  refine ⟨_, (Relation.ReflTransGen.single oneStep).tail twoStep, first, by simp, ?_⟩
  rcases Session.exists_of_started _ firstBegun with ⟨firstIs, oneProcesses, _⟩
  rcases Session.exists_of_started _ secondBegun with ⟨secondIs, twoProcesses, runner⟩
  rw [oneProcesses, List.length_append, List.length_singleton, ← firstIs] at secondIs
  refine (Session.isRunning_cancel _ first).mpr ⟨?_, ?_⟩
  · rw [Session.isRunning_iff, twoProcesses, oneProcesses, firstIs]
    simp
  · rw [runner, secondIs]
    simp

theorem not_cancelReachesAll (several : 1 < callers) : ¬ CancelReachesAll callers := by
  intro reachesAll
  let start : Session := { host := {}, runner := ({} : Host).newRunner none none }
  have notCancelled : start.runner.cancelled = false := rfl
  rcases exists_missed several notCancelled fun _ _ => ⟨_, rfl⟩ with
    ⟨sharing, reached, index, member, runs⟩
  rw [reachesAll start sharing reached index member] at runs
  cases runs

/-- Cancelling reaches all processes exactly when there are not several callers at once. -/
theorem cancelReachesAll_iff (callers : Nat) : CancelReachesAll callers ↔ callers ≤ 1 := by
  constructor
  · intro reachesAll
    by_contra several
    exact not_cancelReachesAll (by omega) reachesAll
  · intro single start sharing reached index member
    exact (covered_of_reached single reached).cancelled member

theorem two_callers_are_missed : ¬ CancelReachesAll 2 :=
  not_cancelReachesAll (by decide)

end Sharing

end Montage

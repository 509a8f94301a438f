import Montage.Export.Exporter
import Montage.Proofs.Tool.Call

/-! What can be seen of an export: the stages that it enters, and the calls that it issues
between them. The log and the list of calls tell both, and every step only adds to them. -/

namespace Montage

/-- A stage is entered, or a call is announced. A call that is announced is issued unless the
runner was cancelled before. -/
inductive Milestone where
  | entered (stage : Stage)
  | called (stage : Stage) (command : Command) (issued : Bool)

namespace Milestone

def stage? : Milestone → Option Stage
  | .entered stage => some stage
  | .called .. => none

def command? : Milestone → Option Command
  | .called _ command true => some command
  | _ => none

def line : Milestone → LogLine
  | .entered stage => ⟨.info, "pipeline", "Export stage: " ++ stage.name⟩
  | .called stage command _ => ⟨.debug, "tool", callText (some stage.name) command⟩

end Milestone

def LogLine.isMilestone (line : LogLine) : Bool :=
  (line.level = .info ∧ line.part = "pipeline") ∨ (line.level = .debug ∧ line.part = "tool")

def stagesOf (trace : List Milestone) : List Stage :=
  trace.filterMap Milestone.stage?

def callsOf (trace : List Milestone) : List Command :=
  trace.filterMap Milestone.command?

def lastStage (current : Stage) (entered : List Stage) : Stage :=
  entered.getLast?.getD current

structure Session.Passed (before : Session) (trace : List Milestone) (after : Session) : Prop where
  stages : after.stages = before.stages ++ stagesOf trace
  lines : after.host.log.filter LogLine.isMilestone =
    before.host.log.filter LogLine.isMilestone ++ trace.map Milestone.line
  calls : after.host.calls = before.host.calls ++ callsOf trace

def CallsKeepStage : (current : Stage) → List Milestone → Prop
  | _, [] => True
  | _, .entered stage :: rest => CallsKeepStage stage rest
  | current, .called stage _ _ :: rest => stage = current ∧ CallsKeepStage current rest

theorem stagesOf_append (first second : List Milestone) :
    stagesOf (first ++ second) = stagesOf first ++ stagesOf second :=
  List.filterMap_append

theorem callsOf_append (first second : List Milestone) :
    callsOf (first ++ second) = callsOf first ++ callsOf second :=
  List.filterMap_append

theorem lastStage_append (current : Stage) (first second : List Stage) :
    lastStage current (first ++ second) = lastStage (lastStage current first) second := by
  simp only [lastStage, List.getLast?_append]
  cases second.getLast? <;> rfl

theorem callsKeepStage_append {first second : List Milestone} :
    ∀ {current : Stage}, CallsKeepStage current first →
      CallsKeepStage (lastStage current (stagesOf first)) second →
        CallsKeepStage current (first ++ second) := by
  induction first with
  | nil => exact fun _ keeps => keeps
  | cons milestone rest induction =>
      intro current keepsFirst keepsSecond
      cases milestone with
      | entered stage =>
          apply induction keepsFirst
          have last := lastStage_append current [stage] (stagesOf rest)
          rw [← show lastStage current (stagesOf (.entered stage :: rest)) =
            lastStage stage (stagesOf rest) from last]
          exact keepsSecond
      | called stage command issued =>
          exact ⟨keepsFirst.1, induction keepsFirst.2 keepsSecond⟩

/-- Whatever comes between, the last stage that was entered before a call is its own. -/
theorem CallsKeepStage.last_entered {stage : Stage} {command : Command} {issued : Bool}
    {earlier later : List Milestone} :
    ∀ {current : Stage}, CallsKeepStage current (earlier ++ .called stage command issued :: later) →
      lastStage current (stagesOf earlier) = stage := by
  induction earlier with
  | nil => exact fun keeps => keeps.1.symm
  | cons milestone rest induction =>
      intro current keeps
      cases milestone with
      | entered first =>
          exact (lastStage_append current [first] (stagesOf rest)).trans (induction keeps)
      | called other otherCommand otherIssued => exact induction keeps.2

namespace Session

theorem Passed.trans {before middle after : Session} {first second : List Milestone}
    (early : before.Passed first middle) (late : middle.Passed second after) :
    before.Passed (first ++ second) after where
  stages := by rw [late.stages, early.stages, stagesOf_append, List.append_assoc]
  lines := by rw [late.lines, early.lines, List.map_append, List.append_assoc]
  calls := by rw [late.calls, early.calls, callsOf_append, List.append_assoc]

theorem Passed.refl (session : Session) : session.Passed [] session where
  stages := (List.append_nil _).symm
  lines := (List.append_nil _).symm
  calls := (List.append_nil _).symm

theorem Passed.then_unseen {before middle after : Session} {trace : List Milestone}
    (early : before.Passed trace middle) (late : middle.Passed [] after) :
    before.Passed trace after := by
  have whole := early.trans late
  rwa [List.append_nil] at whole

/-! ## Changes that nobody sees -/

theorem passed_of_same {before after : Session} (stages : after.stages = before.stages)
    (log : after.host.log = before.host.log) (calls : after.host.calls = before.host.calls) :
    before.Passed [] after where
  stages := by rw [stages, stagesOf, List.filterMap_nil, List.append_nil]
  lines := by rw [log, List.map_nil, List.append_nil]
  calls := by rw [calls, callsOf, List.filterMap_nil, List.append_nil]

theorem passed_writeLog (session : Session) (level : LogLevel) (part message : String)
    (ordinary : LogLine.isMilestone ⟨level, part, message⟩ = false) :
    session.Passed [] (session.updateHost (·.writeLog level part message)) where
  stages := (List.append_nil _).symm
  lines := by
    simp only [updateHost, Host.writeLog, List.filter_append, List.map_nil]
    rw [List.filter_singleton, ordinary]
    rfl
  calls := (List.append_nil _).symm

theorem passed_endProcess (session : Session) (index : Nat) (returnCode : Int) :
    session.Passed [] (session.endProcess index returnCode) :=
  passed_of_same rfl rfl rfl

theorem passed_kill (session : Session) (index : Nat) : session.Passed [] (session.kill index) :=
  passed_of_same rfl rfl rfl

theorem passed_exitProcess (session : Session) (index : Nat) (command : Command) (exit : Exit) :
    session.Passed [] (session.exitProcess index command exit) := by
  apply passed_of_same
  · rfl
  · simp only [exitProcess, updateHost]
    split
    · split <;> rfl
    · rfl
  · exact (session.exitProcess_leaves index command exit).2.1

theorem passed_cancel (session : Session) : session.Passed [] session.cancel := by
  unfold cancel
  cases session.runner.inFlight with
  | none => exact passed_of_same rfl rfl rfl
  | some index =>
      generalize cancelledIs : Session.mk session.host _ _ = cancelled
      have first : session.Passed [] (cancelled.updateHost (·.addEvent .poll)) := by
        rw [← cancelledIs]
        exact passed_of_same rfl rfl rfl
      dsimp only
      split
      · have logged := passed_writeLog (cancelled.updateHost (·.addEvent .poll)) .info "tool"
          s!"Cancelling ffmpeg process {session.host.processNumber index}"
          (by simp [LogLine.isMilestone])
        exact (first.then_unseen logged).then_unseen (passed_kill _ index)
      · exact first

theorem passed_breakOff (session : Session) (index : Nat) (cause : WaitBreak) :
    session.Passed [] (session.breakOff index cause) :=
  (session.passed_kill index).then_unseen (passed_of_same rfl rfl rfl)

theorem passed_await (session : Session) (index : Nat) (command : Command) (course : Course) :
    session.Passed [] (session.await index command course).2 := by
  have waits : session.Passed []
      (session.updateHost (·.addEvent (.communicate session.runner.timeout))) :=
    passed_of_same rfl rfl rfl
  rcases course with exit | cause | ⟨_ | _, exit⟩ | cause
  · exact waits.then_unseen (passed_exitProcess _ index command exit)
  · exact waits.then_unseen (passed_breakOff _ index cause)
  · exact (waits.then_unseen (passed_cancel _)).then_unseen (passed_endProcess _ index killedCode)
  · exact (waits.then_unseen (passed_exitProcess _ index command exit)).then_unseen
      (passed_cancel _)
  · exact (waits.then_unseen (passed_breakOff _ index cause)).then_unseen (passed_cancel _)

/-! ## Calls -/

theorem passed_beginCall (session : Session) (stage : Stage) (command : Command) :
    ∃ issued, session.Passed [.called stage command issued]
      ((session.announce (some stage.name) command).beginCall command).2 := by
  generalize announcedIs : session.announce (some stage.name) command = announced
  have stages : announced.stages = session.stages ++ [] := by
    rw [← announcedIs, List.append_nil]
    rfl
  have lines : announced.host.log.filter LogLine.isMilestone =
      session.host.log.filter LogLine.isMilestone ++
        [(Milestone.called stage command true).line] := by
    rw [← announcedIs]
    simp only [announce, updateHost, Host.writeLog, List.filter_append]
    rfl
  have calls : announced.host.calls = session.host.calls := by
    rw [← announcedIs]
    rfl
  unfold beginCall
  split
  · exact ⟨false, stages, lines, calls.trans (List.append_nil _).symm⟩
  · refine ⟨true, ?_⟩
    have issued : announced.host.calls ++ [command] = session.host.calls ++ [command] := by
      rw [calls]
    dsimp only
    cases announced.host.script announced.host.calls.length command with
    | cannotStart reason => exact ⟨stages, lines, issued⟩
    | starts course => exact ⟨stages, lines, issued⟩

theorem passed_callResult (stage : Option String) (timeout : Option Float) (command : Command)
    (begun : Begun × Session) :
    begun.2.Passed [] (callResult stage timeout command begun).2 := by
  rcases begun with ⟨_ | _ | ⟨index, course⟩, session⟩
  · exact .refl session
  · exact .refl session
  · exact (session.passed_await index command course).then_unseen (passed_of_same rfl rfl rfl)

end Session

theorem runTool_passed (arguments : List String) (stage : Stage) (before : Session) :
    ∃ issued, before.Passed [.called stage (before.runner.binary :: arguments) issued]
      (runTool arguments (some stage.name) before).2 := by
  rcases before.passed_beginCall stage (before.runner.binary :: arguments) with ⟨issued, begun⟩
  refine ⟨issued, ?_⟩
  rw [runTool_eq]
  exact begun.then_unseen (Session.passed_callResult _ _ _ _)

end Montage

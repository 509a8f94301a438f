import Montage.Proofs.Export.CleanUp
import Montage.Proofs.Export.Lockstep
import Montage.Proofs.Export.StageMachine

/-! An export that is cancelled. From then on no process is started for it, and what it comes
to is no video. -/

namespace Montage

/-! ## The way of an export as its turns -/

inductive Occasion where
  | enters (stage : Stage)
  | asks (arguments : List String) (stage : Stage)

def Occasion.step (observer : Observer) : Occasion → Act Unit
  | .enters stage => enterStage observer stage
  | .asks arguments stage => do
      let _ ← runTool arguments (some stage.name)

structure Turn where
  session : Session
  occasion : Occasion

namespace Turn

def after (observer : Observer) (turn : Turn) : Session :=
  (turn.occasion.step observer turn.session).2

def IsAsking (turn : Turn) : Prop :=
  ∃ arguments stage, turn.occasion = .asks arguments stage

/-- Whether the export is cancelled at this turn: by its observer on entering a working
stage, or while its command is waited for, be it that the process still runs, has just exited or
has just been killed. -/
def Cancels (observer : Observer) (turn : Turn) : Prop :=
  match turn.occasion with
  | .enters stage => stage ∈ workingStages ∧ observer.cancels stage = true
  | .asks arguments _ =>
      let command := turn.session.runner.binary :: arguments
      turn.session.runner.cancelled = false ∧
        (turn.session.host.script turn.session.host.calls.length command).cancels = true

end Turn

namespace Session

structure Quiet (before after : Session) : Prop where
  passed : before.Passed [] after
  runner : after.runner = before.runner
  processes : after.host.processes = before.host.processes

theorem quiet_of_same {before after : Session} (stages : after.stages = before.stages)
    (log : after.host.log = before.host.log) (calls : after.host.calls = before.host.calls)
    (runner : after.runner = before.runner)
    (processes : after.host.processes = before.host.processes) : before.Quiet after where
  passed := passed_of_same stages log calls
  runner
  processes

instance : IsPreorder Session Quiet where
  refl session := ⟨.refl session, rfl, rfl⟩
  trans _ _ _ early late := ⟨early.passed.then_unseen late.passed,
    late.runner.trans early.runner, late.processes.trans early.processes⟩

theorem quiet_withTree (session : Session) (tree : FileTree) :
    session.Quiet (session.withTree tree) :=
  quiet_of_same rfl rfl rfl rfl rfl

inductive Follows (observer : Observer) : Session → List Turn → Session → Prop
  | rest {before after : Session} (quiet : before.Quiet after) : Follows observer before [] after
  | next {before after : Session} {turn : Turn} {turns : List Turn}
      (quiet : before.Quiet turn.session)
      (follows : Follows observer (turn.after observer) turns after) :
      Follows observer before (turn :: turns) after

variable {observer : Observer} {before middle after : Session} {turn : Turn}
  {turns earlier later : List Turn}

theorem Follows.after_quiet (quiet : before.Quiet middle)
    (follows : Follows observer middle turns after) : Follows observer before turns after := by
  cases follows with
  | rest still => exact .rest (IsTrans.trans _ _ _ quiet still)
  | next still rest => exact .next (IsTrans.trans _ _ _ quiet still) rest

theorem Follows.append (early : Follows observer before earlier middle)
    (late : Follows observer middle later after) :
    Follows observer before (earlier ++ later) after := by
  induction early with
  | rest quiet => exact late.after_quiet quiet
  | next quiet _ induction => exact .next quiet (induction late)

theorem Follows.single (occasion : Occasion) (before : Session) :
    Follows observer before [⟨before, occasion⟩] (occasion.step observer before).2 :=
  .next (Std.Refl.refl before) (.rest (Std.Refl.refl _))

theorem Follows.split
    (follows : Follows observer before (earlier ++ turn :: later) after) :
    Follows observer (turn.after observer) later after := by
  induction earlier generalizing before with
  | nil =>
      cases follows with
      | next _ rest => exact rest
  | cons first earlier induction =>
      cases follows with
      | next _ rest => exact induction rest

end Session

/-! ## Cancelled for good -/

theorem Observer.interrupt_session (observer : Observer) (stage : Stage) (session : Session) :
    (observer.interrupt stage session).2 = session := by
  unfold interrupt
  cases observer.breaksOff stage <;> rfl

/-- Where a session has got when the observer of a stage can break it off. -/
theorem enterStage_reaches (observer : Observer) (stage : Stage) (before : Session) :
    ∃ reached, enterStage observer stage before = observer.interrupt stage reached ∧
      reached.stages = before.stages ++ [stage] ∧
      reached.runner.cancelled = (before.runner.cancelled || observer.cancels stage) := by
  have cancels (session : Session) : session.cancel.stages = session.stages :=
    session.passed_cancel.stages.trans (List.append_nil _)
  unfold enterStage
  cases observer.line stage with
  | none =>
      cases observer.cancels stage with
      | false => exact ⟨_, rfl, rfl, (Bool.or_false _).symm⟩
      | true =>
          refine ⟨_, rfl, cancels _, ?_⟩
          rw [Session.cancel_runner, Bool.or_true]
  | some line =>
      cases observer.cancels stage with
      | false => exact ⟨_, rfl, rfl, (Bool.or_false _).symm⟩
      | true =>
          refine ⟨_, rfl, cancels _, ?_⟩
          rw [Session.cancel_runner, Bool.or_true]

/-- Entering a stage cancels when the observer does, and nothing takes that back. -/
theorem enterStage_cancelled (observer : Observer) (stage : Stage) (before : Session) :
    (enterStage observer stage before).2.runner.cancelled =
      (before.runner.cancelled || observer.cancels stage) := by
  rcases enterStage_reaches observer stage before with ⟨reached, ran, _, cancelled⟩
  rw [ran, observer.interrupt_session, cancelled]

theorem enterStage_stages (observer : Observer) (stage : Stage) (before : Session) :
    (enterStage observer stage before).2.stages = before.stages ++ [stage] := by
  rcases enterStage_reaches observer stage before with ⟨reached, ran, stages, _⟩
  rw [ran, observer.interrupt_session, stages]

namespace Session

structure StaysCancelled (before after : Session) : Prop where
  cancelled : after.runner.cancelled = true
  calls : after.host.calls = before.host.calls
  processes : after.host.processes.length = before.host.processes.length

end Session

variable {observer : Observer} {before after : Session} {turns earlier later : List Turn}
  {turn : Turn}

open Session

theorem Occasion.staysCancelled (cancelled : before.runner.cancelled = true)
    (occasion : Occasion) : before.StaysCancelled (occasion.step observer before).2 := by
  cases occasion with
  | enters stage =>
      have still := enterStage_still observer stage before
      refine ⟨?_, still.calls, still.processes⟩
      change (enterStage observer stage before).2.runner.cancelled = true
      rw [enterStage_cancelled, cancelled, Bool.true_or]
  | asks arguments stage =>
      have refused := runTool_of_cancelled arguments (some stage.name) cancelled
      rw [Occasion.step, run_bind_of_error refused]
      exact ⟨cancelled, rfl, rfl⟩

theorem Turn.cancelled_after (cancels : turn.Cancels observer) :
    (turn.after observer).runner.cancelled = true := by
  rcases turn with ⟨session, _ | ⟨arguments, stage⟩⟩
  · change (enterStage observer _ session).2.runner.cancelled = true
    rw [enterStage_cancelled, cancels.2, Bool.or_true]
  · rcases runTool_of_not_cancelled arguments (some stage.name) cancels.1 with
      ⟨after, ran, comes⟩
    have cancelled := comes.cancelled.trans cancels.2
    change (Occasion.step observer (.asks arguments stage) session).2.runner.cancelled = true
    rw [Occasion.step, run_bind, ran]
    cases Outcome.answer _ _ _ <;> exact cancelled

/-- Whatever turns come after it was cancelled, it stays so, and nothing is started. -/
theorem Session.Follows.staysCancelled (follows : Follows observer before turns after)
    (cancelled : before.runner.cancelled = true) :
    before.StaysCancelled after ∧
      ∀ turn ∈ turns, turn.session.runner.cancelled = true := by
  induction follows with
  | rest quiet =>
      refine ⟨⟨quiet.runner ▸ cancelled, ?_, congrArg List.length quiet.processes⟩, ?_⟩
      · exact quiet.passed.calls.trans (List.append_nil _)
      · exact fun _ member => absurd member List.not_mem_nil
  | @next before after turn turns quiet _ induction =>
      have turnCancelled : turn.session.runner.cancelled = true := quiet.runner ▸ cancelled
      have first : turn.session.StaysCancelled (turn.after observer) :=
        turn.occasion.staysCancelled turnCancelled
      rcases induction first.cancelled with ⟨rest, others⟩
      refine ⟨⟨rest.cancelled, ?_, ?_⟩, ?_⟩
      · rw [rest.calls, first.calls, quiet.passed.calls, callsOf, List.filterMap_nil,
          List.append_nil]
      · rw [rest.processes, first.processes, quiet.processes]
      · intro other member
        rcases List.mem_cons.mp member with rfl | member
        · exact turnCancelled
        · exact others other member

/-! ## Steps that heed a cancellation -/

def Problem.IsCancellation (problem : Problem) : Prop :=
  ∃ failure, problem = .failure failure ∧ failure.kind = .cancelled

/-- A step is a way past some turns of one kind. It is stopped at one that asks for a command
and ends with the runner cancelled. If the runner already was so before that turn, this is the
reason. -/
def Act.Heeds (observer : Observer) (Kind : Occasion → Prop) {α : Type} (step : Act α) : Prop :=
  ∀ before, ∃ turns, Follows observer before turns (step before).2 ∧
    (∀ turn ∈ turns, Kind turn.occasion) ∧
    ∀ turn ∈ turns, turn.IsAsking → (turn.after observer).runner.cancelled = true →
      ∃ problem, (step before).1 = .error problem ∧
        (turn.session.runner.cancelled = true → problem.IsCancellation)

namespace Act.Heeds

variable {Kind : Occasion → Prop} {α β : Type} {step : Act α} {next : α → Act β}

theorem of_quiet (quiet : step.Always Quiet) : step.Heeds observer Kind :=
  fun before => ⟨[], .rest (quiet before), fun _ member => absurd member List.not_mem_nil,
    fun _ member => absurd member List.not_mem_nil⟩

theorem pure (value : α) : (Pure.pure value : Act α).Heeds observer Kind :=
  of_quiet (.pure value)

theorem throw (problem : Problem) : (MonadExcept.throw problem : Act α).Heeds observer Kind :=
  of_quiet (.throw problem)

theorem bind (early : step.Heeds observer Kind)
    (late : ∀ value, (next value).Heeds observer Kind) :
    (step >>= next).Heeds observer Kind := by
  intro before
  rcases early before with ⟨first, follows, kinds, heeds⟩
  rw [run_bind]
  rcases ran : step before with ⟨problem | value, middle⟩
  · rw [ran] at follows heeds
    refine ⟨first, follows, kinds, fun turn member asking cancelled => ?_⟩
    rcases heeds turn member asking cancelled with ⟨_, ⟨⟩, reason⟩
    exact ⟨problem, rfl, reason⟩
  · rw [ran] at follows heeds
    rcases late value middle with ⟨second, lateFollows, lateKinds, lateHeeds⟩
    refine ⟨first ++ second, follows.append lateFollows, ?_, ?_⟩
    · intro turn member
      rcases List.mem_append.mp member with member | member
      · exact kinds turn member
      · exact lateKinds turn member
    · -- The first step was not stopped, so it has asked for nothing while cancelled.
      intro turn member asking cancelled
      rcases List.mem_append.mp member with member | member
      · rcases heeds turn member asking cancelled with ⟨_, same, _⟩
        cases same
      · exact lateHeeds turn member asking cancelled

theorem enterStage (stage : Stage) (kind : Kind (.enters stage)) :
    (Montage.enterStage observer stage).Heeds observer Kind := by
  intro before
  refine ⟨[⟨before, .enters stage⟩], .single (.enters stage) before, ?_, ?_⟩
  · intro turn member
    rw [List.mem_singleton.mp member]
    exact kind
  · intro turn member asking
    rw [List.mem_singleton.mp member] at asking
    rcases asking with ⟨_, _, same⟩
    cases same

theorem runTool (arguments : List String) (stage : Stage) (kind : Kind (.asks arguments stage)) :
    (Montage.runTool arguments (some stage.name)).Heeds observer Kind := by
  intro before
  have same : ((Occasion.asks arguments stage).step observer before).2 =
      (Montage.runTool arguments (some stage.name) before).2 := by
    rw [Occasion.step, run_bind]
    rcases Montage.runTool arguments (some stage.name) before with ⟨_ | _, after⟩ <;> rfl
  refine ⟨[⟨before, .asks arguments stage⟩], ?_, ?_, ?_⟩
  · rw [← same]
    exact .single _ before
  · intro turn member
    rw [List.mem_singleton.mp member]
    exact kind
  · intro turn member _ cancelled
    rw [List.mem_singleton.mp member]
    rw [List.mem_singleton.mp member, Turn.after, same] at cancelled
    cases already : before.runner.cancelled with
    | true =>
        rw [runTool_of_cancelled arguments _ already]
        exact ⟨_, rfl, fun _ => ⟨_, rfl, rfl⟩⟩
    | false =>
        rcases runTool_of_not_cancelled arguments (some stage.name) already with
          ⟨after, ran, comes⟩
        rw [ran] at cancelled ⊢
        cases answered : Outcome.answer before.runner.timeout (some stage.name) _ with
        | error problem => exact ⟨problem, rfl, nofun⟩
        | ok stdout =>
            have went := (Outcome.answer_eq_ok_iff.mp answered).1
            exact nomatch went.symm.trans (comes.cancelled.symm.trans cancelled)

end Act.Heeds

/-! ## Quiet steps -/

theorem writeLog_quiet {level : LogLevel} {part : String} (message : String)
    (ordinary : LogLine.isMilestone ⟨level, part, message⟩ = false) :
    (Act.writeLog level part message).Always Quiet :=
  fun before => ⟨before.passed_writeLog level part message ordinary, rfl, rfl⟩

theorem writeFile_quiet (path : Path) (content : String) :
    (Act.writeFile path content).Always Quiet := by
  intro before
  rw [writeFile_eq]
  cases before.host.tree.write before.host.workingPlace path content with
  | ok tree => exact before.quiet_withTree tree
  | error fault => exact Std.Refl.refl before

theorem copyFile_quiet (source target : Path) : (Act.copyFile source target).Always Quiet := by
  intro before
  rw [copyFile_eq]
  cases before.host.tree.read before.host.workingPlace source with
  | ok content => exact writeFile_quiet target content before
  | error fault => exact Std.Refl.refl before

theorem onHost_quiet {α : Type} {step : Host → Except Problem α × Host}
    (keeps : ∀ host : Host, (step host).2.log.filter LogLine.isMilestone =
      host.log.filter LogLine.isMilestone ∧ (step host).2.calls = host.calls ∧
      (step host).2.processes = host.processes) : (Act.onHost step).Always Quiet := by
  intro before
  rcases keeps before.host with ⟨lines, calls, processes⟩
  exact ⟨⟨(List.append_nil _).symm, lines.trans (List.append_nil _).symm,
    calls.trans (List.append_nil _).symm⟩, rfl, processes⟩

theorem writeList_quiet (list : Path) (parts : List Path) :
    (Act.writeList list parts).Always Quiet := by
  intro before
  rw [Act.writeList, run_getThe]
  exact writeFile_quiet list (before.host.listText parts) before

theorem makeOutputDirectory_quiet (output : String) :
    (makeOutputDirectory output).Always Quiet := by
  intro before
  rw [makeOutputDirectory_run]
  exact before.quiet_withTree _

theorem heeds_sequence (observer : Observer) (Kind : Occasion → Prop) :
    SequenceLaw (Act.Heeds observer Kind) where
  pure := .pure
  throw := .throw
  bind := .bind

/-- The work of an export by one worker heeds a cancellation. -/
theorem heeds_law (observer : Observer) {workers : Int} (alone : workers ≤ 1) :
    StepLaw observer workers (Act.Heeds observer fun _ => True) where
  toSequenceLaw := heeds_sequence observer _
  runJobs := (heeds_sequence observer _).runJobs_alone alone
  writeLog := fun part message other =>
    .of_quiet (writeLog_quiet message (by simp [LogLine.isMilestone, other]))
  copyFile := fun source target => .of_quiet (copyFile_quiet source target)
  writeList := fun list parts => .of_quiet (writeList_quiet list parts)
  enterStage := fun stage => .enterStage stage trivial
  runTool := fun arguments stage _ _ rest =>
    (Act.Heeds.runTool arguments stage trivial).bind fun _ => rest

/-! ## The end -/

theorem settle_quiet (output : String) (exportId : Option String)
    (produced : Except Problem Unit) : (settle output exportId produced).Always Quiet := by
  rcases produced with problem | ⟨⟩
  · cases problem with
    | failure failure =>
        exact fun before =>
          ⟨before.passed_writeLog _ _ _ (by simp [LogLine.isMilestone]), rfl, rfl⟩
    | _ => exact .pure _
  · exact .pure _

def Occasion.IsOfEnd (occasion : Occasion) : Prop :=
  ∃ stage, occasion = .enters stage ∧ stage ∉ workingStages

theorem conclude_heeds (observer : Observer) (output : String) (exportId : Option String)
    (workspace : Option Workspace) (produced : Except Problem Unit) :
    (conclude observer output exportId workspace produced).Heeds observer Occasion.IsOfEnd :=
  (heeds_sequence observer Occasion.IsOfEnd).conclude
    (fun output exportId produced => .of_quiet (settle_quiet output exportId produced))
    (.enterStage .cleaningUp ⟨.cleaningUp, rfl, by decide⟩)
    (.enterStage .done ⟨.done, rfl, by decide⟩)
    (fun workspace => .of_quiet (onHost_quiet workspace.release_keeps))
    output exportId workspace produced

/-- A result that an export gives is that of what its work came to. -/
theorem concludes_of_conclude {output : String} {exportId : Option String}
    {workspace : Option Workspace} {produced : Except Problem Unit} {result : ExportResult}
    (gives : (conclude observer output exportId workspace produced before).1 = .ok result) :
    Concludes output before.stages (.ok result) produced := by
  rcases settle_passed output ((workspace.map Workspace.exportId).or exportId) produced before with
    ⟨settled, middle, ran, _, concludes⟩
  unfold conclude at gives
  rw [run_bind_of_ok ran, run_bind] at gives
  rcases cleaned : cleanUp observer workspace middle with ⟨problem | warnings, after⟩
  · rw [cleaned] at gives
    cases gives
  · rw [cleaned] at gives
    cases settled with
    | error problem => cases gives
    | ok settled =>
        cases gives
        exact concludes.withWarnings warnings

/-! ## The whole export -/

variable {τ : Type} [Quantity τ] {settings : Settings} {timeline : Timeline τ}
  {output : String} {exportId : Option String}

/-- The last thing that the work of an export does is a command. If that went well, nobody
had cancelled. -/
theorem not_cancelled_of_exportWork
    (ended : (exportWork observer settings timeline output exportId before).1 = .ok ()) :
    (exportWork observer settings timeline output exportId before).2.runner.cancelled = false := by
  rcases composed_iff.mpr ended with ⟨arguments, middle, stdout, after, arranged, called⟩
  have whole : exportWork observer settings timeline output exportId before = (.ok (), after) := by
    unfold exportWork compose
    rw [run_bind_of_ok arranged, run_bind_of_ok called]
    rfl
  rw [whole]
  cases already : middle.runner.cancelled with
  | true =>
      rw [runTool_of_cancelled arguments _ already] at called
      cases called
  | false =>
      rcases runTool_of_not_cancelled arguments (some Stage.composing.name) already with
        ⟨_, ran, comes⟩
      rw [ran] at called
      rcases Prod.mk.inj called with ⟨answers, rfl⟩
      exact comes.cancelled.trans (Outcome.answer_eq_ok_iff.mp answers).1

/-- What an export comes to that was cancelled at one of its turns, the others that came
after it being the later ones: nothing is started any more, and there is no video. A failure
other than the cancellation itself arose without any command being asked for. -/
structure ComesToNothing (observer : Observer) (turn : Turn) (later : List Turn)
    (exported : Except Problem ExportResult × Session) : Prop where
  calls : exported.2.host.calls = (turn.after observer).host.calls
  processes : exported.2.host.processes.length = (turn.after observer).host.processes.length
  not_ok : ∀ result, exported.1 = .ok result → result.isOk = false
  failure : ∀ result, exported.1 = .ok result → ∃ failure, result.failure = some failure ∧
    (failure.kind ≠ .cancelled → ∀ other ∈ later, ¬ other.IsAsking)

/-- An export that is cancelled comes to nothing, whenever that is: on entering one of its
working stages, or while a command is waited for. -/
theorem exportTimeline_comes_to_nothing (observer : Observer) (settings : Settings)
    (timeline : Timeline τ) (output : String) (exportId : Option String) (before : Session)
    (alone : settings.workers ≤ 1) :
    let exported := exportTimeline observer settings timeline output exportId before
    ∃ turns, Follows observer before.reset turns exported.2 ∧
      ∀ earlier turn later, turns = earlier ++ turn :: later → turn.Cancels observer →
        ComesToNothing observer turn later exported := by
  intro exported
  rcases exportTimeline_eq observer settings timeline output exportId before with
    ⟨workspace, concluded⟩
  rw [show exported = _ from concluded]
  generalize worked : exportWork observer settings timeline output exportId before.reset = work
  have acquires : (Act.onHost (Workspace.acquire exportId settings.workspaceRoot)).Heeds observer
      fun _ => True := .of_quiet (onHost_quiet (Workspace.acquire_keeps exportId _))
  have makes : (makeOutputDirectory output).Heeds observer fun _ => True :=
    .of_quiet (makeOutputDirectory_quiet output)
  rcases (heeds_law observer alone).exportWork timeline acquires makes before.reset with
    ⟨working, follows, _, heeds⟩
  rw [worked] at follows heeds
  rcases conclude_heeds observer output exportId workspace work.1 work.2 with
    ⟨ending, endFollows, ends, _⟩
  have noAsking (turn : Turn) (member : turn ∈ ending) : ¬ turn.IsAsking := by
    rintro ⟨arguments, stage, asks⟩
    rcases ends turn member with ⟨_, enters, _⟩
    rw [asks] at enters
    cases enters
  have noCancelling (turn : Turn) (member : turn ∈ ending) : ¬ turn.Cancels observer := by
    intro cancels
    rcases ends turn member with ⟨stage, enters, notWorking⟩
    rw [Turn.Cancels, enters] at cancels
    exact notWorking cancels.1
  have whole := follows.append endFollows
  refine ⟨working ++ ending, whole, fun earlier turn later turns cancels => ?_⟩
  have cancelled := Turn.cancelled_after cancels
  rw [turns] at whole
  rcases (Follows.split whole).staysCancelled cancelled with ⟨stays, _⟩
  -- The turn is one of the work, which it did not let come to its end.
  obtain ⟨rest, rfl, rfl⟩ : ∃ rest, working = earlier ++ turn :: rest ∧ later = rest ++ ending := by
    rcases List.append_eq_append_iff.mp turns with ⟨more, _, same⟩ | ⟨more, within, same⟩
    · exact absurd cancels (noCancelling turn (same ▸ List.mem_append_right _ List.mem_cons_self))
    · rcases List.cons_eq_append_iff.mp same with ⟨_, same⟩ | ⟨rest, rfl, same⟩
      · exact absurd cancels (noCancelling turn (same ▸ List.mem_cons_self))
      · exact ⟨rest, within, (List.cons.inj same).2⟩
  rcases (Follows.split follows).staysCancelled cancelled with ⟨workStays, restCancelled⟩
  have failed (result : ExportResult) (gives : (conclude observer output exportId workspace
      work.1 work.2).1 = .ok result) : ∃ raised failure, work.1 = .error (.failure raised) ∧
        result.outputPath = none ∧ result.failure = some failure ∧
        failure.kind = raised.kind := by
    have concludes := concludes_of_conclude gives
    rcases came : work.1 with problem | ⟨⟩
    · rw [came] at concludes
      cases problem with
      | failure raised =>
          rcases concludes with ⟨_, ⟨⟩, noOutput, failed⟩
          refine ⟨raised, _, rfl, noOutput, failed, ?_⟩
          unfold settled
          split <;> rfl
      | _ => cases concludes
    · rw [← worked] at came workStays
      have uncancelled := not_cancelled_of_exportWork came
      rw [workStays.cancelled] at uncancelled
      cases uncancelled
  refine ⟨stays.calls, stays.processes, fun result gives => ?_, fun result gives => ?_⟩
  · rcases failed result gives with ⟨_, failure, _, noOutput, _, _⟩
    rw [ExportResult.isOk, noOutput, Option.isSome_none, Bool.and_false]
  · rcases failed result gives with ⟨raised, failure, came, _, isFailure, sameKind⟩
    refine ⟨failure, isFailure, fun otherKind other member asking => ?_⟩
    rcases List.mem_append.mp member with member | member
    · have inWork : other ∈ earlier ++ turn :: rest :=
        List.mem_append_right _ (List.mem_cons_of_mem turn member)
      have already := restCancelled other member
      rcases heeds other inWork asking (other.occasion.staysCancelled already).cancelled with
        ⟨_, same, reason⟩
      rw [came] at same
      cases same
      rcases reason already with ⟨_, ⟨⟩, kind⟩
      exact otherKind (sameKind.trans kind)
    · exact noAsking other member asking

/-- Somebody who cancels when the last call is about to be made. -/
theorem exportTimeline_comes_to_nothing_late :
    let observer : Observer := { cancels := fun stage => stage == .composing }
    let exported := exportTimeline observer {} Timeline.sample "out.mp4" none .sample
    ({} : Settings).workers ≤ 1 ∧
    ∃ turns, Follows observer Session.sample.reset turns exported.2 ∧
      ∀ earlier turn later, turns = earlier ++ turn :: later → turn.Cancels observer →
        ComesToNothing observer turn later exported :=
  ⟨by decide, exportTimeline_comes_to_nothing _ {} Timeline.sample "out.mp4" none .sample
    (by decide)⟩

end Montage

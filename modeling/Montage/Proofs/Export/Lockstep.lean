import Montage.Proofs.Export.Always
import Montage.Proofs.Export.Deeds
import Montage.Proofs.Files.Covering
import Montage.Proofs.Tool.Outcome

/-! Two runs of the same steps. In one of them every command goes well and leaves its file; the
other trails it, step by step, for as long as its own commands go well. -/

namespace Montage

namespace Session

/-! ## Commands since a session -/

def outcomes (first : Session) (commands : List Command) : List Outcome :=
  commands.mapIdx fun index command =>
    first.host.script (first.host.calls.length + index) command

theorem outcomes_concat (first : Session) (commands : List Command) (command : Command) :
    first.outcomes (commands ++ [command]) = first.outcomes commands ++
      [first.host.script (first.host.calls.length + commands.length) command] :=
  List.mapIdx_concat

def AllSucceed (first : Session) (commands : List Command) : Prop :=
  ∀ outcome ∈ first.outcomes commands, outcome.Succeeds

def EndsWith (first : Session) (commands : List Command) (problem : Problem) : Prop :=
  ∃ earlier last, first.outcomes commands = earlier ++ [last] ∧
    (∀ outcome ∈ earlier, outcome.Succeeds) ∧
    ∃ stage : Stage, last.answer first.runner.timeout (some stage.name) = .error problem

/-- A session in which a problem has stopped what began in the first one: every command since
went well, or else the problem is what the last of them gave. -/
def StoppedBy (first : Session) (problem : Problem) (session : Session) : Prop :=
  ∃ issued, session.host.calls = first.host.calls ++ issued ∧
    (first.AllSucceed issued ∨ first.EndsWith issued problem)

variable {first behind ahead behindAfter aheadAfter : Session} {issued : List Command}
  {command : Command}

theorem allSucceed_nil (first : Session) : first.AllSucceed [] :=
  nofun

theorem AllSucceed.concat (succeeded : first.AllSucceed issued)
    (succeeds : (first.host.script (first.host.calls.length + issued.length) command).Succeeds) :
    first.AllSucceed (issued ++ [command]) := by
  intro outcome member
  rw [outcomes_concat] at member
  rcases List.mem_append.mp member with earlier | last
  · exact succeeded outcome earlier
  · rw [List.mem_singleton.mp last]
    exact succeeds

/-! ## Two sessions -/

structure Paces (first : Session) (issued : List Command) (behind ahead : Session) : Prop where
  calls : behind.host.calls = first.host.calls ++ issued
  script : behind.host.script = first.host.script
  timeout : behind.runner.timeout = first.runner.timeout
  succeeded : first.AllSucceed issued
  sameCalls : ahead.host.calls = behind.host.calls
  binary : ahead.runner.binary = behind.runner.binary
  cancelled : ahead.runner.cancelled = behind.runner.cancelled
  workingPlace : ahead.host.workingPlace = behind.host.workingPlace
  delivers : ahead.host.AlwaysDelivers

/-- Two such sessions in which the files can differ: what is behind is ahead as well, and there
is no difference as long as every command has left its file. -/
structure Trails (first : Session) (issued : List Command) (behind ahead : Session) : Prop
    extends Paces first issued behind ahead where
  covers : ahead.host.tree.Covers behind.host.tree
  same : (∀ outcome ∈ first.outcomes issued, outcome.leavesFile = true) →
    ahead.host.tree = behind.host.tree

theorem Paces.scripted (paces : Paces first issued behind ahead) (command : Command) :
    behind.host.script behind.host.calls.length command =
      first.host.script (first.host.calls.length + issued.length) command := by
  rw [paces.script, paces.calls, List.length_append]

theorem Paces.stoppedBy (paces : Paces first issued behind ahead) (problem : Problem) :
    first.StoppedBy problem behind :=
  ⟨issued, paces.calls, .inl paces.succeeded⟩

def withTree (session : Session) (tree : FileTree) : Session :=
  session.updateHost fun host => { host with tree }

def withScript (session : Session) (script : Nat → Command → Outcome) : Session :=
  session.updateHost fun host => { host with script }

theorem Paces.withTree (paces : Paces first issued behind ahead) (tree treeAhead : FileTree) :
    Paces first issued (behind.withTree tree) (ahead.withTree treeAhead) :=
  ⟨paces.calls, paces.script, paces.timeout, paces.succeeded, paces.sameCalls, paces.binary,
    paces.cancelled, paces.workingPlace, paces.delivers⟩

/-! ## Calls -/

/-- Both sessions after a call that went well in both. -/
theorem Paces.after_ran (paces : Paces first issued behind ahead) {outcome own : Outcome}
    (scripted : behind.host.script behind.host.calls.length command = outcome)
    (succeeds : outcome.Succeeds) (ownSucceeds : own.Succeeds)
    (ran : behind.Ran command outcome behindAfter) (ranAhead : ahead.Ran command own aheadAfter) :
    Paces first (issued ++ [command]) behindAfter aheadAfter where
  calls := by rw [ran.calls, paces.calls, List.append_assoc]
  script := ran.script.trans paces.script
  timeout := ran.timeout.trans paces.timeout
  succeeded := by
    apply paces.succeeded.concat
    rw [← paces.scripted, scripted]
    exact succeeds
  sameCalls := by rw [ran.calls, ranAhead.calls, paces.sameCalls]
  binary := by rw [ran.binary, ranAhead.binary, paces.binary]
  cancelled := by
    rcases succeeds with ⟨exit, rfl, _⟩
    rcases ownSucceeds with ⟨ownExit, rfl, _⟩
    rw [ran.cancelled, ranAhead.cancelled]
    rfl
  workingPlace := by rw [ran.workingPlace, ranAhead.workingPlace, paces.workingPlace]
  delivers := paces.delivers.congr ranAhead.script

/-- A call goes well in both sessions, or it stops the one behind, and the one ahead has issued
no less. -/
theorem Paces.runTool (paces : Paces first issued behind ahead) (arguments : List String)
    (stage : Stage) :
    let command := behind.runner.binary :: arguments
    let outcome := behind.host.script behind.host.calls.length command
    (outcome.Succeeds ∧ ∃ stdout behindAfter own stdoutAhead aheadAfter,
      Montage.runTool arguments (some stage.name) behind = (.ok stdout, behindAfter) ∧
      Montage.runTool arguments (some stage.name) ahead = (.ok stdoutAhead, aheadAfter) ∧
      own.Succeeds ∧ own.leavesFile = true ∧
      behind.Ran command outcome behindAfter ∧ ahead.Ran command own aheadAfter) ∨
    ∃ problem behindAfter,
      Montage.runTool arguments (some stage.name) behind = (.error problem, behindAfter) ∧
      first.StoppedBy problem behindAfter ∧
      behindAfter.host.calls <+:
        (Montage.runTool arguments (some stage.name) ahead).2.host.calls := by
  intro command outcome
  have sameCommand : ahead.runner.binary :: arguments = command := by rw [paces.binary]
  cases cancelled : behind.runner.cancelled with
  | true =>
      refine .inr ⟨_, _, runTool_of_cancelled arguments _ cancelled, paces.stoppedBy _, ?_⟩
      rw [runTool_of_cancelled arguments _ (paces.cancelled.trans cancelled)]
      exact paces.sameCalls ▸ List.prefix_rfl
  | false =>
      obtain ⟨after, ran, comes⟩ : ∃ after, Montage.runTool arguments (some stage.name) behind =
            (outcome.answer behind.runner.timeout (some stage.name), after) ∧
          behind.Ran command outcome after :=
        runTool_of_not_cancelled arguments (some stage.name) cancelled
      rcases runTool_of_not_cancelled arguments (some stage.name)
        (paces.cancelled.trans cancelled) with ⟨afterAhead, ranAhead, comesAhead⟩
      rw [sameCommand] at ranAhead comesAhead
      rcases paces.delivers ahead.host.calls.length command with ⟨exit, own, zero, leaves⟩
      rw [own] at ranAhead comesAhead
      have ownSucceeds : (Outcome.starts (.exits exit)).Succeeds := ⟨exit, rfl, zero⟩
      rcases (Outcome.succeeds_iff ahead.runner.timeout (some stage.name)).mp ownSucceeds with
        ⟨stdoutAhead, gives⟩
      rw [gives] at ranAhead
      rcases answers : outcome.answer behind.runner.timeout (some stage.name) with problem | stdout
      · rw [answers] at ran
        refine .inr ⟨problem, after, ran, ⟨issued ++ [command], ?_, .inr ?_⟩, ?_⟩
        · rw [comes.calls, paces.calls, List.append_assoc]
        · refine ⟨first.outcomes issued, outcome, ?_, paces.succeeded, stage, ?_⟩
          · rw [outcomes_concat, ← paces.scripted]
          · rw [← paces.timeout, answers]
        · have sameCalls : afterAhead.host.calls = after.host.calls := by
            rw [comes.calls, comesAhead.calls, paces.sameCalls]
          rw [ranAhead]
          exact sameCalls ▸ List.prefix_rfl
      · rw [answers] at ran
        refine .inl ⟨?_, stdout, after, _, stdoutAhead, afterAhead, ran, ranAhead, ownSucceeds,
          leaves, comes, comesAhead⟩
        exact (Outcome.succeeds_iff behind.runner.timeout (some stage.name)).mpr ⟨stdout, answers⟩

theorem Trails.after_ran (trails : Trails first issued behind ahead) {outcome own : Outcome}
    (scripted : behind.host.script behind.host.calls.length command = outcome)
    (succeeds : outcome.Succeeds) (ownSucceeds : own.Succeeds) (leaves : own.leavesFile = true)
    (ran : behind.Ran command outcome behindAfter) (ranAhead : ahead.Ran command own aheadAfter) :
    Trails first (issued ++ [command]) behindAfter aheadAfter where
  toPaces := trails.toPaces.after_ran scripted succeeds ownSucceeds ran ranAhead
  covers := by
    rw [ran.tree, ranAhead.tree, if_pos leaves, trails.workingPlace]
    split
    · exact trails.covers.leaving _ _
    · exact trails.covers.leaving_alone _ _
  same := by
    intro allLeave
    rw [outcomes_concat, ← trails.scripted, scripted] at allLeave
    have lastLeaves := allLeave outcome (List.mem_append_right _ List.mem_cons_self)
    have sameTree := trails.same fun earlier member =>
      allLeave earlier (List.mem_append_left _ member)
    rw [ran.tree, ranAhead.tree, if_pos leaves, if_pos lastLeaves, trails.workingPlace, sameTree]

end Session

/-! ## Steps in both sessions -/

open Session

/-- What a step gives in a session and in the one ahead of it: the same value, and the one is
still behind the other; or the one behind is stopped, and the one ahead has issued no less. -/
inductive Session.Goes {α : Type} (first : Session) :
    Except Problem α × Session → Except Problem α × Session → Prop
  | on {value issued behind ahead} (trails : Trails first issued behind ahead) :
      Goes first (.ok value, behind) (.ok value, ahead)
  | stops {problem behind ahead} (stopped : first.StoppedBy problem behind)
      (further : behind.host.calls <+: ahead.2.host.calls) :
      Goes first (.error problem, behind) ahead

def Session.IssuesMore (before after : Session) : Prop :=
  before.host.calls <+: after.host.calls

instance : IsPreorder Session IssuesMore where
  refl _ := List.prefix_rfl
  trans _ _ _ := List.IsPrefix.trans

structure Act.InStep {α : Type} (step : Act α) : Prop where
  grows : step.Always IssuesMore
  goes : ∀ {first issued behind ahead}, Trails first issued behind ahead →
    first.Goes (step behind) (step ahead)

namespace Act.InStep

variable {α β : Type} {step : Act α} {next : α → Act β}

theorem bind (early : step.InStep) (late : ∀ value, (next value).InStep) :
    (step >>= next).InStep where
  grows := early.grows.bind fun value => (late value).grows
  goes := by
    intro first issued behind ahead trails
    have both := early.goes trails
    rw [run_bind, run_bind]
    generalize step behind = here, step ahead = there at both
    cases both with
    | on trails => exact (late _).goes trails
    | stops stopped further =>
        refine .stops stopped (further.trans ?_)
        rcases there with ⟨problem | value, after⟩
        · exact List.prefix_rfl
        · exact (late value).grows after

theorem pure (value : α) : (Pure.pure value : Act α).InStep :=
  ⟨.pure value, fun trails => .on trails⟩

theorem throw (problem : Problem) : (MonadExcept.throw problem : Act α).InStep :=
  ⟨.throw problem, fun trails =>
    .stops (trails.stoppedBy problem) (trails.sameCalls ▸ List.prefix_rfl)⟩

theorem sequence : SequenceLaw Act.InStep where
  pure := .pure
  throw := .throw
  bind := .bind

/-- Each session decides what comes next by something that is the same in both. -/
theorem getThe_of {γ : Type} (view : Session → γ) (next : γ → Act β)
    (sees : ∀ {first issued behind ahead}, Trails first issued behind ahead →
      view ahead = view behind)
    (rest : ∀ value, (next value).InStep) :
    (MonadStateOf.get >>= fun session => next (view session)).InStep where
  grows := .getThe fun session => (rest (view session)).grows
  goes := by
    intro first issued behind ahead trails
    change first.Goes (next (view behind) behind) (next (view ahead) ahead)
    rw [sees trails]
    exact (rest _).goes trails

end Act.InStep

/-! ## Steps that issue nothing -/

structure Session.Unmoved (marks : Bool → Bool) (before after : Session) : Prop where
  calls : after.host.calls = before.host.calls
  script : after.host.script = before.host.script
  workingPlace : after.host.workingPlace = before.host.workingPlace
  tree : after.host.tree = before.host.tree
  binary : after.runner.binary = before.runner.binary
  timeout : after.runner.timeout = before.runner.timeout
  cancelled : after.runner.cancelled = marks before.runner.cancelled

theorem Session.unmoved_cancel (session : Session) :
    session.Unmoved (fun _ => true) session.cancel := by
  rcases session.cancel_keeps with ⟨calls, script, workingPlace, tree⟩
  refine ⟨calls, script, workingPlace, tree, ?_, ?_, ?_⟩ <;> rw [cancel_runner]

namespace Session.Trails

variable {first behind ahead : Session} {issued : List Command}

theorem unmoved (trails : Trails first issued behind ahead) {marks : Bool → Bool}
    {behindAfter aheadAfter : Session} (here : behind.Unmoved marks behindAfter)
    (there : ahead.Unmoved marks aheadAfter) : Trails first issued behindAfter aheadAfter where
  calls := here.calls.trans trails.calls
  script := here.script.trans trails.script
  timeout := here.timeout.trans trails.timeout
  succeeded := trails.succeeded
  sameCalls := by rw [here.calls, there.calls, trails.sameCalls]
  binary := by rw [here.binary, there.binary, trails.binary]
  cancelled := by rw [here.cancelled, there.cancelled, trails.cancelled]
  workingPlace := by rw [here.workingPlace, there.workingPlace, trails.workingPlace]
  delivers := trails.delivers.congr there.script
  covers := by
    rw [here.tree, there.tree]
    exact trails.covers
  same := by
    rw [here.tree, there.tree]
    exact trails.same

theorem withTree (trails : Trails first issued behind ahead) {tree treeAhead : FileTree}
    (covers : treeAhead.Covers tree)
    (same : ahead.host.tree = behind.host.tree → treeAhead = tree) :
    Trails first issued (behind.withTree tree) (ahead.withTree treeAhead) where
  toPaces := trails.toPaces.withTree tree treeAhead
  covers
  same := fun allLeave => same (trails.same allLeave)

end Session.Trails

theorem runTool_issuesMore (arguments : List String) (stage : Option String) :
    (runTool arguments stage).Always IssuesMore := by
  intro before
  cases cancelled : before.runner.cancelled with
  | true =>
      rw [runTool_of_cancelled arguments stage cancelled]
      exact List.prefix_rfl
  | false =>
      rcases runTool_of_not_cancelled arguments stage cancelled with ⟨after, ran, comes⟩
      rw [ran]
      change before.host.calls <+: after.host.calls
      rw [comes.calls]
      exact List.prefix_append _ _

theorem makeOutputDirectory_run (output : String) (session : Session) :
    let directory := (Path.ofText output).parent
    let made := FileTree.makeDirectories session.host.workingPlace directory.parts.length directory
      session.host.tree
    makeOutputDirectory output session = (made.1.mapError .file, session.withTree made.2) :=
  rfl

theorem writeFile_eq (path : Path) (content : String) (session : Session) :
    Act.writeFile path content session =
      match session.host.tree.write session.host.workingPlace path content with
      | .ok tree => (.ok (), session.withTree tree)
      | .error fault => (.error (.file fault), session) := by
  unfold Act.writeFile
  rw [run_getThe]
  cases session.host.tree.write session.host.workingPlace path content <;> rfl

theorem copyFile_eq (source target : Path) (session : Session) :
    Act.copyFile source target session =
      match session.host.tree.read session.host.workingPlace source with
      | .ok content => Act.writeFile target content session
      | .error fault => (.error (.file fault), session) := by
  unfold Act.copyFile
  rw [run_getThe]
  cases session.host.tree.read session.host.workingPlace source <;> rfl

theorem writeFile_issuesMore (path : Path) (content : String) :
    (Act.writeFile path content).Always IssuesMore := by
  intro before
  rw [writeFile_eq]
  cases before.host.tree.write before.host.workingPlace path content <;> exact List.prefix_rfl

theorem Session.Trails.writeFile {first behind ahead : Session} {issued : List Command}
    (trails : Trails first issued behind ahead) (path : Path) {content contentAhead : String}
    (agree : ahead.host.tree = behind.host.tree → contentAhead = content) :
    first.Goes (Act.writeFile path content behind) (Act.writeFile path contentAhead ahead) := by
  rw [writeFile_eq path content behind]
  cases written : behind.host.tree.write behind.host.workingPlace path content with
  | error fault =>
      refine .stops (trails.stoppedBy _) ?_
      rw [← trails.sameCalls]
      exact writeFile_issuesMore path contentAhead ahead
  | ok tree =>
      rcases trails.covers.write written contentAhead with ⟨treeAhead, writtenAhead, covers⟩
      rw [writeFile_eq, trails.workingPlace, writtenAhead]
      refine .on (trails.withTree covers fun same => ?_)
      rw [same, agree same, written] at writtenAhead
      exact (Except.ok.inj writtenAhead).symm

namespace Act.InStep

variable {α β : Type}

theorem of_unmoved (value : α) {change : Session → Session} (marks : Bool → Bool)
    (unmoved : ∀ session : Session, session.Unmoved marks (change session)) :
    Act.InStep fun session => (.ok value, change session) where
  grows := fun before => by
    change before.host.calls <+: (change before).host.calls
    exact (unmoved before).calls ▸ List.prefix_rfl
  goes := fun trails => .on (trails.unmoved (unmoved _) (unmoved _))

theorem writeLog (level : LogLevel) (part message : String) :
    (Act.writeLog level part message).InStep :=
  of_unmoved () id fun _ => ⟨rfl, rfl, rfl, rfl, rfl, rfl, rfl⟩

theorem enterStage (observer : Observer) (stage : Stage) :
    (Montage.enterStage observer stage).InStep := by
  apply enterStage_induction Act.InStep
  case bind => exact fun early late => early.bind late
  case marks => exact fun _ => of_unmoved () id fun _ => ⟨rfl, rfl, rfl, rfl, rfl, rfl, rfl⟩
  case logs => exact fun message => writeLog _ _ message
  case prints => exact fun _ => of_unmoved () id fun _ => ⟨rfl, rfl, rfl, rfl, rfl, rfl, rfl⟩
  case cancels => exact of_unmoved () (fun _ => true) fun session => session.unmoved_cancel
  case breaks => exact throw
  case rests => exact pure ()

theorem writeFile (path : Path) (content : String) : (Act.writeFile path content).InStep :=
  ⟨writeFile_issuesMore path content, fun trails => trails.writeFile path fun _ => rfl⟩

theorem copyFile (source target : Path) : (Act.copyFile source target).InStep where
  grows := .getThe fun _ => (Act.Always.ofExcept _ _).bind fun content =>
    writeFile_issuesMore target content
  goes := by
    intro first issued behind ahead trails
    have more : ahead.host.calls <+: (Act.copyFile source target ahead).2.host.calls := by
      rw [copyFile_eq]
      cases ahead.host.tree.read ahead.host.workingPlace source with
      | ok content => exact writeFile_issuesMore target content ahead
      | error fault => exact List.prefix_rfl
    rw [copyFile_eq source target behind]
    cases stored : behind.host.tree.read behind.host.workingPlace source with
    | error fault => exact .stops (trails.stoppedBy _) (trails.sameCalls ▸ more)
    | ok content =>
        rcases trails.covers.read stored with ⟨contentAhead, storedAhead⟩
        rw [copyFile_eq, trails.workingPlace, storedAhead]
        refine trails.writeFile target fun same => ?_
        rw [same, stored] at storedAhead
        exact (Except.ok.inj storedAhead).symm

/-- A call of which only the file matters, not what it wrote. -/
theorem runTool (arguments : List String) (stage : Stage) {next : Act β} (rest : next.InStep) :
    (Montage.runTool arguments (some stage.name) >>= fun _ => next).InStep where
  grows := (runTool_issuesMore arguments _).bind fun _ => rest.grows
  goes := by
    intro first issued behind ahead trails
    rcases trails.toPaces.runTool arguments stage with
      ⟨succeeds, _, _, own, _, _, ran, ranAhead, ownSucceeds, leaves, comes, comesAhead⟩ |
      ⟨problem, after, ran, stopped, further⟩
    · rw [run_bind_of_ok ran, run_bind_of_ok ranAhead]
      exact rest.goes (trails.after_ran rfl succeeds ownSucceeds leaves comes comesAhead)
    · rw [run_bind_of_error ran, run_bind]
      refine .stops stopped (further.trans ?_)
      rcases Montage.runTool arguments (some stage.name) ahead with ⟨problem | value, ended⟩
      · exact List.prefix_rfl
      · exact rest.grows ended

/-- Both sessions list the parts in the same words, for they work in the same place. -/
theorem writeList (list : Path) (parts : List Path) : (Act.writeList list parts).InStep :=
  getThe_of (fun session => session.host.listText parts) (Act.writeFile list)
    (fun trails => Host.listText_congr trails.workingPlace parts) (writeFile list)

/-- With one worker the extractions come one after the other. -/
theorem law (observer : Observer) {workers : Int} (inTurn : workers ≤ 1) :
    StepLaw observer workers Act.InStep where
  toSequenceLaw := sequence
  runJobs := sequence.runJobs_alone inTurn
  writeLog := fun part message _ => writeLog .debug part message
  copyFile := copyFile
  writeList := writeList
  enterStage := enterStage observer
  runTool := fun arguments stage _ _ rest => runTool arguments stage rest

end Act.InStep

end Montage

import Montage.Proofs.Export.Additions
import Montage.Proofs.Export.Progress
import Montage.Proofs.Timeline.Accepted

/-! The workspace of an export when the export is over: it is gone, or there is one warning of
its removal. That takes an observer who lets the cleaning up begin. -/

namespace Montage

def Workspace.removalWarning (workspace : Workspace) (reason : String) : CleanupWarning :=
  ⟨"Failed to remove workspace " ++ workspace.path.text ++ ": " ++ reason⟩

def CleanupWarning.line (warning : CleanupWarning) : LogLine :=
  ⟨.warning, "workspace", warning.message⟩

def Host.removalReason? (host : Host) : Option String :=
  match host.removalFault with
  | some (.reported reason) => some reason
  | _ => none

/-- Nothing is left at the place of a workspace or below, unless its removal is reported to fail.
Then there is one warning of that, and no other. -/
structure Workspace.Cleared (workspace : Workspace) (place : Place) (before after : Host)
    (warnings : List CleanupWarning) : Prop where
  gone : before.removalReason? = none → ∀ other, place <+: other → after.tree.get? other = none
  given : warnings = before.removalReason?.toList.map workspace.removalWarning
  logged : after.warnings = before.warnings ++ warnings.map CleanupWarning.line

theorem Session.AddedTo.removalReason? {before after : Session} (added : before.AddedTo after) :
    after.host.removalReason? = before.host.removalReason? := by
  unfold Host.removalReason?
  rw [added.removalFault]

theorem Workspace.release_clears {workspace : Workspace} {host : Host} {place : Place}
    (noticed : host.removalFault ≠ some .vanishing) (unreleased : workspace.released = false)
    (below : place ≠ [])
    (located : host.tree.locate host.workingPlace workspace.path = .ok place)
    (directory : host.tree.isDirectory place = true) :
    workspace.Cleared place host (workspace.release host).2.2
      (workspace.release host).1.toList := by
  unfold release
  rw [unreleased, located]
  rcases fault : host.removalFault with _ | ⟨reason⟩ | _
  case some.vanishing => exact absurd fault noticed
  case some.reported =>
      have known : host.removalReason? = some reason := by rw [Host.removalReason?, fault]
      refine ⟨fun unknown => ?_, by rw [known]; rfl, ?_⟩
      · rw [known] at unknown
        cases unknown
      · simp [Host.warnings, Host.writeLog, CleanupWarning.line]
  case none =>
      have unknown : host.removalReason? = none := by rw [Host.removalReason?, fault]
      have there : (host.tree.get? place).isNone = false := by
        rw [FileTree.isDirectory_iff.mp directory]
        rfl
      simp only [Bool.false_eq_true, if_false, there]
      refine ⟨fun _ other inside => ?_, by rw [unknown]; rfl, ?_⟩
      · have otherBelow : other ≠ [] := by
          rintro rfl
          exact below (List.prefix_nil.mp inside)
        change (host.tree.remove place).get? other = none
        rw [FileTree.get?_remove _ _ _ otherBelow, if_pos (List.isPrefixOf_iff_prefix.mpr inside)]
      · exact (Host.warnings_writeLog _ (by decide) _ _).trans (List.append_nil _).symm

theorem Workspace.Cleared.of_still {workspace : Workspace} {place : Place}
    {first second third fourth : Session} {warnings : List CleanupWarning}
    (early : first.AddedTo second)
    (cleared : workspace.Cleared place second.host third.host warnings)
    (late : third.Still fourth) : workspace.Cleared place first.host fourth.host warnings where
  gone := by
    intro succeeds other inside
    rw [late.tree]
    exact cleared.gone (early.removalReason?.trans succeeds) other inside
  given := by
    rw [← early.removalReason?]
    exact cleared.given
  logged := by rw [late.warnings, cleared.logged, early.warnings]

variable {τ : Type} [Quantity τ] {observer : Observer} {settings : Settings}
  {timeline : Timeline τ} {output : String} {exportId : Option String} {before made : Session}
  {workspace : Workspace}

def exportWorkspace? (observer : Observer) (settings : Settings) (timeline : Timeline τ)
    (exportId : Option String) (before : Session) : Option (Workspace × Session) :=
  match prepare observer settings timeline exportId before.reset with
  | (.ok (_, workspace), made) => some (workspace, made)
  | (.error _, _) => none

/-- An export that has made a workspace clears it in the end, and its result has the warnings
of that. One that has made none removes no directory and starts no process. -/
def ClearsWorkspace (observer : Observer) (settings : Settings) (timeline : Timeline τ)
    (output : String) (exportId : Option String) (before : Session) : Prop :=
  let exported := exportTimeline observer settings timeline output exportId before
  match exportWorkspace? observer settings timeline exportId before with
  | none => before.Idle exported.2
  | some (workspace, made) => ∃ place warnings,
      made.host.tree.locate made.host.workingPlace workspace.path = .ok place ∧
      made.host.tree.isDirectory place = true ∧
      workspace.Cleared place before.host exported.2.host warnings ∧
      ∀ result, exported.1 = .ok result → result.warnings = warnings

/-! ## How an export goes on -/

theorem reset_still (before : Session) : before.Still before.reset :=
  Session.still_of_same rfl rfl rfl rfl rfl rfl

/-- An observer is all that can keep a stage from being entered. -/
theorem enterStage_result (observer : Observer) (stage : Stage) (before : Session) :
    (enterStage observer stage before).1 = match observer.breaksOff stage with
      | some problem => .error problem
      | none => .ok () := by
  unfold enterStage
  cases observer.line stage <;> cases observer.cancels stage <;> cases observer.breaksOff stage <;>
    rfl

theorem exportTimeline_of_no_workspace (output : String)
    (none : exportWorkspace? observer settings timeline exportId before = none) :
    ∃ problem after, before.Idle after ∧
      exportTimeline observer settings timeline output exportId before =
        conclude observer output exportId .none (.error problem) after := by
  unfold exportWorkspace? at none
  have prepares := prepare_idles observer settings timeline exportId before.reset
  rcases ran : prepare observer settings timeline exportId before.reset with
    ⟨problem | ⟨checked, workspace⟩, after⟩
  · rw [ran] at prepares
    refine ⟨problem, after, (reset_still before).toIdle.trans prepares, ?_⟩
    unfold exportTimeline
    rw [Act.run_change, run_bind]
    simp only [Act.attempt, ran]
    rfl
  · rw [ran] at none
    cases none

theorem exists_prepared
    (makes : exportWorkspace? observer settings timeline exportId before = some (workspace, made)) :
    ∃ checked, prepare observer settings timeline exportId before.reset =
      (.ok (checked, workspace), made) := by
  unfold exportWorkspace? at makes
  rcases ran : prepare observer settings timeline exportId before.reset with
    ⟨problem | ⟨checked, workspace⟩, after⟩
  · rw [ran] at makes
    cases makes
  · rw [ran] at makes
    cases makes
    exact ⟨checked, rfl⟩

theorem exists_acquired {checked : CheckedTimeline τ}
    (prepared : prepare observer settings timeline exportId before =
      (.ok (checked, workspace), made)) :
    ∃ host, Workspace.acquire exportId settings.workspaceRoot host =
      (.ok workspace, made.host) := by
  unfold prepare at prepared
  rcases entering : enterStage observer .validating before with ⟨problem | _, entered⟩
  · rw [run_bind_of_error entering] at prepared
    cases prepared
  · rw [run_bind_of_ok entering] at prepared
    cases checks : timeline.check with
    | error violation =>
        rw [checks] at prepared
        cases prepared
    | ok accepted =>
        rw [checks, Act.ofExcept, pure_bind, run_bind] at prepared
        simp only [Act.onHost] at prepared
        rcases acquired : Workspace.acquire exportId settings.workspaceRoot entered.host with
          ⟨problem | workspace, host⟩
        · rw [acquired] at prepared
          cases prepared
        · rw [acquired] at prepared
          cases prepared
          exact ⟨entered.host, acquired⟩

theorem standing_of_exportWorkspace
    (makes : exportWorkspace? observer settings timeline exportId before = some (workspace, made)) :
    before.Idle made ∧ workspace.released = false ∧ ∃ place, place ≠ [] ∧
      made.host.tree.locate made.host.workingPlace workspace.path = .ok place ∧
      made.host.tree.isDirectory place = true := by
  have prepares := prepare_idles observer settings timeline exportId before.reset
  rcases exists_prepared makes with ⟨checked, prepared⟩
  rcases exists_acquired prepared with ⟨host, acquired⟩
  rw [prepared] at prepares
  exact ⟨(reset_still before).toIdle.trans prepares, Workspace.standing_of_make acquired⟩

theorem exportTimeline_of_workspace (output : String)
    (makes : exportWorkspace? observer settings timeline exportId before = some (workspace, made)) :
    ∃ produced after, made.AddedTo after ∧
      exportTimeline observer settings timeline output exportId before =
        conclude observer output exportId (some workspace) produced after := by
  rcases exists_prepared makes with ⟨checked, prepared⟩
  refine ⟨(produce observer settings checked workspace output made).1, _,
    produce_adds observer settings checked workspace output made, ?_⟩
  unfold exportTimeline
  rw [Act.run_change, run_bind]
  simp only [Act.attempt, prepared]
  rfl

theorem conclude_still (observer : Observer) (output : String) (exportId : Option String)
    (produced : Except Problem Unit) :
    (conclude observer output exportId none produced).Always Session.Still := by
  refine (settle_still output _ produced).bind fun result => Act.Always.bind ?_ fun warnings => ?_
  · exact (enterStage_still observer .cleaningUp).bind fun _ =>
      (Act.Always.pure _).bind fun _ => (enterStage_still observer .done).bind fun _ => .pure _
  · cases result with
    | ok result => exact .pure _
    | error problem => exact .throw problem

theorem conclude_of_broken_off {problem : Problem}
    (breaks : observer.breaksOff .cleaningUp = some problem) (output : String)
    (exportId : Option String) (workspace : Option Workspace) (produced : Except Problem Unit) :
    (conclude observer output exportId workspace produced).Always Session.Still := by
  refine (settle_still output _ produced).bind fun result before => ?_
  have still := enterStage_still observer .cleaningUp before
  have stopped := enterStage_result observer .cleaningUp before
  rw [breaks] at stopped
  rcases ran : enterStage observer .cleaningUp before with ⟨outcome, after⟩
  rw [ran] at still stopped
  cases stopped
  unfold cleanUp
  rw [bind_assoc, run_bind_of_error ran]
  exact still

theorem cleanUp_of_vanishing (vanishes : before.host.removalFault = some .vanishing) :
    before.Still (cleanUp observer (some workspace) before).2 := by
  have enteredStill := enterStage_still observer .cleaningUp before
  rcases entering : enterStage observer .cleaningUp before with ⟨problem | _, entered⟩
  · rw [entering] at enteredStill
    unfold cleanUp
    rw [run_bind_of_error entering]
    exact enteredStill
  · rw [entering] at enteredStill
    have same : (workspace.release entered.host).2.2 = entered.host := by
      unfold Workspace.release
      rw [enteredStill.removalFault, vanishes]
      split <;> rfl
    let released : Session := { entered with host := (workspace.release entered.host).2.2 }
    have releasing : entered.Still released := by
      unfold released
      rw [same]
      exact Std.Refl.refl entered
    have ending : ((do
        enterStage observer .done
        return (workspace.release entered.host).1.toList : Act _)).Always Session.Still :=
      (enterStage_still observer .done).bind fun _ => .pure _
    unfold cleanUp
    rw [run_bind_of_ok entering]
    exact (enteredStill.trans releasing).trans (ending released)

theorem conclude_of_vanishing (vanishes : before.host.removalFault = some .vanishing)
    (output : String) (exportId : Option String) (workspace : Workspace)
    (produced : Except Problem Unit) :
    before.Still (conclude observer output exportId (some workspace) produced before).2 := by
  have settling := settle_still output (((some workspace).map Workspace.exportId).or exportId)
    produced before
  rcases settle_passed output (((some workspace).map Workspace.exportId).or exportId)
    produced before with ⟨result, settled, ran, _, _⟩
  rw [ran] at settling
  have cleaning : settled.Still (cleanUp observer (some workspace) settled).2 :=
    cleanUp_of_vanishing (settling.removalFault.trans vanishes)
  unfold conclude
  rw [run_bind_of_ok ran]
  rcases cleaned : cleanUp observer (some workspace) settled with ⟨problem | given, after⟩
  · rw [cleaned] at cleaning
    rw [run_bind_of_error cleaned]
    exact settling.trans cleaning
  · rw [cleaned] at cleaning
    rw [run_bind_of_ok cleaned]
    cases result <;> exact settling.trans cleaning

theorem cleanUp_clears {place : Place} (lets : observer.breaksOff .cleaningUp = none)
    (noticed : before.host.removalFault ≠ some .vanishing)
    (unreleased : workspace.released = false) (below : place ≠ [])
    (located : before.host.tree.locate before.host.workingPlace workspace.path = .ok place)
    (directory : before.host.tree.isDirectory place = true) :
    let cleaned := cleanUp observer (some workspace) before
    ∃ warnings, workspace.Cleared place before.host cleaned.2.host warnings ∧
      ∀ given, cleaned.1 = .ok given → given = warnings := by
  intro cleaned
  have enteredStill := enterStage_still observer .cleaningUp before
  have goes := enterStage_result observer .cleaningUp before
  rw [lets] at goes
  rcases entering : enterStage observer .cleaningUp before with ⟨outcome, entered⟩
  rw [entering] at enteredStill goes
  cases goes
  let released : Session := { entered with host := (workspace.release entered.host).2.2 }
  have cleared : workspace.Cleared place entered.host released.host
      (workspace.release entered.host).1.toList := by
    apply Workspace.release_clears _ unreleased below
    · rw [enteredStill.tree, enteredStill.workingPlace]
      exact located
    · rw [enteredStill.tree]
      exact directory
    · rw [enteredStill.removalFault]
      exact noticed
  have doneStill := enterStage_still observer .done released
  have same : cleaned = (do
      enterStage observer .done
      return (workspace.release entered.host).1.toList : Act _) released :=
    run_bind_of_ok entering _
  rcases ending : enterStage observer .done released with ⟨_ | _, after⟩
  · rw [ending] at doneStill
    rw [same, run_bind_of_error ending]
    exact ⟨_, .of_still enteredStill.toAddedTo cleared doneStill, fun _ => nofun⟩
  · rw [ending] at doneStill
    rw [same, run_bind_of_ok ending]
    exact ⟨_, .of_still enteredStill.toAddedTo cleared doneStill,
      fun _ same => (Except.ok.inj same).symm⟩

theorem conclude_clears {place : Place} (lets : observer.breaksOff .cleaningUp = none)
    (noticed : before.host.removalFault ≠ some .vanishing)
    (unreleased : workspace.released = false) (below : place ≠ [])
    (located : before.host.tree.locate before.host.workingPlace workspace.path = .ok place)
    (directory : before.host.tree.isDirectory place = true) (output : String)
    (exportId : Option String) (produced : Except Problem Unit) :
    let concluded := conclude observer output exportId (some workspace) produced before
    ∃ warnings, workspace.Cleared place before.host concluded.2.host warnings ∧
      ∀ result, concluded.1 = .ok result → result.warnings = warnings := by
  intro concluded
  let id := ((some workspace).map Workspace.exportId).or exportId
  have still := settle_still output id produced before
  rcases settle_passed output id produced before with ⟨result, settled, ran, _, _⟩
  rw [ran] at still
  have located : settled.host.tree.locate settled.host.workingPlace workspace.path = .ok place := by
    rw [still.tree, still.workingPlace]
    exact located
  have directory : settled.host.tree.isDirectory place = true := by
    rw [still.tree]
    exact directory
  have noticed : settled.host.removalFault ≠ some .vanishing := by
    rw [still.removalFault]
    exact noticed
  rcases cleanUp_clears lets noticed unreleased below located directory with
    ⟨warnings, cleared, same⟩
  rw [show concluded = _ from run_bind_of_ok ran _]
  rcases cleaning : cleanUp observer (some workspace) settled with ⟨problem | given, after⟩
  · rw [cleaning] at cleared
    rw [run_bind_of_error cleaning]
    exact ⟨warnings, .of_still still.toAddedTo cleared (Std.Refl.refl after),
      fun _ same => by cases same⟩
  · rw [cleaning] at cleared same
    have cleared := cleared.of_still still.toAddedTo (Std.Refl.refl after)
    rw [run_bind_of_ok cleaning]
    cases result with
    | error problem => exact ⟨warnings, cleared, fun _ same => by cases same⟩
    | ok result =>
        refine ⟨warnings, cleared, ?_⟩
        rintro _ ⟨⟩
        exact same given rfl

/-! ## The workspace in the end -/

theorem idle_of_no_workspace
    (none : exportWorkspace? observer settings timeline exportId before = none) :
    before.Idle (exportTimeline observer settings timeline output exportId before).2 := by
  rcases exportTimeline_of_no_workspace output none with
    ⟨problem, after, idle, exported⟩
  rw [exported]
  exact idle.trans (conclude_still observer output exportId (.error problem) after).toIdle

theorem clearsWorkspace_of_lets (lets : observer.breaksOff .cleaningUp = none)
    (noticed : before.host.removalFault ≠ some .vanishing) :
    ClearsWorkspace observer settings timeline output exportId before := by
  unfold ClearsWorkspace
  cases makes : exportWorkspace? observer settings timeline exportId before with
  | none => exact idle_of_no_workspace makes
  | some made =>
      rcases made with ⟨workspace, made⟩
      rcases exportTimeline_of_workspace output makes with
        ⟨produced, after, added, exported⟩
      rcases standing_of_exportWorkspace makes with
        ⟨idle, unreleased, place, below, located, directory⟩
      have stillLocated := added.directories.locate located
      rw [← added.workingPlace] at stillLocated
      have early := idle.toAddedTo.trans added
      have stillNoticed : after.host.removalFault ≠ some .vanishing := by
        rw [early.removalFault]
        exact noticed
      rcases conclude_clears lets stillNoticed unreleased below stillLocated
        (added.directories place directory) output exportId produced with
        ⟨warnings, cleared, given⟩
      dsimp only
      rw [exported]
      exact ⟨place, warnings, located, directory, cleared.of_still early (Std.Refl.refl _), given⟩

theorem not_clearsWorkspace_of_still
    (makes : exportWorkspace? observer settings timeline exportId before = some (workspace, made))
    (still : ∀ produced after, made.AddedTo after →
      after.Still (conclude observer output exportId (some workspace) produced after).2) :
    ¬ ClearsWorkspace observer settings timeline output exportId before := by
  unfold ClearsWorkspace
  rw [makes]
  rintro ⟨place, warnings, _, directory, cleared, _⟩
  rcases exportTimeline_of_workspace output makes with
    ⟨produced, after, added, exported⟩
  have still := still produced after added
  rw [← exported] at still
  have kept := added.trans still.toAddedTo
  have whole := (standing_of_exportWorkspace makes).1.toAddedTo.trans kept
  -- The directory is still there, and nothing has been warned of.
  cases reason : before.host.removalReason? with
  | none =>
      have there := FileTree.isDirectory_iff.mp (kept.directories place directory)
      rw [cleared.gone reason place List.prefix_rfl] at there
      cases there
  | some text =>
      have logged := cleared.logged
      rw [cleared.given, reason, whole.warnings] at logged
      simp at logged

theorem not_clearsWorkspace_of_broken_off {problem : Problem}
    (makes : exportWorkspace? observer settings timeline exportId before = some (workspace, made))
    (breaks : observer.breaksOff .cleaningUp = some problem) :
    ¬ ClearsWorkspace observer settings timeline output exportId before :=
  not_clearsWorkspace_of_still makes fun produced after _ =>
    conclude_of_broken_off breaks output exportId (some workspace) produced after

theorem not_clearsWorkspace_of_vanishing
    (makes : exportWorkspace? observer settings timeline exportId before = some (workspace, made))
    (vanishes : before.host.removalFault = some .vanishing) :
    ¬ ClearsWorkspace observer settings timeline output exportId before := by
  refine not_clearsWorkspace_of_still makes fun produced after added => ?_
  have idle := (standing_of_exportWorkspace makes).1
  exact conclude_of_vanishing
    ((added.removalFault.trans idle.removalFault).trans vanishes) output exportId workspace produced

/-- Clearing the workspace takes an observer who lets the cleaning up begin and a removal that
does not give up over something that is gone, and nothing else: whatever its calls come to, and
whoever cancels it or breaks it off before, an export that has made a workspace clears it.
Several workers are on the schedule of `runPool` here. -/
theorem clearsWorkspace_iff (observer : Observer) (settings : Settings) (timeline : Timeline τ)
    (output : String) (exportId : Option String) (before : Session) :
    ClearsWorkspace observer settings timeline output exportId before ↔
      exportWorkspace? observer settings timeline exportId before = none ∨
        observer.breaksOff .cleaningUp = none ∧ before.host.removalFault ≠ some .vanishing := by
  constructor
  · intro clears
    cases makes : exportWorkspace? observer settings timeline exportId before with
    | none => exact .inl rfl
    | some made =>
        refine .inr ⟨?_, fun vanishes => not_clearsWorkspace_of_vanishing makes vanishes clears⟩
        cases breaks : observer.breaksOff .cleaningUp with
        | none => rfl
        | some problem => exact absurd clears (not_clearsWorkspace_of_broken_off makes breaks)
  · rintro (none | ⟨lets, noticed⟩)
    · unfold ClearsWorkspace
      rw [none]
      exact idle_of_no_workspace none
    · exact clearsWorkspace_of_lets lets noticed

def Observer.gone : Observer where
  breaksOff stage := if stage = .cleaningUp then some (.crash "gone") else none

theorem not_clearsWorkspace_sample :
    ¬ ClearsWorkspace .gone {} Timeline.sample "out.mp4" none .sample := by
  rcases Workspace.acquire_logged Host.sample_isGrounded Workspace.sample_acquired
    [⟨.info, "pipeline", "Export stage: validating"⟩] "" with ⟨host, place, acquired, _⟩
  let made : Session := { Session.sample with host, stages := [.validating] }
  have entering : enterStage .gone .validating Session.sample.reset =
      (.ok (), { Session.sample with
        stages := [.validating]
        host := { Host.sample with
          log := [⟨.info, "pipeline", "Export stage: validating"⟩]
          printed := "" } }) := rfl
  have prepared : prepare .gone {} Timeline.sample none Session.sample.reset =
      (.ok (Timeline.sample.sorted, .sample), made) := by
    unfold prepare
    rw [run_bind_of_ok entering, Timeline.sample_passes, Act.ofExcept, pure_bind, run_bind]
    simp only [Act.onHost, acquired]
    rfl
  have makes : exportWorkspace? .gone {} Timeline.sample none .sample =
      some (.sample, made) := by
    unfold exportWorkspace?
    rw [prepared]
  exact not_clearsWorkspace_of_broken_off makes rfl

end Montage

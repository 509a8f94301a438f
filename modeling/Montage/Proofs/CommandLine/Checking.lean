import Montage.CommandLine.Commands
import Montage.Proofs.Export.Production
import Montage.Proofs.Export.Progress
import Montage.Proofs.Manifest.Planning

/-! Checking a timeline instead of exporting it: the check ends well exactly when the export
comes to work on its clips, and leaves the machine as it was. -/

namespace Montage

def Host.newSession (host : Host) : Session where
  host
  runner := host.newRunner none none

namespace ExportChoices

def checking (choices : ExportChoices) : ExportChoices :=
  { choices with validateOnly := true }

def exporting (choices : ExportChoices) : ExportChoices :=
  { choices with validateOnly := false }

def NamesOutput (choices : ExportChoices) : Prop :=
  (choices.output.getD "").isEmpty = false

end ExportChoices

/-! ## Steps that only tell -/

structure Session.StandsStill (before after : Session) : Prop where
  tree : after.host.tree = before.host.tree
  calls : after.host.calls = before.host.calls
  processes : after.host.processes = before.host.processes
  stages : after.stages = before.stages

theorem Session.StandsStill.refl (session : Session) : session.StandsStill session :=
  ⟨rfl, rfl, rfl, rfl⟩

theorem Session.StandsStill.trans {first second third : Session}
    (early : first.StandsStill second) (late : second.StandsStill third) :
    first.StandsStill third where
  tree := late.tree.trans early.tree
  calls := late.calls.trans early.calls
  processes := late.processes.trans early.processes
  stages := late.stages.trans early.stages

namespace CommandStep

/-- A step that says something. What it says can be written when something holds; otherwise it
breaks off. -/
def Tells (step : CommandStep Unit) (writable : Prop) : Prop :=
  ∀ before, ∃ result after, step before = (result, after) ∧ before.StandsStill after ∧
    (writable → result = .ok ()) ∧
    (¬ writable → result = .error (.broken (.misfit .tooManyDigits)))

variable {first : CommandStep Unit} {next : Unit → CommandStep Unit} {writable other : Prop}

theorem tells_print (line : String) : (print line).Tells True :=
  fun _ => ⟨_, _, rfl, ⟨rfl, rfl, rfl, rfl⟩, fun _ => rfl, fun never => absurd trivial never⟩

theorem tells_complain (line : String) : (complain line).Tells True :=
  fun _ => ⟨_, _, rfl, ⟨rfl, rfl, rfl, rfl⟩, fun _ => rfl, fun never => absurd trivial never⟩

theorem Tells.andThen (tells : first.Tells writable) (tellsNext : (next ()).Tells other) :
    (first >>= next).Tells (writable ∧ other) := by
  intro before
  rcases tells before with ⟨result, middle, ran, still, written, broken⟩
  by_cases holds : writable
  · cases written holds
    rcases tellsNext middle with ⟨result, after, ranNext, stillNext, written, broken⟩
    exact ⟨result, after, (run_bind_of_ok ran next).trans ranNext, still.trans stillNext,
      fun both => written both.2, fun notBoth => broken fun holds' => notBoth ⟨holds, holds'⟩⟩
  · cases broken holds
    exact ⟨_, middle, run_bind_of_error ran next, still, fun both => absurd both.1 holds,
      fun _ => rfl⟩

theorem Tells.of_iff (tells : first.Tells writable) (same : writable ↔ other) :
    first.Tells other := by
  rwa [← propext same]

theorem run_get (before : Session) : (get : CommandStep Session) before = (.ok before, before) :=
  rfl

theorem run_ofExcept {α : Type} {result : Except Problem α} {value : α}
    (given : result = .ok value) (before : Session) :
    ofExcept result before = (.ok value, before) := by
  rw [given]
  rfl

theorem ofExcept_stops {α : Type} {result : Except Problem α} {problem : Problem}
    (given : result = .error problem) (before : Session) :
    ofExcept result before = (.error (.broken problem), before) := by
  rw [given]
  rfl

theorem run_orTell {α : Type} {result : Except Problem α} {value : α}
    (given : result = .ok value) (before : Session) :
    orTell result before = (.ok value, before) := by
  rw [given]
  rfl

theorem orTell_stops {α : Type} (problem : Problem) (before : Session) :
    ∃ halt after, (orTell (.error problem) : CommandStep α) before = (.error halt, after) ∧
      before.StandsStill after := by
  cases problem with
  | failure failure => exact ⟨.failed, _, rfl, rfl, rfl, rfl, rfl⟩
  | _ => exact ⟨.broken _, before, rfl, .refl before⟩

theorem tells_forM {α : Type} {items : List α} {tell : α → CommandStep Unit}
    {writable : α → Prop} (each : ∀ item, (tell item).Tells (writable item)) :
    (items.forM tell).Tells (∀ item ∈ items, writable item) := by
  induction items with
  | nil =>
      exact fun before => ⟨_, before, rfl, .refl before, fun _ => rfl,
        fun never => absurd (List.forall_mem_nil _) never⟩
  | cons item rest induction =>
      exact ((each item).andThen induction).of_iff List.forall_mem_cons.symm

end CommandStep

open CommandStep

/-! ## What is exported -/

/-- What a manifest says of the output is not where scratch directories are made. -/
theorem workspaceRoot_of_loadManifest {host : Host} {name : String} {settings given : Settings}
    {timeline : Timeline Float} (loaded : host.loadManifest name settings = .ok (timeline, given)) :
    given.workspaceRoot = settings.workspaceRoot := by
  rcases exists_of_bind_ok loaded with ⟨text, _, loaded⟩
  rcases exists_of_bind_ok loaded with ⟨manifest, _, loaded⟩
  cases loaded
  unfold Manifest.applyOutput
  cases manifest.resolution <;> cases manifest.rate <;> rfl

theorem resolveChoices_of_manifest {choices : ExportChoices} (many : choices.isSingle = .ok false)
    (working : 1 ≤ choices.workers) (before : Session) :
    resolveChoices choices before =
      ofExcept (before.host.loadManifest (choices.manifest.getD "") choices.settings) before := by
  simp only [resolveChoices, many, pure_bind, Int.not_lt.mpr working, if_false]
  rfl

def Finds (step : CommandStep (Timeline Float × Settings)) (host : Host) (root : Option String) :
    Prop :=
  ∃ found : Except Halt (Timeline Float × Settings),
    (∀ before : Session, before.host = host → step before = (found, before)) ∧
    ∀ timeline settings, found = .ok (timeline, settings) → settings.workspaceRoot = root

theorem finds_throw (halt : Halt) (host : Host) (root : Option String) :
    Finds (throw halt) host root :=
  ⟨.error halt, fun _ _ => rfl, nofun⟩

/-- What is to be exported is found out without a change of the machine. -/
theorem exists_resolved (choices : ExportChoices) (host : Host) :
    Finds (resolveChoices choices) host choices.workspaceRoot := by
  unfold resolveChoices
  cases choices.isSingle with
  | error fault => exact finds_throw (.usage fault) host _
  | ok isSingle =>
      simp only [pure_bind]
      split
      · split
        · exact finds_throw (.usage .noWorkers) host _
        · refine ⟨.ok _, fun _ _ => rfl, ?_⟩
          rintro _ _ ⟨⟩
          rfl
      · exact finds_throw (.usage .incompleteClip) host _
      · split
        · exact finds_throw (.usage .noWorkers) host _
        · cases loaded : host.loadManifest (choices.manifest.getD "") choices.settings with
          | error problem =>
              refine ⟨.error (.broken problem), ?_, nofun⟩
              rintro before rfl
              exact ofExcept_stops loaded before
          | ok found =>
              refine ⟨.ok found, ?_, ?_⟩
              · rintro before rfl
                exact run_ofExcept loaded before
              · rintro timeline settings ⟨⟩
                exact workspaceRoot_of_loadManifest loaded

theorem checkOrExport_exporting {choices : ExportChoices} (named : choices.NamesOutput)
    (timeline : Timeline Float) (settings : Settings) :
    checkOrExport choices.exporting timeline settings = (do
      ofExcept ((← get).host.checkSources timeline)
      modify fun session => { session with
        runner := session.host.newRunner settings.ffmpeg settings.timeout }
      exportAndTell timeline settings (choices.output.getD "")) := by
  have notEmpty : (choices.output.getD "").isEmpty = false := named
  simp only [checkOrExport, ExportChoices.exporting, notEmpty, Bool.false_eq_true, if_false]

theorem checkOrExport_unnamed {choices : ExportChoices} (unnamed : ¬ choices.NamesOutput)
    (timeline : Timeline Float) (settings : Settings) (before : Session) :
    checkOrExport choices.exporting timeline settings before =
      (.error (.usage .outputMissing), before) := by
  have empty : (choices.output.getD "").isEmpty = true := by
    simpa [ExportChoices.NamesOutput] using unnamed
  simp only [checkOrExport, ExportChoices.exporting, empty]
  rfl

/-! ## The check -/

theorem tells_layer (layer : Layer Float) : (tellLayer layer).Tells layer.clip.IsNameable := by
  intro before
  unfold tellLayer
  by_cases nameable : layer.clip.IsNameable
  · rw [Value.write_eq_ok nameable, Except.mapError, run_bind_of_ok (run_ofExcept rfl before)]
    exact ⟨_, _, rfl, ⟨rfl, rfl, rfl, rfl⟩, fun _ => rfl, fun never => absurd nameable never⟩
  · rw [Value.write_eq_error (eq_false_of_ne_true nameable), Except.mapError,
      run_bind_of_error (ofExcept_stops rfl before)]
    exact ⟨_, _, rfl, .refl before, fun holds => absurd holds nameable, fun _ => rfl⟩

theorem tells_timeline (timeline : Timeline Float) (checked : CheckedTimeline Float)
    (sourceDuration : String → Float) :
    (tellTimeline timeline checked sourceDuration).Tells
      (∀ layer ∈ checked.layers, layer.clip.IsNameable) := by
  have told : (tellTimeline timeline checked sourceDuration).Tells
      (True ∧ (∀ _ ∈ checked.mainClips, True) ∧ (∀ layer ∈ checked.layers, layer.clip.IsNameable) ∧
        (∀ _ ∈ timeline.overruns sourceDuration, True) ∧ True) := by
    refine (tells_print _).andThen ?_
    refine (tells_forM fun clip => tells_print _).andThen ?_
    refine (tells_forM tells_layer).andThen ?_
    exact (tells_forM fun overrun => tells_print _).andThen (tells_print _)
  exact told.of_iff (by simp)

def Host.Passes (host : Host) (timeline : Timeline Float) : Prop :=
  (∃ checked, timeline.check = .ok checked) ∧ host.checkSources timeline = .ok ()

def Timeline.HasWritableTracks (timeline : Timeline Float) : Prop :=
  ∀ clip ∈ timeline.clips, clip.IsNameable

/-- The main track can always be written, so only the layers count. -/
theorem Timeline.hasWritableTracks_iff (timeline : Timeline Float) :
    (∀ layer ∈ timeline.sorted.layers, layer.clip.IsNameable) ↔ timeline.HasWritableTracks := by
  unfold HasWritableTracks
  constructor
  · intro nameable clip member
    cases main : clip.track.isMain with
    | true => exact Clip.isNameable_of_isMain main
    | false =>
        exact nameable (.ofClip clip)
          (List.mem_map_of_mem (mem_overlayClips.mpr ⟨member, main⟩))
  · intro nameable layer member
    rcases List.mem_map.mp member with ⟨clip, clipMember, rfl⟩
    exact nameable clip (mem_overlayClips.mp clipMember).1

theorem validateOnly_runs (timeline : Timeline Float) (before : Session) :
    ∃ result after, validateOnly timeline before = (result, after) ∧ before.StandsStill after ∧
      (result = .ok () ↔ before.host.Passes timeline ∧ timeline.HasWritableTracks) ∧
      (before.host.Passes timeline → ¬ timeline.HasWritableTracks →
        result = .error (.broken (.misfit .tooManyDigits))) := by
  unfold validateOnly Host.Passes
  cases passed : timeline.check with
  | error violation =>
      rcases orTell_stops (α := CheckedTimeline Float) (Problem.ofViolation violation) before with
        ⟨halt, after, ran, still⟩
      exact ⟨.error halt, after, run_bind_of_error ran _, still, iff_of_false nofun nofun, nofun⟩
  | ok checked =>
      rw [Except.mapError, run_bind_of_ok (run_orTell rfl before), run_bind_of_ok (run_get before)]
      cases sources : before.host.checkSources timeline with
      | error problem =>
          exact ⟨.error (.broken problem), before,
            run_bind_of_error (ofExcept_stops rfl before) _, .refl before,
            iff_of_false nofun nofun, nofun⟩
      | ok found =>
          rcases tells_timeline timeline checked before.host.sourceDuration before with
            ⟨result, after, ran, still, written, broken⟩
          rw [Timeline.checked_eq passed, Timeline.hasWritableTracks_iff] at written broken
          refine ⟨result, after, (run_bind_of_ok (run_ofExcept rfl before) _).trans ran, still,
            ⟨fun ended => ⟨⟨⟨checked, rfl⟩, rfl⟩, ?_⟩, fun both => written both.2⟩,
            fun _ overlong => broken overlong⟩
          by_contra overlong
          cases ended.symm.trans (broken overlong)

/-! ## The export -/

theorem stagePrinter_watches : stagePrinter.OnlyWatches where
  cancels _ := rfl
  breaksOff _ := rfl

def tellResult (outcome : Except Problem ExportResult) (seconds : Float) : CommandStep Unit := do
  let result ← ofExcept outcome
  result.warnings.forM fun warning => complain ("  WARN   " ++ warning.message)
  if result.isOk then
    print ("\n" ++ result.report ++ " (" ++ secondsText seconds ++ ")")
  else
    complain result.report
    throw .failed

theorem tellResult_stages (outcome : Except Problem ExportResult) (seconds : Float)
    (before : Session) : (tellResult outcome seconds before).2.stages = before.stages := by
  unfold tellResult
  cases outcome with
  | error problem => rfl
  | ok result =>
      have warns : (result.warnings.forM fun warning =>
          complain ("  WARN   " ++ warning.message)).Tells (∀ _ ∈ result.warnings, True) :=
        tells_forM fun _ => tells_complain _
      rcases warns before with ⟨told, middle, ran, still, written, _⟩
      cases written fun _ _ => trivial
      rw [run_bind_of_ok (run_ofExcept rfl before), run_bind_of_ok ran, ← still.stages]
      cases result.isOk with
      | true => rfl
      | false => rfl

theorem exportAndTell_stages (timeline : Timeline Float) (settings : Settings) (output : String)
    (before : Session) :
    ∃ line, (exportAndTell timeline settings output before).2.stages =
      (exportTimeline stagePrinter settings timeline output none
        (before.updateHost (·.print line))).2.stages :=
  ⟨s!"Exporting {timeline.clips.length} clip(s) to " ++ output, tellResult_stages _ _ _⟩

variable {τ : Type} [Quantity τ] {observer : Observer}

theorem preprocessing_mem_exportWork_iff (watches : observer.OnlyWatches) {settings : Settings}
    (timeline : Timeline τ) (output : String) {before : Session} (fresh : before.stages = [])
    {workspace : Workspace}
    (creatable : (Workspace.acquire none settings.workspaceRoot before.host).1 = .ok workspace) :
    .preprocessing ∈ (exportWork observer settings timeline output none before).2.stages ↔
      ∃ checked, timeline.check = .ok checked := by
  rcases run_enterStage watches .validating before with ⟨log, printed, entered⟩
  rw [exportWork_eq, run_bind_of_ok entered]
  cases passed : timeline.check with
  | error violation =>
      have stopped (session : Session) : Act.ofExcept Problem.ofViolation
          (.error violation : Except _ (CheckedTimeline τ)) session =
            (.error (.ofViolation violation), session) := rfl
      rw [run_bind_of_error (stopped _), fresh]
      exact iff_of_false (by simp) nofun
  | ok checked =>
      refine iff_of_true ?_ ⟨checked, rfl⟩
      have passes (session : Session) : Act.ofExcept Problem.ofViolation
          (.ok checked : Except (Violation τ) _) session = (.ok checked, session) := rfl
      have acquired := (Workspace.acquire_congr none settings.workspaceRoot before.host log
        printed).1.trans creatable
      have acquires : Act.onHost (Workspace.acquire none settings.workspaceRoot)
          { before with
            stages := before.stages ++ [.validating]
            host := { before.host with log, printed } } = (.ok workspace, _) :=
        Prod.ext acquired rfl
      rcases Act.Enters.exists_arrange_rest watches.breaksOff settings checked workspace output
        with ⟨rest, begins, enters⟩
      rw [run_bind_of_ok (passes _), run_bind_of_ok acquires, begins, bind_assoc]
      rcases run_enterStage watches .preprocessing _ with ⟨log, printed, started⟩
      rw [run_bind_of_ok started]
      rcases (enters.bind fun arguments => .compose arguments) _ with ⟨trace, passed, _⟩
      rw [passed.stages]
      simp

/-- An export comes to work on its clips exactly when its timeline is well formed, given that
its workspace can be made. -/
theorem preprocessing_mem_stages_iff (watches : observer.OnlyWatches) {settings : Settings}
    (timeline : Timeline τ) (output : String) {before : Session} (fresh : before.stages = [])
    {workspace : Workspace}
    (creatable : (Workspace.acquire none settings.workspaceRoot before.host).1 = .ok workspace) :
    .preprocessing ∈ (exportTimeline observer settings timeline output none before).2.stages ↔
      ∃ checked, timeline.check = .ok checked := by
  have freshStill : before.reset.stages = [] := fresh
  have works := preprocessing_mem_exportWork_iff watches timeline output freshStill creatable
  rcases exportTimeline_eq observer settings timeline output none before with ⟨made, concluded⟩
  rw [← works, concluded, (conclude_passes watches.breaksOff output none made _ _).1.stages]
  simp [stagesOf, Milestone.stage?]

/-! ## Both -/

def endingOf : Except Halt Unit → Except Problem Nat
  | .ok () => .ok 0
  | .error .failed => .ok 1
  | .error (.usage _) => .ok 2
  | .error (.broken problem) => .error problem

theorem endingOf_eq_zero_iff (result : Except Halt Unit) :
    endingOf result = .ok 0 ↔ result = .ok () := by
  rcases result with halt | ⟨⟩
  · refine iff_of_false ?_ nofun
    cases halt <;> nofun
  · exact iff_of_true rfl rfl

theorem runCommand_ends (verbose : Bool) (command : CommandStep Unit) (host : Host) :
    (runCommand verbose command host).ending = endingOf (command host.newSession).1 ∧
      (runCommand verbose command host).host = (command host.newSession).2.host := by
  rcases ran : command host.newSession with ⟨result, after⟩
  have runs : command.run.run { host, runner := host.newRunner none none } = (result, after) := ran
  unfold runCommand
  simp only [runs]
  rcases result with halt | ⟨⟩
  · cases halt <;> exact ⟨rfl, rfl⟩
  · exact ⟨rfl, rfl⟩

/-- A check leaves the machine as it was. -/
theorem checking_standsStill (choices : ExportChoices) (host : Host) :
    host.newSession.StandsStill (exportCommand choices.checking host.newSession).2 := by
  rcases exists_resolved choices host with ⟨halt | ⟨timeline, settings⟩, resolves, _⟩
  · have stopped : exportCommand choices.checking host.newSession =
        (.error halt, host.newSession) := run_bind_of_error (resolves _ rfl) _
    rw [stopped]
    exact .refl _
  · rcases validateOnly_runs timeline host.newSession with ⟨result, after, ran, still, _⟩
    have checked : exportCommand choices.checking host.newSession = (result, after) :=
      (run_bind_of_ok (resolves _ rfl) _).trans ran
    rw [checked]
    exact still

def ExportChoices.HasWritableTracks (choices : ExportChoices) (host : Host) : Prop :=
  ∀ timeline settings, (resolveChoices choices host.newSession).1 = .ok (timeline, settings) →
    timeline.HasWritableTracks

/-- The export looks at the sources first and then at the timeline. It comes to work on the
clips when both are in order. -/
theorem preprocessing_mem_checkOrExport_iff (choices : ExportChoices) (host : Host)
    (timeline : Timeline Float) {settings : Settings} {workspace : Workspace}
    (creatable : (Workspace.acquire none settings.workspaceRoot host).1 = .ok workspace) :
    .preprocessing ∈ (checkOrExport choices.exporting timeline settings host.newSession).2.stages ↔
      host.Passes timeline ∧ choices.NamesOutput := by
  by_cases named : choices.NamesOutput
  · rw [checkOrExport_exporting named, run_bind_of_ok (run_get _)]
    cases sources : host.newSession.host.checkSources timeline with
    | error problem =>
        rw [run_bind_of_error (ofExcept_stops rfl _)]
        exact iff_of_false List.not_mem_nil fun both => nomatch sources.symm.trans both.1.2
    | ok found =>
        rw [run_bind_of_ok (run_ofExcept rfl _)]
        have armed : (modify fun session : Session => { session with
            runner := session.host.newRunner settings.ffmpeg settings.timeout } :
            CommandStep Unit) host.newSession = (.ok (), { host.newSession with
            runner := host.newRunner settings.ffmpeg settings.timeout }) := rfl
        rw [run_bind_of_ok armed]
        let armedSession : Session := { host.newSession with
          runner := host.newRunner settings.ffmpeg settings.timeout }
        rcases exportAndTell_stages timeline settings (choices.output.getD "") armedSession
          with ⟨line, stages⟩
        let started := armedSession.updateHost (·.print line)
        have fresh : started.stages = [] := rfl
        have creatableThen : (Workspace.acquire none settings.workspaceRoot started.host).1 =
            .ok workspace :=
          (Workspace.acquire_congr none settings.workspaceRoot host host.log
            (host.printed ++ line ++ "\n")).1.trans creatable
        rw [stages, preprocessing_mem_stages_iff stagePrinter_watches timeline _ fresh
          creatableThen]
        exact ⟨fun passed => ⟨⟨passed, sources⟩, named⟩, fun both => both.1.1⟩
  · rw [checkOrExport_unnamed named]
    exact iff_of_false List.not_mem_nil fun both => named both.2

/-- The check looks at the timeline first and then at its sources, the export the other way
round. The check alone writes the tracks. -/
theorem checking_ends_iff (choices : ExportChoices) (host : Host) {workspace : Workspace}
    (creatable : (Workspace.acquire none choices.workspaceRoot host).1 = .ok workspace) :
    ((exportCommand choices.checking host.newSession).1 = .ok () ∧ choices.NamesOutput ↔
      .preprocessing ∈ (exportCommand choices.exporting host.newSession).2.stages ∧
        choices.HasWritableTracks host) ∧
    (.preprocessing ∈ (exportCommand choices.exporting host.newSession).2.stages →
      ¬ choices.HasWritableTracks host →
      (exportCommand choices.checking host.newSession).1 =
        .error (.broken (.misfit .tooManyDigits))) := by
  rcases exists_resolved choices host with ⟨halt | ⟨timeline, settings⟩, resolves, root⟩
  · have stopped : resolveChoices choices host.newSession = (.error halt, _) := resolves _ rfl
    have checks : exportCommand choices.checking host.newSession = (.error halt, _) :=
      run_bind_of_error stopped _
    have exports : exportCommand choices.exporting host.newSession = (.error halt, _) :=
      run_bind_of_error stopped _
    rw [checks, exports]
    exact ⟨iff_of_false nofun nofun, nofun⟩
  · have found : resolveChoices choices host.newSession = (.ok (timeline, settings), _) :=
      resolves _ rfl
    have exports : exportCommand choices.exporting host.newSession =
        checkOrExport choices.exporting timeline settings host.newSession :=
      run_bind_of_ok found _
    have writable : choices.HasWritableTracks host ↔ timeline.HasWritableTracks := by
      unfold ExportChoices.HasWritableTracks
      rw [found]
      refine ⟨fun all => all timeline settings rfl, ?_⟩
      rintro holds _ _ ⟨⟩
      exact holds
    have creatableHere :
        (Workspace.acquire none settings.workspaceRoot host).1 = .ok workspace := by
      rw [root timeline settings rfl]
      exact creatable
    rcases validateOnly_runs timeline host.newSession with ⟨result, after, ran, _, ends, breaks⟩
    have checks : exportCommand choices.checking host.newSession = (result, after) :=
      (run_bind_of_ok found _).trans ran
    rw [writable, exports, checks,
      preprocessing_mem_checkOrExport_iff choices host timeline creatableHere, ends]
    exact ⟨and_right_comm, fun both overlong => breaks both.1 overlong⟩

def ExportChoices.sample : ExportChoices where
  source := some "/tmp/in.mp4"
  start := some 0.0
  stop := some 5.0
  output := some "out.mp4"

def Manifest.towering : Manifest :=
  (ofValue (trackedDocument overlong)).toOption.get (by decide +kernel)

def Host.stocked : Host :=
  { sample with tree := sample.tree.put ["tmp", "in.mp4"] (.file "media") }

theorem Host.stocked_passes : stocked.Passes Manifest.towering.timeline := by
  have located : stocked.tree.locate stocked.workingPlace (.ofText "/tmp/in.mp4") =
      .ok ["tmp", "in.mp4"] := by
    refine FileTree.locate_eq_ok_iff.mpr ⟨?_, by decide +kernel, rfl⟩
    rw [String.contains_char_eq]
    decide +kernel
  have there : stocked.tree.has stocked.workingPlace (.ofText "/tmp/in.mp4") = .ok true := by
    rw [FileTree.has, located]
    rfl
  have sources : Manifest.towering.timeline.clips.map Clip.source =
      ["/tmp/in.mp4", "/tmp/in.mp4"] := by
    decide +kernel
  have adds (missing : List String) : stocked.addMissing missing "/tmp/in.mp4" = .ok missing := by
    rw [addMissing, there]
    rfl
  have none : stocked.missingSources Manifest.towering.timeline = .ok [] := by
    simp only [missingSources, sources, List.foldlM_cons, List.foldlM_nil, adds]
    rfl
  refine ⟨⟨_, Timeline.check_eq_of_isSome (by decide +kernel)⟩, ?_⟩
  rw [checkSources, none]
  rfl

theorem Host.stocked_acquires : (Workspace.acquire none none stocked).1 = .ok .sample := by
  let host : Host := { stocked with idsMade := 1 }
  have chosen : stocked.chooseId none = ("export0", host) := rfl
  have path : Workspace.pathOf (none.getD host.temporaryRoot) "export0" =
      Workspace.sample.path := Workspace.sample_path
  have located : host.tree.locate host.workingPlace
      (Workspace.pathOf (none.getD host.temporaryRoot) "export0") =
        .ok ["tmp", "cliptrack-export0"] := by
    rw [path]
    exact FileTree.locate_put (by decide) _ Workspace.sample_located
  have nothing : host.tree.get? ["tmp", "cliptrack-export0"] = none := by decide +kernel
  have plain : Workspace.isPlainId "export0" = true := by decide +kernel
  rcases Workspace.exists_make plain located nothing with ⟨after, made, _⟩
  rw [Workspace.acquire, chosen]
  refine (congrArg Prod.fst made).trans ?_
  rw [path]
  rfl

end Montage

import Montage.Proofs.Export.Assets
import Montage.Proofs.Export.Crew
import Montage.Proofs.Timeline.Accepted
import Montage.Proofs.Workspace

/-! Extraction by several workers, compared with extraction one after the other. Whatever the
schedule, it gives the same pictures in the same order, or fails as one of the extractions
does. -/

namespace Montage

variable {α : Type} {Holds : Session → Prop} {outcomes : List (Except Problem (Option α))}
  {jobs : List (Act (Option α))}

/-! ## Jobs whose outcome is settled -/

def Act.ComesTo (Holds : Session → Prop) (step : Act α) (outcome : Except Problem α) : Prop :=
  ∀ before, Holds before → (step before).1 = outcome ∧ Holds (step before).2

theorem Act.ComesTo.exists_ran {step : Act α} {outcome : Except Problem α}
    (comes : Act.ComesTo Holds step outcome) {before : Session} (holds : Holds before) :
    ∃ after, step before = (outcome, after) ∧ Holds after :=
  ⟨(step before).2, Prod.ext (comes before holds).1 rfl, (comes before holds).2⟩

theorem runInTurn_comesTo (comes : List.Forall₂ (Act.ComesTo Holds) jobs outcomes) :
    Act.ComesTo Holds (runInTurn jobs) (outcomes.mapM id) := by
  unfold runInTurn
  induction comes with
  | nil =>
      intro before holds
      simp only [List.mapM_nil]
      exact ⟨rfl, holds⟩
  | @cons job outcome jobs outcomes first _ induction =>
      intro before holds
      rcases first.exists_ran holds with ⟨middle, ran, middleHolds⟩
      rcases Act.ComesTo.exists_ran induction middleHolds with ⟨after, restRan, afterHolds⟩
      rw [List.mapM_cons, List.mapM_cons]
      cases outcome with
      | error problem =>
          rw [run_bind_of_error ran]
          exact ⟨rfl, middleHolds⟩
      | ok result =>
          rw [run_bind_of_ok ran]
          cases rest : outcomes.mapM id with
          | error problem =>
              rw [rest] at restRan
              rw [run_bind_of_error restRan]
              exact ⟨rfl, afterHolds⟩
          | ok results =>
              rw [rest] at restRan
              rw [run_bind_of_ok restRan]
              exact ⟨rfl, afterHolds⟩

def PoolState.noted (state : PoolState α) (outcome : Except Problem (Option α)) : PoolState α :=
  if state.failure.isSome then { state with results := state.results ++ [none] }
  else
    match outcome with
    | .ok result => { state with results := state.results ++ [result] }
    | .error problem => { results := state.results ++ [none], failure := some problem }

def PoolState.result (state : PoolState α) : Except Problem (List (Option α)) :=
  match state.failure with
  | some problem => .error problem
  | none => .ok state.results

theorem takeJob_comesTo (state : PoolState α) {job : Act (Option α)}
    {outcome : Except Problem (Option α)} (comes : Act.ComesTo Holds job outcome) :
    Act.ComesTo Holds (state.takeJob job) (.ok (state.noted outcome)) := by
  intro before holds
  rcases comes.exists_ran holds with ⟨after, ran, afterHolds⟩
  unfold PoolState.takeJob PoolState.noted
  split
  · exact ⟨rfl, holds⟩
  · simp only [ran]
    cases outcome with
    | ok result => exact ⟨rfl, afterHolds⟩
    | error problem => exact ⟨rfl, afterHolds⟩

theorem runPool_comesTo (comes : List.Forall₂ (Act.ComesTo Holds) jobs outcomes) :
    Act.ComesTo Holds (runPool jobs) (outcomes.foldl PoolState.noted {}).result := by
  have takesAll : ∀ state : PoolState α, Act.ComesTo Holds (jobs.foldlM PoolState.takeJob state)
      (.ok (outcomes.foldl PoolState.noted state)) := by
    induction comes with
    | nil => exact fun state before holds => ⟨rfl, holds⟩
    | @cons job outcome jobs outcomes first _ induction =>
        intro state before holds
        rcases (takeJob_comesTo state first).exists_ran holds with ⟨middle, ran, middleHolds⟩
        rw [List.foldlM_cons, run_bind_of_ok ran]
        exact induction (state.noted outcome) middle middleHolds
  intro before holds
  rcases (takesAll {}).exists_ran holds with ⟨after, ran, afterHolds⟩
  unfold runPool
  rw [run_bind_of_ok ran]
  unfold PoolState.result
  cases (outcomes.foldl PoolState.noted {}).failure with
  | none => exact ⟨rfl, afterHolds⟩
  | some problem => exact ⟨rfl, afterHolds⟩

/-! ## The schedule of a pool -/

namespace Crew

variable {count workers : Nat} {outcome : Fin count → Except Problem (Option α)}
  {crew : Crew α count} {job other : Fin count}

def finish (crew : Crew α count) (job : Fin count) (outcome : Except Problem (Option α)) :
    Crew α count :=
  if crew.failed then crew.set job (.finished (.ok none))
  else
    match outcome with
    | .ok result => crew.set job (.finished (.ok result))
    | .error problem => { crew.set job (.finished (.error problem)) with failed := true }

theorem set_set (first second : Progress α) :
    (crew.set job first).set job second = crew.set job second := by
  simp only [set, Function.update_idem]

theorem steps_finish (someone : 0 < workers)
    (nobodyBusy : ∀ job, (crew.progress job).isBusy = false)
    (queued : crew.progress job = .queued)
    (first : ∀ earlier < job, crew.progress earlier ≠ .queued) :
    Relation.ReflTransGen (Step outcome workers) crew (crew.finish job (outcome job)) := by
  have free : crew.busy < workers := by
    have none : crew.busy = 0 := by simp [busy, nobodyBusy]
    rwa [none]
  have taken : Step outcome workers crew (crew.set job .taken) := .takes queued first free
  unfold finish
  cases failed : crew.failed with
  | true =>
      have finished : Step outcome workers (crew.set job .taken)
          ((crew.set job .taken).set job (.finished (.ok none))) :=
        .passesOver set_progress_self failed
      rw [set_set] at finished
      exact .tail (.single taken) finished
  | false =>
      have begun : Step outcome workers (crew.set job .taken)
          ((crew.set job .taken).set job .underway) := .begins set_progress_self failed
      rw [set_set] at begun
      have underway := (Relation.ReflTransGen.single taken).tail begun
      cases comesTo : outcome job with
      | ok result =>
          have finished : Step outcome workers (crew.set job .underway)
              ((crew.set job .underway).set job (.finished (.ok result))) :=
            .succeeds set_progress_self comesTo
          rw [set_set] at finished
          exact underway.tail finished
      | error problem =>
          have failing : Step outcome workers (crew.set job .underway)
              { (crew.set job .underway).set job (.failing problem) with failed := true } :=
            .fails set_progress_self comesTo
          rw [set_set] at failing
          have finished : Step outcome workers
              { crew.set job (.failing problem) with failed := true }
              (set { crew.set job (.failing problem) with failed := true } job
                (.finished (.error problem))) := .breaksOff set_progress_self
          have same : set { crew.set job (.failing problem) with failed := true } job
              (.finished (.error problem)) =
                { crew.set job (.finished (.error problem)) with failed := true } := by
            simp only [set, Function.update_idem]
          rw [same] at finished
          exact (underway.tail failing).tail finished

/-- Once all jobs are over and none has failed, the results can be collected in order. -/
theorem exists_collected (outcome : Fin count → Except Problem (Option α)) (workers : Nat)
    (value : Fin count → Option α) (left done : Nat)
    (whole : done + left = count) (collecting : crew.raised = none)
    (handedIn : ∀ job, job.val < done →
      crew.progress job = .handedIn ∧ crew.results job = value job)
    (finished : ∀ job, done ≤ job.val → crew.progress job = .finished (.ok (value job))) :
    ∃ last, Relation.ReflTransGen (Step outcome workers) crew last ∧
      last.result? = some (.ok (List.ofFn value)) := by
  induction left generalizing crew done with
  | zero =>
      have all (job : Fin count) := handedIn job (by omega)
      refine ⟨crew, .refl, result?_eq_ok_iff.mpr ⟨collecting, fun job => (all job).1, ?_⟩⟩
      congr 1
      funext job
      exact (all job).2
  | succ left induction =>
      let job : Fin count := ⟨done, by omega⟩
      let collected : Crew α count :=
        { crew.set job .handedIn with
          results := Function.update crew.results job (value job) }
      have step : Step outcome workers crew collected := .collects collecting (finished job le_rfl)
      have still : collected.raised = none := collecting
      have handedIn : ∀ other : Fin count, other.val < done + 1 →
          collected.progress other = .handedIn ∧ collected.results other = value other := by
        intro other before
        by_cases same : other = job
        · rw [same]
          exact ⟨set_progress_self, Function.update_self ..⟩
        · have earlier : other.val < done := by
            have different : other.val ≠ done := fun equal => same (Fin.ext equal)
            omega
          refine ⟨(set_progress_of_ne same).trans (handedIn other earlier).1, ?_⟩
          exact (Function.update_of_ne same ..).trans (handedIn other earlier).2
      have finished : ∀ other : Fin count, done + 1 ≤ other.val →
          collected.progress other = .finished (.ok (value other)) := by
        intro other later
        have different : other ≠ job := by
          rintro rfl
          exact absurd later (Nat.not_succ_le_self done)
        exact (set_progress_of_ne different).trans (finished other (by omega))
      rcases induction (done + 1) (by omega) still handedIn finished with ⟨last, rest, ended⟩
      exact ⟨last, .head step rest, ended⟩

structure Follows (crew : Crew α count) (done : Nat) (state : PoolState α) : Prop where
  length : state.results.length = done
  queued : ∀ job, done ≤ job.val → crew.progress job = .queued
  finished : ∀ job, job.val < done → ∃ outcome, crew.progress job = .finished outcome ∧
    (state.failure = none → outcome = .ok (state.results[job.val]?.join))
  failed : crew.failed = state.failure.isSome
  failure : ∀ problem, state.failure = some problem →
    ∃ job, crew.progress job = .finished (.error problem)
  collecting : crew.raised = none

theorem follows_start : Follows ({} : Crew α count) 0 {} where
  length := rfl
  queued _ _ := rfl
  finished := nofun
  failed := rfl
  failure := nofun
  collecting := rfl

theorem Follows.next {done : Nat} {state next : PoolState α} {after : Crew α count}
    {result : Option α} {outcome : Except Problem (Option α)} (follows : Follows crew done state)
    (inside : done < count)
    (progress : after.progress = (crew.set ⟨done, inside⟩ (.finished outcome)).progress)
    (raised : after.raised = crew.raised) (results : next.results = state.results ++ [result])
    (failed : after.failed = next.failure.isSome)
    (failure : ∀ problem, next.failure = some problem →
      state.failure = some problem ∨ outcome = .error problem)
    (agrees : next.failure = none → state.failure = none ∧ outcome = .ok result) :
    Follows after (done + 1) next where
  length := by rw [results, List.length_append, follows.length, List.length_singleton]
  queued := by
    intro other later
    have different : other ≠ ⟨done, inside⟩ := by
      rintro rfl
      exact absurd later (Nat.not_succ_le_self done)
    rw [progress, set_progress_of_ne different]
    exact follows.queued other (by omega)
  finished := by
    intro other before
    rw [progress, results]
    by_cases same : other = ⟨done, inside⟩
    · rw [same, set_progress_self]
      have last : (state.results ++ [result])[done]? = some result := by
        rw [← follows.length, List.getElem?_concat_length]
      refine ⟨outcome, rfl, fun none => (agrees none).2.trans ?_⟩
      simp only [last, Option.join_some]
    · have earlier : other.val < done := by
        have different : other.val ≠ done := fun equal => same (Fin.ext equal)
        omega
      rw [set_progress_of_ne same, List.getElem?_append_left (by rwa [follows.length])]
      rcases follows.finished other earlier with ⟨found, finished, kept⟩
      exact ⟨found, finished, fun none => kept (agrees none).1⟩
  failed := failed
  failure := by
    intro problem failed
    rw [progress]
    rcases failure problem failed with before | rfl
    · rcases follows.failure problem before with ⟨job, finished⟩
      have different : job ≠ ⟨done, inside⟩ := by
        rintro rfl
        rw [follows.queued _ le_rfl] at finished
        cases finished
      exact ⟨job, (set_progress_of_ne different).trans finished⟩
    · exact ⟨_, set_progress_self⟩
  collecting := raised.trans follows.collecting

theorem Follows.finish {done : Nat} {state : PoolState α} (follows : Follows crew done state)
    (inside : done < count) (outcome : Except Problem (Option α)) :
    Follows (crew.finish ⟨done, inside⟩ outcome) (done + 1) (state.noted outcome) := by
  have failed := follows.failed
  unfold Crew.finish PoolState.noted
  cases failure : state.failure with
  | some problem =>
      rw [failure] at failed
      simp only [failed, Option.isSome_some, if_true]
      exact follows.next inside rfl rfl rfl failed (fun _ same => .inl (failure.trans same)) nofun
  | none =>
      rw [failure] at failed
      simp only [failed, Option.isSome_none, Bool.false_eq_true, if_false]
      cases outcome with
      | ok result => exact follows.next inside rfl rfl rfl failed nofun fun _ => ⟨failure, rfl⟩
      | error problem =>
          refine follows.next inside rfl rfl rfl rfl ?_ nofun
          rintro _ ⟨⟩
          exact .inr rfl

theorem Follows.exists_ended {done : Nat} {state : PoolState α}
    (follows : Follows crew done state) (all : done = count) :
    ∃ last, Relation.ReflTransGen (Step outcome workers) crew last ∧
      last.result? = some state.result := by
  unfold PoolState.result
  cases failure : state.failure with
  | some problem =>
      rcases follows.failure problem failure with ⟨job, finished⟩
      refine ⟨_, .single (.raises follows.collecting finished), result?_eq_error_iff.mpr ⟨rfl, ?_⟩⟩
      intro other
      rcases follows.finished other (by omega) with ⟨found, otherOver, _⟩
      change crew.progress other ≠ .queued ∧ (crew.progress other).isBusy = false
      rw [otherOver]
      exact ⟨nofun, rfl⟩
  | none =>
      have finished (job : Fin count) :
          crew.progress job = .finished (.ok state.results[job.val]?.join) := by
        rcases follows.finished job (by omega) with ⟨found, finished, kept⟩
        rw [finished, kept failure]
      have results : (List.ofFn fun job : Fin count => state.results[job.val]?.join) =
          state.results := by
        apply List.ext_getElem
        · rw [List.length_ofFn, follows.length, all]
        · intro place _ inside
          simp only [List.getElem_ofFn, List.getElem?_eq_getElem inside, Option.join_some]
      have collected := exists_collected outcome workers _ count 0 (Nat.zero_add count)
        follows.collecting nofun fun job _ => finished job
      rwa [results] at collected

theorem Follows.ended_or_queued {done : Nat} {state : PoolState α}
    (follows : Follows crew done state) (job : Fin count) :
    job.val < done ∧ (∃ outcome, crew.progress job = .finished outcome) ∨
      done ≤ job.val ∧ crew.progress job = .queued := by
  rcases Nat.lt_or_ge job.val done with before | later
  · rcases follows.finished job before with ⟨outcome, finished, _⟩
    exact .inl ⟨before, outcome, finished⟩
  · exact .inr ⟨later, follows.queued job later⟩

theorem Follows.steps_finish {done : Nat} {state : PoolState α} (someone : 0 < workers)
    (follows : Follows crew done state) (inside : done < count) :
    Relation.ReflTransGen (Step outcome workers) crew
      (crew.finish ⟨done, inside⟩ (outcome ⟨done, inside⟩)) := by
  apply Crew.steps_finish someone
  · intro job
    rcases follows.ended_or_queued job with ⟨_, outcome, finished⟩ | ⟨_, queued⟩
    · rw [finished]
      rfl
    · rw [queued]
      rfl
  · exact follows.queued _ le_rfl
  · intro earlier before
    rcases follows.finished earlier before with ⟨outcome, finished, _⟩
    rw [finished]
    exact nofun

/-- What the workers of a pool do is a schedule like any other. -/
theorem exists_reached_noted (someone : 0 < workers) (outcomes : List (Except Problem (Option α))) :
    ∃ last, Reached outcomes.get workers last ∧
      last.result? = some (outcomes.foldl PoolState.noted {}).result := by
  have goesOn (left : Nat) : ∀ (done : Nat) (state : PoolState α) (crew : Crew α outcomes.length),
      done + left = outcomes.length → Reached outcomes.get workers crew →
        Follows crew done state → ∃ last, Reached outcomes.get workers last ∧
          last.result? = some ((outcomes.drop done).foldl PoolState.noted state).result := by
    induction left with
    | zero =>
        intro done state crew all reached follows
        rw [Nat.add_zero] at all
        rcases follows.exists_ended all with ⟨last, steps, ended⟩
        rw [all, List.drop_length]
        exact ⟨last, reached.trans steps, ended⟩
    | succ left induction =>
        intro done state crew whole reached follows
        have inside : done < outcomes.length := by omega
        rw [List.drop_eq_getElem_cons inside]
        exact induction (done + 1) _ _ (by omega)
          (reached.trans (follows.steps_finish someone inside)) (follows.finish inside _)
  exact goesOn outcomes.length 0 {} {} (Nat.zero_add _) .refl follows_start

end Crew

/-! ## What the jobs may come to -/

/-- What the jobs may come to together when so many workers do them, each at its own pace. A
single worker does them one after the other. -/
def MayGive (workers : Int) (outcomes : List (Except Problem (Option α)))
    (result : Except Problem (List (Option α))) : Prop :=
  if min workers outcomes.length ≤ 1 then result = outcomes.mapM id
  else ∃ crew, Crew.Reached outcomes.get (min workers outcomes.length).toNat crew ∧
    crew.result? = some result

theorem mapM_ok (results : List (Option α)) :
    (results.map (Except.ok (ε := Problem))).mapM id = .ok results := by
  induction results with
  | nil => rfl
  | cons result rest induction =>
      rw [List.map_cons, List.mapM_cons, induction]
      rfl

theorem eq_of_mapM_eq_ok {results : List (Option α)} (all : outcomes.mapM id = .ok results) :
    outcomes = results.map .ok := by
  induction outcomes generalizing results with
  | nil =>
      cases all
      rfl
  | cons outcome rest induction =>
      rw [List.mapM_cons] at all
      rcases exists_of_bind_ok all with ⟨result, first, more⟩
      rcases exists_of_bind_ok more with ⟨others, restAll, same⟩
      cases same
      rw [List.map_cons, ← induction restAll]
      exact congrArg (· :: rest) first

theorem mem_of_mapM_eq_error {problem : Problem} (stopped : outcomes.mapM id = .error problem) :
    .error problem ∈ outcomes := by
  induction outcomes with
  | nil => cases stopped
  | cons outcome rest induction =>
      rw [List.mapM_cons] at stopped
      cases outcome with
      | error first =>
          cases stopped
          exact List.mem_cons_self
      | ok result =>
          apply List.mem_cons_of_mem
          apply induction
          cases others : rest.mapM id with
          | error other =>
              rw [others] at stopped
              cases stopped
              rfl
          | ok results =>
              rw [others] at stopped
              cases stopped

theorem MayGive.outcomes_of_ok {workers : Int} {results : List (Option α)}
    (gives : MayGive workers outcomes (.ok results)) : outcomes = results.map .ok := by
  unfold MayGive at gives
  split at gives
  · exact eq_of_mapM_eq_ok gives.symm
  · rcases gives with ⟨crew, reached, ended⟩
    have same := (Crew.sound_of_reached reached).outcome_of_ok ended
    rwa [List.ofFn_get] at same

theorem MayGive.mem_of_error {workers : Int} {problem : Problem}
    (gives : MayGive workers outcomes (.error problem)) : .error problem ∈ outcomes := by
  unfold MayGive at gives
  split at gives
  · exact mem_of_mapM_eq_error gives.symm
  · rcases gives with ⟨crew, reached, ended⟩
    rcases (Crew.sound_of_reached reached).exists_of_error ended with ⟨job, comesTo⟩
    rw [← comesTo]
    exact List.get_mem outcomes job

theorem runJobs_mayGive (workers : Int) (comes : List.Forall₂ (Act.ComesTo Holds) jobs outcomes)
    {before : Session} (holds : Holds before) :
    MayGive workers outcomes (runJobs workers jobs before).1 := by
  unfold MayGive runJobs
  rw [comes.length_eq]
  split
  · exact (runInTurn_comesTo comes before holds).1
  · rw [(runPool_comesTo comes before holds).1]
    exact Crew.exists_reached_noted (by omega) outcomes

/-! ## Extraction -/

variable {τ item : Type} [Quantity τ] {clipOf : item → Clip τ} {items : List item}
  {timeline : Timeline τ} {workspace : Workspace} {settings : Settings}

structure Session.ExitsWith (binary : String) (exit : Command → Exit) (session : Session) :
    Prop where
  notCancelled : session.runner.cancelled = false
  binary : session.runner.binary = binary
  script : ∀ index command, session.host.script index command = .starts (.exits (exit command))

def extractionOutcome (binary : String) (exit : Command → Exit) (clipOf : item → Clip τ)
    (timeline : Timeline τ) (workspace : Workspace) (settings : Settings) (counted : item × Nat) :
    Except Problem (Option (Asset item τ)) :=
  match extractionOf clipOf .video timeline workspace settings counted with
  | none => .ok none
  | some extraction => do
      let _ ← (clipOf counted.1).track.toValue.write.mapError Problem.misfit
      let _ ← exitResult (exit (binary :: extraction.arguments)) false
        (some Stream.video.stage.name)
      return some (assetOf counted.1 extraction)

theorem Session.ExitsWith.of_sameWorld {binary : String} {exit : Command → Exit}
    {before after : Session} (exits : before.ExitsWith binary exit)
    (world : before.SameWorld after) : after.ExitsWith binary exit where
  notCancelled := world.cancelled.trans exits.notCancelled
  binary := world.binary.trans exits.binary
  script := by
    rw [world.script]
    exact exits.script

theorem extractionJobs_comeTo [LawfulQuantity τ] (binary : String) (exit : Command → Exit)
    (clipOf : item → Clip τ) (items : List item) (timeline : Timeline τ) (workspace : Workspace)
    (settings : Settings) :
    List.Forall₂ (Act.ComesTo (Session.ExitsWith binary exit))
      (extractionJobs clipOf items timeline workspace settings)
      ((withOrdinals clipOf items).map
        (extractionOutcome binary exit clipOf timeline workspace settings)) := by
  unfold extractionJobs withOrdinals
  rw [List.forall₂_map_left_iff, List.forall₂_map_right_iff, List.forall₂_same]
  rintro ⟨given, ordinal⟩ _ before exits
  unfold extractionOutcome extractionOf
  dsimp only
  cases plays : (clipOf given).window? timeline with
  | none =>
      rw [extract_of_skipped plays]
      exact ⟨rfl, exits.of_sameWorld ⟨rfl, rfl, rfl, rfl⟩⟩
  | some window =>
      by_cases nameable : (clipOf given).IsNameable
      case neg =>
        have unwritable := Value.write_eq_error (eq_false_of_ne_true nameable)
        rw [run_bind_of_error (extract_of_not_nameable plays nameable ..)]
        simp only [Option.map_some, unwritable]
        exact ⟨rfl, exits⟩
      rw [extract_of_plays plays nameable]
      simp only [Option.map_some, Value.write_eq_ok nameable]
      let extraction :=
        (clipOf given).extractionIn .video timeline workspace ordinal settings window
      have exited := exits.script before.host.calls.length
        (before.runner.binary :: extraction.arguments)
      rcases runTool_of_exits exits.notCancelled exited (some Stream.video.stage.name) with
        ⟨after, ran, called⟩
      have afterExits := exits.of_sameWorld called.world
      rw [exits.binary] at ran
      simp only [bind_assoc, pure_bind, Option.map_some]
      cases result : exitResult (exit (binary :: extraction.arguments)) false
          (some Stream.video.stage.name) with
      | error problem =>
          rw [result] at ran
          rw [run_bind_of_error ran]
          exact ⟨rfl, afterExits⟩
      | ok stdout =>
          rw [result] at ran
          rw [run_bind_of_ok ran]
          exact ⟨rfl, afterExits⟩

/-- What extractions give that are done at once, compared with what they give in turn. When
they give results, none has failed, and the results are the same in the same order. When one
has failed, they fail as one of them has. -/
structure GivesAsInTurn {β : Type} (outcomes : List (Except Problem (Option β)))
    (inTurn : Except Problem (List β)) (result : Except Problem (List (Option β))) : Prop where
  returned : ∀ results, result = .ok results →
    (∀ outcome ∈ outcomes, ∃ found, outcome = .ok found) ∧ inTurn = .ok (results.filterMap id)
  raised : (∃ problem, .error problem ∈ outcomes) →
    ∃ problem, result = .error problem ∧ .error problem ∈ outcomes

theorem extractAll_eq (clipOf : item → Clip τ) (items : List item) (timeline : Timeline τ)
    (workspace : Workspace) (settings : Settings) (before : Session) :
    (extractAll clipOf items timeline workspace settings before).1 =
      (runJobs settings.workers (extractionJobs clipOf items timeline workspace settings)
        before).1.map (·.filterMap id) := by
  unfold extractAll
  rw [run_bind]
  rcases runJobs settings.workers (extractionJobs clipOf items timeline workspace settings) before
    with ⟨_ | _, after⟩
  · rfl
  · rfl

/-! ## Files that cannot be named -/

def isUnnameable (clipOf : item → Clip τ) (timeline : Timeline τ) (given : item) : Bool :=
  ((clipOf given).window? timeline).isSome && !(clipOf given).track.toValue.isWritable

theorem exists_isUnnameable (unnamed : ¬ AllNameable clipOf items timeline) :
    ∃ given ∈ items, isUnnameable clipOf timeline given = true := by
  unfold AllNameable at unnamed
  push Not at unnamed
  obtain ⟨given, member, plays, unwritable⟩ := unnamed
  exact ⟨given, member, by simpa [isUnnameable, plays] using eq_false_of_ne_true unwritable⟩

/-- Where every call succeeds, only a file that cannot be named stops an extraction. -/
theorem extractionJobs_succeed [LawfulQuantity τ] (clipOf : item → Clip τ) (items : List item)
    (timeline : Timeline τ) (workspace : Workspace) (settings : Settings) :
    List.Forall₂ (Act.ComesTo Session.Succeeds)
      (extractionJobs clipOf items timeline workspace settings)
      ((withOrdinals clipOf items).map fun counted =>
        if isUnnameable clipOf timeline counted.1 then .error (.misfit .tooManyDigits)
        else .ok ((extractionOf clipOf .video timeline workspace settings counted).map
          (assetOf counted.1))) := by
  unfold extractionJobs withOrdinals
  rw [List.forall₂_map_left_iff, List.forall₂_map_right_iff, List.forall₂_same]
  intro counted _ before succeeds
  dsimp only
  cases unnameable : isUnnameable clipOf timeline counted.1 with
  | true =>
      rw [isUnnameable, Bool.and_eq_true, Bool.not_eq_true'] at unnameable
      obtain ⟨window, plays⟩ := Option.isSome_iff_exists.mp unnameable.1
      have stopped := extract_of_not_nameable plays (ne_true_of_eq_false unnameable.2) .video
        workspace settings counted.2 before
      rw [run_bind_of_error stopped]
      exact ⟨rfl, succeeds⟩
  | false =>
      have nameable : ((clipOf counted.1).window? timeline).isSome = true →
          (clipOf counted.1).IsNameable := by
        simpa [isUnnameable, Clip.IsNameable] using unnameable
      obtain ⟨after, ran, afterSucceeds⟩ := extract_of_succeeds succeeds clipOf .video timeline
        workspace settings nameable
      rw [run_bind_of_ok ran]
      exact ⟨rfl, afterSucceeds⟩

theorem extractAll_of_not_nameable [LawfulQuantity τ] {before : Session}
    (succeeds : before.Succeeds) (unnamed : ¬ AllNameable clipOf items timeline)
    (workspace : Workspace) (settings : Settings) :
    (extractAll clipOf items timeline workspace settings before).1 =
      .error (.misfit .tooManyDigits) := by
  obtain ⟨given, member, unnameable⟩ := exists_isUnnameable unnamed
  have comes := extractionJobs_succeed clipOf items timeline workspace settings
  have gives := runJobs_mayGive settings.workers comes succeeds
  rw [extractAll_eq]
  cases result : (runJobs settings.workers
    (extractionJobs clipOf items timeline workspace settings) before).1 with
  | ok results =>
      rw [result] at gives
      rw [← map_fst_withOrdinals clipOf items] at member
      obtain ⟨counted, countedMember, rfl⟩ := List.mem_map.mp member
      have failed : Except.error (Problem.misfit .tooManyDigits) ∈ results.map .ok := by
        rw [← gives.outcomes_of_ok]
        exact List.mem_map.mpr ⟨counted, countedMember, if_pos unnameable⟩
      obtain ⟨_, _, ⟨⟩⟩ := List.mem_map.mp failed
  | error problem =>
      rw [result] at gives
      obtain ⟨counted, -, same⟩ := List.mem_map.mp gives.mem_of_error
      split at same
      · rw [← Except.error.inj same]
        rfl
      · cases same

/-! ## Extraction by several workers -/

/-- However many workers extract the pictures, and whatever their schedule is, they come to an
end and give what a single worker gives. When extractions fail, all of it fails as one of them
does. -/
theorem extractAll_in_parallel {outcomes : List (Except Problem (Option (Asset item τ)))}
    (comes : List.Forall₂ (Act.ComesTo Holds)
      (extractionJobs clipOf items timeline workspace settings) outcomes)
    {before : Session} (holds : Holds before) :
    let inTurn := extractAll clipOf items timeline workspace { settings with workers := 1 } before
    (∀ result, MayGive settings.workers outcomes result →
      GivesAsInTurn outcomes inTurn.1 result) ∧
    (1 < min settings.workers outcomes.length →
      Crew.AlwaysEnds outcomes.get (min settings.workers outcomes.length).toNat) ∧
    ∃ result, MayGive settings.workers outcomes result ∧
      (extractAll clipOf items timeline workspace settings before).1 =
        result.map (·.filterMap id) := by
  intro inTurn
  refine ⟨fun result gives => ⟨?_, ?_⟩, fun several => Crew.alwaysEnds _ (by omega),
    _, runJobs_mayGive settings.workers comes holds, extractAll_eq ..⟩
  · rintro results rfl
    have same := gives.outcomes_of_ok
    constructor
    · intro outcome member
      rw [same] at member
      rcases List.mem_map.mp member with ⟨found, _, rfl⟩
      exact ⟨found, rfl⟩
    · have alone : runJobs 1 (extractionJobs clipOf items timeline workspace settings) =
          runInTurn (extractionJobs clipOf items timeline workspace settings) :=
        if_pos (min_le_left _ _)
      have ran := (runInTurn_comesTo comes before holds).1
      rw [same, mapM_ok] at ran
      refine (extractAll_eq ..).trans ?_
      change
        (runJobs 1 (extractionJobs clipOf items timeline workspace settings) before).1.map _ = _
      rw [alone, ran]
      rfl
  · rintro ⟨problem, member⟩
    cases result with
    | error other => exact ⟨other, rfl, gives.mem_of_error⟩
    | ok results =>
        rw [gives.outcomes_of_ok] at member
        rcases List.mem_map.mp member with ⟨_, _, ⟨⟩⟩

/-- Two clips at once, of which the second cannot be read. -/
theorem extractAll_in_parallel_sample :
    let exit (command : Command) : Exit :=
      if command.contains "second.mp4" then { returnCode := 1, stderr := "no such file" } else {}
    let host : Host := { script := fun _ command => .starts (.exits (exit command)) }
    let before : Session := { host, runner := host.newRunner none none }
    let settings : Settings := { workers := 2 }
    let clips : List (Clip Float) :=
      [.ofTrim "first.mp4" 0.0 4.0, { Clip.ofTrim "second.mp4" 1.0 3.0 with startTime := 4.0 }]
    let outcomes := (withOrdinals id clips).map
      (extractionOutcome "ffmpeg" exit id Timeline.sample .sample settings)
    let inTurn := extractAll id clips Timeline.sample .sample { settings with workers := 1 } before
    List.Forall₂ (Act.ComesTo (Session.ExitsWith "ffmpeg" exit))
        (extractionJobs id clips Timeline.sample .sample settings) outcomes ∧
      before.ExitsWith "ffmpeg" exit ∧
      1 < min settings.workers outcomes.length ∧
      (∀ result, MayGive settings.workers outcomes result →
        GivesAsInTurn outcomes inTurn.1 result) ∧
      (1 < min settings.workers outcomes.length →
        Crew.AlwaysEnds outcomes.get (min settings.workers outcomes.length).toNat) ∧
      ∃ result, MayGive settings.workers outcomes result ∧
        (extractAll id clips Timeline.sample .sample settings before).1 =
          result.map (·.filterMap id) := by
  intro exit host before settings clips outcomes inTurn
  have several : 1 < min settings.workers outcomes.length := by decide
  have comes := extractionJobs_comeTo "ffmpeg" exit id clips Timeline.sample .sample settings
  have exits : before.ExitsWith "ffmpeg" exit := ⟨rfl, rfl, fun _ _ => rfl⟩
  exact ⟨comes, exits, several, extractAll_in_parallel comes exits⟩

end Montage

import Montage.Export.Pool
import Montage.Proofs.Steps

/-! Jobs that all succeed give their results in order, however many workers do them; and
results that are given at all are those. -/

namespace Montage

variable {α β : Type} {job : β → Act (Option α)} {value : β → Option α}
  {Holds : List β → Session → Prop} {items : List β}

theorem run_takeJob_of_ok (state : PoolState α) (noFailure : state.failure = none)
    {job : Act (Option α)} {result : Option α} {before after : Session}
    (ran : job before = (.ok result, after)) :
    state.takeJob job before =
      (.ok { state with results := state.results ++ [result] }, after) := by
  simp only [PoolState.takeJob, noFailure, Option.isSome_none, Bool.false_eq_true, if_false, ran]

theorem run_takeJobs_of_ok (gives : GivesInTurn job value Holds items) :
    ∀ {done before}, Holds done before →
      ∃ after, (items.map job).foldlM PoolState.takeJob ⟨done.map value, none⟩ before =
          (.ok ⟨(done ++ items).map value, none⟩, after) ∧ Holds (done ++ items) after := by
  induction items with
  | nil =>
      intro done before holds
      exact ⟨before, by simp [run_pure], by simpa using holds⟩
  | cons item rest induction =>
      intro done before holds
      rcases gives done item before List.mem_cons_self holds with ⟨middle, ran, middleHolds⟩
      rcases induction gives.tail middleHolds with ⟨after, restRan, afterHolds⟩
      have taken := run_takeJob_of_ok ⟨done.map value, none⟩ rfl ran
      refine ⟨after, ?_, by simpa using afterHolds⟩
      rw [List.map_cons, List.foldlM_cons, run_bind_of_ok taken]
      simpa using restRan

theorem runJobs_of_ok (workers : Int) (gives : GivesInTurn job value Holds items)
    {before : Session} (holds : Holds [] before) :
    ∃ after, runJobs workers (items.map job) before = (.ok (items.map value), after) ∧
      Holds items after := by
  unfold runJobs
  split
  · rcases run_mapM_of_ok gives holds with ⟨after, ran, afterHolds⟩
    refine ⟨after, ?_, afterHolds⟩
    unfold runInTurn
    rw [List.mapM_map]
    exact ran
  · rcases run_takeJobs_of_ok gives holds with ⟨after, ran, afterHolds⟩
    refine ⟨after, ?_, afterHolds⟩
    simp only [List.map_nil, List.nil_append] at ran
    unfold runPool
    rw [run_bind_of_ok ran]
    rfl
/-! ## Results that are given -/

/-- A job that is taken adds its result, and a failure stays. -/
theorem results_of_takeJob {state taken : PoolState α} {job : Act (Option α)}
    {before after : Session} (ran : state.takeJob job before = (.ok taken, after))
    (noFailure : taken.failure = none) :
    state.failure = none ∧ ∃ result, job before = (.ok result, after) ∧
      taken.results = state.results ++ [result] := by
  unfold PoolState.takeJob at ran
  split at ran
  · rename_i failed
    cases ran
    simp only at noFailure
    rw [noFailure] at failed
    exact absurd failed (by decide)
  · rename_i unfailed
    rcases jobRan : job before with ⟨problem | result, later⟩
    · simp only [jobRan] at ran
      cases ran
      cases noFailure
    · simp only [jobRan] at ran
      cases ran
      exact ⟨by simpa using unfailed, result, rfl, rfl⟩

theorem results_of_takeJobs (gives : GivesIfOk job value items) {state taken : PoolState α}
    {before after : Session}
    (ran : (items.map job).foldlM PoolState.takeJob state before = (.ok taken, after))
    (noFailure : taken.failure = none) :
    state.failure = none ∧ taken.results = state.results ++ items.map value := by
  induction items generalizing state before with
  | nil =>
      cases ran
      exact ⟨noFailure, by simp⟩
  | cons item rest induction =>
      rw [List.map_cons, List.foldlM_cons] at ran
      rcases exists_of_run_bind_ok ran with ⟨next, middle, taken, restRan⟩
      rcases induction gives.tail restRan with ⟨nextUnfailed, results⟩
      rcases results_of_takeJob taken nextUnfailed with ⟨unfailed, result, jobRan, added⟩
      refine ⟨unfailed, ?_⟩
      rw [results, added, gives item List.mem_cons_self _ _ _ jobRan, List.map_cons,
        List.append_assoc, List.singleton_append]

theorem eq_map_of_runJobs {workers : Int} (gives : GivesIfOk job value items)
    {before after : Session} {results : List (Option α)}
    (ran : runJobs workers (items.map job) before = (.ok results, after)) :
    results = items.map value := by
  unfold runJobs at ran
  split at ran
  · unfold runInTurn at ran
    rw [List.mapM_map] at ran
    exact eq_map_of_run_mapM gives ran
  · unfold runPool at ran
    rcases exists_of_run_bind_ok ran with ⟨taken, middle, takenRan, ended⟩
    cases noFailure : taken.failure with
    | some problem =>
        rw [noFailure] at ended
        cases ended
    | none =>
        rw [noFailure] at ended
        cases ended
        rw [(results_of_takeJobs gives takenRan noFailure).2, List.nil_append]

/-! ## Results that are changed -/

def PoolState.map (change : α → β) (state : PoolState α) : PoolState β where
  results := state.results.map (Option.map change)
  failure := state.failure

theorem takeJob_map (change : α → β) (state : PoolState α) (job : Act (Option α)) :
    (state.map change).takeJob (Option.map change <$> job) =
      PoolState.map change <$> state.takeJob job := by
  rcases state with ⟨results, _ | problem⟩
  · funext before
    rw [run_map]
    simp only [PoolState.takeJob, PoolState.map, Option.isSome_none, Bool.false_eq_true, if_false,
      run_map]
    rcases ran : job before with ⟨problem | result, after⟩
    · simp [ran, Except.map, PoolState.map]
    · simp [ran, Except.map, PoolState.map]
  · simp [PoolState.takeJob, PoolState.map]

theorem takeJobs_map (change : α → β) (jobs : List (Act (Option α))) (state : PoolState α) :
    (jobs.map (Option.map change <$> ·)).foldlM PoolState.takeJob (state.map change) =
      PoolState.map change <$> jobs.foldlM PoolState.takeJob state := by
  induction jobs generalizing state with
  | nil => simp
  | cons job rest induction =>
      rw [List.map_cons, List.foldlM_cons, List.foldlM_cons, takeJob_map]
      simp [induction]

theorem runInTurn_map (change : α → β) (jobs : List (Act (Option α))) :
    runInTurn (jobs.map (Option.map change <$> ·)) =
      List.map (Option.map change) <$> runInTurn jobs := by
  unfold runInTurn
  induction jobs with
  | nil => simp
  | cons job rest induction =>
      rw [List.map_cons, List.mapM_cons, List.mapM_cons, induction]
      simp

theorem runPool_map (change : α → β) (jobs : List (Act (Option α))) :
    runPool (jobs.map (Option.map change <$> ·)) =
      List.map (Option.map change) <$> runPool jobs := by
  have taken : (jobs.map (Option.map change <$> ·)).foldlM PoolState.takeJob {} = _ :=
    takeJobs_map change jobs {}
  unfold runPool
  rw [taken, map_bind, bind_map_left]
  refine bind_congr fun done => ?_
  rcases done with ⟨results, _ | problem⟩
  · simp [PoolState.map]
  · rfl

/-- When each job gives a changed result, so do all of them together, however many workers
there are. -/
theorem runJobs_map (workers : Int) (change : α → β) (jobs : List (Act (Option α))) :
    runJobs workers (jobs.map (Option.map change <$> ·)) =
      List.map (Option.map change) <$> runJobs workers jobs := by
  unfold runJobs
  rw [List.length_map, runInTurn_map, runPool_map]
  split
  · rfl
  · rfl

end Montage

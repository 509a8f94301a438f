import Montage.Tool.Run

/-! Jobs done by several workers. A job gives a result, gives nothing, or fails. The first
failure keeps the jobs that have not begun from beginning, and is what the whole comes to
once the others are done. -/

namespace Montage

structure PoolState (α : Type) where
  results : List (Option α) := []
  failure : Option Problem := none

def PoolState.takeJob (state : PoolState α) (job : Act (Option α)) : Act (PoolState α) :=
  if state.failure.isSome then
    return { state with results := state.results ++ [none] }
  else fun session =>
    match job session with
    | (.ok result, after) => (.ok { state with results := state.results ++ [result] }, after)
    | (.error problem, after) =>
        (.ok { results := state.results ++ [none], failure := some problem }, after)

/-- Does the jobs on one of the schedules that several workers can have: each begins when the
one before it has ended, as if one worker were always the quickest. What the jobs may come to
on any schedule is `MayGive`. -/
def runPool (jobs : List (Act (Option α))) : Act (List (Option α)) := do
  let done ← jobs.foldlM PoolState.takeJob {}
  match done.failure with
  | some problem => throw problem
  | none => return done.results

def runInTurn (jobs : List (Act (Option α))) : Act (List (Option α)) :=
  jobs.mapM fun job => job

def runJobs (workers : Int) (jobs : List (Act (Option α))) : Act (List (Option α)) :=
  if min workers jobs.length ≤ 1 then runInTurn jobs else runPool jobs

end Montage

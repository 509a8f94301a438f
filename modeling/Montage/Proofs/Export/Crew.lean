import Mathlib.Algebra.BigOperators.Fin
import Mathlib.Algebra.Order.BigOperators.Group.Finset
import Mathlib.Data.Finset.Max
import Mathlib.Logic.Relation
import Montage.Problem

/-! Jobs done by several workers at once. The workers take them in order, one of them collects
what comes of them in whatever order they are over, and every step may come at any time that
it can. What a job comes to is settled beforehand; when it comes to it is not. -/

namespace Montage

variable {α : Type} {count : Nat}

inductive Progress (α : Type) where
  | queued
  | taken
  | underway
  | failing (problem : Problem)
  | finished (outcome : Except Problem (Option α))
  | handedIn
  | withdrawn

namespace Progress

def isBusy : Progress α → Bool
  | .taken | .underway | .failing _ => true
  | _ => false

def isQueued : Progress α → Bool
  | .queued => true
  | _ => false

def isHandedIn : Progress α → Bool
  | .handedIn => true
  | _ => false

def isFailure : Progress α → Bool
  | .failing _ | .finished (.error _) => true
  | _ => false

def stepsLeft : Progress α → Nat
  | .queued => 5
  | .taken => 4
  | .underway => 3
  | .failing _ => 2
  | .finished _ => 1
  | .handedIn | .withdrawn => 0

theorem isQueued_iff {progress : Progress α} : progress.isQueued = true ↔ progress = .queued := by
  cases progress <;> simp [isQueued]

theorem isHandedIn_iff {progress : Progress α} :
    progress.isHandedIn = true ↔ progress = .handedIn := by
  cases progress <;> simp [isHandedIn]

/-- What it takes for a job to be as far as it is, given what it comes to and what has been
collected of it. Only once a job has failed can others be over without a result of their
own, and only once that has been raised can they be withdrawn. -/
def Agrees (outcome : Except Problem (Option α)) (collected : Option α)
    (failed : Bool) (raised : Option Problem) : Progress α → Prop
  | .queued | .taken | .underway => True
  | .failing problem => outcome = .error problem ∧ failed = true
  | .finished result => outcome = result ∨ result = .ok none ∧ failed = true
  | .handedIn => outcome = .ok collected ∨ failed = true
  | .withdrawn => raised ≠ none

theorem Agrees.mono {outcome : Except Problem (Option α)} {collected : Option α}
    {failed failedAfter : Bool} {raised raisedAfter : Option Problem} {progress : Progress α}
    (agrees : progress.Agrees outcome collected failed raised)
    (stillFailed : failed = true → failedAfter = true)
    (stillRaised : raised ≠ none → raisedAfter ≠ none) :
    progress.Agrees outcome collected failedAfter raisedAfter := by
  cases progress with
  | queued => trivial
  | taken => trivial
  | underway => trivial
  | failing problem => exact ⟨agrees.1, stillFailed agrees.2⟩
  | finished result => exact agrees.imp id fun ⟨nothing, failed⟩ => ⟨nothing, stillFailed failed⟩
  | handedIn => exact agrees.imp id stillFailed
  | withdrawn => exact stillRaised agrees

end Progress

/-- Workers and the one who collects. `failed` is what they say to each other once a job has
failed, `results` is what has been collected, and `raised` the problem that ended the
collecting. -/
structure Crew (α : Type) (count : Nat) where
  progress : Fin count → Progress α := fun _ => .queued
  failed : Bool := false
  results : Fin count → Option α := fun _ => none
  raised : Option Problem := none

namespace Crew

def set (crew : Crew α count) (job : Fin count) (progress : Progress α) : Crew α count :=
  { crew with progress := Function.update crew.progress job progress }

def busy (crew : Crew α count) : Nat :=
  (Finset.univ.filter fun job => (crew.progress job).isBusy).card

def result? (crew : Crew α count) : Option (Except Problem (List (Option α))) :=
  match crew.raised with
  | none =>
      if ∀ job, (crew.progress job).isHandedIn then some (.ok (List.ofFn crew.results)) else none
  | some problem =>
      if ∀ job, ¬ (crew.progress job).isQueued ∧ ¬ (crew.progress job).isBusy then
        some (.error problem)
      else none

inductive Step (outcome : Fin count → Except Problem (Option α)) (workers : Nat) :
    Crew α count → Crew α count → Prop
  /-- A worker who is free takes the first job of the queue. -/
  | takes {crew job} (queued : crew.progress job = .queued)
      (first : ∀ earlier < job, crew.progress earlier ≠ .queued) (free : crew.busy < workers) :
      Step outcome workers crew (crew.set job .taken)
  /-- A job that is taken when one has failed is over without anything being done. -/
  | passesOver {crew job} (taken : crew.progress job = .taken) (failed : crew.failed = true) :
      Step outcome workers crew (crew.set job (.finished (.ok none)))
  | begins {crew job} (taken : crew.progress job = .taken) (going : crew.failed = false) :
      Step outcome workers crew (crew.set job .underway)
  | succeeds {crew job result} (underway : crew.progress job = .underway)
      (comesTo : outcome job = .ok result) :
      Step outcome workers crew (crew.set job (.finished (.ok result)))
  | fails {crew job problem} (underway : crew.progress job = .underway)
      (comesTo : outcome job = .error problem) :
      Step outcome workers crew { crew.set job (.failing problem) with failed := true }
  | breaksOff {crew job problem} (failing : crew.progress job = .failing problem) :
      Step outcome workers crew (crew.set job (.finished (.error problem)))
  | collects {crew job result} (collecting : crew.raised = none)
      (finished : crew.progress job = .finished (.ok result)) :
      Step outcome workers crew
        { crew.set job .handedIn with results := Function.update crew.results job result }
  | raises {crew job problem} (collecting : crew.raised = none)
      (finished : crew.progress job = .finished (.error problem)) :
      Step outcome workers crew { crew with raised := some problem }
  /-- Once the collecting has ended, no job stays in the queue. -/
  | withdraws {crew job problem} (raised : crew.raised = some problem)
      (queued : crew.progress job = .queued) :
      Step outcome workers crew (crew.set job .withdrawn)

def Reached (outcome : Fin count → Except Problem (Option α)) (workers : Nat)
    (crew : Crew α count) : Prop :=
  Relation.ReflTransGen (Step outcome workers) {} crew

variable {outcome : Fin count → Except Problem (Option α)} {workers : Nat}
  {crew after : Crew α count} {job other : Fin count} {progress : Progress α}

@[simp]
theorem set_progress_self : (crew.set job progress).progress job = progress :=
  Function.update_self ..

theorem set_progress_of_ne (different : other ≠ job) :
    (crew.set job progress).progress other = crew.progress other :=
  Function.update_of_ne different ..

/-! ## The workers come to an end -/

def stepsLeft (crew : Crew α count) : Nat :=
  (∑ job, (crew.progress job).stepsLeft) + if crew.raised.isNone then 1 else 0

theorem sum_stepsLeft_set_lt (fewer : progress.stepsLeft < (crew.progress job).stepsLeft) :
    ∑ other, ((crew.set job progress).progress other).stepsLeft <
      ∑ other, (crew.progress other).stepsLeft := by
  apply Finset.sum_lt_sum
  · intro other _
    by_cases same : other = job
    · rw [same, set_progress_self]
      exact fewer.le
    · rw [set_progress_of_ne same]
  · exact ⟨job, Finset.mem_univ job, by rwa [set_progress_self]⟩

theorem Step.stepsLeft_lt (step : Step outcome workers crew after) :
    after.stepsLeft < crew.stepsLeft := by
  have moved {job : Fin count} {progress : Progress α}
      (fewer : progress.stepsLeft < (crew.progress job).stepsLeft) :=
    Nat.add_lt_add_right (sum_stepsLeft_set_lt fewer) (if crew.raised.isNone then 1 else 0)
  cases step with
  | takes queued => exact moved (by simp [queued, Progress.stepsLeft])
  | passesOver taken => exact moved (by simp [taken, Progress.stepsLeft])
  | begins taken => exact moved (by simp [taken, Progress.stepsLeft])
  | succeeds underway => exact moved (by simp [underway, Progress.stepsLeft])
  | fails underway => exact moved (by simp [underway, Progress.stepsLeft])
  | breaksOff failing => exact moved (by simp [failing, Progress.stepsLeft])
  | collects _ finished => exact moved (by simp [finished, Progress.stepsLeft])
  | raises collecting =>
      simp only [stepsLeft, collecting]
      exact Nat.lt_succ_self _
  | withdraws _ queued => exact moved (by simp [queued, Progress.stepsLeft])

/-- No schedule goes on for ever. -/
theorem wellFounded_step (outcome : Fin count → Except Problem (Option α)) (workers : Nat) :
    WellFounded fun after crew : Crew α count => Step outcome workers crew after :=
  Subrelation.wf Step.stepsLeft_lt (measure stepsLeft).wf

/-! ## What is known of the jobs -/

structure Sound (outcome : Fin count → Except Problem (Option α)) (crew : Crew α count) :
    Prop where
  agrees : ∀ job,
    (crew.progress job).Agrees (outcome job) (crew.results job) crew.failed crew.raised
  failed : crew.failed = true → crew.raised ≠ none ∨ ∃ job, (crew.progress job).isFailure = true
  raised : ∀ problem, crew.raised = some problem → ∃ job, outcome job = .error problem

theorem sound_start : Sound outcome ({} : Crew α count) where
  agrees _ := trivial
  failed := nofun
  raised := nofun

namespace Sound

theorem agrees_set (sound : Sound outcome crew)
    (agrees : progress.Agrees (outcome job) (crew.results job) crew.failed crew.raised)
    (other : Fin count) :
    ((crew.set job progress).progress other).Agrees (outcome other) (crew.results other)
      crew.failed crew.raised := by
  by_cases same : other = job
  · rw [same, set_progress_self]
    exact agrees
  · rw [set_progress_of_ne same]
    exact sound.agrees other

theorem failed_set (sound : Sound outcome crew)
    (stays : (crew.progress job).isFailure = true → progress.isFailure = true)
    (failed : crew.failed = true) :
    crew.raised ≠ none ∨ ∃ other, ((crew.set job progress).progress other).isFailure = true := by
  rcases sound.failed failed with raised | ⟨other, failure⟩
  · exact .inl raised
  · refine .inr ⟨other, ?_⟩
    by_cases same : other = job
    · rw [same] at failure ⊢
      rw [set_progress_self]
      exact stays failure
    · rw [set_progress_of_ne same]
      exact failure

theorem set (sound : Sound outcome crew)
    (agrees : progress.Agrees (outcome job) (crew.results job) crew.failed crew.raised)
    (stays : (crew.progress job).isFailure = true → progress.isFailure = true) :
    Sound outcome (crew.set job progress) where
  agrees := sound.agrees_set agrees
  failed := sound.failed_set stays
  raised := sound.raised

end Sound

theorem Step.sound (step : Step outcome workers crew after) (sound : Sound outcome crew) :
    Sound outcome after := by
  cases step with
  | takes queued => exact sound.set trivial (by simp [queued, Progress.isFailure])
  | passesOver taken failed =>
      exact sound.set (.inr ⟨rfl, failed⟩) (by simp [taken, Progress.isFailure])
  | begins taken => exact sound.set trivial (by simp [taken, Progress.isFailure])
  | succeeds underway comesTo =>
      exact sound.set (.inl comesTo) (by simp [underway, Progress.isFailure])
  | @fails job problem underway comesTo =>
      refine ⟨fun other => ?_, fun _ => .inr ⟨job, by simp [Progress.isFailure]⟩, sound.raised⟩
      by_cases same : other = job
      · rw [same, set_progress_self]
        exact ⟨comesTo, rfl⟩
      · rw [set_progress_of_ne same]
        exact (sound.agrees other).mono (fun _ => rfl) id
  | @breaksOff job problem failing =>
      have known := sound.agrees job
      rw [failing] at known
      exact sound.set (.inl known.1) (fun _ => rfl)
  | @collects job result collecting finished =>
      refine ⟨fun other => ?_, sound.failed_set (by simp [finished, Progress.isFailure]),
        sound.raised⟩
      by_cases same : other = job
      · have known := sound.agrees job
        rw [finished] at known
        rw [same, set_progress_self]
        change outcome job = .ok (Function.update crew.results job result job) ∨ crew.failed = true
        rw [Function.update_self]
        exact known.imp id And.right
      · rw [set_progress_of_ne same]
        change (crew.progress other).Agrees (outcome other)
          (Function.update crew.results job result other) crew.failed crew.raised
        rw [Function.update_of_ne same]
        exact sound.agrees other
  | @raises job problem collecting finished =>
      refine ⟨fun other => (sound.agrees other).mono id nofun, fun _ => .inl nofun, ?_⟩
      rintro _ ⟨⟩
      have known := sound.agrees job
      rw [finished] at known
      rcases known with comesTo | ⟨nothing, _⟩
      · exact ⟨job, comesTo⟩
      · cases nothing
  | withdraws raised queued =>
      exact sound.set (by simp [Progress.Agrees, raised]) (by simp [queued, Progress.isFailure])

theorem sound_of_reached (reached : Reached outcome workers crew) : Sound outcome crew := by
  induction reached with
  | refl => exact sound_start
  | tail _ step induction => exact step.sound induction

/-! ## What the jobs come to together -/

theorem result?_eq_ok_iff {results : List (Option α)} :
    crew.result? = some (.ok results) ↔ crew.raised = none ∧
      (∀ job, crew.progress job = .handedIn) ∧ List.ofFn crew.results = results := by
  unfold result?
  cases crew.raised with
  | none => simp [Progress.isHandedIn_iff]
  | some problem => simp

theorem result?_eq_error_iff {problem : Problem} :
    crew.result? = some (.error problem) ↔ crew.raised = some problem ∧
      ∀ job, crew.progress job ≠ .queued ∧ (crew.progress job).isBusy = false := by
  unfold result?
  cases crew.raised with
  | none => simp
  | some problem => simp [Progress.isQueued_iff, and_comm]

/-- The results are those of all the jobs: none of them has failed, and none was passed over. -/
theorem Sound.outcome_of_ok (sound : Sound outcome crew) {results : List (Option α)}
    (ended : crew.result? = some (.ok results)) : List.ofFn outcome = results.map .ok := by
  rcases result?_eq_ok_iff.mp ended with ⟨collecting, handedIn, rfl⟩
  have going : crew.failed = false := by
    apply eq_false_of_ne_true
    intro failed
    rcases sound.failed failed with raised | ⟨job, failure⟩
    · exact raised collecting
    · rw [handedIn job] at failure
      cases failure
  rw [List.map_ofFn]
  congr 1
  funext job
  have agrees := sound.agrees job
  rw [handedIn job, going] at agrees
  exact agrees.resolve_right nofun

theorem Sound.exists_of_error (sound : Sound outcome crew) {problem : Problem}
    (ended : crew.result? = some (.error problem)) : ∃ job, outcome job = .error problem :=
  sound.raised problem (result?_eq_error_iff.mp ended).1

/-- Who is busy can go on. -/
theorem exists_step_of_busy (busy : (crew.progress job).isBusy = true) :
    ∃ after, Step outcome workers crew after := by
  cases progress : crew.progress job with
  | taken =>
      cases failed : crew.failed with
      | true => exact ⟨_, .passesOver progress failed⟩
      | false => exact ⟨_, .begins progress failed⟩
  | underway =>
      cases comesTo : outcome job with
      | ok result => exact ⟨_, .succeeds progress comesTo⟩
      | error problem => exact ⟨_, .fails progress comesTo⟩
  | failing problem => exact ⟨_, .breaksOff progress⟩
  | _ =>
      rw [progress] at busy
      cases busy

/-- Somebody who is free can take the first job of the queue. -/
theorem exists_step_of_queued (someone : 0 < workers)
    (nobodyBusy : ∀ job, (crew.progress job).isBusy = false)
    (queued : crew.progress job = .queued) :
    ∃ after, Step outcome workers crew after := by
  rcases wellFounded_lt.has_min {job | crew.progress job = .queued} ⟨job, queued⟩ with
    ⟨first, firstQueued, least⟩
  have free : crew.busy < workers := by
    have none : crew.busy = 0 := by simp [Crew.busy, nobodyBusy]
    rwa [none]
  exact ⟨_, .takes firstQueued (fun earlier before queued => least earlier queued before) free⟩

/-- As long as the jobs have not come to anything together, there is something to do. -/
theorem Sound.exists_step (sound : Sound outcome crew) (someone : 0 < workers)
    (going : crew.result? = none) : ∃ after, Step outcome workers crew after := by
  by_cases nobodyBusy : ∀ job, (crew.progress job).isBusy = false
  · by_cases nothingQueued : ∀ job, crew.progress job ≠ .queued
    · cases raised : crew.raised with
      | some problem =>
          have ended := result?_eq_error_iff.mpr
            ⟨raised, fun job => ⟨nothingQueued job, nobodyBusy job⟩⟩
          rw [going] at ended
          cases ended
      | none =>
          -- Somebody has a result or a problem that was not handed in.
          have exists_left : ∃ job, crew.progress job ≠ .handedIn := by
            by_contra all
            have ended := result?_eq_ok_iff.mpr
              ⟨raised, fun job => not_not.mp (not_exists.mp all job), rfl⟩
            rw [going] at ended
            cases ended
          rcases exists_left with ⟨job, left⟩
          have agrees := sound.agrees job
          have notBusy := nobodyBusy job
          cases progress : crew.progress job with
          | finished outcome =>
              rcases outcome with problem | result
              · exact ⟨_, .raises raised progress⟩
              · exact ⟨_, .collects raised progress⟩
          | handedIn => exact absurd progress left
          | queued => exact absurd progress (nothingQueued job)
          | withdrawn =>
              rw [progress] at agrees
              exact absurd raised agrees
          | _ =>
              rw [progress] at notBusy
              cases notBusy
    · rcases not_forall.mp nothingQueued with ⟨job, queued⟩
      exact exists_step_of_queued someone nobodyBusy (not_not.mp queued)
  · rcases not_forall.mp nobodyBusy with ⟨job, busy⟩
    exact exists_step_of_busy (Bool.eq_true_of_not_eq_false busy)

structure AlwaysEnds (outcome : Fin count → Except Problem (Option α)) (workers : Nat) : Prop where
  wellFounded : WellFounded fun after crew : Crew α count => Step outcome workers crew after
  goesOn : ∀ crew, Reached outcome workers crew → crew.result? = none →
    ∃ after, Step outcome workers crew after

theorem alwaysEnds (outcome : Fin count → Except Problem (Option α)) (someone : 0 < workers) :
    AlwaysEnds outcome workers where
  wellFounded := wellFounded_step outcome workers
  goesOn _ reached going := (sound_of_reached reached).exists_step someone going

end Crew

end Montage

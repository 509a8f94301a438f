import Mathlib.Data.List.Basic

/-! Steps that change a state and that a problem can stop, run one after the other. -/

namespace Montage

variable {ε σ α β : Type}

theorem run_pure (value : α) (before : σ) :
    (pure value : ExceptT ε (StateM σ) α) before = (.ok value, before) := rfl

theorem run_bind (step : ExceptT ε (StateM σ) α) (next : α → ExceptT ε (StateM σ) β)
    (before : σ) :
    (step >>= next) before = match step before with
      | (.ok value, after) => next value after
      | (.error problem, after) => (.error problem, after) := by
  change ExceptT.bindCont next (step before).1 (step before).2 = _
  rcases step before with ⟨problem | value, after⟩
  · rfl
  · rfl

theorem run_map (change : α → β) (step : ExceptT ε (StateM σ) α) (before : σ) :
    (change <$> step) before = ((step before).1.map change, (step before).2) := by
  rw [map_eq_pure_bind, run_bind]
  rcases step before with ⟨problem | value, after⟩
  · rfl
  · rfl

theorem run_bind_of_ok {step : ExceptT ε (StateM σ) α} {before after : σ} {value : α}
    (ran : step before = (.ok value, after)) (next : α → ExceptT ε (StateM σ) β) :
    (step >>= next) before = next value after := by
  rw [run_bind, ran]

theorem run_bind_of_error {step : ExceptT ε (StateM σ) α} {before after : σ} {problem : ε}
    (ran : step before = (.error problem, after)) (next : α → ExceptT ε (StateM σ) β) :
    (step >>= next) before = (.error problem, after) := by
  rw [run_bind, ran]

theorem exists_of_run_bind_ok {step : ExceptT ε (StateM σ) α} {next : α → ExceptT ε (StateM σ) β}
    {before after : σ} {value : β} (ran : (step >>= next) before = (.ok value, after)) :
    ∃ first middle, step before = (.ok first, middle) ∧ next first middle = (.ok value, after) := by
  rw [run_bind] at ran
  rcases stepRan : step before with ⟨problem | first, middle⟩
  · rw [stepRan] at ran
    cases ran
  · rw [stepRan] at ran
    exact ⟨first, middle, rfl, ran⟩

/-! ## Results -/

theorem exists_of_bind_ok {first : Except ε α} {next : α → Except ε β}
    {value : β} (ran : (first >>= next) = .ok value) :
    ∃ middle, first = .ok middle ∧ next middle = .ok value := by
  cases first with
  | error problem => cases ran
  | ok middle => exact ⟨middle, rfl, ran⟩

theorem bind_eq_ok_iff {first : Except ε α} {next : α → Except ε β} {value : β} :
    (first >>= next) = .ok value ↔ ∃ middle, first = .ok middle ∧ next middle = .ok value := by
  refine ⟨exists_of_bind_ok, ?_⟩
  rintro ⟨middle, rfl, ran⟩
  exact ran

theorem bind_eq_error_iff {first : Except ε α} {next : α → Except ε β}
    {problem : ε} : (first >>= next) = .error problem ↔
      first = .error problem ∨ ∃ value, first = .ok value ∧ next value = .error problem := by
  cases first with
  | error other =>
      change Except.error other = .error problem ↔ _
      simp
  | ok value =>
      change next value = .error problem ↔ _
      simp

/-! ## Jobs -/

/-- Wherever it comes among the items, a job gives the value of its item. `Holds` says what
is true once some of them are done. -/
def GivesInTurn (job : α → ExceptT ε (StateM σ) β) (value : α → β) (Holds : List α → σ → Prop)
    (items : List α) : Prop :=
  ∀ done item before, item ∈ items → Holds done before →
    ∃ after, job item before = (.ok (value item), after) ∧ Holds (done ++ [item]) after

variable {job : α → ExceptT ε (StateM σ) β} {value : α → β} {Holds : List α → σ → Prop}
  {items : List α}

theorem GivesInTurn.tail {item : α} {rest : List α}
    (gives : GivesInTurn job value Holds (item :: rest)) : GivesInTurn job value Holds rest :=
  fun done other before member => gives done other before (List.mem_cons_of_mem item member)

theorem run_mapM_of_ok (gives : GivesInTurn job value Holds items) :
    ∀ {done before}, Holds done before →
      ∃ after, items.mapM job before = (.ok (items.map value), after) ∧
        Holds (done ++ items) after := by
  induction items with
  | nil =>
      intro done before holds
      exact ⟨before, by rw [List.mapM_nil]; rfl, by simpa using holds⟩
  | cons item rest induction =>
      intro done before holds
      rcases gives done item before List.mem_cons_self holds with ⟨middle, ran, middleHolds⟩
      rcases induction gives.tail middleHolds with ⟨after, restRan, afterHolds⟩
      refine ⟨after, ?_, by simpa using afterHolds⟩
      rw [List.mapM_cons, run_bind_of_ok ran, run_bind_of_ok restRan]
      rfl
def GivesIfOk (job : α → ExceptT ε (StateM σ) β) (value : α → β) (items : List α) : Prop :=
  ∀ item ∈ items, ∀ before after result, job item before = (.ok result, after) →
    result = value item

theorem GivesIfOk.tail {item : α} {rest : List α}
    (gives : GivesIfOk job value (item :: rest)) : GivesIfOk job value rest :=
  fun other member => gives other (List.mem_cons_of_mem item member)

theorem eq_map_of_run_mapM (gives : GivesIfOk job value items) {before after : σ}
    {results : List β} (ran : items.mapM job before = (.ok results, after)) :
    results = items.map value := by
  induction items generalizing before results with
  | nil =>
      rw [List.mapM_nil] at ran
      cases ran
      rfl
  | cons item rest induction =>
      rw [List.mapM_cons] at ran
      rcases exists_of_run_bind_ok ran with ⟨first, middle, firstRan, ran⟩
      rcases exists_of_run_bind_ok ran with ⟨others, last, restRan, ended⟩
      cases ended
      rw [List.map_cons, gives item List.mem_cons_self before middle first firstRan,
        induction gives.tail restRan]

/-! ## Checks -/

/-- Either all items are as they should be, or there is a first one that is not. -/
theorem forall_or_exists_first (Holds : α → Prop) (items : List α) :
    (∀ item ∈ items, Holds item) ∨ ∃ before item after, items = before ++ item :: after ∧
      (∀ earlier ∈ before, Holds earlier) ∧ ¬ Holds item := by
  induction items with
  | nil => simp
  | cons first rest induction =>
      by_cases holds : Holds first
      · rcases induction with all | ⟨before, item, after, rfl, earlier, fails⟩
        · exact .inl (List.forall_mem_cons.mpr ⟨holds, all⟩)
        · exact .inr ⟨first :: before, item, after, rfl,
            List.forall_mem_cons.mpr ⟨holds, earlier⟩, fails⟩
      · exact .inr ⟨[], first, rest, rfl, by simp, holds⟩

/-- The first of several checks that fails decides the problem. -/
theorem mapM_eq_error_iff {check : α → Except ε β} {problem : ε} :
    items.mapM check = .error problem ↔ ∃ before item after, items = before ++ item :: after ∧
      (∀ earlier ∈ before, ∃ value, check earlier = .ok value) ∧ check item = .error problem := by
  induction items with
  | nil => exact iff_of_false nofun (by simp)
  | cons first rest induction =>
      rw [List.mapM_cons]
      cases checked : check first with
      | error other =>
          constructor
          · rintro ⟨⟩
            exact ⟨[], first, rest, rfl, by simp, checked⟩
          · rintro ⟨before, item, after, split, passed, failed⟩
            rcases List.cons_eq_append_iff.mp split with ⟨rfl, here⟩ | ⟨others, rfl, _⟩
            · cases here
              cases checked.symm.trans failed
              rfl
            · rcases passed first List.mem_cons_self with ⟨value, ok⟩
              cases checked.symm.trans ok
      | ok value =>
          have later : (do
              let others ← rest.mapM check
              pure (value :: others)) = .error problem ↔ rest.mapM check = .error problem := by
            cases rest.mapM check with
            | error other => exact Iff.of_eq (congrArg _ rfl)
            | ok others => exact iff_of_false nofun nofun
          refine later.trans (induction.trans ?_)
          constructor
          · rintro ⟨before, item, after, rfl, passed, failed⟩
            exact ⟨first :: before, item, after, rfl,
              List.forall_mem_cons.mpr ⟨⟨value, checked⟩, passed⟩, failed⟩
          · rintro ⟨before, item, after, split, passed, failed⟩
            rcases List.cons_eq_append_iff.mp split with ⟨rfl, here⟩ | ⟨others, rfl, same⟩
            · cases here
              cases checked.symm.trans failed
            · exact ⟨others, item, after, same, (List.forall_mem_cons.mp passed).2, failed⟩

end Montage

import Montage.Proofs.Manifest.Reading

/-! Readings that stumble: some value does not fit where it stands, and nothing looks at its
kind before it is used. Such a reading gives neither a value nor a fault that is named. An integer
that cannot be written makes no reading stumble: it is refused in the same way as a fault. -/

namespace Montage

structure StumblesOnly {α : Type} (result : Except Problem α) (stumbles : Misfit → Prop) :
    Prop where
  misfit_iff : ∀ cause, cause ≠ .tooManyDigits →
    (result = .error (.misfit cause) ↔ stumbles cause)
  known : ∀ problem, result = .error problem →
    (∃ fault, problem = .manifest fault) ∨ ∃ cause, problem = .misfit cause

theorem mapError_eq_ok_iff {ε δ α : Type} {result : Except ε α} {tell : ε → δ} {value : α} :
    result.mapError tell = .ok value ↔ result = .ok value := by
  cases result with
  | error => exact iff_of_false nofun nofun
  | ok found => simp only [Except.mapError, Except.ok.injEq]

namespace StumblesOnly

variable {α β : Type} {result : Except Problem α} {stumbles same : Misfit → Prop}

theorem ok (value : α) : StumblesOnly (.ok value) fun _ => False where
  misfit_iff _ _ := ⟨nofun, nofun⟩
  known _ := nofun

theorem misfit (cause : Misfit) :
    StumblesOnly (.error (.misfit cause) : Except Problem α) (· = cause) where
  misfit_iff other _ := by
    rw [Except.error.injEq, Problem.misfit.injEq]
    exact eq_comm
  known _ stopped := .inr ⟨cause, (Except.error.inj stopped).symm⟩

theorem congr (only : StumblesOnly result stumbles) (agree : ∀ cause, stumbles cause ↔ same cause) :
    StumblesOnly result same where
  misfit_iff cause written := (only.misfit_iff cause written).trans (agree cause)
  known := only.known

theorem overlong :
    StumblesOnly (.error (.misfit .tooManyDigits) : Except Problem α) fun _ => False where
  misfit_iff _ written :=
    iff_of_false (fun stopped => written (Problem.misfit.inj (Except.error.inj stopped)).symm) id
  known _ stopped := .inr ⟨.tooManyDigits, (Except.error.inj stopped).symm⟩

theorem fault (cause : ManifestFault) :
    StumblesOnly (.error (.ofFault cause) : Except Problem α) fun _ => False := by
  unfold Problem.ofFault
  split
  · exact ⟨fun _ _ => ⟨nofun, nofun⟩,
      fun _ stopped => .inl ⟨cause, (Except.error.inj stopped).symm⟩⟩
  · exact overlong

theorem write (value : Value) :
    StumblesOnly (value.write.mapError .misfit) fun _ => False := by
  cases writable : value.isWritable with
  | true =>
      rw [Value.write_eq_ok writable]
      exact ok value.plain
  | false =>
      rw [Value.write_eq_error writable]
      exact overlong

/-- A reading stumbles where its first part does, or where its rest does once that is read. -/
theorem bind {next : α → Except Problem β} {later : α → Misfit → Prop}
    (only : StumblesOnly result stumbles)
    (onlyNext : ∀ value, result = .ok value → StumblesOnly (next value) (later value)) :
    StumblesOnly (result >>= next)
      fun cause => stumbles cause ∨ ∃ value, result = .ok value ∧ later value cause where
  misfit_iff cause written := by
    rw [bind_eq_error_iff, only.misfit_iff cause written]
    exact or_congr_right <| exists_congr fun value => and_congr_right fun read =>
      (onlyNext value read).misfit_iff cause written
  known problem stopped := by
    rcases bind_eq_error_iff.mp stopped with early | ⟨value, read, late⟩
    · exact only.known problem early
    · exact (onlyNext value read).known problem late

/-- The rule for a first part that looks at one value. -/
theorem look {read : Except Misfit α} {next : α → Except Problem β} {later : α → Misfit → Prop}
    (only : StumblesOnly (read.mapError .misfit) stumbles)
    (onlyNext : ∀ value, read = .ok value → StumblesOnly (next value) (later value)) :
    StumblesOnly (read.mapError .misfit >>= next)
      fun cause => stumbles cause ∨ ∃ value, read = .ok value ∧ later value cause := by
  refine (only.bind fun value looked => onlyNext value (mapError_eq_ok_iff.mp looked)).congr ?_
  simp only [mapError_eq_ok_iff, implies_true]

/-- The rule for a rest that stumbles on the same whatever was read before it. -/
theorem andThen {next : α → Except Problem β} {later : Misfit → Prop} {isRead : Prop}
    (only : StumblesOnly result stumbles) (reads : (∃ value, result = .ok value) ↔ isRead)
    (onlyNext : ∀ value, StumblesOnly (next value) later) :
    StumblesOnly (result >>= next) fun cause => stumbles cause ∨ isRead ∧ later cause :=
  (only.bind fun value _ => onlyNext value).congr fun cause => by
    rw [exists_and_right, reads]

end StumblesOnly

/-! ## Values that do not fit -/

namespace Value

def IsMap (value : Value) : Prop :=
  ∃ entries, value = .map entries

def IsContainer : Value → Prop
  | .map _ | .list _ | .tuple _ | .set _ | .text _ => True
  | _ => False

def IsTooLarge (value : Value) : Prop :=
  ∃ number, value = .int number ∧ Binary64.ofInt? number = none

def IsTime : Value → Prop
  | .int number => (Binary64.ofInt? number).isSome
  | .float number => number.isFinite
  | _ => False

def IsInfinite (value : Value) : Prop :=
  ∃ number negative, value = .float number ∧ Binary64.ofFloat number = .infinite negative

def IsPairOf (value first second : Value) : Prop :=
  value = .list [first, second] ∨ value = .tuple [first, second]

/-- A pair with an infinite number where the first integer is looked for, or where the second
is once the first was found. -/
def HasInfinity (value : Value) : Prop :=
  ∃ first second, value.IsPairOf first second ∧
    (first.IsInfinite ∨ (∃ number, first.toInteger = .ok number) ∧ second.IsInfinite)

def IsPairOfIntegers (value : Value) : Prop :=
  ∃ first second, value.IsPairOf first second ∧
    (∃ number, first.toInteger = .ok number) ∧ ∃ number, second.toInteger = .ok number

theorem toInteger_eq_unbounded_iff (value : Value) :
    value.toInteger = .error .unbounded ↔ value.IsInfinite := by
  have noInteger (found : Option Int) :
      found.elim (.error .notANumeral) .ok ≠ (.error .unbounded : Except Misfit Int) := by
    cases found <;> nofun
  constructor
  · intro unbounded
    cases value with
    | float number =>
        refine ⟨number, ?_⟩
        cases decoded : Binary64.ofFloat number with
        | infinite negative => exact ⟨negative, rfl, rfl⟩
        | undefined => simp [toInteger, integerOfFloat, decoded] at unbounded
        | finite => simp [toInteger, integerOfFloat, decoded] at unbounded
    | text chars => exact absurd unbounded (noInteger _)
    | bytes content => exact absurd unbounded (noInteger _)
    | _ => cases unbounded
  · rintro ⟨number, negative, rfl, decoded⟩
    simp [toInteger, integerOfFloat, decoded]

theorem under_eq_error_of_noMap {value : Value} (noMap : ¬ value.IsMap) (name : String) :
    value.under name = .error .wrongKind := by
  cases value with
  | map entries => exact absurd ⟨entries, rfl⟩ noMap
  | _ => rfl

theorem eq_wrongKind_of_holds {value : Value} {name : String} {cause : Misfit}
    (stopped : value.holds name = .error cause) : cause = .wrongKind := by
  cases value with
  | map | list | tuple | set | text => cases stopped
  | _ => exact (Except.error.inj stopped).symm

def setting (entries : List (Value × Value)) (name : String) (standard : Value) : Value :=
  (lookup? (.text name) entries).getD standard

end Value

/-! ## Readings of one value -/

namespace StumblesOnly

theorem holds (value : Value) (name : String) :
    StumblesOnly ((value.holds name).mapError .misfit)
      fun cause => ¬ value.IsContainer ∧ cause = .wrongKind := by
  cases value with
  | map | list | tuple | set | text => exact (ok _).congr fun _ => by simp [Value.IsContainer]
  | _ => exact (misfit _).congr fun _ => by simp [Value.IsContainer]

theorem under {value : Value} {name : String} (held : value.holds name = .ok true) :
    StumblesOnly ((value.under name).mapError .misfit)
      fun cause => ¬ value.IsMap ∧ cause = .wrongKind := by
  cases value with
  | map entries =>
      rcases Option.isSome_iff_exists.mp (Except.ok.inj held) with ⟨found, there⟩
      simp only [Value.under, there]
      exact (ok found).congr fun _ => by simp [Value.IsMap]
  | _ => exact (misfit _).congr fun _ => by simp [Value.IsMap]

theorem readNumber (field : String) (given : Value) :
    StumblesOnly (Montage.readNumber field given)
      fun cause => given.IsTooLarge ∧ cause = .unbounded := by
  cases given with
  | int number =>
      simp only [Montage.readNumber]
      cases nearest : Binary64.ofInt? number with
      | none => exact (misfit _).congr fun _ => by simp [Value.IsTooLarge, nearest]
      | some double => exact (ok _).congr fun _ => by simp [Value.IsTooLarge, nearest]
  | float number =>
      simp only [Montage.readNumber]
      split
      · exact (ok _).congr fun _ => by simp [Value.IsTooLarge]
      · exact (fault _).congr fun _ => by simp [Value.IsTooLarge]
  | _ => exact (fault _).congr fun _ => by simp [Value.IsTooLarge]

/-- A misfit that is told as a fault of the field, unless the number has no bounds. -/
theorem mapError {read : Except Misfit α} {tell : Misfit → Problem}
    (unbounded : tell .unbounded = .misfit .unbounded)
    (others : ∀ cause, cause ≠ .unbounded → ∃ fault, tell cause = .ofFault fault) :
    StumblesOnly (read.mapError tell)
      fun cause => read = .error .unbounded ∧ cause = .unbounded := by
  cases read with
  | ok value => exact (ok value).congr fun _ => by simp
  | error given =>
      change StumblesOnly (.error (tell given)) _
      by_cases isUnbounded : given = .unbounded
      · rw [isUnbounded, unbounded]
        exact (misfit _).congr fun _ => by simp
      · rcases others given isUnbounded with ⟨named, told⟩
        rw [told]
        exact (fault named).congr fun _ => by simp [isUnbounded]

theorem readPair (field : String) (given : Value) :
    StumblesOnly (Montage.readPair Value.toInteger field given)
      fun cause => given.HasInfinity ∧ cause = .unbounded := by
  have read (first second : Value) (tell : Misfit → Problem) (pair : ∀ other last,
      given.IsPairOf other last ↔ other = first ∧ last = second)
      (unbounded : tell .unbounded = .misfit .unbounded)
      (others : ∀ cause, cause ≠ .unbounded → ∃ fault, tell cause = .ofFault fault) :
      StumblesOnly
        ((do return (← first.toInteger, ← second.toInteger) :
          Except Misfit (Int × Int)).mapError tell)
        fun cause => given.HasInfinity ∧ cause = .unbounded := by
    refine congr (mapError unbounded others) fun cause => and_congr_left fun _ => ?_
    simp only [Value.HasInfinity, pair, bind_eq_error_iff, Value.toInteger_eq_unbounded_iff]
    simp [pure, Except.pure]
  unfold Montage.readPair
  split
  · refine read _ _ _ (fun _ _ => by simp [Value.IsPairOf, eq_comm]) rfl fun cause bounded => ?_
    cases cause with
    | unbounded => exact absurd rfl bounded
    | _ => exact ⟨_, rfl⟩
  · refine read _ _ _ (fun _ _ => by simp [Value.IsPairOf, eq_comm]) rfl fun cause bounded => ?_
    cases cause with
    | unbounded => exact absurd rfl bounded
    | _ => exact ⟨_, rfl⟩
  · rename_i noList noTuple
    refine (fault _).congr fun _ => iff_of_false not_false ?_
    rintro ⟨⟨first, second, isList | isTuple, _⟩, _⟩
    · exact noList first second isList
    · exact noTuple first second isTuple

end StumblesOnly

theorem exists_readNumber_iff (field : String) (given : Value) :
    (∃ number, readNumber field given = .ok number) ↔ given.IsTime := by
  cases given with
  | int number =>
      simp only [readNumber, Value.IsTime]
      cases Binary64.ofInt? number <;> simp
  | float number =>
      simp only [readNumber, Value.IsTime]
      split <;> simp [*]
  | _ =>
      refine iff_of_false ?_ not_false
      rintro ⟨number, read⟩
      cases read

theorem exists_readPair_iff (field : String) (given : Value) :
    (∃ pair, readPair Value.toInteger field given = .ok pair) ↔ given.IsPairOfIntegers := by
  have read (first second : Value) (tell : Misfit → Problem) (pair : ∀ other last,
      given.IsPairOf other last ↔ other = first ∧ last = second) :
      (∃ numbers, (do return (← first.toInteger, ← second.toInteger) :
        Except Misfit (Int × Int)).mapError tell = .ok numbers) ↔ given.IsPairOfIntegers := by
    have integers : given.IsPairOfIntegers ↔
        (∃ number, first.toInteger = .ok number) ∧ ∃ number, second.toInteger = .ok number := by
      simp only [Value.IsPairOfIntegers, pair, and_assoc, exists_and_left, exists_eq_left]
    rw [integers]
    cases first.toInteger <;> cases second.toInteger <;>
      simp [Except.mapError, bind, Except.bind, pure, Except.pure]
  unfold readPair
  split
  · exact read _ _ _ fun _ _ => by simp [Value.IsPairOf, eq_comm]
  · exact read _ _ _ fun _ _ => by simp [Value.IsPairOf, eq_comm]
  · rename_i noList noTuple
    refine iff_of_false nofun ?_
    rintro ⟨first, second, isList | isTuple, _⟩
    · exact noList first second isList
    · exact noTuple first second isTuple

/-! ## Path variables -/

def Piece.name : Piece → Option String
  | .literal _ => none
  | .placeholder chars => some (String.ofList chars)

/-- The first variable in the pieces of a text is looked up in something that is no map, and
that holds its name or cannot be asked for it. -/
def VariablesStumble (paths : Value) (pieces : List Piece) (cause : Misfit) : Prop :=
  ¬ paths.IsMap ∧ cause = .wrongKind ∧
    ∃ name, pieces.findSome? Piece.name = some name ∧ paths.holds name ≠ .ok false

theorem StumblesOnly.expand (paths : Value) (chars : List Char) :
    StumblesOnly (Piece.expand paths (.placeholder chars)) fun cause =>
      ¬ paths.IsMap ∧ cause = .wrongKind ∧ paths.holds (String.ofList chars) ≠ .ok false := by
  have onward (held : Bool) (asked : paths.holds (String.ofList chars) = .ok held) :
      StumblesOnly (if held then
          (do
            let value ← (paths.under (String.ofList chars)).mapError Problem.misfit
            return (← value.write.mapError Problem.misfit).toList)
        else throw (.ofFault (.unknownVariable (String.ofList chars))) :
          Except Problem (List Char))
        fun cause => held = true ∧ ¬ paths.IsMap ∧ cause = .wrongKind := by
    cases held with
    | false => exact (fault _).congr fun _ => by simp
    | true =>
        exact ((under asked).bind fun value _ => (write value).bind fun _ _ => ok _).congr
          fun _ => by simp
  refine congr (look (holds paths _) onward) ?_
  intro cause
  cases paths with
  | map | list | tuple | set | text =>
      simp [Value.IsMap, Value.IsContainer, Value.holds, and_comm]
  | _ => simp [Value.IsMap, Value.IsContainer, Value.holds]

theorem isMap_of_expand {paths : Value} {chars found : List Char}
    (expanded : Piece.expand paths (.placeholder chars) = .ok found) : paths.IsMap := by
  rcases exists_of_bind_ok expanded with ⟨held, _, expanded⟩
  cases held with
  | false => cases expanded
  | true =>
      rcases exists_of_bind_ok expanded with ⟨_, under, _⟩
      cases paths with
      | map entries => exact ⟨entries, rfl⟩
      | _ => cases under

theorem stumblesOnly_mapM_expand (paths : Value) (pieces : List Piece) :
    StumblesOnly (pieces.mapM (Piece.expand paths)) (VariablesStumble paths pieces) := by
  induction pieces with
  | nil => exact (StumblesOnly.ok _).congr fun _ => by simp [VariablesStumble]
  | cons piece rest induction =>
      have goOn (chars : List Char) :
          StumblesOnly (do return chars :: (← rest.mapM (Piece.expand paths)))
            (VariablesStumble paths rest) :=
        (induction.bind fun _ _ => StumblesOnly.ok _).congr fun _ => by simp
      rw [List.mapM_cons]
      cases piece with
      | literal char =>
          exact (goOn [char]).congr fun _ => by
            simp [VariablesStumble, Piece.name, List.findSome?_cons]
      | placeholder chars =>
          refine ((StumblesOnly.expand paths chars).bind fun found _ => goOn found).congr ?_
          intro cause
          have noMore : ¬ ∃ found, Piece.expand paths (.placeholder chars) = .ok found ∧
              VariablesStumble paths rest cause :=
            fun ⟨_, expanded, noMap, _⟩ => noMap (isMap_of_expand expanded)
          rw [or_iff_left noMore]
          simp [VariablesStumble, Piece.name, List.findSome?_cons]

theorem stumblesOnly_expandVariables (paths : Value) (text : String) :
    StumblesOnly (expandVariables paths text) (VariablesStumble paths (Piece.ofText text.toList)) :=
  ((stumblesOnly_mapM_expand paths _).bind fun _ _ => StumblesOnly.ok _).congr fun _ => by simp

end Montage

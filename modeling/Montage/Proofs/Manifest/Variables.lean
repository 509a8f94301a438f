import Mathlib.Data.List.Infix
import Montage.Manifest.Template
import Montage.Proofs.Number.Decimal
import Montage.Proofs.Steps

/-! Texts with variables, taken apart: there is one way to do so, and the values are put in between
the literal parts in one pass. -/

namespace Montage

/-! ## Placeholders -/

def IsVariableName (name : List Char) : Prop :=
  name ≠ [] ∧ ∀ char ∈ name, isWordChar char = true

def placeholderChars (name : List Char) : List Char :=
  '$' :: '\x7b' :: (name ++ ['\x7d'])

def BeginsPlaceholder (text : List Char) : Prop :=
  ∃ name, IsVariableName name ∧ placeholderChars name <+: text

def HoldsPlaceholder (text : List Char) : Prop :=
  ∃ name, IsVariableName name ∧ placeholderChars name <:+: text

theorem holdsPlaceholder_cons_iff (char : Char) (rest : List Char) :
    HoldsPlaceholder (char :: rest) ↔
      BeginsPlaceholder (char :: rest) ∨ HoldsPlaceholder rest := by
  simp only [HoldsPlaceholder, BeginsPlaceholder, List.infix_cons_iff, and_or_left, exists_or]

theorem not_holdsPlaceholder_nil : ¬ HoldsPlaceholder [] := by
  rintro ⟨name, _, inside⟩
  cases List.infix_nil.mp inside

theorem BeginsPlaceholder.append {text : List Char} (begins : BeginsPlaceholder text)
    (rest : List Char) : BeginsPlaceholder (text ++ rest) := by
  rcases begins with ⟨name, isName, front⟩
  exact ⟨name, isName, front.trans (List.prefix_append text rest)⟩

/-- There is no dollar sign in a placeholder but the first. -/
theorem dollar_not_mem_placeholder {name : List Char} (isName : IsVariableName name) :
    '$' ∉ '\x7b' :: (name ++ ['\x7d']) := by
  simp only [List.mem_cons, List.mem_append, List.not_mem_nil, or_false, not_or]
  refine ⟨by decide, fun member => ?_, by decide⟩
  exact absurd (isName.2 '$' member) (by decide +kernel)

/-- A placeholder does not reach beyond the next dollar sign. -/
theorem beginsPlaceholder_of_append {char : Char} {chars rest : List Char}
    (next : ∀ first ∈ rest.head?, first = '$')
    (begins : BeginsPlaceholder (char :: chars ++ rest)) : BeginsPlaceholder (char :: chars) := by
  rcases begins with ⟨name, isName, front⟩
  refine ⟨name, isName, ?_⟩
  rcases List.prefix_or_prefix_of_prefix front (List.prefix_append (char :: chars) rest) with
    inside | ⟨beyond, whole⟩
  · exact inside
  · rw [← whole, List.prefix_append_right_inj] at front
    rcases beyond with _ | ⟨first, beyond⟩
    · rw [← whole, List.append_nil]
    · have dollar : first = '$' := by
        rcases front with ⟨after, rfl⟩
        exact next first rfl
      have same : chars ++ first :: beyond = '\x7b' :: (name ++ ['\x7d']) :=
        (List.cons.inj whole).2
      refine absurd ?_ (dollar_not_mem_placeholder isName)
      rw [← same, dollar]
      exact List.mem_append_cons_self

/-! ## Reading placeholders -/

namespace Piece

/-- Behind a dollar sign a name is read where a placeholder stands. -/
theorem name?_eq_some_iff {text name after : List Char} : name? text = some (name, after) ↔
    IsVariableName name ∧ placeholderChars name ++ after = '$' :: text := by
  have apart : placeholderChars name ++ after = '$' :: '\x7b' :: (name ++ '\x7d' :: after) := by
    simp [placeholderChars]
  rw [apart, List.cons_inj_right]
  constructor
  · intro found
    unfold name? at found
    split at found
    · rename_i rest
      split at found
      · cases found
      · rename_i behind nonempty
        cases found
        refine ⟨⟨nonempty, List.all_eq_true.mp List.all_takeWhile⟩, ?_⟩
        rw [← behind, List.takeWhile_append_dropWhile]
      · cases found
    · cases found
  · rintro ⟨⟨nonempty, chars⟩, rfl⟩
    have brace : isWordChar '\x7d' = false := by decide +kernel
    have front : (name ++ '\x7d' :: after).takeWhile isWordChar = name := by
      rw [List.takeWhile_append_of_pos chars, List.takeWhile_cons_of_neg (by simp [brace]),
        List.append_nil]
    have behind : (name ++ '\x7d' :: after).dropWhile isWordChar = '\x7d' :: after := by
      rw [List.dropWhile_append_of_pos chars, List.dropWhile_cons_of_neg (by simp [brace])]
    obtain ⟨first, more, rfl⟩ := List.exists_cons_of_ne_nil nonempty
    rw [name?, front, behind]
    rfl

theorem ofText_placeholder {name : List Char} (isName : IsVariableName name) (rest : List Char) :
    ofText (placeholderChars name ++ rest) = .placeholder name :: ofText rest := by
  have found : name? ('\x7b' :: (name ++ ['\x7d']) ++ rest) = some (name, rest) :=
    name?_eq_some_iff.mpr ⟨isName, rfl⟩
  change ofText ('$' :: _) = _
  rw [ofText, if_pos rfl]
  split
  · rename_i same
    cases found.symm.trans same
    rfl
  · rename_i none
    cases found.symm.trans none

theorem ofText_literal {char : Char} {rest : List Char}
    (noPlaceholder : ¬ BeginsPlaceholder (char :: rest)) :
    ofText (char :: rest) = .literal char :: ofText rest := by
  rw [ofText]
  split
  · rename_i dollar
    split
    · rename_i name after found
      rcases name?_eq_some_iff.mp found with ⟨isName, same⟩
      exact absurd ⟨name, isName, after, dollar ▸ same⟩ noPlaceholder
    · rw [dollar]
  · rfl

end Piece

/-! ## Parts -/

inductive TextPart where
  | literal (chars : List Char)
  | placeholder (name : List Char)
  deriving DecidableEq, Repr

namespace TextPart

def isLiteral : TextPart → Bool
  | .literal _ => true
  | .placeholder _ => false

def pieces : TextPart → List Piece
  | .literal chars => chars.map .literal
  | .placeholder name => [.placeholder name]

def joinChar (char : Char) : List TextPart → List TextPart
  | .literal chars :: rest => .literal (char :: chars) :: rest
  | parts => .literal [char] :: parts

def ofPieces : List Piece → List TextPart
  | [] => []
  | .literal char :: rest => joinChar char (ofPieces rest)
  | .placeholder name :: rest => .placeholder name :: ofPieces rest

end TextPart

/-- A text taken apart: placeholders, and between them literal parts in which there is none. No
literal part is empty, and no two stand side by side. -/
inductive ConsistsOf : List Char → List TextPart → Prop
  | nil : ConsistsOf [] []
  | placeholder {name text : List Char} {parts : List TextPart} (isName : IsVariableName name)
      (rest : ConsistsOf text parts) :
      ConsistsOf (placeholderChars name ++ text) (.placeholder name :: parts)
  | literal {chars text : List Char} {parts : List TextPart} (given : chars ≠ [])
      (noPlaceholder : ¬ HoldsPlaceholder chars)
      (apart : ∀ next ∈ parts.head?, next.isLiteral = false) (rest : ConsistsOf text parts) :
      ConsistsOf (chars ++ text) (.literal chars :: parts)

namespace ConsistsOf

open TextPart

variable {text : List Char} {parts : List TextPart}

theorem joinChar {char : Char} (noPlaceholder : ¬ BeginsPlaceholder (char :: text))
    (consists : ConsistsOf text parts) :
    ConsistsOf (char :: text) (TextPart.joinChar char parts) := by
  have lone : ¬ HoldsPlaceholder [char] := by
    rw [holdsPlaceholder_cons_iff, not_or]
    exact ⟨fun begins => noPlaceholder (begins.append text), not_holdsPlaceholder_nil⟩
  cases consists with
  | nil => exact .literal (List.cons_ne_nil char []) lone (by simp) .nil
  | placeholder isName rest =>
      exact .literal (List.cons_ne_nil char []) lone (by simp [isLiteral])
        (.placeholder isName rest)
  | @literal chars _ _ given none apart rest =>
      refine .literal (List.cons_ne_nil char chars) ?_ apart rest
      rw [holdsPlaceholder_cons_iff, not_or]
      exact ⟨fun begins => noPlaceholder (begins.append _), none⟩

/-- What follows a literal part begins with a dollar sign. -/
theorem dollar_of_head? (consists : ConsistsOf text parts)
    (apart : ∀ next ∈ parts.head?, next.isLiteral = false) : ∀ first ∈ text.head?, first = '$' := by
  cases consists with
  | nil => simp
  | placeholder isName rest => simp [placeholderChars]
  | literal => exact absurd (apart _ rfl) (by simp [isLiteral])

end ConsistsOf

/-- Reading from left to right takes a text apart. -/
theorem consistsOf_ofText (text : List Char) :
    ConsistsOf text (TextPart.ofPieces (Piece.ofText text)) := by
  fun_induction Piece.ofText text with
  | case1 => exact .nil
  | case2 rest name after found shorter induction =>
      rcases Piece.name?_eq_some_iff.mp found with ⟨isName, same⟩
      rw [← same]
      exact induction.placeholder isName
  | case3 rest none induction =>
      refine induction.joinChar ?_
      rintro ⟨name, isName, after, same⟩
      cases none.symm.trans (Piece.name?_eq_some_iff.mpr ⟨isName, same⟩)
  | case4 char rest other induction =>
      refine induction.joinChar ?_
      rintro ⟨name, isName, after, same⟩
      exact other (List.cons.inj same).1.symm

open TextPart

theorem ofText_append_literal {chars rest : List Char} (noPlaceholder : ¬ HoldsPlaceholder chars)
    (next : ∀ first ∈ rest.head?, first = '$') :
    Piece.ofText (chars ++ rest) = chars.map .literal ++ Piece.ofText rest := by
  induction chars with
  | nil => rfl
  | cons char chars induction =>
      rw [holdsPlaceholder_cons_iff, not_or] at noPlaceholder
      rw [List.cons_append, Piece.ofText_literal, induction noPlaceholder.2]
      · rfl
      · exact fun begins => noPlaceholder.1 (beginsPlaceholder_of_append next begins)

theorem ConsistsOf.ofText_eq {text : List Char} {parts : List TextPart}
    (consists : ConsistsOf text parts) : Piece.ofText text = parts.flatMap pieces := by
  induction consists with
  | nil => rw [Piece.ofText, List.flatMap_nil]
  | placeholder isName rest induction =>
      rw [Piece.ofText_placeholder isName, induction]
      rfl
  | literal given noPlaceholder apart rest induction =>
      rw [ofText_append_literal noPlaceholder (rest.dollar_of_head? apart), induction]
      rfl

theorem ofPieces_literals {chars : List Char} {rest : List Piece} (given : chars ≠ [])
    (apart : ∀ next ∈ (ofPieces rest).head?, next.isLiteral = false) :
    ofPieces (chars.map .literal ++ rest) = .literal chars :: ofPieces rest := by
  induction chars with
  | nil => exact absurd rfl given
  | cons char chars induction =>
      cases chars with
      | nil =>
          change joinChar char (ofPieces rest) = _
          unfold joinChar
          split
          · rename_i same
            rw [same] at apart
            exact absurd (apart _ rfl) (by simp [isLiteral])
          · rfl
      | cons second more =>
          have later := induction (List.cons_ne_nil second more)
          change joinChar char (ofPieces ((second :: more).map .literal ++ rest)) = _
          rw [later]
          rfl

theorem ConsistsOf.ofPieces_eq {text : List Char} {parts : List TextPart}
    (consists : ConsistsOf text parts) : ofPieces (parts.flatMap pieces) = parts := by
  induction consists with
  | nil => rfl
  | @placeholder name _ _ isName rest induction =>
      exact congrArg (TextPart.placeholder name :: ·) induction
  | literal given noPlaceholder apart rest induction =>
      rw [List.flatMap_cons]
      refine (ofPieces_literals given ?_).trans (by rw [induction])
      rwa [induction]

/-- There is one way to take a text apart. -/
theorem ConsistsOf.unique {text : List Char} {parts others : List TextPart}
    (consists : ConsistsOf text parts) (othersConsist : ConsistsOf text others) :
    others = parts := by
  rw [← othersConsist.ofPieces_eq, ← othersConsist.ofText_eq, consists.ofText_eq,
    consists.ofPieces_eq]

/-! ## Values -/

def Value.ofPaths (paths : List (String × Value)) : Value :=
  .map (paths.map fun (name, value) => (.text name, value))

theorem lookup?_ofPaths (paths : List (String × Value)) (name : String) :
    Value.lookup? (.text name) (paths.map fun (name, value) => (.text name, value)) =
      paths.lookup name := by
  induction paths with
  | nil => rfl
  | cons entry rest induction =>
      rcases entry with ⟨other, value⟩
      have same : (Value.text other).sameKey (.text name) = (name == other) := BEq.comm
      rw [List.map_cons, Value.lookup?, same, List.lookup_cons, induction]
      cases name == other <;> rfl

def TextPart.value? (paths : List (String × Value)) : TextPart → Option String
  | .literal chars => some (String.ofList chars)
  | .placeholder name =>
      ((paths.lookup (String.ofList name)).filter Value.isWritable).map Value.plain

inductive IsAbsent (paths : List (String × Value)) (name : String) : Problem → Prop where
  | unknown (absent : paths.lookup name = none) :
      IsAbsent paths name (.manifest (.unknownVariable name))
  | overlong {value : Value} (given : paths.lookup name = some value)
      (unwritable : value.isWritable = false) : IsAbsent paths name (.misfit .tooManyDigits)

def FirstAbsent (paths : List (String × Value)) (parts : List TextPart) (problem : Problem) :
    Prop :=
  ∃ before name after, parts = before ++ .placeholder name.toList :: after ∧
    (∀ earlier ∈ before, (earlier.value? paths).isSome = true) ∧ IsAbsent paths name problem

def expandPieces (values : Value) (pieces : List Piece) : Except Problem String := do
  return String.ofList (← pieces.mapM (Piece.expand values)).flatten

theorem expandPieces_append (values : Value) (first second : List Piece) :
    expandPieces values (first ++ second) = (do
      let before ← expandPieces values first
      let after ← expandPieces values second
      return before ++ after) := by
  simp only [expandPieces, List.mapM_append, bind_assoc, pure_bind, List.flatten_append,
    String.ofList_append]

section

variable {paths : List (String × Value)} {part : TextPart} {parts : List TextPart}

theorem expand_placeholder (paths : List (String × Value)) (chars : List Char) :
    Piece.expand (.ofPaths paths) (.placeholder chars) =
      match paths.lookup (String.ofList chars) with
      | some value => (value.write.mapError Problem.misfit).map String.toList
      | none => .error (.manifest (.unknownVariable (String.ofList chars))) := by
  rw [← lookup?_ofPaths]
  unfold Piece.expand Value.ofPaths Value.holds Value.under
  dsimp only
  cases Value.lookup? (.text (String.ofList chars))
    (paths.map fun (name, value) => (.text name, value)) <;> rfl

theorem exists_absent {name : String}
    (absent : (TextPart.placeholder name.toList).value? paths = none) :
    ∃ problem, IsAbsent paths name problem := by
  simp only [TextPart.value?, String.ofList_toList, Option.map_eq_none_iff] at absent
  cases given : paths.lookup name with
  | none => exact ⟨_, .unknown given⟩
  | some value =>
      rw [given, Option.filter_eq_none_iff] at absent
      exact ⟨_, .overlong given (Bool.eq_false_iff.mpr (absent value rfl))⟩

theorem expandPieces_of_value {value : String} (found : part.value? paths = some value) :
    expandPieces (.ofPaths paths) part.pieces = .ok value := by
  cases part with
  | literal chars =>
      cases found
      have each : (chars.map Piece.literal).mapM (Piece.expand (.ofPaths paths)) =
          .ok (chars.map ([·])) := by
        induction chars with
        | nil => rfl
        | cons char rest induction =>
            rw [List.map_cons, List.mapM_cons, induction]
            rfl
      have together : (chars.map ([·])).flatten = chars := by
        rw [← List.flatMap_def, List.flatMap_singleton']
      rw [expandPieces, TextPart.pieces, each]
      exact congrArg (Except.ok <| String.ofList ·) together
  | placeholder name =>
      rcases Option.map_eq_some_iff.mp found with ⟨given, filtered, rfl⟩
      rcases Option.filter_eq_some_iff.mp filtered with ⟨isGiven, writable⟩
      have expanded := expand_placeholder paths name
      rw [isGiven] at expanded
      dsimp only at expanded
      rw [Value.write_eq_ok writable] at expanded
      have whole : String.ofList [given.plain.toList].flatten = given.plain := by simp
      rw [expandPieces, TextPart.pieces, List.mapM_cons, expanded]
      exact congrArg Except.ok whole

theorem expandPieces_of_absent {name : String} {problem : Problem}
    (absent : IsAbsent paths name problem) (rest : List Piece) :
    expandPieces (.ofPaths paths) (.placeholder name.toList :: rest) = .error problem := by
  have expanded := expand_placeholder paths name.toList
  rw [String.ofList_toList] at expanded
  rw [expandPieces, List.mapM_cons, expanded]
  cases absent with
  | unknown absent =>
      rw [absent]
      rfl
  | overlong given unwritable =>
      rw [given]
      dsimp only
      rw [Value.write_eq_error unwritable]
      rfl

theorem expandPieces_of_values {values : List String}
    (found : List.Forall₂ (fun part value => part.value? paths = some value) parts values) :
    expandPieces (.ofPaths paths) (parts.flatMap TextPart.pieces) =
      .ok (String.join values) := by
  induction found with
  | nil => rfl
  | cons here _ induction =>
      rw [List.flatMap_cons, expandPieces_append, expandPieces_of_value here, induction,
        String.join_cons]
      rfl

theorem exists_values (known : ∀ part ∈ parts, (part.value? paths).isSome = true) :
    ∃ values, List.Forall₂ (fun part value => TextPart.value? paths part = some value)
      parts values := by
  induction parts with
  | nil => exact ⟨[], .nil⟩
  | cons part rest induction =>
      rcases Option.isSome_iff_exists.mp (known part List.mem_cons_self) with ⟨value, here⟩
      rcases induction fun other member => known other (List.mem_cons_of_mem part member) with
        ⟨values, later⟩
      exact ⟨value :: values, .cons here later⟩

theorem expandPieces_of_firstAbsent {problem : Problem}
    (first : FirstAbsent paths parts problem) :
    expandPieces (.ofPaths paths) (parts.flatMap TextPart.pieces) = .error problem := by
  rcases first with ⟨before, name, after, rfl, known, absent⟩
  rcases exists_values known with ⟨values, found⟩
  rw [List.flatMap_append, List.flatMap_cons, expandPieces_append, expandPieces_of_values found,
    TextPart.pieces, List.singleton_append, expandPieces_of_absent absent]
  rfl

/-- All placeholders have values, or there is a first one that has none. -/
theorem known_or_firstAbsent (paths : List (String × Value)) (parts : List TextPart) :
    (∀ part ∈ parts, (part.value? paths).isSome = true) ∨
      ∃ problem, FirstAbsent paths parts problem := by
  rcases forall_or_exists_first (fun part => (TextPart.value? paths part).isSome = true) parts with
    known | ⟨before, part, after, split, known, absent⟩
  · exact .inl known
  · cases part with
    | literal chars => exact absurd rfl absent
    | placeholder chars =>
        rw [← String.toList_ofList (l := chars)] at split absent
        rcases exists_absent (Option.not_isSome_iff_eq_none.mp absent) with ⟨problem, why⟩
        exact .inr ⟨problem, before, String.ofList chars, after, split, known, why⟩

end

/-! ## The whole -/

/-- What a text comes to with the values of its variables: every literal part stays as it is, and
every placeholder gives way to the text of its value, which is not looked at again. The first name
that has no text is a problem, and nothing else is. -/
structure Expands (paths : List (String × Value)) (parts : List TextPart)
    (outcome : Except Problem String) : Prop where
  ok_iff : ∀ result, outcome = .ok result ↔ ∃ values,
    List.Forall₂ (fun part value => TextPart.value? paths part = some value) parts values ∧
      result = String.join values
  error_iff : ∀ problem, outcome = .error problem ↔ FirstAbsent paths parts problem
  fails_iff : (∃ problem, outcome = .error problem) ↔
    ∃ name, .placeholder name ∈ parts ∧
      ∀ value, paths.lookup (String.ofList name) = some value → value.isWritable = false

theorem expands_parts (paths : List (String × Value)) (parts : List TextPart) :
    Expands paths parts (expandPieces (.ofPaths paths) (parts.flatMap TextPart.pieces)) where
  ok_iff result := by
    constructor
    · intro expanded
      rcases known_or_firstAbsent paths parts with known | ⟨problem, first⟩
      · rcases exists_values known with ⟨values, found⟩
        cases expanded.symm.trans (expandPieces_of_values found)
        exact ⟨values, found, rfl⟩
      · cases expanded.symm.trans (expandPieces_of_firstAbsent first)
    · rintro ⟨values, found, rfl⟩
      exact expandPieces_of_values found
  error_iff problem := by
    constructor
    · intro failed
      rcases known_or_firstAbsent paths parts with known | ⟨other, first⟩
      · rcases exists_values known with ⟨values, found⟩
        cases failed.symm.trans (expandPieces_of_values found)
      · cases failed.symm.trans (expandPieces_of_firstAbsent first)
        exact first
    · exact expandPieces_of_firstAbsent
  fails_iff := by
    rcases known_or_firstAbsent paths parts with known | ⟨problem, first⟩
    · rcases exists_values known with ⟨values, found⟩
      refine iff_of_false ?_ ?_
      · rw [expandPieces_of_values found]
        nofun
      · rintro ⟨name, member, absent⟩
        rcases Option.isSome_iff_exists.mp (known _ member) with ⟨text, here⟩
        rcases Option.map_eq_some_iff.mp here with ⟨value, filtered, -⟩
        rcases Option.filter_eq_some_iff.mp filtered with ⟨given, writable⟩
        exact Bool.false_ne_true ((absent value given).symm.trans writable)
    · refine iff_of_true ⟨_, expandPieces_of_firstAbsent first⟩ ?_
      rcases first with ⟨before, name, after, rfl, _, absent⟩
      refine ⟨name.toList, List.mem_append_cons_self, ?_⟩
      rw [String.ofList_toList]
      intro value given
      cases absent with
      | unknown unknown => cases given.symm.trans unknown
      | overlong known unwritable =>
          cases given.symm.trans known
          exact unwritable

/-- A value that names its own variable, behind a dollar sign and before an open brace. -/
example : (expandVariables (.ofPaths [("a", .text "$\x7ba\x7d")])
    "$$\x7ba\x7d$\x7bb").toOption = some "$$\x7ba\x7d$\x7bb" := by
  decide +kernel

end Montage

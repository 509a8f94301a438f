import Montage.Graph.Node

/-! The characters of a graph's text as they are meant: signs, and characters that are literal
because they stand in quotes or behind a backslash. Every option value is read back from its
text. -/

namespace Montage

inductive Mark where
  | bare (char : Char)
  | literal (char : Char)
  deriving DecidableEq, Repr

inductive Standing where
  | outside
  | inQuotes
  | escaped

namespace Mark

def char : Mark → Char
  | .bare char | .literal char => char

def textOf (marks : List Mark) : String :=
  String.ofList (marks.map char)

/-- Quotes make what they hold literal, and a backslash outside of them the next character.
There is nothing to take from a text that ends in quotes or behind a backslash. -/
def ofChars : Standing → List Char → Option (List Mark)
  | .outside, [] => some []
  | .outside, char :: rest =>
      if char = '\'' then ofChars .inQuotes rest
      else if char = '\\' then ofChars .escaped rest
      else (ofChars .outside rest).map (.bare char :: ·)
  | .inQuotes, [] => none
  | .inQuotes, char :: rest =>
      if char = '\'' then ofChars .outside rest
      else (ofChars .inQuotes rest).map (.literal char :: ·)
  | .escaped, [] => none
  | .escaped, char :: rest => (ofChars .outside rest).map (.literal char :: ·)

example : ofChars .outside "a'b:'\\'".toList =
    some [.bare 'a', .literal 'b', .literal ':', .literal '\''] := by decide

/-- A text that is taken for these marks, whatever follows it. -/
def Written (text : List Char) (marks : List Mark) : Prop :=
  ∀ rest, ofChars .outside (text ++ rest) = (ofChars .outside rest).map (marks ++ ·)

namespace Written

variable {text first second : List Char} {marks : List Mark}

theorem ofChars_eq (written : Written text marks) : ofChars .outside text = some marks := by
  have whole := written []
  rw [List.append_nil] at whole
  rw [whole]
  simp [ofChars]

theorem nil : Written [] [] := by
  intro rest
  simp

theorem append {firstMarks secondMarks : List Mark} (early : Written first firstMarks)
    (late : Written second secondMarks) :
    Written (first ++ second) (firstMarks ++ secondMarks) := by
  intro rest
  rw [List.append_assoc, early, late, Option.map_map]
  congr 1
  funext marks
  exact (List.append_assoc firstMarks secondMarks marks).symm

theorem bare {char : Char} (notQuote : char ≠ '\'') (notBackslash : char ≠ '\\') :
    Written [char] [.bare char] := by
  intro rest
  simp [ofChars, notQuote, notBackslash]

theorem ofUnquoted (unquoted : ∀ char ∈ text, char ≠ '\'' ∧ char ≠ '\\') :
    Written text (text.map .bare) := by
  induction text with
  | nil => exact nil
  | cons first rest induction =>
      have here := unquoted first List.mem_cons_self
      exact (bare here.1 here.2).append
        (induction fun char member => unquoted char (List.mem_cons_of_mem first member))

theorem flatMap {α : Type} {items : List α} {chars : α → List Char} {marksOf : α → List Mark}
    (each : ∀ item ∈ items, Written (chars item) (marksOf item)) :
    Written (items.flatMap chars) (items.flatMap marksOf) := by
  induction items with
  | nil => exact nil
  | cons item rest induction =>
      rw [List.flatMap_cons, List.flatMap_cons]
      exact (each item List.mem_cons_self).append
        (induction fun other member => each other (List.mem_cons_of_mem item member))

theorem intercalate {α : Type} {items : List α} {chars : α → List Char}
    {marksOf : α → List Mark} {separator : Char} (sign : Written [separator] [.bare separator])
    (each : ∀ item ∈ items, Written (chars item) (marksOf item)) :
    Written ([separator].intercalate (items.map chars))
      ([.bare separator].intercalate (items.map marksOf)) := by
  induction items with
  | nil => exact nil
  | cons item rest induction =>
      have here := each item List.mem_cons_self
      have later := induction fun other member => each other (List.mem_cons_of_mem item member)
      cases rest with
      | nil => simpa using here
      | cons next rest =>
          simp only [List.map_cons, List.intercalate_cons_cons] at later ⊢
          exact (here.append sign).append later

end Written

/-! ## Option values -/

theorem ofChars_inQuotes (value rest : List Char) :
    ofChars .inQuotes (value.flatMap closeAroundQuote ++ '\'' :: rest) =
      (ofChars .outside rest).map (value.map .literal ++ ·) := by
  induction value with
  | nil => simp [ofChars]
  | cons first value induction =>
      -- A quote closes the quotes, stands behind a backslash, and opens them again.
      have once : ofChars .inQuotes (closeAroundQuote first ++
          (value.flatMap closeAroundQuote ++ '\'' :: rest)) =
            (ofChars .inQuotes (value.flatMap closeAroundQuote ++ '\'' :: rest)).map
              (.literal first :: ·) := by
        by_cases quote : first = '\''
        · simp [closeAroundQuote, quote, ofChars]
        · simp [closeAroundQuote, quote, ofChars]
      rw [List.flatMap_cons, List.append_assoc, once, induction, Option.map_map]
      rfl

def isPlainValue (value : List Char) : Bool :=
  !value.isEmpty && !value.any graphSigns.contains

def ofValue (value : List Char) : List Mark :=
  if isPlainValue value then value.map .bare else value.map .literal

theorem plain_of_isPlainValue {value : List Char} (plain : isPlainValue value = true) :
    ∀ char ∈ value, char ∉ graphSigns := by
  simp only [isPlainValue, Bool.and_eq_true, Bool.not_eq_true', List.any_eq_false] at plain
  intro char member sign
  exact plain.2 char member (List.contains_iff_mem.mpr sign)

theorem written_optionChars (value : List Char) : Written (optionChars value) (ofValue value) := by
  unfold optionChars ofValue
  change Written (if isPlainValue value then _ else _) _
  split
  · rename_i plain
    refine .ofUnquoted fun char member => ?_
    have notSign := plain_of_isPlainValue plain char member
    exact ⟨fun same => notSign (same ▸ by decide), fun same => notSign (same ▸ by decide)⟩
  · intro rest
    have quoted := ofChars_inQuotes value rest
    simpa [ofChars] using quoted

theorem map_char_ofValue (value : List Char) : (ofValue value).map char = value := by
  unfold ofValue
  split <;> simp [Function.comp_def, char]

theorem textOf_ofValue (value : String) : textOf (ofValue value.toList) = value := by
  rw [textOf, map_char_ofValue, String.ofList_toList]

/-- Nothing in the text of a value is taken for a sign. -/
theorem sign_not_mem_ofValue {sign : Char} (isSign : sign ∈ graphSigns) (value : List Char) :
    .bare sign ∉ ofValue value := by
  unfold ofValue
  split
  · rename_i plain
    intro member
    obtain ⟨other, otherMember, same⟩ := List.mem_map.mp member
    cases same
    exact plain_of_isPlainValue plain sign otherMember isSign
  · simp

theorem textOf_bare (text : String) : textOf (text.toList.map .bare) = text := by
  simp [textOf, Function.comp_def, char]

end Mark

end Montage

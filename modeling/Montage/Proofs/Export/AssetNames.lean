import Mathlib.Data.List.Basic
import Mathlib.Data.List.Nodup
import Montage.Export.Extraction
import Montage.Proofs.Files.Tree
import Montage.Proofs.Number.Decimal

/-! The names of the files that streams are extracted into. They can be read back: which
stream, which track, and the place of the clip on it. -/

namespace Montage

theorem ordinalText_toList (ordinal : Nat) :
    (Workspace.ordinalText ordinal).toList = paddedDigits 3 ordinal := by
  have notNegative : ¬ (ordinal : Int) < 0 := by omega
  simp [Workspace.ordinalText, notNegative]

/-! ## Tracks in names -/

namespace Track

variable {track other : Track}

theorem literal_numbered (number : Int) : (Track.numbered number).literal = integerText number := by
  simp [literal, toValue, Value.literal]

theorem literal_truth (value : Bool) :
    (Track.truth value).literal = if value then "True" else "False" := by
  cases value <;> simp [literal, toValue, Value.literal]

theorem isAlphanum_of_mem_literal (nonneg : 0 ≤ track.number) {char : Char}
    (member : char ∈ track.literal.toList) : char.isAlphanum = true := by
  cases track with
  | numbered number =>
      change 0 ≤ number at nonneg
      rw [literal_numbered, integerText_toList_of_nonneg nonneg] at member
      have digit := isDigit_of_mem_toDigits member
      simp [Char.isAlphanum, digit]
  | truth value =>
      rw [literal_truth] at member
      have letters : (if value then "True" else "False").toList.all Char.isAlphanum = true := by
        cases value <;> decide
      exact List.all_eq_true.mp letters char member

theorem literal_numbered_ne_truth {number : Int} (nonneg : 0 ≤ number) (value : Bool) :
    (Track.numbered number).literal ≠ (Track.truth value).literal := by
  intro equal
  have letters : (Track.truth value).literal.toList.all Char.isDigit = false := by
    rw [literal_truth]
    cases value <;> decide
  rcases List.all_eq_false.mp letters with ⟨char, member, notDigit⟩
  rw [← equal, literal_numbered, integerText_toList_of_nonneg nonneg] at member
  exact notDigit (isDigit_of_mem_toDigits member)

theorem literal_injective (nonneg : 0 ≤ track.number) (otherNonneg : 0 ≤ other.number)
    (equal : track.literal = other.literal) : track = other := by
  cases track with
  | numbered number =>
      cases other with
      | numbered second =>
          change 0 ≤ number at nonneg
          change 0 ≤ second at otherNonneg
          have digits := congrArg String.toList equal
          rw [literal_numbered, literal_numbered, integerText_toList_of_nonneg nonneg,
            integerText_toList_of_nonneg otherNonneg] at digits
          have same := toDigits_injective digits
          rw [show number = second by omega]
      | truth value => exact absurd equal (literal_numbered_ne_truth nonneg value)
  | truth value =>
      cases other with
      | numbered number => exact absurd equal.symm (literal_numbered_ne_truth otherNonneg value)
      | truth second =>
          rw [literal_truth, literal_truth] at equal
          cases value <;> cases second <;> first | rfl | exact absurd equal (by decide)

end Track

/-! ## Names of files -/

def assetName (stream : Stream) (track : Track) (ordinal : Nat) : String :=
  stream.name ++ "-t" ++ track.literal ++ "-" ++ Workspace.ordinalText ordinal ++ "." ++
    stream.format

theorem Workspace.assetPath_eq (workspace : Workspace) (stream : Stream) (track : Track)
    (ordinal : Nat) :
    workspace.assetPath stream.name track ordinal stream.format =
      workspace.file (assetName stream track ordinal) := rfl

theorem assetName_toList (stream : Stream) (track : Track) (ordinal : Nat) :
    (assetName stream track ordinal).toList =
      stream.name.toList ++ ('-' :: 't' :: (track.literal.toList ++
        '-' :: (paddedDigits 3 ordinal ++ '.' :: stream.format.toList))) := by
  simp [assetName, ordinalText_toList]

theorem Stream.isAlphanum_of_mem (stream : Stream) {char : Char}
    (member : char ∈ stream.name.toList ∨ char ∈ stream.format.toList) :
    char.isAlphanum = true := by
  have all : (stream.name.toList ++ stream.format.toList).all Char.isAlphanum = true := by
    cases stream <;> decide
  exact List.all_eq_true.mp all char (List.mem_append.mpr member)

/-- A name tells the stream, the track and the place on it. -/
theorem assetName_injective {stream other : Stream} {track otherTrack : Track}
    {ordinal otherOrdinal : Nat} (nonneg : 0 ≤ track.number) (otherNonneg : 0 ≤ otherTrack.number)
    (equal : assetName stream track ordinal = assetName other otherTrack otherOrdinal) :
    stream = other ∧ track = otherTrack ∧ ordinal = otherOrdinal := by
  have chars := congrArg String.toList equal
  rw [assetName_toList, assetName_toList] at chars
  have sameStream : stream = other := by
    cases stream <;> cases other <;> first | rfl | exact absurd (List.cons.inj chars).1 (by decide)
  subst sameStream
  have behind := (List.cons.inj (List.cons.inj (List.append_cancel_left chars)).2).2
  have noneBefore : '-' ∉ track.literal.toList := fun member =>
    absurd (Track.isAlphanum_of_mem_literal nonneg member) (by decide)
  have noneBehind : '-' ∉ paddedDigits 3 ordinal ++ '.' :: stream.format.toList := by
    intro member
    rw [List.mem_append, List.mem_cons] at member
    rcases member with member | point | member
    · exact absurd (isDigit_of_mem_paddedDigits member) (by decide)
    · exact absurd point (by decide)
    · exact absurd (stream.isAlphanum_of_mem (.inr member)) (by decide)
  rcases (List.append_cons_inj_of_notMem noneBefore noneBehind).mp behind with
    ⟨literals, _, ordinals⟩
  exact ⟨rfl, Track.literal_injective nonneg otherNonneg (String.toList_inj.mp literals),
    paddedDigits_injective (List.append_cancel_right ordinals)⟩

theorem isFileName_of_chars {name : String} (long : 3 ≤ name.toList.length)
    (plain : ∀ char ∈ name.toList, char.isAlphanum = true ∨ char = '-' ∨ char = '.') :
    FileTree.IsFileName name where
  isName := by
    refine ⟨?_, fun member => absurd (plain '/' member) (by decide)⟩
    have notEmpty : name.toList ≠ [] := fun empty => absurd long (by simp [empty])
    have notPoint : name.toList ≠ ['.'] := fun point => absurd long (by simp [point])
    rw [Path.isPart, Bool.and_eq_true, bne_iff_ne]
    exact ⟨by simpa using notEmpty, notPoint⟩
  notBack := by
    rintro rfl
    exact absurd long (by decide)
  noNul := fun member => absurd (plain '\x00' member) (by decide)

theorem isFileName_assetName (stream : Stream) {track : Track} (nonneg : 0 ≤ track.number)
    (ordinal : Nat) : FileTree.IsFileName (assetName stream track ordinal) := by
  apply isFileName_of_chars
  · have long := length_paddedDigits 3 ordinal
    simp only [assetName_toList, List.length_append, List.length_cons]
    omega
  · intro char member
    simp only [assetName_toList, List.mem_append, List.mem_cons] at member
    rcases member with member | rfl | rfl | member | rfl | member | rfl | member
    · exact .inl (stream.isAlphanum_of_mem (.inl member))
    · exact .inr (.inl rfl)
    · exact .inl rfl
    · exact .inl (Track.isAlphanum_of_mem_literal nonneg member)
    · exact .inr (.inl rfl)
    · exact .inl (by simp [Char.isAlphanum, isDigit_of_mem_paddedDigits member])
    · exact .inr (.inr rfl)
    · exact .inl (stream.isAlphanum_of_mem (.inr member))

end Montage

import Mathlib.Data.List.Basic
import Mathlib.Data.List.Induction
import Montage.Files.Path

/-! Paths in normal form: what the text of such a path names is the path itself. -/

namespace Montage.Path

/-! ## Pieces between slashes -/

theorem pieces_cons_of_ne {char : Char} (notSlash : char ≠ '/') (rest : List Char) :
    ∃ first more, pieces rest = first :: more ∧
      pieces (char :: rest) = (char :: first) :: more := by
  induction rest generalizing char with
  | nil => exact ⟨[], [], rfl, by rw [pieces.eq_3 _ _ notSlash]; rfl⟩
  | cons next rest induction =>
      rw [pieces.eq_3 _ _ notSlash]
      by_cases slash : next = '/'
      · subst slash
        exact ⟨[], pieces rest, rfl, rfl⟩
      · rcases induction slash with ⟨first, more, _, same⟩
        exact ⟨next :: first, more, same, by rw [same]⟩

theorem slash_not_mem_of_mem_pieces {text piece : List Char} (member : piece ∈ pieces text) :
    '/' ∉ piece := by
  induction text generalizing piece with
  | nil =>
      rw [List.mem_singleton.mp member]
      exact List.not_mem_nil
  | cons char rest induction =>
      by_cases slash : char = '/'
      · subst slash
        rcases List.mem_cons.mp member with rfl | member
        · exact List.not_mem_nil
        · exact induction member
      · rcases pieces_cons_of_ne slash rest with ⟨first, more, restPieces, same⟩
        rw [same] at member
        rw [restPieces] at induction
        rcases List.mem_cons.mp member with rfl | member
        · rw [List.mem_cons, not_or]
          exact ⟨Ne.symm slash, induction List.mem_cons_self⟩
        · exact induction (List.mem_cons_of_mem first member)

theorem pieces_of_not_mem {piece : List Char} (plain : '/' ∉ piece) : pieces piece = [piece] := by
  induction piece with
  | nil => rfl
  | cons char rest induction =>
      rw [List.mem_cons, not_or] at plain
      rw [pieces.eq_3 _ _ (Ne.symm plain.1), induction plain.2]

theorem pieces_append_slash {piece : List Char} (plain : '/' ∉ piece) (rest : List Char) :
    pieces (piece ++ '/' :: rest) = piece :: pieces rest := by
  induction piece with
  | nil => rfl
  | cons char chars induction =>
      rw [List.mem_cons, not_or] at plain
      rw [List.cons_append, pieces.eq_3 _ _ (Ne.symm plain.1), induction plain.2]

theorem pieces_intercalate {names : List (List Char)} (some : names ≠ [])
    (plain : ∀ name ∈ names, '/' ∉ name) : pieces (List.intercalate ['/'] names) = names := by
  induction names with
  | nil => exact absurd rfl some
  | cons first rest induction =>
      have firstPlain := plain first List.mem_cons_self
      cases rest with
      | nil => simpa using pieces_of_not_mem firstPlain
      | cons second more =>
          rw [List.intercalate_cons_cons, List.append_assoc, List.singleton_append,
            pieces_append_slash firstPlain,
            induction (List.cons_ne_nil _ _) fun name member =>
              plain name (List.mem_cons_of_mem first member)]

/-! ## Normal form -/

def IsName (name : String) : Prop :=
  isPart name.toList = true ∧ '/' ∉ name.toList

structure IsNormal (path : Path) : Prop where
  root : path.root = "" ∨ path.root = "/" ∨ path.root = "//"
  names : ∀ part ∈ path.parts, IsName part

theorem isNormal_ofText (text : String) : (ofText text).IsNormal where
  root := by
    simp only [ofText, rootOf]
    split <;> simp
  names := by
    intro part member
    rcases List.mem_map.mp member with ⟨piece, pieceMember, rfl⟩
    rcases List.mem_filter.mp pieceMember with ⟨inPieces, isPart⟩
    unfold IsName
    rw [String.toList_ofList]
    exact ⟨isPart, slash_not_mem_of_mem_pieces inPieces⟩

theorem IsNormal.join {base path : Path} (baseNormal : base.IsNormal) (normal : path.IsNormal) :
    (base.join path).IsNormal := by
  unfold Path.join
  split
  · refine ⟨baseNormal.root, fun part member => ?_⟩
    rcases List.mem_append.mp member with member | member
    · exact baseNormal.names part member
    · exact normal.names part member
  · exact normal

theorem IsNormal.child {base : Path} (normal : base.IsNormal) (name : String) :
    (base.child name).IsNormal :=
  normal.join (isNormal_ofText name)

theorem ofText_of_isName {name : String} (isName : IsName name) : ofText name = ⟨"", [name]⟩ := by
  have onePiece := pieces_of_not_mem isName.2
  have noRoot : name.toList.takeWhile (· == '/') = [] := by
    cases chars : name.toList with
    | nil => rfl
    | cons first rest =>
        have notSlash : first ≠ '/' := by
          rintro rfl
          exact isName.2 (by simp [chars])
        simp [notSlash]
  simp [ofText, rootOf, noRoot, onePiece, isName.1]

theorem child_of_isName (base : Path) {name : String} (isName : IsName name) :
    base.child name = { base with parts := base.parts ++ [name] } := by
  simp [child, ofText_of_isName isName, join]

/-! ## Texts -/

def joinedNames (path : Path) : List Char :=
  List.intercalate ['/'] (path.parts.map String.toList)

theorem filter_pieces_joinedNames {path : Path} (names : ∀ part ∈ path.parts, IsName part) :
    (pieces path.joinedNames).filter isPart = path.parts.map String.toList := by
  unfold joinedNames
  by_cases some : path.parts = []
  · rw [some]
    rfl
  · rw [pieces_intercalate (by simpa using some)]
    · rw [List.filter_eq_self]
      intro name member
      rcases List.mem_map.mp member with ⟨part, partMember, rfl⟩
      exact (names part partMember).1
    · intro name member
      rcases List.mem_map.mp member with ⟨part, partMember, rfl⟩
      exact (names part partMember).2

theorem takeWhile_append_joinedNames {path : Path} (names : ∀ part ∈ path.parts, IsName part)
    (slashes : Nat) :
    (List.replicate slashes '/' ++ path.joinedNames).takeWhile (· == '/') =
      List.replicate slashes '/' := by
  have noneBefore : path.joinedNames.takeWhile (· == '/') = [] := by
    unfold joinedNames
    cases parts : path.parts with
    | nil => rfl
    | cons part rest =>
        rcases names part (by simp [parts]) with ⟨isPart, plain⟩
        cases chars : part.toList with
        | nil => simp [chars, Path.isPart] at isPart
        | cons first more =>
            have notSlash : first ≠ '/' := by
              rintro rfl
              exact plain (by simp [chars])
            cases rest with
            | nil => simp [chars, notSlash]
            | cons second others => simp [List.intercalate_cons_cons, chars, notSlash]
  rw [List.takeWhile_append_of_pos (by simp), noneBefore, List.append_nil]

theorem filter_pieces_slashes (slashes : Nat) (rest : List Char) :
    (pieces (List.replicate slashes '/' ++ rest)).filter isPart =
      (pieces rest).filter isPart := by
  induction slashes with
  | zero => rfl
  | succ slashes induction =>
      rw [List.replicate_succ, List.cons_append, pieces, List.filter_cons_of_neg (by decide),
        induction]

theorem ofText_of_toList {path : Path} (names : ∀ part ∈ path.parts, IsName part) (slashes : Nat)
    {text : String} (chars : text.toList = List.replicate slashes '/' ++ path.joinedNames) :
    ofText text = ⟨rootOf (List.replicate slashes '/'), path.parts⟩ := by
  have parts : ((pieces text.toList).filter isPart).map String.ofList = path.parts := by
    rw [chars, filter_pieces_slashes, filter_pieces_joinedNames names, List.map_map]
    simp
  have root : rootOf text.toList = rootOf (List.replicate slashes '/') := by
    have all : (List.replicate slashes '/').takeWhile (· == '/') = List.replicate slashes '/' := by
      simp
    rw [chars, rootOf, takeWhile_append_joinedNames names, rootOf, all]
  rw [ofText, parts, root]

theorem text_eq_of_parts_ne_nil {path : Path} (names : ∀ part ∈ path.parts, IsName part)
    (some : path.parts ≠ []) : path.text = path.root ++ "/".intercalate path.parts := by
  have notEmpty : path.root ++ "/".intercalate path.parts ≠ "" := by
    intro empty
    have chars := congrArg String.toList empty
    rw [String.toList_append, String.toList_intercalate, String.toList_empty,
      List.append_eq_nil_iff] at chars
    have noParts := filter_pieces_joinedNames names
    rw [joinedNames, show List.intercalate ['/'] _ = [] from chars.2, eq_comm,
      show (pieces []).filter isPart = [] from rfl, List.map_eq_nil_iff] at noParts
    exact some noParts
  simp only [text, String.isEmpty_iff, notEmpty, if_false]

theorem ofText_text_of_root {path : Path} (names : ∀ part ∈ path.parts, IsName part)
    (some : path.parts ≠ []) (slashes : Nat)
    (rootIs : path.root = String.ofList (List.replicate slashes '/'))
    (sameRoot : rootOf (List.replicate slashes '/') = path.root) : ofText path.text = path := by
  have chars : path.text.toList = List.replicate slashes '/' ++ path.joinedNames := by
    rw [text_eq_of_parts_ne_nil names some, rootIs, String.toList_append, String.toList_ofList,
      String.toList_intercalate]
    rfl
  rw [ofText_of_toList names slashes chars, sameRoot]

/-- The text of a path in normal form names that path. -/
theorem IsNormal.ofText_text {path : Path} (normal : path.IsNormal) : ofText path.text = path := by
  by_cases none : path.parts = []
  · have whole : path = ⟨path.root, []⟩ := by rw [← none]
    rw [whole]
    rcases normal.root with root | root | root <;> rw [root] <;> decide +kernel
  · rcases normal.root with root | root | root
    · exact ofText_text_of_root normal.names none 0 root root.symm
    · exact ofText_text_of_root normal.names none 1 root root.symm
    · exact ofText_text_of_root normal.names none 2 root root.symm

theorem IsNormal.text_child {base : Path} (normal : base.IsNormal) (some : base.parts ≠ [])
    {name : String} (isName : IsName name) : (base.child name).text = base.text ++ "/" ++ name := by
  have baseText := text_eq_of_parts_ne_nil normal.names some
  have childText := text_eq_of_parts_ne_nil (normal.child name).names
    (by simp [child_of_isName base isName])
  rw [childText, baseText, child_of_isName base isName,
    String.intercalate_append_of_ne_nil some (List.cons_ne_nil name []),
    String.intercalate_singleton]
  simp only [String.append_assoc]

/-- What stands before a name in the text of a path does not depend on the name. -/
theorem exists_text_child (base : Path) :
    ∃ front, ∀ name, IsName name → (base.child name).text = front ++ name := by
  have text {name front : String} (isName : IsName name)
      (joined : base.root ++ "/".intercalate (base.parts ++ [name]) = front ++ name) :
      (base.child name).text = front ++ name := by
    have notEmpty : front ++ name ≠ "" := by
      intro empty
      have chars := congrArg String.toList empty
      rw [String.toList_append, String.toList_empty, List.append_eq_nil_iff] at chars
      have part := isName.1
      rw [chars.2] at part
      cases part
    rw [child_of_isName base isName, Path.text]
    simp only [joined, String.isEmpty_iff, notEmpty, if_false]
  by_cases none : base.parts = []
  · refine ⟨base.root, fun name isName => text isName ?_⟩
    rw [none, List.nil_append, String.intercalate_singleton]
  · refine ⟨base.root ++ "/".intercalate base.parts ++ "/", fun name isName => text isName ?_⟩
    rw [String.intercalate_append_of_ne_nil none (List.cons_ne_nil name []),
      String.intercalate_singleton]
    simp only [String.append_assoc]

theorem eq_of_text_child_eq (base : Path) {name other : String} (isName : IsName name)
    (otherIsName : IsName other) (same : (base.child name).text = (base.child other).text) :
    name = other := by
  obtain ⟨front, text⟩ := base.exists_text_child
  rw [text name isName, text other otherIsName] at same
  exact String.append_right_inj front |>.mp same

/-! ## Absolute paths -/

theorem resolved_concat {parts : List String} {name : String} (notBack : name ≠ "..") :
    resolved (parts ++ [name]) = resolved parts ++ [name] := by
  simp only [resolved, List.foldl_append, List.foldl_cons, List.foldl_nil, notBack, if_false]

theorem resolve_child (base : Path) (workingPlace : List String) {name : String}
    (isName : IsName name) (notBack : name ≠ "..") :
    (base.child name).resolve workingPlace =
      ⟨"/", (base.resolve workingPlace).parts ++ [name]⟩ := by
  rw [child_of_isName base isName]
  simp only [resolve, absolute]
  split
  · rw [← List.append_assoc, resolved_concat notBack]
  · rw [resolved_concat notBack]

end Montage.Path

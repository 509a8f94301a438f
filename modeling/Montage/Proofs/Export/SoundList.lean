import Montage.Export.Soundtrack
import Montage.Proofs.Export.AssetNames
import Montage.Proofs.Graph.ReadingBack
import Montage.Proofs.Site

/-! The list of the parts of a sound, read back. A line can hold any path but one with a line feed
in it, and an id may have one. -/

namespace Montage

/-! ## Reading -/

def isBlankMark (mark : Mark) : Bool :=
  [' ', '\t', '\r'].any (mark == .bare ·)

/-- One token, as it is meant: what quotes hold, or what stands behind a backslash, is literal. -/
def readToken (text : List Char) : Option String := do
  let marks ← Mark.ofChars .outside text
  if marks.any isBlankMark then none else some (Mark.textOf marks)

def readListed : List Char → Option String
  | 'f' :: 'i' :: 'l' :: 'e' :: ' ' :: token => readToken token
  | _ => none

def readSoundList (text : String) : Option (List String) :=
  let lines := text.toList.splitOn '\n'
  if lines.getLast? = some [] then lines.dropLast.mapM readListed else none

example : readSoundList "file 'a b'\nfile /c\\'d\n" = some ["a b", "/c'd"] := by decide +kernel
example : readSoundList "file 'a'" = none ∧ readSoundList "file a b\n" = none := by decide +kernel

/-! ## Lines -/

theorem exists_mem_of_mapM_eq_some {α β : Type} {items : List α} {read : α → Option β}
    {results : List β} (all : items.mapM read = some results) {result : β}
    (member : result ∈ results) : ∃ item ∈ items, read item = some result := by
  induction items generalizing results with
  | nil =>
      cases all
      cases member
  | cons item rest induction =>
      rw [List.mapM_cons] at all
      rcases Option.bind_eq_some_iff.mp all with ⟨first, firstRead, all⟩
      rcases Option.bind_eq_some_iff.mp all with ⟨later, laterRead, all⟩
      cases all
      rcases List.mem_cons.mp member with rfl | member
      · exact ⟨item, List.mem_cons_self, firstRead⟩
      · rcases induction laterRead member with ⟨other, otherMember, otherRead⟩
        exact ⟨other, List.mem_cons_of_mem item otherMember, otherRead⟩

theorem not_mem_of_mem_splitOn {α : Type} [BEq α] [LawfulBEq α] {separator : α} {items : List α} :
    ∀ part ∈ items.splitOn separator, separator ∉ part := by
  induction items with
  | nil => simp
  | cons first rest induction =>
      rw [List.splitOn_cons_eq_if_modifyHead]
      split
      · rintro part (_ | ⟨_, member⟩)
        · exact List.not_mem_nil
        · exact induction part member
      · rename_i other
        rcases List.exists_cons_of_ne_nil (List.splitOn_ne_nil separator rest) with
          ⟨head, tail, parts⟩
        rw [parts] at induction ⊢
        rintro part (_ | ⟨_, member⟩)
        · intro inside
          rcases List.mem_cons.mp inside with rfl | inside
          · exact other (beq_self_eq_true _)
          · exact induction head List.mem_cons_self inside
        · exact induction part (List.mem_cons_of_mem head member)

/-- A reader takes no characters but those of the text, in their order. -/
theorem Mark.sublist_of_ofChars {standing : Standing} {text : List Char} {marks : List Mark}
    (read : ofChars standing text = some marks) : (marks.map char).Sublist text := by
  have kept {rest : List Char} {next : Standing} {mark : Mark} {marks : List Mark}
      (induction : ∀ {later}, ofChars next rest = some later → (later.map char).Sublist rest)
      (read : (ofChars next rest).map (mark :: ·) = some marks) :
      (marks.map char).Sublist (mark.char :: rest) := by
    rcases Option.map_eq_some_iff.mp read with ⟨later, laterRead, rfl⟩
    exact (induction laterRead).cons_cons mark.char
  fun_induction ofChars standing text generalizing marks with
  | case1 =>
      cases read
      exact .slnil
  | case2 rest induction => exact .cons _ (induction read)
  | case3 rest _ induction => exact .cons _ (induction read)
  | case4 char rest _ _ induction => exact kept induction read
  | case5 => cases read
  | case6 rest induction => exact .cons _ (induction read)
  | case7 char rest _ induction => exact kept induction read
  | case8 => cases read
  | case9 char rest induction => exact kept induction read

theorem mem_of_readListed {line : List Char} {name : String} (read : readListed line = some name) :
    ∀ char ∈ name.toList, char ∈ line := by
  unfold readListed at read
  split at read
  · rename_i token
    rcases Option.bind_eq_some_iff.mp read with ⟨marks, marksRead, named⟩
    split at named
    · cases named
    · cases named
      intro char member
      rw [Mark.textOf, String.toList_ofList] at member
      have inToken := (Mark.sublist_of_ofChars marksRead).subset member
      simp only [List.mem_cons, inToken, or_true]
  · cases read

/-- No path that is read from a list has a line feed in it. -/
theorem not_mem_of_readSoundList {text : String} {names : List String}
    (read : readSoundList text = some names) : ∀ name ∈ names, '\n' ∉ name.toList := by
  unfold readSoundList at read
  dsimp only at read
  split at read
  · intro name member lineFeed
    rcases exists_mem_of_mapM_eq_some read member with ⟨line, lineMember, lineRead⟩
    exact not_mem_of_mem_splitOn line (List.dropLast_subset _ lineMember)
      (mem_of_readListed lineRead '\n' lineFeed)
  · cases read

theorem readListed_listedChars (path : List Char) :
    readListed (listedChars path) = some (String.ofList path) := by
  have quoted := Mark.ofChars_inQuotes path []
  have marks : Mark.ofChars .outside ('\'' :: (path.flatMap closeAroundQuote ++ ['\''])) =
      some (path.map .literal) := by
    rw [Mark.ofChars, if_pos rfl, quoted, Mark.ofChars, Option.map_some, List.append_nil]
  have noBlank : (path.map Mark.literal).any isBlankMark = false := by
    simp [isBlankMark]
  have text : Mark.textOf (path.map .literal) = String.ofList path := by
    simp [Mark.textOf, Function.comp_def, Mark.char]
  change readToken ('\'' :: (path.flatMap closeAroundQuote ++ ['\''])) = _
  rw [readToken, marks, Option.bind_eq_bind, Option.bind_some, noBlank, text]
  rfl

theorem lineFeed_mem_listedChars_iff (path : List Char) :
    '\n' ∈ listedChars path ↔ '\n' ∈ path := by
  have escaped : ∀ char, '\n' ∈ closeAroundQuote char ↔ '\n' = char := by
    intro char
    unfold closeAroundQuote
    split
    · rename_i quote
      rw [quote]
      decide
    · exact List.mem_singleton
  have front : '\n' ∉ "file '".toList := by decide
  change '\n' ∈ "file '".toList ++ path.flatMap closeAroundQuote ++ ['\''] ↔ _
  simp only [List.mem_append, List.mem_flatMap, escaped, exists_eq_right', front, false_or,
    List.mem_singleton, Char.reduceEq, or_false]

def Host.resolvedTexts (host : Host) (paths : List Path) : List String :=
  paths.map fun path => (host.resolve path).text

theorem Host.listText_toList (host : Host) {paths : List Path} (nonempty : paths ≠ []) :
    (host.listText paths).toList = ['\n'].intercalate
      ((host.resolvedTexts paths).map (fun name => listedChars name.toList) ++ [[]]) := by
  have ended : host.listText paths = "\n".intercalate (paths.map host.listedLine ++ [""]) := by
    rw [String.intercalate_append_of_ne_nil (by simpa using nonempty) (List.cons_ne_nil _ _),
      String.intercalate_singleton, String.append_empty]
    rfl
  rw [ended, String.toList_intercalate]
  simp [resolvedTexts, listedLine, Function.comp_def]

/-- A list is read as the paths it was written for, unless a line feed is in one of them. -/
theorem readSoundList_listText_iff (host : Host) {paths : List Path} (nonempty : paths ≠ []) :
    readSoundList (host.listText paths) = some (host.resolvedTexts paths) ↔
      ∀ path ∈ paths, '\n' ∉ (host.resolve path).text.toList := by
  constructor
  · intro read path member
    exact not_mem_of_readSoundList read _ (List.mem_map_of_mem member)
  · intro noLineFeed
    have apart : ∀ line ∈ (host.resolvedTexts paths).map (fun name => listedChars name.toList) ++
        [[]], '\n' ∉ line := by
      intro line member
      rcases List.mem_append.mp member with member | member
      · rcases List.mem_map.mp member with ⟨name, nameMember, rfl⟩
        rcases List.mem_map.mp nameMember with ⟨path, pathMember, rfl⟩
        exact mt (lineFeed_mem_listedChars_iff _).mp (noLineFeed path pathMember)
      · rw [List.mem_singleton.mp member]
        exact List.not_mem_nil
    have each : ∀ name ∈ host.resolvedTexts paths,
        readListed (listedChars name.toList) = some name := by
      intro name _
      rw [readListed_listedChars, String.ofList_toList]
    rw [readSoundList, host.listText_toList nonempty,
      List.splitOn_intercalate _ apart (List.concat_ne_nil _ _), List.getLast?_concat, if_pos rfl,
      List.dropLast_concat, mapM_map_eq_some each]

/-- Up to a line feed the quotes around a path are not closed. -/
theorem readListed_of_cut (front : List Char) :
    readListed ("file '".toList ++ front.flatMap closeAroundQuote) = none := by
  have unclosed : Mark.ofChars .inQuotes (front.flatMap closeAroundQuote) = none := by
    induction front with
    | nil => rfl
    | cons first rest induction =>
        by_cases quote : first = '\''
        · simp [closeAroundQuote, quote, Mark.ofChars, induction]
        · simp [closeAroundQuote, quote, Mark.ofChars, induction]
  change readToken ('\'' :: front.flatMap closeAroundQuote) = none
  rw [readToken, Mark.ofChars, if_pos rfl, unclosed]
  rfl

theorem splitOn_line {line : List Char} (whole : '\n' ∉ line) (rest : List Char) :
    (line ++ '\n' :: rest).splitOn '\n' = line :: rest.splitOn '\n' := by
  induction line with
  | nil => simp [List.splitOn_cons_eq_if_modifyHead]
  | cons first line induction =>
      have other : first ≠ '\n' := fun same => whole (same ▸ List.mem_cons_self)
      rw [List.cons_append, List.splitOn_cons_eq_if_modifyHead, if_neg (by simpa using other),
        induction fun member => whole (List.mem_cons_of_mem _ member)]
      rfl

theorem exists_unread_line {names : List (List Char)} (broken : ∃ name ∈ names, '\n' ∈ name) :
    ∃ line ∈ ((names.flatMap fun name => listedChars name ++ ['\n']).splitOn '\n').dropLast,
      readListed line = none := by
  induction names with
  | nil => simp at broken
  | cons name rest induction =>
      rw [List.flatMap_cons, List.append_assoc, List.singleton_append]
      by_cases lineFeed : '\n' ∈ name
      · rcases List.eq_append_cons_of_mem lineFeed with ⟨front, back, rfl, whole⟩
        have kept : closeAroundQuote '\n' = ['\n'] := rfl
        have cut : listedChars (front ++ '\n' :: back) =
            ("file '".toList ++ front.flatMap closeAroundQuote) ++
              '\n' :: (back.flatMap closeAroundQuote ++ ['\'']) := by
          change "file '".toList ++ (front ++ '\n' :: back).flatMap closeAroundQuote ++ ['\''] = _
          rw [List.flatMap_append, List.flatMap_cons, kept]
          simp only [List.append_assoc, List.cons_append, List.nil_append]
        have wholeLine : '\n' ∉ "file '".toList ++ front.flatMap closeAroundQuote := by
          have inListed := mt (lineFeed_mem_listedChars_iff front).mp whole
          intro member
          exact inListed (List.mem_append_left _ member)
        rw [cut, List.append_assoc, List.cons_append, splitOn_line wholeLine,
          List.dropLast_cons_of_ne_nil (List.splitOn_ne_nil _ _)]
        exact ⟨_, List.mem_cons_self, readListed_of_cut front⟩
      · rw [splitOn_line (mt (lineFeed_mem_listedChars_iff name).mp lineFeed),
          List.dropLast_cons_of_ne_nil (List.splitOn_ne_nil _ _)]
        have later : ∃ name ∈ rest, '\n' ∈ name := by
          rcases broken with ⟨other, member, inside⟩
          rcases List.mem_cons.mp member with rfl | member
          · exact absurd inside lineFeed
          · exact ⟨other, member, inside⟩
        rcases induction later with ⟨line, member, unread⟩
        exact ⟨line, List.mem_cons_of_mem _ member, unread⟩

theorem mapM_eq_none_of_mem {α β : Type} {items : List α} {read : α → Option β} {item : α}
    (member : item ∈ items) (unread : read item = none) : items.mapM read = none := by
  induction items with
  | nil => cases member
  | cons first rest induction =>
      rw [List.mapM_cons]
      rcases List.mem_cons.mp member with rfl | member
      · rw [unread]
        rfl
      · rw [induction member]
        cases read first <;> rfl

/-- A list names nothing but the paths it was written for. -/
theorem eq_resolvedTexts_of_readSoundList {host : Host} {paths : List Path} {names : List String}
    (nonempty : paths ≠ []) (read : readSoundList (host.listText paths) = some names) :
    names = host.resolvedTexts paths := by
  by_cases noLineFeed : ∀ path ∈ paths, '\n' ∉ (host.resolve path).text.toList
  · exact Option.some.inj
      (read.symm.trans ((readSoundList_listText_iff host nonempty).mpr noLineFeed))
  · push Not at noLineFeed
    have text : (host.listText paths).toList =
        ((host.resolvedTexts paths).map String.toList).flatMap
          fun name => listedChars name ++ ['\n'] := by
      rw [host.listText_toList nonempty, List.flatMap_map]
      generalize host.resolvedTexts paths = texts
      induction texts with
      | nil => rfl
      | cons first rest induction =>
          rw [List.flatMap_cons, ← induction, List.map_cons, List.cons_append,
            List.intercalate_cons_of_ne_nil (List.concat_ne_nil _ _), List.append_assoc]
    have broken : ∃ name ∈ (host.resolvedTexts paths).map String.toList, '\n' ∈ name := by
      rcases noLineFeed with ⟨path, member, inside⟩
      exact ⟨_, List.mem_map_of_mem (List.mem_map_of_mem member), inside⟩
    rcases exists_unread_line broken with ⟨line, member, unread⟩
    rw [← text] at member
    unfold readSoundList at read
    dsimp only at read
    rw [mapM_eq_none_of_mem member unread, ite_self] at read
    cases read

/-! ## Line feeds in paths -/

theorem Host.mem_resolve_text_iff (host : Host) (path : Path) {char : Char}
    (notSlash : char ≠ '/') :
    char ∈ (host.resolve path).text.toList ↔
      ∃ name ∈ (host.resolve path).parts, char ∈ name.toList := by
  have root : (host.resolve path).root = "/" := rfl
  have given : ("/" ++ "/".intercalate (host.resolve path).parts).isEmpty = false := by
    rw [String.isEmpty_eq_false_iff]
    exact fun none => absurd (congrArg String.toList none) (by simp)
  rw [Path.text, root, given]
  have parts := mem_intercalate_iff notSlash ((host.resolve path).parts.map String.toList)
  simpa [notSlash, String.toList_intercalate] using parts

/-- A character of a file's path is in its name or in the path of its folder. -/
theorem Host.mem_resolve_child_iff (host : Host) (folder : Path) {name : String}
    (isName : Path.IsName name) (notBack : name ≠ "..") {char : Char} (notSlash : char ≠ '/') :
    char ∈ (host.resolve (folder.child name)).text.toList ↔
      char ∈ (host.resolve folder).text.toList ∨ char ∈ name.toList := by
  have parts : (host.resolve (folder.child name)).parts = (host.resolve folder).parts ++ [name] :=
    congrArg Path.parts (Path.resolve_child folder host.workingPlace isName notBack)
  simp only [host.mem_resolve_text_iff _ notSlash, parts, List.mem_append, List.mem_singleton,
    or_and_right, exists_or, exists_eq_left]

/-! ## Files of a workspace -/

theorem Track.plain_of_mem_literal (track : Track) {char : Char}
    (member : char ∈ track.literal.toList) : char.isAlphanum = true ∨ char = '-' := by
  by_cases nonneg : 0 ≤ track.number
  · exact .inl (isAlphanum_of_mem_literal nonneg member)
  · cases track with
    | numbered number =>
        rw [literal_numbered, integerText, String.toList_ofList, List.mem_append] at member
        rcases member with sign | digit
        · split at sign
          · exact .inr (List.mem_singleton.mp sign)
          · cases sign
        · exact .inl (by simp [Char.isAlphanum, isDigit_of_mem_toDigits digit])
    | truth value => cases value <;> exact absurd (by decide) nonneg

theorem Workspace.plain_of_mem_ordinalText (ordinal : Int) {char : Char}
    (member : char ∈ (ordinalText ordinal).toList) : char.isAlphanum = true ∨ char = '-' := by
  unfold ordinalText at member
  split at member
  · rw [String.toList_append, List.mem_append] at member
    rcases member with sign | digit
    · exact .inr (by simpa using sign)
    · rw [String.toList_ofList] at digit
      exact .inl (by simp [Char.isAlphanum, isDigit_of_mem_paddedDigits digit])
  · rw [String.toList_ofList] at member
    exact .inl (by simp [Char.isAlphanum, isDigit_of_mem_paddedDigits member])

namespace Workspace

def IsAsset (workspace : Workspace) (path : Path) : Prop :=
  ∃ (stream : Stream) (track : Track) (ordinal : Int),
    path = workspace.assetPath stream.name track ordinal stream.format

def ListsExactly (workspace : Workspace) (host : Host) : Prop :=
  ∀ paths : List Path, paths ≠ [] → (∀ path ∈ paths, workspace.IsAsset path) →
    readSoundList (host.listText paths) = some (host.resolvedTexts paths)

variable {workspace : Workspace} {path : Path} {host after : Host} {id root : Option String}

theorem IsAsset.exists_name (asset : workspace.IsAsset path) :
    ∃ name, FileTree.IsFileName name ∧ '\n' ∉ name.toList ∧ path = workspace.path.child name := by
  rcases asset with ⟨stream, track, ordinal, isPath⟩
  have plain : ∀ char ∈ (stream.name ++ "-t" ++ track.literal ++ "-" ++ ordinalText ordinal ++
      "." ++ stream.format).toList, char.isAlphanum = true ∨ char = '-' ∨ char = '.' := by
    intro char member
    simp only [String.toList_append, List.mem_append] at member
    rcases member with (((((member | member) | member) | member) | member) | member) | member
    · exact .inl (stream.isAlphanum_of_mem (.inl member))
    · rcases (by simpa using member : char = '-' ∨ char = 't') with rfl | rfl
      · exact .inr (.inl rfl)
      · exact .inl rfl
    · exact (track.plain_of_mem_literal member).imp_right .inl
    · exact .inr (.inl (by simpa using member))
    · exact (plain_of_mem_ordinalText ordinal member).imp_right .inl
    · exact .inr (.inr (by simpa using member))
    · exact .inl (stream.isAlphanum_of_mem (.inr member))
  refine ⟨_, isFileName_of_chars ?_ plain, mt (plain '\n') (by decide), isPath⟩
  simp only [String.toList_append, List.length_append, String.length_toList]
  have signs : "-t".length = 2 ∧ "-".length = 1 := by decide
  omega

theorem listsExactly_iff_path (workspace : Workspace) (host : Host) :
    workspace.ListsExactly host ↔ '\n' ∉ (host.resolve workspace.path).text.toList := by
  have inAsset {path : Path} (asset : workspace.IsAsset path) :
      '\n' ∈ (host.resolve path).text.toList ↔
        '\n' ∈ (host.resolve workspace.path).text.toList := by
    rcases asset.exists_name with ⟨name, isFileName, noLineFeed, rfl⟩
    rw [host.mem_resolve_child_iff _ isFileName.isName isFileName.notBack (by decide)]
    exact or_iff_left noLineFeed
  constructor
  · intro exactly lineFeed
    have asset : workspace.IsAsset (workspace.assetPath _ (.numbered 0) 0 _) :=
      ⟨.audio, .numbered 0, 0, rfl⟩
    have read := exactly [_] (List.cons_ne_nil _ _) (List.forall_mem_singleton.mpr asset)
    have none := (readSoundList_listText_iff host (List.cons_ne_nil _ _)).mp read
    exact none _ List.mem_cons_self ((inAsset asset).mpr lineFeed)
  · intro noLineFeed paths nonempty assets
    refine (readSoundList_listText_iff host nonempty).mpr fun path member => ?_
    exact mt (inAsset (assets path member)).mp noLineFeed

/-- In a workspace that has been made every list is read as it was meant, unless a line feed is in
its id, which may have one, or in the path of the folder it was made in. -/
theorem listsExactly_iff (later : Host) (acquired : acquire id root host = (.ok workspace, after)) :
    workspace.ListsExactly later ↔ '\n' ∉ workspace.exportId.toList ∧
      '\n' ∉ (later.resolve (.ofText (root.getD host.temporaryRoot))).text.toList := by
  change make (host.chooseId id).1 root (host.chooseId id).2 = _ at acquired
  rcases exists_of_make acquired with ⟨tree, plain, -, rfl, -⟩
  have folder : Path.ofText (root.getD (host.chooseId id).2.temporaryRoot) =
      .ofText (root.getD host.temporaryRoot) :=
    congrArg (fun site : Option String → Site => (site root).folder) (chooseId_site host id)
  rw [listsExactly_iff_path, pathOf, folder, later.mem_resolve_child_iff _
    (isName_of_isPlainId plain) (Site.name_ne_back _) (by decide), String.toList_append,
    List.mem_append, not_or, not_or, and_comm]
  have inPrefix : '\n' ∉ namePrefix.toList := by decide
  simp only [inPrefix, not_false_eq_true, true_and]

/-- In the sample every list is read as it was meant. -/
theorem listsExactly_iff_sample : ∃ after,
    acquire (some "export0") none Host.sample = (.ok sample, after) ∧
      (sample.ListsExactly after ↔ '\n' ∉ sample.exportId.toList ∧
        '\n' ∉ (after.resolve (.ofText Host.sample.temporaryRoot)).text.toList) := by
  rcases sample_make Host.sample rfl rfl rfl with ⟨after, made, _⟩
  have acquired : acquire (some "export0") none Host.sample = (.ok sample, after) := made
  have exactly_iff := listsExactly_iff after acquired
  exact ⟨after, acquired, exactly_iff⟩

/-- An id with a line feed in it is let through, and the lists of its workspace cannot be read. -/
theorem exists_not_listsExactly : ∃ workspace after,
    acquire (some "a\nb") none Host.sample = (.ok workspace, after) ∧
      ¬ workspace.ListsExactly after := by
  have plain : isPlainId "a\nb" = true := by decide +kernel
  have located : Host.sample.tree.locate Host.sample.workingPlace
      (pathOf (none.getD Host.sample.temporaryRoot) "a\nb") = .ok ["tmp", "cliptrack-a\nb"] := by
    refine FileTree.locate_eq_ok_iff.mpr ⟨?_, by decide +kernel, by decide +kernel⟩
    rw [String.contains_char_eq]
    decide +kernel
  rcases exists_make plain located (by decide +kernel) with ⟨after, made, _⟩
  have acquired : acquire (some "a\nb") none Host.sample = _ := made
  have workingPlace : after.workingPlace = Host.sample.workingPlace := by
    rw [← (acquire_sameWorld _ none Host.sample).workingPlace, acquired]
  refine ⟨_, after, acquired, fun exactly => ?_⟩
  have noLineFeed := (listsExactly_iff_path _ after).mp exactly
  rw [Host.resolve, workingPlace] at noLineFeed
  exact absurd noLineFeed (by decide +kernel)

end Workspace

end Montage

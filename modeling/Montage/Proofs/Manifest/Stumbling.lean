import Montage.Proofs.Manifest.Misfits

/-! Manifests that are not read and have no fault that could be named: which they are, and on
what each of them stumbles. -/

namespace Montage

namespace Manifest

/-! ## Blocks of fields -/

structure Drawing where
  position : Value
  size : Value
  opacity : Value
  mode : Value

def Drawing.ofEntries (entries : List (Value × Value)) : Drawing :=
  let standard : Overlay Float := .standard
  { position := Value.setting entries "position" (.tuple standard.position)
    size := Value.setting entries "size" (.tuple standard.size)
    opacity := Value.setting entries "opacity" (.float standard.opacity)
    mode := Value.setting entries "blend_mode" (.text standard.blendMode) }

theorem readOverlay_map (entries : List (Value × Value)) (index : Nat) :
    readOverlay (.map entries) index = (do
      let drawing := Drawing.ofEntries entries
      let place (name : String) := s!"Clip {index} overlay." ++ name
      let position ← readPair Value.toInteger (place "position") drawing.position
      let size ← readPair Value.toInteger (place "size") drawing.size
      let opacity ← readNumber (place "opacity") drawing.opacity
      let blendMode ← drawing.mode.write.mapError .misfit
      return {
        position := pairOf position.1 position.2
        size := pairOf size.1 size.2
        opacity
        blendMode }) :=
  rfl

def OverlayStumbles (block : Value) (cause : Misfit) : Prop :=
  ¬ block.IsMap ∧ cause = .noFields ∨
    ∃ entries, block = .map entries ∧ cause = .unbounded ∧
      let drawing := Drawing.ofEntries entries
      drawing.position.HasInfinity ∨
        drawing.position.IsPairOfIntegers ∧
          (drawing.size.HasInfinity ∨
            drawing.size.IsPairOfIntegers ∧ drawing.opacity.IsTooLarge)

theorem stumblesOnly_readOverlay (block : Value) (index : Nat) :
    StumblesOnly (readOverlay block index) (OverlayStumbles block) := by
  cases block with
  | map entries =>
      rw [readOverlay_map]
      refine StumblesOnly.congr (.andThen (.readPair _ _) (exists_readPair_iff _ _) fun _ =>
        .andThen (.readPair _ _) (exists_readPair_iff _ _) fun _ =>
        .andThen (.readNumber _ _) Iff.rfl fun _ =>
        .andThen (.write _) Iff.rfl fun _ => .ok _) ?_
      intro cause
      simp only [OverlayStumbles, Value.IsMap, Value.map.injEq, exists_eq', not_true_eq_false,
        false_and, false_or, and_false, or_false, exists_eq_left']
      tauto
  | _ => exact (StumblesOnly.misfit _).congr fun _ => by simp [OverlayStumbles, Value.IsMap]

/-! ## Clips -/

theorem requiredField_eq_ok_iff {entries : List (Value × Value)} {index : Nat} {name : String}
    {value : Value} : requiredField entries index name = .ok value ↔
      Value.lookup? (.text name) entries = some value := by
  unfold requiredField
  cases Value.lookup? (.text name) entries with
  | none => exact iff_of_false nofun nofun
  | some found => rw [Except.ok.injEq, Option.some.injEq]

theorem stumblesOnly_requiredField (entries : List (Value × Value)) (index : Nat)
    (name : String) : StumblesOnly (requiredField entries index name) fun _ => False := by
  unfold requiredField
  cases Value.lookup? (.text name) entries with
  | none => exact .fault _
  | some found => exact .ok found

theorem stumblesOnly_readTrack (given : Value) (index : Nat) :
    StumblesOnly (readTrack given index) fun _ => False := by
  unfold readTrack
  split
  · exact .ok _
  · exact .ok _
  · exact .fault _

def readLayer (entries : List (Value × Value)) (track : Track) (index : Nat) :
    Except Problem (Option (Overlay Float)) :=
  match Value.lookup? (.text "overlay") entries with
  | none => .ok none
  | some block =>
      if track.isMain then .error (.ofFault (.overlayOnMainTrack index))
      else some <$> readOverlay (orEmpty (some block)) index

theorem readClip_map (entries : List (Value × Value)) (index : Nat) (paths : Value) :
    readClip (.map entries) index paths = (do
      let source ← requiredField entries index "source"
      let trimStart ← requiredField entries index "trim_start"
      let trimEnd ← requiredField entries index "trim_end"
      let track ← readTrack (Value.setting entries "track" (.int 0)) index
      let overlay ← readLayer entries track index
      let source ← source.write.mapError .misfit
      let source ← expandVariables paths source
      let trimStart ← readNumber (s!"Clip {index} " ++ "trim_start") trimStart
      let trimEnd ← readNumber (s!"Clip {index} " ++ "trim_end") trimEnd
      let startTime ← readNumber (s!"Clip {index} " ++ "start_time")
        (Value.setting entries "start_time" (.float 0.0))
      return { source, trimStart, trimEnd, track, startTime, overlay }) := by
  refine bind_congr fun source => bind_congr fun trimStart => bind_congr fun trimEnd =>
    bind_congr fun track => ?_
  unfold readLayer
  cases Value.lookup? (.text "overlay") entries with
  | none => rfl
  | some block =>
      simp only
      cases track.isMain with
      | false => rfl
      | true => rfl

def LayerStumbles (entries : List (Value × Value)) (track : Track) (cause : Misfit) : Prop :=
  ∃ block, Value.lookup? (.text "overlay") entries = some block ∧ track.isMain = false ∧
    OverlayStumbles (orEmpty (some block)) cause

theorem stumblesOnly_readLayer (entries : List (Value × Value)) (track : Track) (index : Nat) :
    StumblesOnly (readLayer entries track index) (LayerStumbles entries track) := by
  unfold readLayer
  split
  · rename_i none
    exact (StumblesOnly.ok _).congr fun _ => by simp [LayerStumbles, none]
  · rename_i block given
    split
    · rename_i main
      exact (StumblesOnly.fault _).congr fun _ => by simp [LayerStumbles, main]
    · rename_i layered
      rw [← bind_pure_comp]
      exact ((stumblesOnly_readOverlay _ index).bind fun _ _ => .ok _).congr fun _ => by
        simp [LayerStumbles, given, layered]

/-- A clip that has all fields it must have and a track, and whose block for a layer, path
variables or times are the first thing that is not read. -/
def ClipStumbles (paths entry : Value) (index : Nat) (cause : Misfit) : Prop :=
  ∃ entries source trimStart trimEnd track,
    entry = .map entries ∧
    Value.lookup? (.text "source") entries = some source ∧
    Value.lookup? (.text "trim_start") entries = some trimStart ∧
    Value.lookup? (.text "trim_end") entries = some trimEnd ∧
    readTrack (Value.setting entries "track" (.int 0)) index = .ok track ∧
    (LayerStumbles entries track cause ∨
      (∃ layer, readLayer entries track index = .ok layer) ∧
        ∃ text, source.write = .ok text ∧
          (VariablesStumble paths (Piece.ofText text.toList) cause ∨
            (∃ path, expandVariables paths text = .ok path) ∧ cause = .unbounded ∧
              (trimStart.IsTooLarge ∨ trimStart.IsTime ∧
                (trimEnd.IsTooLarge ∨ trimEnd.IsTime ∧
                  (Value.setting entries "start_time" (.float 0.0)).IsTooLarge))))

theorem stumblesOnly_readClip (paths entry : Value) (index : Nat) :
    StumblesOnly (readClip entry index paths) (ClipStumbles paths entry index) := by
  cases entry with
  | map entries =>
      rw [readClip_map]
      refine StumblesOnly.congr
        (.bind (stumblesOnly_requiredField ..) fun source _ =>
          .bind (stumblesOnly_requiredField ..) fun trimStart _ =>
          .bind (stumblesOnly_requiredField ..) fun trimEnd _ =>
          .bind (stumblesOnly_readTrack ..) fun track _ =>
          .andThen (stumblesOnly_readLayer ..) Iff.rfl fun _ =>
          .look (.write _) fun text _ =>
          .andThen (stumblesOnly_expandVariables ..) Iff.rfl fun _ =>
          .andThen (.readNumber ..) (exists_readNumber_iff ..) fun _ =>
          .andThen (.readNumber ..) (exists_readNumber_iff ..) fun _ =>
          .andThen (.readNumber ..) (exists_readNumber_iff ..) fun _ => .ok _) ?_
      intro cause
      have times (trimStart trimEnd startTime : Value) :
          (trimStart.IsTooLarge ∧ cause = .unbounded ∨ trimStart.IsTime ∧
            (trimEnd.IsTooLarge ∧ cause = .unbounded ∨ trimEnd.IsTime ∧
              startTime.IsTooLarge ∧ cause = .unbounded)) ↔
          cause = .unbounded ∧ (trimStart.IsTooLarge ∨ trimStart.IsTime ∧
            (trimEnd.IsTooLarge ∨ trimEnd.IsTime ∧ startTime.IsTooLarge)) := by
        tauto
      simp only [requiredField_eq_ok_iff, and_false, or_false, false_or, times]
      constructor
      · rintro ⟨source, hasSource, trimStart, hasStart, trimEnd, hasEnd, track, hasTrack, rest⟩
        exact ⟨entries, source, trimStart, trimEnd, track, rfl, hasSource, hasStart, hasEnd,
          hasTrack, rest⟩
      · rintro ⟨_, source, trimStart, trimEnd, track, ⟨⟩, hasSource, hasStart, hasEnd, hasTrack,
          rest⟩
        exact ⟨source, hasSource, trimStart, hasStart, trimEnd, hasEnd, track, hasTrack, rest⟩
  | _ => exact (StumblesOnly.fault _).congr fun _ => by simp [ClipStumbles]

def ClipsStumble (paths : Value) (entries : List Value) (index : Nat) (cause : Misfit) : Prop :=
  ∃ before entry after, entries = before ++ entry :: after ∧
    (∃ clips, readClips paths before index = .ok clips) ∧
    ClipStumbles paths entry (index + before.length) cause

theorem clipsStumble_cons_iff {paths first : Value} {rest : List Value} {index : Nat}
    {cause : Misfit} :
    ClipsStumble paths (first :: rest) index cause ↔
      ClipStumbles paths first index cause ∨
        (∃ clip, readClip first index paths = .ok clip) ∧
          ClipsStumble paths rest (index + 1) cause := by
  constructor
  · rintro ⟨before, entry, after, split, ⟨clips, read⟩, stumbles⟩
    rcases List.cons_eq_append_iff.mp split with ⟨rfl, found⟩ | ⟨others, rfl, rfl⟩
    · cases found
      exact .inl stumbles
    · rcases exists_of_bind_ok read with ⟨clip, firstRead, read⟩
      rcases exists_of_bind_ok read with ⟨clips, othersRead, _⟩
      refine .inr ⟨⟨clip, firstRead⟩, others, entry, after, rfl, ⟨clips, othersRead⟩, ?_⟩
      rwa [List.length_cons, Nat.add_comm others.length, ← Nat.add_assoc] at stumbles
  · rintro (stumbles |
      ⟨⟨clip, firstRead⟩, others, entry, after, rfl, ⟨clips, othersRead⟩, stumbles⟩)
    · exact ⟨[], first, rest, rfl, ⟨[], rfl⟩, stumbles⟩
    · refine ⟨first :: others, entry, after, rfl, ⟨clip :: clips, ?_⟩, ?_⟩
      · simp only [readClips, firstRead, othersRead]
        rfl
      · rwa [List.length_cons, Nat.add_comm others.length, ← Nat.add_assoc]

theorem stumblesOnly_readClips (paths : Value) (entries : List Value) (index : Nat) :
    StumblesOnly (readClips paths entries index) (ClipsStumble paths entries index) := by
  induction entries generalizing index with
  | nil => exact (StumblesOnly.ok _).congr fun _ => by simp [ClipsStumble]
  | cons first rest induction =>
      refine StumblesOnly.congr (.andThen (stumblesOnly_readClip ..) Iff.rfl fun _ =>
        .bind (induction _) fun _ _ => .ok _) fun cause => ?_
      rw [clipsStumble_cons_iff]
      simp

/-! ## The trim and the output -/

def TrimStumbles (block : Value) (cause : Misfit) : Prop :=
  ¬ block.IsMap ∧ cause = .noFields ∨
    ∃ entries, block = .map entries ∧ cause = .unbounded ∧
      let start := Value.setting entries "start" (.float 0.0)
      start.IsTooLarge ∨ start.IsTime ∧ (Value.setting entries "end" .null).IsTooLarge

def readEnd (entries : List (Value × Value)) (start : Float) :
    Except Problem (Float × Option Float) :=
  match Value.lookup? (.text "end") entries with
  | none | some .null => return (start, none)
  | some given => return (start, some (← readNumber "global_trim.end" given))

theorem readTrim_map (entries : List (Value × Value)) :
    readTrim (.map entries) =
      readNumber "global_trim.start" (Value.setting entries "start" (.float 0.0)) >>=
        readEnd entries :=
  rfl

theorem stumblesOnly_readEnd (entries : List (Value × Value)) (start : Float) :
    StumblesOnly (readEnd entries start) fun cause =>
      (Value.setting entries "end" .null).IsTooLarge ∧ cause = .unbounded := by
  unfold readEnd Value.setting
  split
  · rename_i none
    exact (StumblesOnly.ok _).congr fun _ => by simp [none, Value.IsTooLarge]
  · rename_i null
    exact (StumblesOnly.ok _).congr fun _ => by simp [null, Value.IsTooLarge]
  · rename_i given _ found
    exact (StumblesOnly.bind (.readNumber ..) fun _ _ => .ok _).congr fun _ => by simp [found]

theorem stumblesOnly_readTrim (block : Value) :
    StumblesOnly (readTrim block) (TrimStumbles block) := by
  cases block with
  | map entries =>
      rw [readTrim_map]
      refine StumblesOnly.congr (.andThen (.readNumber ..) (exists_readNumber_iff ..)
        (stumblesOnly_readEnd entries)) fun cause => ?_
      simp only [TrimStumbles, Value.IsMap, Value.map.injEq, exists_eq', not_true_eq_false,
        false_and, false_or, exists_eq_left']
      tauto
  | _ => exact (StumblesOnly.misfit _).congr fun _ => by simp [TrimStumbles, Value.IsMap]

theorem stumblesOnly_readOutput {α : Type} {block : Value} {name : String}
    {read : Value → Except Problem α} {stumbles : Value → Misfit → Prop}
    (only : ∀ given, StumblesOnly (read given) (stumbles given)) :
    StumblesOnly (readOutput block name read) fun cause =>
      ¬ block.IsMap ∧ cause = .wrongKind ∧ block.holds name ≠ .ok false ∨
        ∃ entries given, block = .map entries ∧ Value.lookup? (.text name) entries = some given ∧
          stumbles given cause := by
  have onward (held : Bool) (asked : block.holds name = .ok held) :
      StumblesOnly (if held then
          (return some (← read (← (block.under name).mapError Problem.misfit)))
        else return none : Except Problem (Option α))
        fun cause => held = true ∧ (¬ block.IsMap ∧ cause = .wrongKind ∨
          ∃ given, block.under name = .ok given ∧ stumbles given cause) := by
    cases held with
    | false => exact (StumblesOnly.ok _).congr fun _ => by simp
    | true =>
        exact (StumblesOnly.look (.under asked) fun given _ => .bind (only given) fun _ _ =>
          .ok _).congr fun _ => by simp
  refine StumblesOnly.congr (.look (.holds block name) onward) fun cause => ?_
  cases block with
  | map entries =>
      cases found : Value.lookup? (.text name) entries <;>
        simp [Value.IsMap, Value.IsContainer, Value.holds, Value.under, found]
  | list | tuple | set | text =>
      simp [Value.IsMap, Value.IsContainer, Value.holds, Value.under, and_comm]
  | _ => simp [Value.IsMap, Value.IsContainer, Value.holds]

theorem readOutput_of_absent {α : Type} {block : Value} {name : String}
    (absent : block.holds name = .ok false) (read : Value → Except Problem α) :
    readOutput block name read = .ok none := by
  unfold readOutput
  rw [absent]
  rfl

def OutputStumbles (block : Value) (cause : Misfit) : Prop :=
  ¬ block.IsMap ∧ cause = .wrongKind ∧
      (block.holds "resolution" ≠ .ok false ∨ block.holds "fps" ≠ .ok false) ∨
    ∃ entries resolution, block = .map entries ∧
      Value.lookup? (.text "resolution") entries = some resolution ∧ cause = .unbounded ∧
      resolution.HasInfinity

theorem stumblesOnly_readRate (given : Value) :
    StumblesOnly (readRate given) fun _ => False := by
  unfold readRate
  split
  · split
    · exact .ok _
    · exact .fault _
  · exact .ok _
  · exact .fault _

/-- What comes after the trim. -/
theorem stumblesOnly_output {α : Type} (block : Value)
    (next : Option (Int × Int) → Option Value → α) :
    StumblesOnly (do
        let resolution ← readOutput block "resolution"
          (readPair Value.toInteger "output.resolution")
        let rate ← readOutput block "fps" readRate
        return next resolution rate)
      (OutputStumbles block) := by
  refine StumblesOnly.congr
    (.andThen (stumblesOnly_readOutput fun given => .readPair _ given) Iff.rfl fun _ =>
      .bind (stumblesOnly_readOutput stumblesOnly_readRate) fun _ _ => .ok _) fun cause => ?_
  by_cases map : block.IsMap
  · rcases map with ⟨entries, rfl⟩
    simp [OutputStumbles, Value.IsMap, and_comm]
  · have noEntries (entries : List (Value × Value)) : block ≠ .map entries :=
      fun isMap => map ⟨entries, isMap⟩
    simp only [OutputStumbles, map, noEntries, not_false_eq_true, true_and, false_and, exists_false,
      or_false, and_false]
    by_cases absent : block.holds "resolution" = .ok false
    · simp [absent, readOutput_of_absent absent]
    · tauto

/-! ## The whole -/

/-- What a manifest is not read for without a fault that could be named: it is no map though
the name of its clips is found in it, or a part of it does not fit, and those before it are
read. -/
def Stumbles (given : Value) (cause : Misfit) : Prop :=
  let document := orEmpty (some given)
  ¬ document.IsMap ∧ cause = .wrongKind ∧ document.holds "clips" ≠ .ok false ∨
    ∃ fields clips, document = .map fields ∧
      Value.lookup? (.text "clips") fields = some (.list clips) ∧
      let paths := Value.setting fields "paths" (.map [])
      let trim := orEmpty (Value.lookup? (.text "global_trim") fields)
      let output := orEmpty (Value.lookup? (.text "output") fields)
      ClipsStumble paths clips 0 cause ∨
        (∃ read, readClips paths clips 0 = .ok read) ∧
          (TrimStumbles trim cause ∨
            (∃ bounds, readTrim trim = .ok bounds) ∧ OutputStumbles output cause)

theorem ofValue_map {given : Value} {fields : List (Value × Value)} {clips : List Value}
    (document : orEmpty (some given) = .map fields)
    (listed : Value.lookup? (.text "clips") fields = some (.list clips)) :
    ofValue given = (do
      let clips ← readClips (Value.setting fields "paths" (.map [])) clips 0
      let trim ← readTrim (orEmpty (Value.lookup? (.text "global_trim") fields))
      let output := orEmpty (Value.lookup? (.text "output") fields)
      let resolution ← readOutput output "resolution"
        (readPair Value.toInteger "output.resolution")
      let rate ← readOutput output "fps" readRate
      return {
        timeline := { clips, trimStart := trim.1, trimEnd := trim.2 }
        resolution
        rate }) := by
  have holds : (orEmpty (some given)).holds "clips" = .ok true := by
    rw [document]
    simp only [Value.holds, listed, Option.isSome_some]
  have under : (orEmpty (some given)).under "clips" = .ok (.list clips) := by
    rw [document]
    simp only [Value.under, listed, Option.elim_some]
  unfold ofValue
  simp only [holds, under]
  rw [document]
  rfl

theorem stumblesOnly_ofValue_of_noMap {given : Value} (noMap : ¬ (orEmpty (some given)).IsMap) :
    StumblesOnly (ofValue given) fun cause =>
      cause = .wrongKind ∧ (orEmpty (some given)).holds "clips" ≠ .ok false := by
  have under : (orEmpty (some given)).under "clips" = .error .wrongKind :=
    Value.under_eq_error_of_noMap noMap "clips"
  cases asked : (orEmpty (some given)).holds "clips" with
  | error cause =>
      cases Value.eq_wrongKind_of_holds asked
      have stopped : ofValue given = .error (.misfit .wrongKind) := by
        unfold ofValue
        simp only [asked]
        rfl
      rw [stopped]
      exact (StumblesOnly.misfit .wrongKind).congr fun _ => by simp
  | ok held =>
      cases held with
      | false =>
          have stopped : ofValue given = .error (.ofFault .noClips) := by
            unfold ofValue
            simp only [asked]
            rfl
          rw [stopped]
          exact (StumblesOnly.fault .noClips).congr fun _ => by simp
      | true =>
          have stopped : ofValue given = .error (.misfit .wrongKind) := by
            unfold ofValue
            simp only [asked, under]
            rfl
          rw [stopped]
          exact (StumblesOnly.misfit .wrongKind).congr fun _ => by simp

theorem stumblesOnly_ofValue_of_map {given : Value} {fields : List (Value × Value)}
    (document : orEmpty (some given) = .map fields) :
    StumblesOnly (ofValue given) (Stumbles given) := by
  have unlisted (fault : ManifestFault)
      (noList : ∀ clips, Value.lookup? (.text "clips") fields ≠ some (.list clips))
      (stopped : ofValue given = .error (.ofFault fault)) :
      StumblesOnly (ofValue given) (Stumbles given) := by
    rw [stopped]
    exact (StumblesOnly.fault fault).congr fun _ => by
      simp [Stumbles, document, noList, Value.IsMap]
  cases listed : Value.lookup? (.text "clips") fields with
  | none =>
      refine unlisted .noClips (fun _ => by simp [listed]) ?_
      unfold ofValue
      rw [document]
      simp only [Value.holds, listed]
      rfl
  | some clips =>
      cases clips with
      | list clips =>
          rw [ofValue_map document listed]
          refine StumblesOnly.congr (.andThen (stumblesOnly_readClips ..) Iff.rfl fun _ =>
            .andThen (stumblesOnly_readTrim _) Iff.rfl fun _ =>
            stumblesOnly_output _ fun _ _ => _) fun cause => ?_
          simp [Stumbles, document, listed, Value.IsMap]
      | _ =>
          refine unlisted .clipsNotAList (fun _ => by simp [listed]) ?_
          unfold ofValue
          rw [document]
          simp only [Value.holds, Value.under, listed]
          rfl

theorem stumblesOnly_ofValue (given : Value) : StumblesOnly (ofValue given) (Stumbles given) := by
  by_cases map : (orEmpty (some given)).IsMap
  · exact stumblesOnly_ofValue_of_map map.choose_spec
  · have noFields (fields : List (Value × Value)) : orEmpty (some given) ≠ .map fields :=
      fun isMap => map ⟨fields, isMap⟩
    exact (stumblesOnly_ofValue_of_noMap map).congr fun cause => by
      simp [Stumbles, map, noFields]

/-- A manifest is read, or it is refused: for a fault of the manifest, or for an integer that
cannot be written where its text is needed. -/
def AnswersInKind (given : Value) : Prop :=
  (∃ manifest, ofValue given = .ok manifest) ∨
    (∃ fault, ofValue given = .error (.manifest fault)) ∨
    ofValue given = .error (.misfit .tooManyDigits)

/-- A manifest that is not read is refused, but for those that stumble. -/
theorem answersInKind_iff (given : Value) :
    (AnswersInKind given ↔ ∀ cause, cause ≠ .tooManyDigits → ¬ Stumbles given cause) ∧
      ∀ cause, cause ≠ .tooManyDigits →
        (ofValue given = .error (.misfit cause) ↔ Stumbles given cause) := by
  have only := stumblesOnly_ofValue given
  refine ⟨?_, only.misfit_iff⟩
  constructor
  · intro answers cause written stumbles
    have stopped := (only.misfit_iff cause written).mpr stumbles
    rcases answers with ⟨manifest, read⟩ | ⟨fault, found⟩ | overlong
    · cases read.symm.trans stopped
    · cases found.symm.trans stopped
    · exact written (Problem.misfit.inj (Except.error.inj (stopped.symm.trans overlong)))
  · intro never
    cases read : ofValue given with
    | ok manifest => exact .inl ⟨manifest, read⟩
    | error problem =>
        rcases only.known problem read with ⟨fault, rfl⟩ | ⟨cause, rfl⟩
        · exact .inr (.inl ⟨fault, read⟩)
        · by_cases written : cause = .tooManyDigits
          · rw [written] at read
            exact .inr (.inr read)
          · exact absurd ((only.misfit_iff cause written).mp read) (never cause written)

/-- A document that is a number: nothing asks whether the name of the clips can be looked for
in it. -/
theorem not_answersInKind_five : ¬ AnswersInKind (.int 5) := by
  have stopped : ofValue (.int 5) = .error (.misfit .wrongKind) := rfl
  rintro (⟨manifest, read⟩ | ⟨fault, found⟩ | overlong)
  · cases stopped.symm.trans read
  · cases stopped.symm.trans found
  · cases stopped.symm.trans overlong

end Manifest

end Montage

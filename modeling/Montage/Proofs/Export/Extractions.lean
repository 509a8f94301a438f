import Montage.Proofs.Export.AssetNames
import Montage.Proofs.Export.Assets
import Montage.Proofs.Timeline.Accepted

/-! All extractions of an export write into files of their own, and none into the files of
the sound. -/

namespace Montage

/-! ## Places on tracks -/

theorem count_le_of_mem_zip_ordinalsFrom {tracks : List Int} :
    ∀ {seen : List Int} {track : Int} {ordinal : Nat},
      (track, ordinal) ∈ tracks.zip (ordinalsFrom seen tracks) → seen.count track ≤ ordinal := by
  induction tracks with
  | nil => simp
  | cons first rest induction =>
      intro seen track ordinal member
      rcases List.mem_cons.mp member with same | member
      · cases same
        exact Nat.le_refl _
      · exact Nat.le_trans (List.count_le_count_cons) (induction member)

theorem lt_of_mem_zip_ordinalsFrom {tracks : List Int} :
    ∀ {seen : List Int} {track : Int} {ordinal : Nat},
      (track, ordinal) ∈ tracks.zip (ordinalsFrom seen tracks) →
        ordinal < seen.length + tracks.length := by
  induction tracks with
  | nil => simp
  | cons first rest induction =>
      intro seen track ordinal member
      rcases List.mem_cons.mp member with same | member
      · cases same
        have counted := List.count_le_length (a := first) (l := seen)
        simp only [List.length_cons]
        omega
      · have later := induction member
        simp only [List.length_cons] at later ⊢
        omega

theorem nodup_zip_ordinalsFrom (seen tracks : List Int) :
    (tracks.zip (ordinalsFrom seen tracks)).Nodup := by
  induction tracks generalizing seen with
  | nil => exact List.nodup_nil
  | cons first rest induction =>
      refine List.nodup_cons.mpr ⟨fun member => ?_, induction (first :: seen)⟩
      have counted := count_le_of_mem_zip_ordinalsFrom member
      rw [List.count_cons_self] at counted
      omega

/-! ## Names of extracted files -/

variable {τ : Type} {item : Type} {clipOf : item → Clip τ} {items : List item}

def countedName (clipOf : item → Clip τ) (stream : Stream) (counted : item × Nat) : String :=
  assetName stream (clipOf counted.1).track counted.2

def countedPlace (clipOf : item → Clip τ) (counted : item × Nat) : Int × Nat :=
  ((clipOf counted.1).track.number, counted.2)

theorem map_countedPlace : (withOrdinals clipOf items).map (countedPlace clipOf) =
    (items.map fun item => (clipOf item).track.number).zip
      (ordinalsFrom [] (items.map fun item => (clipOf item).track.number)) := by
  rw [List.zip_map_left, withOrdinals, trackOrdinals, List.map_map]
  rfl

theorem ordinal_lt_of_mem_withOrdinals {counted : item × Nat}
    (member : counted ∈ withOrdinals clipOf items) : counted.2 < items.length := by
  have placed := List.mem_map_of_mem (f := countedPlace clipOf) member
  rw [map_countedPlace] at placed
  simpa using lt_of_mem_zip_ordinalsFrom placed

theorem nodup_map_countedName (stream : Stream)
    (nonneg : ∀ item ∈ items, 0 ≤ (clipOf item).track.number) :
    ((withOrdinals clipOf items).map (countedName clipOf stream)).Nodup := by
  have places : ((withOrdinals clipOf items).map (countedPlace clipOf)).Nodup := by
    rw [map_countedPlace]
    exact nodup_zip_ordinalsFrom [] _
  refine List.pairwise_map.mpr ((List.pairwise_map.mp places).imp_of_mem ?_)
  intro counted other member otherMember differ same
  rcases assetName_injective (nonneg _ (mem_of_mem_withOrdinals member))
    (nonneg _ (mem_of_mem_withOrdinals otherMember)) same with ⟨_, sameTrack, sameOrdinal⟩
  exact differ (by rw [countedPlace, countedPlace, sameTrack, sameOrdinal])

variable [Quantity τ]

def playedName (clipOf : item → Clip τ) (stream : Stream) (timeline : Timeline τ)
    (counted : item × Nat) : Option String :=
  ((clipOf counted.1).window? timeline).map fun _ => countedName clipOf stream counted

def assetNames (clipOf : item → Clip τ) (stream : Stream) (items : List item)
    (timeline : Timeline τ) : List String :=
  (withOrdinals clipOf items).filterMap (playedName clipOf stream timeline)

theorem exists_of_mem_assetNames {stream : Stream} {timeline : Timeline τ} {name : String}
    (member : name ∈ assetNames clipOf stream items timeline) :
    ∃ item ∈ items, ∃ ordinal < items.length,
      name = assetName stream (clipOf item).track ordinal := by
  rcases List.mem_filterMap.mp member with ⟨counted, countedMember, named⟩
  rcases Option.map_eq_some_iff.mp named with ⟨_, _, rfl⟩
  exact ⟨counted.1, mem_of_mem_withOrdinals countedMember, counted.2,
    ordinal_lt_of_mem_withOrdinals countedMember, rfl⟩

theorem nodup_assetNames (stream : Stream) (timeline : Timeline τ)
    (nonneg : ∀ item ∈ items, 0 ≤ (clipOf item).track.number) :
    (assetNames clipOf stream items timeline).Nodup := by
  have all := List.pairwise_map.mp (nodup_map_countedName stream nonneg)
  refine List.Pairwise.filterMap _ ?_ all
  rintro counted other differ _ named _ otherNamed
  rcases Option.map_eq_some_iff.mp named with ⟨_, _, rfl⟩
  rcases Option.map_eq_some_iff.mp otherNamed with ⟨_, _, rfl⟩
  exact differ

/-! ## Extractions -/

def extractions (clipOf : item → Clip τ) (stream : Stream) (items : List item)
    (timeline : Timeline τ) (workspace : Workspace) (settings : Settings) : List (Extraction τ) :=
  (withOrdinals clipOf items).filterMap
    (extractionOf clipOf stream timeline workspace settings)

theorem map_output_extractions (stream : Stream) (timeline : Timeline τ) (workspace : Workspace)
    (settings : Settings) :
    (extractions clipOf stream items timeline workspace settings).map Extraction.output =
      (assetNames clipOf stream items timeline).map workspace.file := by
  rw [extractions, assetNames, List.map_filterMap, List.map_filterMap]
  apply List.filterMap_congr
  intro counted _
  simp only [extractionOf, playedName, Option.map_map, Function.comp_def, Clip.extractionIn,
    Workspace.assetPath_eq, countedName]

theorem map_path_survivors (clipOf : item → Clip τ) (items : List item) (timeline : Timeline τ)
    (workspace : Workspace) :
    (survivors clipOf items timeline workspace).map Asset.path =
      (assetNames clipOf .video items timeline).map fun name => (workspace.file name).text := by
  rw [survivors, assetNames, List.map_filterMap, List.map_filterMap]
  apply List.filterMap_congr
  intro counted _
  simp only [playedName, Option.map_map, Function.comp_def, assetIn, Workspace.assetPath_eq,
    countedName]

theorem map_window_survivors (clipOf : item → Clip τ) (items : List item) (timeline : Timeline τ)
    (workspace : Workspace) :
    (survivors clipOf items timeline workspace).map Asset.window =
      items.filterMap fun item => (clipOf item).window? timeline := by
  conv_rhs => rw [← map_fst_withOrdinals clipOf items]
  rw [survivors, List.map_filterMap, List.filterMap_map]
  apply List.filterMap_congr
  intro counted _
  rw [Option.map_map]
  exact Option.map_id'

/-! ## All files of an export -/

def soundNames : List String :=
  ["audio-concat.txt", "audio.m4a"]

theorem isFileName_of_mem_soundNames {name : String} (member : name ∈ soundNames) :
    FileTree.IsFileName name := by
  have plain : 3 ≤ name.toList.length ∧
      name.toList.all (fun char => char.isAlphanum || char == '-' || char == '.') = true := by
    rcases List.mem_pair.mp member with rfl | rfl <;> decide
  refine isFileName_of_chars plain.1 fun char inside => ?_
  simpa [or_assoc] using List.all_eq_true.mp plain.2 char inside

def extractedNames (checked : CheckedTimeline τ) : List String :=
  assetNames id .video checked.mainClips checked.timeline ++
    assetNames Layer.clip .video checked.layers checked.timeline ++
    assetNames id .audio checked.mainClips checked.timeline

def workspaceNames (checked : CheckedTimeline τ) : List String :=
  extractedNames checked ++ soundNames

theorem assetName_not_mem_soundNames (stream : Stream) (track : Track) (ordinal : Nat) :
    assetName stream track ordinal ∉ soundNames := by
  -- Of the files for the sound, none has a track behind its stream.
  have marked := assetName_toList stream track ordinal
  intro member
  rcases List.mem_pair.mp member with same | same
  · rw [same] at marked
    cases stream <;> simp [Stream.name] at marked
  · rw [same] at marked
    cases stream <;> simp [Stream.name] at marked

variable {timeline : Timeline τ} {checked : CheckedTimeline τ}

theorem Timeline.track_of_mem_mainClips (passed : timeline.check = .ok checked) {clip : Clip τ}
    (member : clip ∈ checked.mainClips) : clip.track.number = 0 := by
  rw [checked_eq passed] at member
  simpa [Track.isMain] using (mem_mainClips.mp member).2

theorem Timeline.track_of_mem_layers (passed : timeline.check = .ok checked) {layer : Layer τ}
    (member : layer ∈ checked.layers) : 0 < layer.clip.track.number := by
  rw [checked_eq passed] at member
  rcases List.mem_map.mp member with ⟨clip, clipMember, rfl⟩
  rcases mem_overlayClips.mp clipMember with ⟨given, notMain⟩
  have nonneg := track_nonneg passed clip given
  have notZero : clip.track.number ≠ 0 := by simpa [Track.isMain] using notMain
  simp only [Layer.ofClip]
  omega

/-- The files of an export do not share a name, however many tracks and clips there are. -/
theorem nodup_workspaceNames (passed : timeline.check = .ok checked) :
    (workspaceNames checked).Nodup := by
  have mainNonneg : ∀ clip ∈ checked.mainClips, 0 ≤ (id clip : Clip τ).track.number :=
    fun clip member => Int.le_of_eq (Timeline.track_of_mem_mainClips passed member).symm
  have layerNonneg : ∀ layer ∈ checked.layers, 0 ≤ layer.clip.track.number :=
    fun layer member => Int.le_of_lt (Timeline.track_of_mem_layers passed member)
  unfold workspaceNames extractedNames
  rw [List.nodup_append', List.nodup_append', List.nodup_append']
  refine ⟨⟨⟨nodup_assetNames .video _ mainNonneg, nodup_assetNames .video _ layerNonneg, ?_⟩,
    nodup_assetNames .audio _ mainNonneg, ?_⟩, by decide, ?_⟩
  · intro name main layer
    rcases exists_of_mem_assetNames main with ⟨clip, clipMember, _, _, rfl⟩
    rcases exists_of_mem_assetNames layer with ⟨other, otherMember, _, _, same⟩
    rcases assetName_injective (mainNonneg clip clipMember) (layerNonneg other otherMember) same
      with ⟨_, sameTrack, _⟩
    have zero := Timeline.track_of_mem_mainClips passed clipMember
    have positive := Timeline.track_of_mem_layers passed otherMember
    rw [← sameTrack] at positive
    exact absurd zero (Int.ne_of_gt positive)
  · intro name picture sound
    rcases exists_of_mem_assetNames sound with ⟨clip, clipMember, _, _, rfl⟩
    rcases List.mem_append.mp picture with picture | picture
    · rcases exists_of_mem_assetNames picture with ⟨other, otherMember, _, _, same⟩
      cases (assetName_injective (mainNonneg clip clipMember) (mainNonneg other otherMember)
        same).1
    · rcases exists_of_mem_assetNames picture with ⟨other, otherMember, _, _, same⟩
      cases (assetName_injective (mainNonneg clip clipMember) (layerNonneg other otherMember)
        same).1
  · intro name asset sound
    rw [List.mem_append, List.mem_append] at asset
    rcases asset with (asset | asset) | asset <;>
      rcases exists_of_mem_assetNames asset with ⟨_, _, _, _, rfl⟩ <;>
      exact assetName_not_mem_soundNames _ _ _ sound

theorem isFileName_of_mem_workspaceNames (passed : timeline.check = .ok checked) {name : String}
    (member : name ∈ workspaceNames checked) : FileTree.IsFileName name := by
  rw [workspaceNames, extractedNames, List.mem_append, List.mem_append, List.mem_append] at member
  rcases member with ((member | member) | member) | member
  · rcases exists_of_mem_assetNames member with ⟨clip, clipMember, _, _, rfl⟩
    exact isFileName_assetName _
      (Int.le_of_eq (Timeline.track_of_mem_mainClips passed clipMember).symm) _
  · rcases exists_of_mem_assetNames member with ⟨layer, layerMember, _, _, rfl⟩
    exact isFileName_assetName _
      (Int.le_of_lt (Timeline.track_of_mem_layers passed layerMember)) _
  · rcases exists_of_mem_assetNames member with ⟨clip, clipMember, _, _, rfl⟩
    exact isFileName_assetName _
      (Int.le_of_eq (Timeline.track_of_mem_mainClips passed clipMember).symm) _
  · exact isFileName_of_mem_soundNames member

theorem Workspace.nodup_map_resolve_file (workspace : Workspace) (workingPlace : Place)
    {names : List String} (isFileName : ∀ name ∈ names, FileTree.IsFileName name)
    (distinct : names.Nodup) :
    (names.map ((·.resolve workingPlace) ∘ workspace.file)).Nodup := by
  refine distinct.map_on fun name member other otherMember same => ?_
  have first := isFileName name member
  have second := isFileName other otherMember
  simp only [Function.comp_apply, file] at same
  rw [Path.resolve_child _ _ first.isName first.notBack,
    Path.resolve_child _ _ second.isName second.notBack] at same
  simpa using same

end Montage

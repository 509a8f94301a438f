import Montage.Proofs.Export.Extractions
import Montage.Proofs.Export.Slivers
import Montage.Proofs.Graph.Readable
import Montage.Proofs.Timeline.Tiling

/-! Under which gates the main clips are drawn. Their files are told apart from those of the
layers, so that each gate of a picture can be traced to its clip. -/

namespace Montage

/-! ## Files in a picture -/

namespace Picture

def file? : Picture → Option String
  | .source input => some input.path
  | .changed _ _ picture => picture.file?
  | .mixed .. | .drawn .. => none

def gatesOf (file : String) : Picture → List String
  | .drawn params base top =>
      base.gatesOf file ++ if top.file? = some file then (params.lookup "enable").toList else []
  | _ => []

variable {τ : Type} [Quantity τ]

theorem gatesOf_overlaid (file : String) (base top : Picture) (x y : Int) (window : Window τ) :
    (base.overlaid top x y window).gatesOf file =
      base.gatesOf file ++ if top.file? = some file then [gateText window] else [] := by
  have gate : (base.overlaid top x y window).gate? = some (gateText window) := gate?_overlaid ..
  rw [overlaid, gate?] at gate
  rw [overlaid, gatesOf, gate]
  rfl

end Picture

section

variable {τ : Type} [Quantity τ]

theorem gatesOf_mainOver (file : String) (canvas : Int × Int) (base : Picture)
    (asset : Asset (Clip τ) τ) :
    (mainOver canvas base asset).gatesOf file =
      base.gatesOf file ++ if asset.path = file then [gateText asset.window] else [] := by
  rw [mainOver, Picture.gatesOf_overlaid]
  simp [Picture.placed, Picture.delayed, Picture.scaled, Picture.file?]

/-- A layer is drawn from its own file, or from a mixture that comes from none. -/
theorem gatesOf_layerOver {file : String} (canvas : Int × Int) (base : Picture)
    {asset : Asset (Layer τ) τ} (other : asset.path ≠ file) :
    (layerOver canvas base asset).gatesOf file = base.gatesOf file := by
  unfold layerOver
  dsimp only
  split
  · rw [Picture.gatesOf_overlaid]
    simp [Picture.translucent, Picture.placed, Picture.delayed, Picture.scaled, Picture.file?,
      other]
  · rw [Picture.gatesOf_overlaid]
    simp [Picture.blended, Picture.file?]

theorem gatesOf_foldl_mainOver (file : String) (canvas : Int × Int) (base : Picture)
    (assets : List (Asset (Clip τ) τ)) :
    (assets.foldl (mainOver canvas) base).gatesOf file =
      base.gatesOf file ++
        (assets.filter (·.path = file)).map (gateText ·.window) := by
  induction assets generalizing base with
  | nil => simp
  | cons asset rest induction =>
      rw [List.foldl_cons, induction, gatesOf_mainOver, List.filter_cons]
      split
      · simp [*]
      · simp [*]

theorem gatesOf_foldl_layerOver {file : String} (canvas : Int × Int) (base : Picture)
    {assets : List (Asset (Layer τ) τ)} (others : ∀ asset ∈ assets, asset.path ≠ file) :
    (assets.foldl (layerOver canvas) base).gatesOf file = base.gatesOf file := by
  induction assets generalizing base with
  | nil => rfl
  | cons asset rest induction =>
      obtain ⟨other, restOthers⟩ := List.forall_mem_cons.mp others
      rw [List.foldl_cons, induction _ restOthers, gatesOf_layerOver canvas base other]

theorem soleClip?_of_several {assets : List (Asset (Clip τ) τ)} (several : 2 ≤ assets.length) :
    soleClip? assets = none := by
  match assets with
  | [] => rfl
  | [asset] => exact absurd several (by simp)
  | first :: second :: rest => rfl

omit [Quantity τ] in
theorem filter_path {assets : List (Asset (Clip τ) τ)} (distinct : (assets.map Asset.path).Nodup)
    {asset : Asset (Clip τ) τ} (member : asset ∈ assets) :
    assets.filter (·.path = asset.path) = [asset] := by
  obtain ⟨before, after, rfl⟩ := List.append_of_mem member
  rw [List.map_append, List.map_cons, List.nodup_middle, List.nodup_cons, ← List.map_append]
    at distinct
  have apart : ∀ other ∈ before ++ after, ¬ decide (other.path = asset.path) = true := by
    intro other otherMember same
    exact distinct.1 (List.mem_map.mpr ⟨other, otherMember, of_decide_eq_true same⟩)
  obtain ⟨apartBefore, apartAfter⟩ := List.forall_mem_append.mp apart
  rw [List.filter_append, List.filter_cons_of_pos (by simp),
    List.filter_eq_nil_iff.mpr apartBefore, List.filter_eq_nil_iff.mpr apartAfter, List.nil_append]

/-- A file that one main clip alone has is drawn under the gate of that clip. -/
theorem gatesOf_scene {mainAssets : List (Asset (Clip τ) τ)}
    {layerAssets : List (Asset (Layer τ) τ)} (several : 2 ≤ mainAssets.length)
    (distinct : (mainAssets.map Asset.path ++ layerAssets.map Asset.path).Nodup)
    (canvas : Int × Int) (fps : Value) (duration : τ) {asset : Asset (Clip τ) τ}
    (member : asset ∈ mainAssets) :
    (scene canvas fps duration mainAssets layerAssets).gatesOf asset.path =
      [gateText asset.window] := by
  obtain ⟨mainDistinct, -, apart⟩ := List.nodup_append.mp distinct
  have others : ∀ layer ∈ layerAssets, layer.path ≠ asset.path := by
    intro layer layerMember same
    exact apart _ (List.mem_map_of_mem member) _ (List.mem_map_of_mem layerMember) same.symm
  rw [scene, gatesOf_foldl_layerOver canvas _ others, mainScene, soleClip?_of_several several]
  dsimp only
  rw [gatesOf_foldl_mainOver, filter_path mainDistinct member]
  rfl

/-- All pictures of an export are in files of their own. -/
theorem nodup_paths {timeline : Timeline τ} {checked : CheckedTimeline τ}
    (passed : timeline.check = .ok checked) (workspace : Workspace) :
    ((survivors id checked.mainClips timeline workspace).map Asset.path ++
      (survivors Layer.clip checked.layers timeline workspace).map Asset.path).Nodup := by
  have sameTimeline : checked.timeline = timeline := by rw [Timeline.checked_eq passed]; rfl
  have inWorkspace : (assetNames id .video checked.mainClips checked.timeline ++
      assetNames Layer.clip .video checked.layers checked.timeline).Sublist
        (workspaceNames checked) :=
    (List.sublist_append_left _ _).trans (List.sublist_append_left _ _)
  rw [← sameTimeline, map_path_survivors, map_path_survivors, ← List.map_append]
  apply (inWorkspace.nodup (nodup_workspaceNames passed)).map_on
  intro name member other otherMember
  apply workspace.path.eq_of_text_child_eq
  · exact (isFileName_of_mem_workspaceNames passed (inWorkspace.subset member)).isName
  · exact (isFileName_of_mem_workspaceNames passed (inWorkspace.subset otherMember)).isName

end

/-! ## Gates in thousandths -/

/-- The text of an exact time denotes the nearest thousandth. -/
theorem secondsOf?_thousandths (number : ℚ) :
    secondsOf? (Quantity.thousandths number).toList =
      some (nearestThousandth number : WithTop ℚ) := by
  change secondsOf? (String.ofList (thousandthsDigits (number < 0) _)).toList = _
  rw [String.toList_ofList, secondsOf?_thousandthsDigits, nearestThousandth]
  simp only [decide_eq_true_eq]

theorem gateBounds?_gateText (window : Window ℚ) :
    gateBounds? (gateText window).toList =
      some ((window.rounded.start : WithTop ℚ), (window.rounded.stop : WithTop ℚ)) :=
  gateBounds?_eq (secondsOf?_thousandths _) (secondsOf?_thousandths _)

theorem opensAt_gateText_iff (window : Window ℚ) (time : ℚ) :
    OpensAt (gateText window) time ↔ window.rounded.Covers time := by
  rw [gateText, opensAt_iff (secondsOf?_thousandths _) (secondsOf?_thousandths _),
    WithTop.coe_le_coe, WithTop.coe_lt_coe]
  exact Iff.rfl

/-- From the start of the first of some gates up to a time there is always exactly one of them
open, and at no other time is there any. -/
def Tile (gates : List String) (stop : WithTop ℚ) : Prop :=
  ∃ first rest start last, gates = first :: rest ∧
    gateBounds? first.toList = some (start, last) ∧
    ∀ time : ℚ, (start ≤ time ∧ time < stop → ExactlyOne (OpensAt · time) gates) ∧
      (¬ (start ≤ time ∧ time < stop) → ∀ gate ∈ gates, ¬ OpensAt gate time)

theorem tile_of_followOn {windows : List (Window ℚ)} {start : ℚ} (follow : FollowOn start windows)
    (some : windows ≠ []) (forward : ∀ window ∈ windows, window.RunsForward) :
    Tile (windows.map gateText) (nearestThousandth (endOf start windows) : WithTop ℚ) := by
  have roundedFollow := follow.rounded
  have roundedForward : ∀ window ∈ windows.map Window.rounded, window.RunsForward := by
    rw [List.forall_mem_map]
    exact fun window member => (forward window member).rounded
  rw [← endOf_rounded]
  cases windows with
  | nil => exact absurd rfl some
  | cons window rest =>
      refine ⟨_, _, _, _, List.map_cons, gateBounds?_gateText window, ?_⟩
      intro time
      rw [WithTop.coe_le_coe, WithTop.coe_lt_coe, roundedFollow.1]
      constructor
      · rintro ⟨started, notEnded⟩
        have one := roundedFollow.exactlyOne roundedForward started notEnded
        rw [exactlyOne_map_iff] at one ⊢
        simpa only [opensAt_gateText_iff] using one
      · intro outside
        rw [List.forall_mem_map]
        intro other member opens
        exact outside (roundedFollow.within roundedForward (List.mem_map_of_mem member)
          ((opensAt_gateText_iff other time).mp opens))

/-! ## Main clips without gaps -/

variable {timeline : Timeline ℚ} {checked : CheckedTimeline ℚ}

theorem tile_mainClips (passed : timeline.check = .ok checked)
    (joined : AreJoined checked.mainClips)
    (plays : checked.mainClips.filterMap (·.window? timeline) ≠ []) :
    Tile ((checked.mainClips.filterMap (·.window? timeline)).map gateText)
      (nearestThousandth checked.outputDuration : WithTop ℚ) := by
  obtain ⟨start, follow⟩ := Timeline.exists_followOn_mainClips passed joined
  rw [Timeline.outputDuration_eq_endOf passed follow plays]
  exact tile_of_followOn follow plays (forall_runsForward _ _)

/-- Where every main clip starts at the end of the one before it and several of them play, each of
these is drawn under one gate in the video of the plan. These gates tile the output: from the start
of the first up to the end of the output, as both are written, one of them is open at any time.
There is a plan unless an integer cannot be written. -/
theorem gates_tile_output (passed : timeline.check = .ok checked)
    (joined : AreJoined checked.mainClips)
    (several : 2 ≤ (checked.mainClips.filterMap (·.window? timeline)).length)
    (workspace : Workspace) (settings : Settings) (audioPath : String) :
    let mainAssets := survivors id checked.mainClips timeline workspace
    let layerAssets := survivors Layer.clip checked.layers timeline workspace
    let planned := (planMontage checked settings mainAssets layerAssets audioPath).1
    (timeline.HasReadableOverlays → ∀ canvas, twoIntegers settings.canvas = .ok canvas →
      (HasWritableNumbers canvas settings.fps mainAssets layerAssets →
        ∃ plan, planned = .ok plan) ∧
      (¬ HasWritableNumbers canvas settings.fps mainAssets layerAssets →
        planned = .error .tooManyDigits)) ∧
    ∀ plan, planned = .ok plan →
      ∃ picture gates stop,
        pictureOf plan.inputs plan.nodes plan.videoLabel = some picture ∧
        mainAssets.map (fun asset => picture.gatesOf asset.path) = gates.map ([·]) ∧
        secondsOf? (Quantity.thousandths checked.outputDuration).toList = some stop ∧
        Tile gates stop := by
  intro mainAssets layerAssets planned
  have windows : mainAssets.map Asset.window = checked.mainClips.filterMap (·.window? timeline) :=
    map_window_survivors id checked.mainClips timeline workspace
  have severalAssets : 2 ≤ mainAssets.length := by
    rwa [← windows, List.length_map] at several
  have plays : checked.mainClips.filterMap (·.window? timeline) ≠ [] := by
    intro none
    rw [none] at several
    exact absurd several (by decide)
  constructor
  · intro readable canvas read
    have layersReadable : ∀ asset ∈ layerAssets, asset.item.overlay.IsReadable :=
      fun asset member => Timeline.layers_readable passed readable asset.item
        (item_mem_of_mem_survivors member)
    refine ⟨fun few => ?_, fun overlong => ?_⟩
    · obtain ⟨plan, isPlan, -⟩ := exists_plan checked read mainAssets layersReadable few audioPath
      exact ⟨plan, isPlan⟩
    · exact not_planned_of_overlong checked read mainAssets layersReadable overlong audioPath
  · intro plan isPlan
    obtain ⟨canvas, -, -, draws⟩ := draws_of_planned isPlan
    have shows : pictureOf plan.inputs plan.nodes plan.videoLabel =
        some (scene canvas settings.fps checked.outputDuration mainAssets layerAssets) := by
      rw [draws.inputs_eq, draws.videoLabel_eq]
      exact pictureOf_append_inputs draws.finished.shows [⟨audioPath, []⟩]
    refine ⟨_, mainAssets.map (gateText ·.window), _, shows, ?_, secondsOf?_thousandths _, ?_⟩
    · rw [List.map_map]
      apply List.map_congr_left
      intro asset member
      exact gatesOf_scene severalAssets (nodup_paths passed workspace) canvas settings.fps _ member
    · have tiled := tile_mainClips passed joined plays
      rwa [← windows, List.map_map] at tiled

def Timeline.seamless : Timeline ℚ where
  clips := [
    .ofTrim "first.mp4" 0 1,
    { Clip.ofTrim "moment.mp4" 0 (1 / 2500) with startTime := 1 },
    { Clip.ofTrim "last.mp4" 1 3 with startTime := 1 + 1 / 2500 },
    { Clip.ofTrim "title.mp4" 0 1 with track := .numbered 1 }]
  trimStart := 1 / 2
  trimEnd := some (5 / 2)

theorem Timeline.mainClips_seamless : seamless.mainClips = seamless.clips.take 3 := by
  have kept : seamless.clips.filter (·.track.isMain) = seamless.clips.take 3 := rfl
  have inOrder :
      (seamless.clips.take 3).Pairwise fun clip later => startsFirst clip later = true := by
    decide +kernel
  rw [mainClips, kept]
  exact List.mergeSort_of_pairwise inOrder

theorem gates_tile_seamless :
    let timeline := Timeline.seamless
    let checked := timeline.sorted
    let mainAssets := survivors id checked.mainClips timeline Workspace.sample
    let layerAssets := survivors Layer.clip checked.layers timeline Workspace.sample
    timeline.check = .ok checked ∧ AreJoined checked.mainClips ∧
    2 ≤ (checked.mainClips.filterMap (·.window? timeline)).length ∧
    ∃ plan picture gates stop,
      (planMontage checked {} mainAssets layerAssets "audio.m4a").1 = .ok plan ∧
      pictureOf plan.inputs plan.nodes plan.videoLabel = some picture ∧
      mainAssets.map (fun asset => picture.gatesOf asset.path) = gates.map ([·]) ∧
      secondsOf? (Quantity.thousandths checked.outputDuration).toList = some stop ∧
      Tile gates stop := by
  intro timeline checked mainAssets layerAssets
  have passed : timeline.check = .ok checked := Timeline.check_eq_of_isSome (by decide +kernel)
  have clips : checked.mainClips = timeline.clips.take 3 := Timeline.mainClips_seamless
  have joined : AreJoined checked.mainClips := by
    rw [clips]
    exact .cons_cons (by decide +kernel) (.cons_cons (by decide +kernel) (.singleton _))
  have several : 2 ≤ (checked.mainClips.filterMap (·.window? timeline)).length := by
    rw [clips]
    decide +kernel
  have plain : ∀ clip ∈ timeline.clips, ∀ overlay, clip.overlay ≠ some overlay := by
    intro clip member overlay given
    have none : ∀ clip ∈ timeline.clips, clip.overlay = none := by
      simp [timeline, Timeline.seamless, Clip.ofTrim]
    cases (none clip member).symm.trans given
  have readable : timeline.HasReadableOverlays :=
    fun clip member overlay given => absurd given (plain clip member overlay)
  have few : HasWritableNumbers (1920, 1080) ({} : Settings).fps mainAssets layerAssets :=
    { canvas := by decide +kernel
      rate := fun _ => by decide +kernel
      layers := fun asset member =>
        Timeline.forall_layers (·.rectangle.HasFewDigits) passed (by decide +kernel)
          (fun clip member overlay given => absurd given (plain clip member overlay))
          asset.item (item_mem_of_mem_survivors member) }
  have tiles := gates_tile_output passed joined several Workspace.sample {} "audio.m4a"
  obtain ⟨plan, planned⟩ :=
    (tiles.1 readable (1920, 1080) (twoIntegers_pairOf 1920 1080)).1 few
  obtain ⟨picture, gates, stop, shown, drawn, ends, tile⟩ := tiles.2 plan planned
  exact ⟨passed, joined, several, plan, picture, gates, stop, planned, shown, drawn, ends, tile⟩

end Montage

import Montage.Proofs.Export.Hearing
import Montage.Proofs.Number.Rational

/-! Sound and picture. A main clip is seen from the start of its window on, and it is heard
when all sounds before its own have ended. That is the same time only where the windows follow
on each other from the beginning of the output. -/

namespace Montage

variable {τ : Type} [Quantity τ]

def beginsAt (file : Path) : (time : τ) → (sound : List (Stretch τ)) → Option τ
  | _, [] => none
  | time, stretch :: rest =>
      if stretch.file = file then some time else beginsAt file (time + stretch.duration) rest

/-! ## Main clips that play -/

structure Played (τ : Type) where
  clip : Clip τ
  ordinal : Nat
  window : Window τ

namespace Played

def picture (played : Played τ) (workspace : Workspace) : Asset (Clip τ) τ :=
  assetIn id workspace (played.clip, played.ordinal) played.window

def soundName (played : Played τ) : String :=
  assetName .audio played.clip.track played.ordinal

def soundFile (played : Played τ) (workspace : Workspace) (workingPlace : Place) : Path :=
  (workspace.file played.soundName).resolve workingPlace

end Played

def CheckedTimeline.played (checked : CheckedTimeline τ) : List (Played τ) :=
  (withOrdinals id checked.mainClips).filterMap fun counted =>
    (counted.1.window? checked.timeline).map fun window => ⟨counted.1, counted.2, window⟩

variable {checked : CheckedTimeline τ} {workspace : Workspace} {workingPlace : Place}

/-- The pictures of the clips that play are drawn in the same windows. -/
theorem survivors_eq_map_played :
    survivors id checked.mainClips checked.timeline workspace =
      checked.played.map (·.picture workspace) := by
  rw [survivors, CheckedTimeline.played, List.map_filterMap]
  simp only [Option.map_map]
  rfl

theorem survivors_ne_nil_iff :
    survivors id checked.mainClips checked.timeline workspace ≠ [] ↔
      checked.played.map Played.window ≠ [] := by
  rw [Ne, Ne, survivors_eq_map_played, List.map_eq_nil_iff, List.map_eq_nil_iff]

theorem assetNames_eq_map_played :
    assetNames id .audio checked.mainClips checked.timeline =
      checked.played.map Played.soundName := by
  rw [assetNames, CheckedTimeline.played, List.map_filterMap]
  simp only [Option.map_map]
  rfl

theorem map_resolve_soundParts :
    (soundParts checked workspace).map (·.resolve workingPlace) =
      checked.played.map (·.soundFile workspace workingPlace) := by
  rw [soundParts, assetNames_eq_map_played, List.map_map, List.map_map]
  rfl

theorem nodup_map_soundFile {timeline : Timeline τ} (passed : timeline.check = .ok checked)
    (workspace : Workspace) (workingPlace : Place) :
    (checked.played.map (·.soundFile workspace workingPlace)).Nodup := by
  have inWorkspace : (assetNames id .audio checked.mainClips checked.timeline).Sublist
      (workspaceNames checked) :=
    (List.sublist_append_right _ _).trans (List.sublist_append_left _ _)
  have distinct := workspace.nodup_map_resolve_file workingPlace
    (fun name member => isFileName_of_mem_workspaceNames passed (inWorkspace.subset member))
    (inWorkspace.nodup (nodup_workspaceNames passed))
  rwa [assetNames_eq_map_played, List.map_map] at distinct

theorem window_of_mem_played {played : Played τ} (member : played ∈ checked.played) :
    played.clip.window? checked.timeline = some played.window := by
  rcases List.mem_filterMap.mp member with ⟨counted, _, plays⟩
  rcases Option.map_eq_some_iff.mp plays with ⟨window, inWindow, rfl⟩
  exact inWindow

theorem duration_sourcePart_of_mem_played {played : Played τ}
    (member : played ∈ checked.played) :
    (played.clip.sourcePart checked.timeline).duration = played.window.duration := by
  simp only [Clip.sourcePart, window_of_mem_played member]

/-! ## Keeping step -/

def LastsAsPlayed (lasts : Path → τ) (checked : CheckedTimeline τ) (workspace : Workspace)
    (workingPlace : Place) : Prop :=
  ∀ played ∈ checked.played, lasts (played.soundFile workspace workingPlace) =
    (played.clip.sourcePart checked.timeline).duration

theorem lastsAsPlayed_of_equal_windows {seconds : τ}
    (equal : ∀ window ∈ checked.played.map Played.window, window.duration = seconds) :
    LastsAsPlayed (fun _ => seconds) checked workspace workingPlace := by
  intro played member
  rw [duration_sourcePart_of_mem_played member]
  exact (equal _ (List.mem_map_of_mem member)).symm

/-- Every main clip that plays begins to be heard when it begins to be seen. -/
def KeepsStep (checked : CheckedTimeline τ) (workspace : Workspace) (workingPlace : Place)
    (heard : List (Stretch τ)) : Prop :=
  ∀ played ∈ checked.played,
    beginsAt (played.soundFile workspace workingPlace) 0.0 heard =
      some (played.picture workspace).window.start

/-- Windows without gaps between them and without overlaps, the first of which starts at some
time. -/
def FollowOn : (time : τ) → (windows : List (Window τ)) → Prop
  | _, [] => True
  | time, window :: rest => window.start = time ∧ FollowOn window.stop rest

instance decidableFollowOn [DecidableEq τ] : (time : τ) → (windows : List (Window τ)) →
    Decidable (FollowOn time windows)
  | _, [] => .isTrue trivial
  | time, window :: rest =>
      have := decidableFollowOn window.stop rest
      inferInstanceAs (Decidable (window.start = time ∧ FollowOn window.stop rest))

/-- Sounds in files of their own, each as long as its window, begin with their windows exactly
when these follow on each other. -/
theorem beginsAt_iff_followOn (file : Played ℚ → Path) {all : List (Played ℚ)} :
    ∀ {time : ℚ}, (all.map file).Nodup →
      ((∀ played ∈ all, beginsAt (file played) time
          (all.map fun played => ⟨file played, played.window.duration⟩) =
            some played.window.start) ↔
        FollowOn time (all.map Played.window)) := by
  induction all with
  | nil =>
      intro time _
      exact ⟨fun _ => trivial, fun _ played member => absurd member List.not_mem_nil⟩
  | cons first rest induction =>
      intro time distinct
      rcases List.nodup_cons.mp distinct with ⟨firstApart, restDistinct⟩
      have atOnce (others : List (Stretch ℚ)) :
          beginsAt (file first) time (⟨file first, first.window.duration⟩ :: others) =
            some time := if_pos rfl
      have afterFirst {played : Played ℚ} (member : played ∈ rest) (others : List (Stretch ℚ)) :
          beginsAt (file played) time (⟨file first, first.window.duration⟩ :: others) =
            beginsAt (file played) (time + first.window.duration) others := by
        apply if_neg
        intro same
        exact firstApart (List.mem_map.mpr ⟨played, member, same.symm⟩)
      simp only [List.map_cons, List.forall_mem_cons, atOnce, Option.some.injEq, FollowOn]
      -- Where the first one keeps step, the others begin at the stop of its window.
      constructor
      · rintro ⟨rfl, later⟩
        refine ⟨rfl, (induction restDistinct).mp fun played member => ?_⟩
        rw [← later played member, afterFirst member, first.window.start_add_duration]
      · rintro ⟨rfl, later⟩
        refine ⟨rfl, fun played member => ?_⟩
        rw [afterFirst member, first.window.start_add_duration]
        exact (induction restDistinct).mpr later played member

section

variable {timeline : Timeline ℚ} {checked : CheckedTimeline ℚ} {lasts : Path → ℚ} {host : Host}
  {place : Place}

theorem heardSound_eq_map_played (stands : workspace.Stands host place)
    (survive : survivors id checked.mainClips checked.timeline workspace ≠ [])
    (asPlayed : LastsAsPlayed lasts checked workspace workingPlace) (settings : Settings)
    (shelf : Shelf ℚ) :
    heardSound workingPlace lasts checked workspace settings shelf =
      checked.played.map fun played =>
        ⟨played.soundFile workspace workingPlace, played.window.duration⟩ := by
  rw [heardSound_eq stands (soundParts_ne_nil survive), map_resolve_soundParts, List.map_map]
  refine List.map_congr_left fun played member => ?_
  simp only [Function.comp_apply, asPlayed played member, duration_sourcePart_of_mem_played member]

theorem heardSound_keepsStep_iff (passed : timeline.check = .ok checked)
    (stands : workspace.Stands host place)
    (survive : survivors id checked.mainClips checked.timeline workspace ≠ [])
    (asPlayed : LastsAsPlayed lasts checked workspace workingPlace) (settings : Settings)
    (shelf : Shelf ℚ) :
    KeepsStep checked workspace workingPlace
        (heardSound workingPlace lasts checked workspace settings shelf) ↔
      FollowOn 0 (checked.played.map Played.window) := by
  rw [heardSound_eq_map_played stands survive asPlayed, KeepsStep, rational_zero]
  exact beginsAt_iff_followOn (·.soundFile workspace workingPlace)
    (nodup_map_soundFile passed workspace workingPlace)

end

/-! ## Samples -/

namespace Timeline

def twoClips (start : ℚ) : Timeline ℚ :=
  .ofClips [
    .ofTrim "first.mp4" 0 2,
    { Clip.ofTrim "second.mp4" 0 2 with startTime := start }]

variable {start : ℚ}

theorem mainClips_twoClips (later : 0 ≤ start) :
    (twoClips start).mainClips = (twoClips start).clips := by
  have notBefore : decide (start < (0.0 : ℚ)) = false := by
    rw [rational_zero]
    exact decide_eq_false (not_lt.mpr later)
  have inOrder : startsFirst (Clip.ofTrim "first.mp4" (0 : ℚ) 2)
      { Clip.ofTrim "second.mp4" (0 : ℚ) 2 with startTime := start } = true :=
    congrArg not notBefore
  exact List.mergeSort_of_pairwise (List.pairwise_pair.mpr inOrder)

theorem sorted_twoClips (later : 0 ≤ start) :
    (twoClips start).sorted = ⟨twoClips start, (twoClips start).clips, []⟩ := by
  have noOverlays : (twoClips start).overlayClips = [] := List.mergeSort_nil
  rw [sorted, mainClips_twoClips later, noOverlays]
  rfl

/-- Between the clips nothing plays for three seconds. -/
theorem apart_passes : (twoClips 5).check = .ok (twoClips 5).sorted :=
  check_eq_of_isSome (by decide +kernel)

theorem windows_apart :
    (twoClips 5).sorted.played.map Played.window = [⟨0, 2⟩, ⟨5, 7⟩] := by
  rw [sorted_twoClips (by decide)]
  with_unfolding_all rfl

/-- The second clip starts when the first one ends. -/
theorem joined_passes : (twoClips 2).check = .ok (twoClips 2).sorted :=
  check_eq_of_isSome (by decide +kernel)

theorem windows_joined :
    (twoClips 2).sorted.played.map Played.window = [⟨0, 2⟩, ⟨2, 4⟩] := by
  rw [sorted_twoClips (by decide)]
  with_unfolding_all rfl

end Timeline

/-- The sound of every timeline that passes keeps step with its picture. -/
def AlwaysKeepsStep : Prop :=
  ∀ (timeline : Timeline ℚ) (checked : CheckedTimeline ℚ) (workspace : Workspace) (host : Host)
    (place : Place) (settings : Settings) (lasts : Path → ℚ) (shelf : Shelf ℚ),
    timeline.check = .ok checked → workspace.Stands host place →
    survivors id checked.mainClips checked.timeline workspace ≠ [] →
    LastsAsPlayed lasts checked workspace host.workingPlace →
    KeepsStep checked workspace host.workingPlace
      (heardSound host.workingPlace lasts checked workspace settings shelf)

theorem Workspace.sample_stands :
    ∃ place, Workspace.sample.Stands (Workspace.acquire none none Host.sample).2 place :=
  Workspace.stands_of_acquire Host.sample_isGrounded (Prod.ext Workspace.sample_acquired rfl)

/-- Nothing is heard between the clips either: the second one begins when the first one ends,
three seconds before it is seen. -/
theorem not_alwaysKeepsStep : ¬ AlwaysKeepsStep := by
  intro keeps
  rcases Workspace.sample_stands with ⟨place, stands⟩
  generalize (Workspace.acquire none none Host.sample).2 = host at stands
  have windows := Timeline.windows_apart
  have survive : survivors id (Timeline.twoClips 5).sorted.mainClips
      (Timeline.twoClips 5).sorted.timeline Workspace.sample ≠ [] :=
    survivors_ne_nil_iff.mpr (by rw [windows]; exact List.cons_ne_nil _ _)
  have asPlayed : LastsAsPlayed (fun _ => 2) (Timeline.twoClips 5).sorted Workspace.sample
      host.workingPlace :=
    lastsAsPlayed_of_equal_windows (by rw [windows]; decide +kernel)
  have kept := keeps _ _ _ _ place {} _ ⟨fun _ => [], fun _ => []⟩ Timeline.apart_passes stands
    survive asPlayed
  rw [heardSound_keepsStep_iff Timeline.apart_passes stands survive asPlayed, windows] at kept
  exact absurd kept (by decide)

/-! ## The sound of a montage -/

/-- On a machine where every call leaves its file, there is a sound wherever some main clip
plays. It keeps step with the picture exactly when the windows of the main clips follow on
each other from the beginning of the output. -/
theorem assembleSound_keepsStep_iff {timeline : Timeline ℚ} {checked : CheckedTimeline ℚ}
    (passed : timeline.check = .ok checked) {before : Session} (delivers : before.Delivers)
    {place : Place} (stands : workspace.Stands before.host place)
    (canHold : ∀ name ∈ workspaceNames checked, workspace.CanHold name)
    (survive : survivors id checked.mainClips checked.timeline workspace ≠ [])
    (settings : Settings) {lasts : Path → ℚ}
    (asPlayed : LastsAsPlayed lasts checked workspace before.host.workingPlace)
    (shelf : Shelf ℚ) :
    let heard := heardSound before.host.workingPlace lasts checked workspace settings shelf
    ∃ after,
      assembleSound checked workspace settings before =
        (.ok (workspace.file "audio.m4a"), after) ∧
      before.Did (assemblyDeeds checked workspace settings) after ∧
      (KeepsStep checked workspace before.host.workingPlace heard ↔
        FollowOn 0 (checked.played.map Played.window)) := by
  intro heard
  rcases assembleSound_did delivers stands canHold (soundParts_ne_nil survive) settings with
    ⟨after, ran, did⟩
  exact ⟨after, ran, did,
    heardSound_keepsStep_iff passed stands survive asPlayed settings shelf⟩

theorem Workspace.sample_holds_joined :
    ∀ name ∈ workspaceNames (Timeline.twoClips 2).sorted, Workspace.sample.CanHold name := by
  intro name member
  refine ⟨isFileName_of_mem_workspaceNames Timeline.joined_passes member, ?_⟩
  rw [Timeline.sorted_twoClips (by decide)] at member
  have short : ∀ name ∈ workspaceNames ⟨Timeline.twoClips 2, (Timeline.twoClips 2).clips, []⟩,
      let path := sample.file name
      path.text.utf8ByteSize ≤ FileTree.longestPath ∧
        ∀ part ∈ path.parts, part.utf8ByteSize ≤ FileTree.longestName := by
    decide +kernel
  exact ⟨(short name member).1, (short name member).2⟩

/-- Two clips one after the other, in a workspace of their own. -/
theorem assembleSound_keepsStep_joined :
    let host := (Workspace.acquire none none Host.sample).2
    let before : Session := { host, runner := host.newRunner none none }
    let checked := (Timeline.twoClips 2).sorted
    let shelf : Shelf ℚ := ⟨fun _ => [], fun _ => []⟩
    (Timeline.twoClips 2).check = .ok checked ∧ before.Delivers ∧
      LastsAsPlayed (fun _ => 2) checked Workspace.sample host.workingPlace ∧
      ∃ after,
        assembleSound checked Workspace.sample {} before =
          (.ok (Workspace.sample.file "audio.m4a"), after) ∧
        before.Did (assemblyDeeds checked Workspace.sample {}) after ∧
        KeepsStep checked Workspace.sample host.workingPlace
          (heardSound host.workingPlace (fun _ => 2) checked Workspace.sample {} shelf) := by
  intro host before checked shelf
  rcases Workspace.sample_stands with ⟨place, stands⟩
  have delivers : before.Delivers := by
    refine ⟨rfl, fun index command => ⟨{ leavesFile := true }, ?_, rfl, rfl⟩⟩
    rw [(Workspace.acquire_sameWorld none none Host.sample).script]
    rfl
  have windows : checked.played.map Played.window = [⟨0, 2⟩, ⟨2, 4⟩] := Timeline.windows_joined
  have survive : survivors id checked.mainClips checked.timeline Workspace.sample ≠ [] :=
    survivors_ne_nil_iff.mpr (by rw [windows]; exact List.cons_ne_nil _ _)
  have asPlayed : LastsAsPlayed (fun _ => 2) checked Workspace.sample host.workingPlace :=
    lastsAsPlayed_of_equal_windows (by rw [windows]; decide +kernel)
  rcases assembleSound_keepsStep_iff Timeline.joined_passes delivers stands
    Workspace.sample_holds_joined survive {} asPlayed shelf with ⟨after, ran, did, keeps⟩
  exact ⟨Timeline.joined_passes, delivers, asPlayed, after, ran, did,
    keeps.mpr (by rw [Timeline.windows_joined]; decide)⟩

end Montage

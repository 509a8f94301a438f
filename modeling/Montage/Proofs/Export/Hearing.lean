import Mathlib.Logic.Function.Basic
import Montage.Proofs.Export.CallPlan
import Montage.Proofs.Export.Instruction

/-! What is heard in the files of an export. Every extracted sound lasts for some time; a copy
sounds like what was copied, and a list that is joined sounds like its files, one after the
other. -/

namespace Montage

structure Stretch (τ : Type) where
  file : Path
  duration : τ

structure Shelf (τ : Type) where
  sound : Path → List (Stretch τ)
  listed : Path → List Path

namespace Shelf

variable {τ : Type}

def putSound (shelf : Shelf τ) (file : Path) (sound : List (Stretch τ)) : Shelf τ where
  sound := Function.update shelf.sound file sound
  listed := shelf.listed

def putList (shelf : Shelf τ) (file : Path) (files : List Path) : Shelf τ where
  sound := shelf.sound
  listed := Function.update shelf.listed file files

@[simp]
theorem sound_putSound_self (shelf : Shelf τ) (file : Path) (sound : List (Stretch τ)) :
    (shelf.putSound file sound).sound file = sound :=
  Function.update_self ..

theorem sound_putSound_of_ne {file other : Path} (different : other ≠ file) (shelf : Shelf τ)
    (sound : List (Stretch τ)) : (shelf.putSound file sound).sound other = shelf.sound other :=
  Function.update_of_ne different ..

@[simp]
theorem listed_putList_self (shelf : Shelf τ) (file : Path) (files : List Path) :
    (shelf.putList file files).listed file = files :=
  Function.update_self ..

def HoldsExtract (shelf : Shelf τ) (lasts : Path → τ) (file : Path) : Prop :=
  shelf.sound file = [⟨file, lasts file⟩]

end Shelf

variable {τ : Type}

/-- What a deed does to the sounds, when it is known how long each extracted one lasts. What is
joined is listed in the file that the call reads. -/
def Deed.sounding (workingPlace : Place) (lasts : Path → τ) (shelf : Shelf τ) : Deed → Shelf τ
  | .extract arguments =>
      let file := (lastPath arguments).resolve workingPlace
      shelf.putSound file [⟨file, lasts file⟩]
  | .copy source target =>
      shelf.putSound (target.resolve workingPlace) (shelf.sound (source.resolve workingPlace))
  | .list parts output =>
      shelf.putList (output.resolve workingPlace) (parts.map (·.resolve workingPlace))
  | .join arguments =>
      let listings := (filesOf arguments).map (·.resolve workingPlace)
      shelf.putSound ((lastPath arguments).resolve workingPlace)
        ((listings.flatMap shelf.listed).flatMap shelf.sound)
  | .makeDirectory _ | .compose _ => shelf

def soundingAfter (workingPlace : Place) (lasts : Path → τ) (deeds : List Deed)
    (shelf : Shelf τ) : Shelf τ :=
  deeds.foldl (Deed.sounding workingPlace lasts) shelf

variable {workingPlace : Place} {lasts : Path → τ}

theorem soundingAfter_append (first second : List Deed) (shelf : Shelf τ) :
    soundingAfter workingPlace lasts (first ++ second) shelf =
      soundingAfter workingPlace lasts second (soundingAfter workingPlace lasts first shelf) :=
  List.foldl_append

/-! ## Extractions -/

theorem holdsExtract_sounding_extract (shelf : Shelf τ) (arguments : List String) (file : Path)
    (held : file = (lastPath arguments).resolve workingPlace ∨ shelf.HoldsExtract lasts file) :
    ((Deed.extract arguments).sounding workingPlace lasts shelf).HoldsExtract lasts file := by
  simp only [Shelf.HoldsExtract, Deed.sounding]
  by_cases own : file = (lastPath arguments).resolve workingPlace
  · rw [own, Shelf.sound_putSound_self]
  · rw [Shelf.sound_putSound_of_ne own]
    exact held.resolve_left own

/-- However often a file is extracted into, only the extract is heard in it. -/
theorem holdsExtract_soundingAfter {file : Path} {given : List (Extraction τ)} :
    ∀ {shelf : Shelf τ},
      (file ∈ (writtenBy (given.map .ofExtraction)).map (·.resolve workingPlace) ∨
        shelf.HoldsExtract lasts file) →
      (soundingAfter workingPlace lasts (given.map .ofExtraction) shelf).HoldsExtract lasts
        file := by
  induction given with
  | nil =>
      intro shelf held
      exact held.resolve_left List.not_mem_nil
  | cons extraction rest induction =>
      intro shelf held
      rcases held with member | held
      · rcases List.mem_cons.mp member with own | later
        · exact induction (.inr (holdsExtract_sounding_extract _ _ _ (.inl own)))
        · exact induction (.inl later)
      · exact induction (.inr (holdsExtract_sounding_extract _ _ _ (.inr held)))

/-! ## Joining -/

variable {workspace : Workspace} {host : Host} {place : Place}

/-- All parts are heard in the sound, one after the other and each once, whether there is
one part or there are several. -/
theorem sound_soundDeeds (stands : workspace.Stands host place) {parts : List Path}
    (someParts : parts ≠ []) {shelf : Shelf τ}
    (held : ∀ part ∈ parts, shelf.HoldsExtract lasts (part.resolve workingPlace)) :
    (soundingAfter workingPlace lasts (soundDeeds parts workspace) shelf).sound
        ((workspace.file "audio.m4a").resolve workingPlace) =
      (parts.map (·.resolve workingPlace)).map fun file => ⟨file, lasts file⟩ := by
  match parts with
  | [] => exact absurd rfl someParts
  | [part] =>
      simp only [soundDeeds, soundingAfter, List.foldl_cons, List.foldl_nil, Deed.sounding,
        Shelf.sound_putSound_self]
      exact held part List.mem_cons_self
  | first :: second :: rest =>
      have joined := lastPath_joinArguments stands (workspace.file "audio-concat.txt") "audio.m4a"
      have listing : filesOf (joinArguments (workspace.file "audio-concat.txt")
          (workspace.file "audio.m4a")) = [workspace.file "audio-concat.txt"] := by
        rw [filesOf_of_read (read_joinArguments ..), List.map_singleton, stands.ofText_file]
      simp only [soundDeeds, soundingAfter, List.foldl_cons, List.foldl_nil, Deed.sounding,
        joined, listing, List.map_singleton, List.flatMap_singleton, Shelf.sound_putSound_self,
        Shelf.listed_putList_self]
      generalize first :: second :: rest = parts at held
      rw [List.flatMap_map, List.map_map]
      calc parts.flatMap (fun part => shelf.sound (part.resolve workingPlace))
          = parts.flatMap (fun part =>
              [⟨part.resolve workingPlace, lasts (part.resolve workingPlace)⟩]) :=
            List.flatMap_congr held
        _ = _ := List.map_eq_flatMap.symm

/-! ## The whole sound -/

variable [Quantity τ]

def assemblyDeeds (checked : CheckedTimeline τ) (workspace : Workspace) (settings : Settings) :
    List Deed :=
  (extractions id .audio checked.mainClips checked.timeline workspace settings).map .ofExtraction ++
    soundDeeds (soundParts checked workspace) workspace

def heardSound (workingPlace : Place) (lasts : Path → τ) (checked : CheckedTimeline τ)
    (workspace : Workspace) (settings : Settings) (shelf : Shelf τ) : List (Stretch τ) :=
  (soundingAfter workingPlace lasts (assemblyDeeds checked workspace settings) shelf).sound
    ((workspace.file "audio.m4a").resolve workingPlace)

variable {checked : CheckedTimeline τ}

theorem heardSound_eq (stands : workspace.Stands host place)
    (someParts : soundParts checked workspace ≠ []) (settings : Settings) (shelf : Shelf τ) :
    heardSound workingPlace lasts checked workspace settings shelf =
      ((soundParts checked workspace).map (·.resolve workingPlace)).map
        fun file => ⟨file, lasts file⟩ := by
  rw [heardSound, assemblyDeeds, soundingAfter_append]
  refine sound_soundDeeds stands someParts fun part member => holdsExtract_soundingAfter (.inl ?_)
  rw [writtenBy_extractions stands]
  exact List.mem_map_of_mem member

theorem assembleSound_did [LawfulQuantity τ] {before : Session} (delivers : before.Delivers)
    (stands : workspace.Stands before.host place)
    (canHold : ∀ name ∈ workspaceNames checked, workspace.CanHold name)
    (someParts : soundParts checked workspace ≠ []) (settings : Settings) :
    ∃ after, assembleSound checked workspace settings before =
        (.ok (workspace.file "audio.m4a"), after) ∧
      before.Did (assemblyDeeds checked workspace settings) after := by
  have canHoldExtracts : ∀ name ∈ assetNames id .audio checked.mainClips checked.timeline,
      workspace.CanHold name :=
    fun name member => canHold name (List.mem_append_left _ (List.mem_append_right _ member))
  have someName := assetNames_ne_nil_of_soundParts someParts
  rcases extractSound_fills delivers (Filled.refl stands) canHoldExtracts settings with
    ⟨gathered, ranExtract, filled⟩
  rcases joinSound_of_ne_nil (delivers.of_sameWorld filled.did.world) filled someName
    (fun name member => List.mem_append_right _ member) canHoldExtracts
    (fun name member => canHold name (List.mem_append_right _ member)) with
    ⟨after, ranJoin, joinDid⟩
  refine ⟨after, ?_, ?_⟩
  · unfold assembleSound
    rw [run_bind_of_ok ranExtract]
    exact ranJoin
  · exact filled.did.trans joinDid

end Montage

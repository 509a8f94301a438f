import Montage.Proofs.Graph.Overlong
import Montage.Proofs.Graph.Pixel

/-! Blending on a builder in any state: which nodes it adds, and which pixels of the base and of
the layer these put together. -/

namespace Montage

/-! ## Streams from outside -/

/-- Follows a label back through nodes that were added to a graph, up to the streams that were
there before. -/
def tracedBy (outside : String → Option Picture) :
    (latestFirst : List Node) → (label : String) → Option Picture
  | [], label => outside label
  | node :: earlier, label =>
      if label ∈ node.outputs then node.shows (tracedBy outside earlier)
      else tracedBy outside earlier label

theorem shownBy_append (inputs : List Input) (later earlier : List Node) :
    shownBy inputs (later ++ earlier) = tracedBy (shownBy inputs earlier) later := by
  induction later with
  | nil => rfl
  | cons node rest induction =>
      funext label
      rw [List.cons_append, shownBy, tracedBy, induction]

/-- What is shown in a graph with more nodes is what these make of what was shown before. -/
theorem pictureOf_append (inputs : List Input) (before added : List Node) :
    pictureOf inputs (before ++ added) = tracedBy (pictureOf inputs before) added.reverse := by
  funext label
  rw [pictureOf, List.reverse_append, shownBy_append]
  rfl

def Picture.ofStream (label : String) : Picture :=
  .source ⟨label, []⟩

def Pixel.ofStream (label : String) (x y : Int) : Pixel :=
  .taken ⟨label, []⟩ x y

/-- The pixel that added nodes show at a place of one of their streams, followed back to the
streams that were there before. -/
def pixelIn (fileExtent : String → Extent) (added : List Node) (label : String) (x y : Int) :
    Option Pixel :=
  (tracedBy (fun outside => some (.ofStream outside)) added.reverse label).bind
    fun picture => picture.pixel? fileExtent x y

namespace Builder

/-! ## Nodes that are added -/

def grown (builder : Builder) (nodes : List Node) (count : Nat) : Builder :=
  { builder with nodes := builder.nodes ++ nodes, drawn := builder.drawn + count }

theorem grown_grown (builder : Builder) (nodes more : List Node) (count next : Nat) :
    (builder.grown nodes count).grown more next =
      builder.grown (nodes ++ more) (count + next) := by
  simp only [grown, List.append_assoc, Nat.add_assoc]

theorem run_add {options : List (String × Value)} {params : List (String × String)}
    (written : writeOptions options = .ok params) (builder : Builder) (kind : String)
    (inputs : List String) :
    add kind inputs options builder = (.ok (drawnLabel builder.drawn),
      builder.grown [⟨kind, inputs, params, [drawnLabel builder.drawn]⟩] 1) :=
  add_of_written written builder

theorem run_split (builder : Builder) (source : String) :
    split source builder = (.ok (drawnLabel builder.drawn, drawnLabel (builder.drawn + 1)),
      builder.grown [⟨"split", [source], [("outputs", "2")],
        [drawnLabel builder.drawn, drawnLabel (builder.drawn + 1)]⟩] 2) := rfl

/-- Labels that are still to be drawn are none of those that are known. -/
theorem ne_drawnLabel_of_mem_labels {builder : Builder} {label : String}
    (known : label ∈ builder.labels) (offset : Nat) :
    label ≠ drawnLabel (builder.drawn + offset) := by
  simp only [labels, List.mem_append, List.mem_map, List.mem_range] at known
  rcases known with ⟨index, _, rfl⟩ | ⟨number, less, rfl⟩
  · exact inputLabel_ne_drawnLabel index _
  · intro equal
    have same := drawnLabel_injective equal
    omega

/-! ## What blending adds -/

variable {τ : Type} [Quantity τ]

def drawnBeforeBlended (whole region : Region) : Nat :=
  if (region.width, region.height) = (whole.width, whole.height) then 8 else 9

/-- The nodes that blend a layer into a region of the base, when this many labels were drawn
before. A layer that lies in the region as a whole is not cut. -/
def blendNodes (drawn : Nat) (base layer : String) (overlay : Overlay τ) (window : Window τ)
    (whole region : Region) : List Node :=
  let label (offset : Nat) := drawnLabel (drawn + offset)
  let cut (region : Region) := [("w", integerText region.width), ("h", integerText region.height),
    ("x", integerText region.x), ("y", integerText region.y)]
  let mix := [("all_mode", overlay.blendMode),
    ("all_opacity", Quantity.thousandths overlay.opacity)]
  let place := [("x", integerText region.x), ("y", integerText region.y),
    ("enable", "gte(t," ++ Quantity.thousandths window.start ++ ")*lt(t," ++
      Quantity.thousandths window.stop ++ ")")]
  [⟨"split", [base], [("outputs", "2")], [label 0, label 1]⟩,
    ⟨"format", [label 1], [("pix_fmts", "gbrp")], [label 2]⟩,
    ⟨"setsar", [label 2], [("r", "1")], [label 3]⟩,
    ⟨"crop", [label 3], cut region, [label 4]⟩,
    ⟨"format", [layer], [("pix_fmts", "gbrp")], [label 5]⟩,
    ⟨"setsar", [label 5], [("r", "1")], [label 6]⟩] ++
  if (region.width, region.height) = (whole.width, whole.height) then
    [⟨"blend", [label 4, label 6], mix, [label 7]⟩,
      ⟨"overlay", [label 0, label 7], place, [label 8]⟩]
  else
    [⟨"crop", [label 6],
        cut { region with x := region.x - whole.x, y := region.y - whole.y }, [label 7]⟩,
      ⟨"blend", [label 4, label 7], mix, [label 8]⟩,
      ⟨"overlay", [label 0, label 8], place, [label 9]⟩]

def cutOut (whole region : Region) : Region :=
  { region with x := region.x - whole.x, y := region.y - whole.y }

variable (overlay : Overlay τ) (window : Window τ) (whole region : Region)

theorem run_blendWithin (few : region.HasFewDigits) (cutFew : (region.width, region.height) ≠
      (whole.width, whole.height) → (cutOut whole region).HasFewDigits)
    (builder : Builder) (base layer : String) :
    blendWithin base layer overlay window.bounds whole region builder =
      (.ok (drawnLabel (builder.drawn + drawnBeforeBlended whole region)),
        builder.grown (blendNodes builder.drawn base layer overlay window whole region)
          (drawnBeforeBlended whole region + 1)) := by
  have formats (source : String) (builder : Builder) :
      add "format" [source] [("pix_fmts", .text "gbrp")] builder = (.ok _, builder.grown _ 1) :=
    run_add rfl builder _ _
  have squares (source : String) (builder : Builder) :
      add "setsar" [source] [("r", .int 1)] builder = (.ok _, builder.grown _ 1) :=
    run_add rfl builder _ _
  have mixes (below above : String) (builder : Builder) :
      add "blend" [below, above] [("all_mode", .text overlay.blendMode),
        ("all_opacity", .text (Quantity.thousandths overlay.opacity))] builder =
          (.ok _, builder.grown _ 1) :=
    run_add rfl builder _ _
  have crops (source : String) (builder : Builder) :
      cropTo source region builder = (.ok _, builder.grown _ 1) :=
    run_add (writeOptions_region few) builder _ _
  have places (keep mixed : String) (builder : Builder) :
      composite keep mixed (pairOf region.x region.y) window.bounds builder =
        (.ok _, builder.grown _ 1) :=
    run_add (writeOptions_pair few.1 "x" "y" rfl) builder _ _
  unfold blendWithin cutLayer blendNodes drawnBeforeBlended planar
  by_cases uncut : (region.width, region.height) = (whole.width, whole.height)
  · simp only [if_pos uncut, run_bind, run_split, formats, squares, crops, mixes, places, run_pure,
      grown_grown]
    rfl
  · have cuts (source : String) (builder : Builder) :
        cropTo source (cutOut whole region) builder = (.ok _, builder.grown _ 1) :=
      run_add (writeOptions_region (cutFew uncut)) builder _ _
    unfold cutOut at cuts
    simp only [if_neg uncut, run_bind, run_split, formats, squares, crops, cuts, mixes, places,
      grown_grown]
    rfl

/-- A blend that has run has written where its region lies, and what was cut out of the layer. -/
theorem fewDigits_of_blendWithin {base layer label : String} {builder after : Builder}
    (ran : blendWithin base layer overlay window.bounds whole region builder =
      (.ok label, after)) :
    region.HasFewDigits ∧ ((region.width, region.height) ≠ (whole.width, whole.height) →
      (cutOut whole region).HasFewDigits) := by
  obtain ⟨_, _, _, ran⟩ := exists_of_run_bind_ok ran
  obtain ⟨_, _, _, ran⟩ := exists_of_run_bind_ok ran
  obtain ⟨_, _, cropped, ran⟩ := exists_of_run_bind_ok ran
  obtain ⟨_, _, _, ran⟩ := exists_of_run_bind_ok ran
  obtain ⟨_, _, cut, _⟩ := exists_of_run_bind_ok ran
  refine ⟨?_, fun apart => ?_⟩
  · obtain ⟨params, written⟩ := exists_written_of_add cropped
    exact Region.hasFewDigits_of_writeOptions written
  · rw [cutLayer, if_neg apart] at cut
    obtain ⟨params, written⟩ := exists_written_of_add cut
    exact Region.hasFewDigits_of_writeOptions written

variable {builder : Builder} {base layer : String} (baseKnown : base ∈ builder.labels)
  (layerKnown : layer ∈ builder.labels)

include baseKnown layerKnown

theorem tracedBy_blendNodes (outside : String → Option Picture) {below above : Picture}
    (baseShown : outside base = some below) (layerShown : outside layer = some above) :
    tracedBy outside (blendNodes builder.drawn base layer overlay window whole region).reverse
        (drawnLabel (builder.drawn + drawnBeforeBlended whole region)) =
      some (below.overlaid (below.blended above whole region overlay.blendMode overlay.opacity)
        region.x region.y window) := by
  have newToBase := ne_drawnLabel_of_mem_labels baseKnown
  have newToLayer := ne_drawnLabel_of_mem_labels layerKnown
  have firstNewToLayer : layer ≠ drawnLabel builder.drawn := newToLayer 0
  unfold blendNodes drawnBeforeBlended Picture.overlaid Picture.blended Picture.cut Picture.planar
  by_cases uncut : (region.width, region.height) = (whole.width, whole.height)
  · simp only [if_pos uncut]
    simp [tracedBy, drawnLabel_injective.eq_iff, newToLayer, firstNewToLayer, Node.shows,
      changingKinds, baseShown, layerShown]
  · simp only [if_neg uncut]
    simp [tracedBy, drawnLabel_injective.eq_iff, newToLayer, firstNewToLayer, Node.shows,
      changingKinds, baseShown, layerShown]

/-- The base and the layer are read once each. All else that is read is made by the nodes. -/
theorem count_reads_blendNodes (apart : base ≠ layer) :
    ((blendNodes builder.drawn base layer overlay window whole region).flatMap
        Node.inputs).count base = 1 ∧
      ((blendNodes builder.drawn base layer overlay window whole region).flatMap
        Node.inputs).count layer = 1 := by
  have notBase (offset : Nat) : drawnLabel (builder.drawn + offset) ≠ base :=
    (ne_drawnLabel_of_mem_labels baseKnown offset).symm
  have notLayer (offset : Nat) : drawnLabel (builder.drawn + offset) ≠ layer :=
    (ne_drawnLabel_of_mem_labels layerKnown offset).symm
  have firstNotBase : drawnLabel builder.drawn ≠ base := notBase 0
  have firstNotLayer : drawnLabel builder.drawn ≠ layer := notLayer 0
  unfold blendNodes
  split
  · simp [notBase, notLayer, firstNotBase, firstNotLayer, apart, apart.symm]
  · simp [notBase, notLayer, firstNotBase, firstNotLayer, apart, apart.symm]

theorem pixelIn_blendNodes {canvas : Extent} {region : Region}
    (visible : visibleRegion? whole.x whole.y whole.width whole.height canvas.1 canvas.2 =
      some region) (fileExtent : String → Extent) (x y : Int) :
    pixelIn fileExtent (blendNodes builder.drawn base layer overlay window whole region)
        (drawnLabel (builder.drawn + drawnBeforeBlended whole region)) x y =
      if whole.Contains x y ∧ (Region.ofExtent canvas).Contains x y then
        some (.mixed [("all_mode", overlay.blendMode),
            ("all_opacity", Quantity.thousandths overlay.opacity)]
          (.ofStream base x y) (.ofStream layer (x - whole.x) (y - whole.y)))
      else some (.ofStream base x y) := by
  rw [pixelIn, tracedBy_blendNodes overlay window whole region baseKnown layerKnown _ rfl rfl,
    Option.bind_some, Picture.pixel?_overlaid_blended _ _ _ _ visible]
  rfl

end Builder

/-! ## Blending -/

variable {τ : Type} [Quantity τ]

/-- Added nodes mix a layer into a base, pixel for pixel, where it lies on the canvas. All other
pixels are those of the base. -/
structure BlendsVisiblePart (added : List Node) (base layer blended : String) (overlay : Overlay τ)
    (canvas : Extent) : Prop where
  replaced : ∀ fileExtent x y,
    overlay.rectangle.Contains x y → (Region.ofExtent canvas).Contains x y →
      pixelIn fileExtent added blended x y = some (.mixed
        [("all_mode", overlay.blendMode), ("all_opacity", Quantity.thousandths overlay.opacity)]
        (.ofStream base x y)
        (.ofStream layer (x - overlay.rectangle.x) (y - overlay.rectangle.y)))
  kept : ∀ fileExtent x y,
    ¬ (overlay.rectangle.Contains x y ∧ (Region.ofExtent canvas).Contains x y) →
      pixelIn fileExtent added blended x y = some (.ofStream base x y)
  baseReadOnce : (added.flatMap Node.inputs).count base = 1
  layerReadOnce : (added.flatMap Node.inputs).count layer = 1

def Overlay.acrossEdge : Overlay Float where
  position := pairOf (-20) 10
  size := pairOf 100 50
  opacity := 0.5
  blendMode := "screen"

def Builder.oneScaled : Builder where
  inputs := [⟨"first.mp4", []⟩, ⟨"sign.mp4", []⟩]
  nodes := [⟨"scale", ["0:v"], [("w", "640"), ("h", "360")], ["out0"]⟩]
  drawn := 1

end Montage

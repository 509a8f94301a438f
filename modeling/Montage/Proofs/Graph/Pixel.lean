import Montage.Proofs.Graph.SizedDrawing

/-! Which pixels a picture is made of. A pixel is followed back through what is cut out and what
is drawn upon, to the pictures that come from outside. -/

namespace Montage

/-! ## Rectangles -/

namespace Region

def Contains (region : Region) (x y : Int) : Prop :=
  region.x ≤ x ∧ x < region.x + region.width ∧ region.y ≤ y ∧ y < region.y + region.height

instance (region : Region) (x y : Int) : Decidable (region.Contains x y) :=
  inferInstanceAs (Decidable (_ ∧ _))

def ofExtent (extent : Extent) : Region :=
  ⟨0, 0, extent.1, extent.2⟩

end Region

section

variable {whole region : Region} {canvas : Extent}

theorem visibleRegion?_eq_none_iff :
    visibleRegion? whole.x whole.y whole.width whole.height canvas.1 canvas.2 = none ↔
      ¬ ∃ x y, whole.Contains x y ∧ (Region.ofExtent canvas).Contains x y := by
  simp only [Region.Contains, Region.ofExtent]
  constructor
  · rintro hidden ⟨x, y, inWhole, inCanvas⟩
    simp only [visibleRegion?, ite_eq_left_iff, reduceCtorEq, imp_false, not_not] at hidden
    omega
  · intro apart
    cases visible : visibleRegion? whole.x whole.y whole.width whole.height canvas.1 canvas.2 with
    | none => rfl
    | some region =>
        -- The upper left corner of what is visible lies in both.
        rcases Builder.eq_of_visibleRegion? visible with ⟨wide, high, _⟩
        exact absurd ⟨max whole.x 0, max whole.y 0, by omega, by omega⟩ apart

theorem contains_visibleRegion_iff
    (visible : visibleRegion? whole.x whole.y whole.width whole.height canvas.1 canvas.2 =
      some region) (x y : Int) :
    region.Contains x y ↔ whole.Contains x y ∧ (Region.ofExtent canvas).Contains x y := by
  rcases Builder.eq_of_visibleRegion? visible with ⟨wide, high, rfl⟩
  simp only [Region.Contains, Region.ofExtent]
  omega

/-- Nothing is cut off when the size stays: then the corner stays, too. -/
theorem corner_eq_of_uncut
    (visible : visibleRegion? whole.x whole.y whole.width whole.height canvas.1 canvas.2 =
      some region) (uncut : (region.width, region.height) = (whole.width, whole.height)) :
    region.x = whole.x ∧ region.y = whole.y := by
  rcases Builder.eq_of_visibleRegion? visible with ⟨wide, high, rfl⟩
  rcases Prod.mk.inj uncut with ⟨sameWidth, sameHeight⟩
  dsimp only at sameWidth sameHeight ⊢
  omega

end

/-! ## Pixels -/

inductive Pixel where
  | taken (input : Input) (x y : Int)
  | mixed (params : List (String × String)) (below above : Pixel)
  deriving DecidableEq, Repr

namespace Picture

variable (fileExtent : String → Extent)

/-- The pixel of a picture at a place, while all that is drawn on it is shown. What is cut out
begins at its corner and has no pixels beside it; what is drawn covers the pixels below it. A
picture that was scaled has other pixels than the one that it was made of. -/
def pixel? : Picture → (x y : Int) → Option Pixel
  | .source input, x, y => some (.taken input x y)
  | .changed kind params picture, x, y =>
      if kind = "scale" then none
      else if kind = "crop" then do
        let region ← regionParams? params
        if (Region.ofExtent (region.width, region.height)).Contains x y then
          picture.pixel? (x + region.x) (y + region.y)
        else none
      else picture.pixel? x y
  | .mixed params base layer, x, y => do
      return .mixed params (← base.pixel? x y) (← layer.pixel? x y)
  | .drawn params base top, x, y => do
      let left ← integerParam? params "x"
      let upper ← integerParam? params "y"
      let extent ← top.extent? fileExtent
      if (Region.ofExtent extent).Contains (x - left) (y - upper) then
        top.pixel? (x - left) (y - upper)
      else base.pixel? x y

variable {fileExtent} {τ : Type} [Quantity τ]

theorem pixel?_planar (picture : Picture) (x y : Int) :
    picture.planar.pixel? fileExtent x y = picture.pixel? fileExtent x y := rfl

theorem pixel?_cut (region : Region) (picture : Picture) (x y : Int) :
    (picture.cut region).pixel? fileExtent x y =
      if (Region.ofExtent (region.width, region.height)).Contains x y then
        picture.pixel? fileExtent (x + region.x) (y + region.y)
      else none := by
  rw [cut, pixel?, if_neg (by decide), if_pos rfl, regionParams?_cut]
  rfl

theorem pixel?_overlaid {top : Picture} {extent : Extent}
    (sized : top.extent? fileExtent = some extent) (base : Picture) (left upper : Int)
    (window : Window τ) (x y : Int) :
    (base.overlaid top left upper window).pixel? fileExtent x y =
      if (Region.ofExtent extent).Contains (x - left) (y - upper) then
        top.pixel? fileExtent (x - left) (y - upper)
      else base.pixel? fileExtent x y := by
  simp [overlaid, pixel?, integerParam?, integerOf?_integerText, List.lookup_cons, sized]

variable {whole region : Region} {canvas : Extent} (base layer : Picture) (mode : String)
  (opacity : τ)

theorem extent?_blended : (base.blended layer whole region mode opacity).extent? fileExtent =
    some (region.width, region.height) :=
  extentParams?_cut region

/-- A mixture of a region holds the pixels of both, each counted from its own corner. -/
theorem pixel?_blended
    (visible : visibleRegion? whole.x whole.y whole.width whole.height canvas.1 canvas.2 =
      some region) {x y : Int}
    (inside : (Region.ofExtent (region.width, region.height)).Contains x y) :
    (base.blended layer whole region mode opacity).pixel? fileExtent x y = (do
      return .mixed [("all_mode", mode), ("all_opacity", Quantity.thousandths opacity)]
        (← base.pixel? fileExtent (x + region.x) (y + region.y))
        (← layer.pixel? fileExtent (x + region.x - whole.x) (y + region.y - whole.y))) := by
  rw [blended, pixel?, pixel?_cut, if_pos inside, pixel?_planar]
  split
  · rename_i uncut
    rcases corner_eq_of_uncut visible uncut with ⟨sameX, sameY⟩
    rw [pixel?_planar, sameX, sameY, Int.add_sub_cancel, Int.add_sub_cancel]
  · rw [pixel?_cut, if_pos inside, pixel?_planar, Int.add_sub_assoc, Int.add_sub_assoc]

/-- A layer that is blended in changes the pixels of the base that it covers, and no others. -/
theorem pixel?_overlaid_blended
    (visible : visibleRegion? whole.x whole.y whole.width whole.height canvas.1 canvas.2 =
      some region) (window : Window τ) (x y : Int) :
    (base.overlaid (base.blended layer whole region mode opacity) region.x region.y window).pixel?
        fileExtent x y =
      if whole.Contains x y ∧ (Region.ofExtent canvas).Contains x y then do
        return .mixed [("all_mode", mode), ("all_opacity", Quantity.thousandths opacity)]
          (← base.pixel? fileExtent x y)
          (← layer.pixel? fileExtent (x - whole.x) (y - whole.y))
      else base.pixel? fileExtent x y := by
  have covered : (Region.ofExtent (region.width, region.height)).Contains (x - region.x)
      (y - region.y) ↔ whole.Contains x y ∧ (Region.ofExtent canvas).Contains x y := by
    rw [← contains_visibleRegion_iff visible]
    simp only [Region.Contains, Region.ofExtent]
    omega
  rw [pixel?_overlaid (extent?_blended base layer mode opacity)]
  simp only [covered]
  split
  · rename_i both
    rw [pixel?_blended base layer mode opacity visible (covered.mpr both), Int.sub_add_cancel,
      Int.sub_add_cancel]
  · rfl

end Picture

end Montage

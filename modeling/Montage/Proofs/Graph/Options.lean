import Montage.Graph.Builder
import Montage.Proofs.Number.Decimal

/-! Options of nodes as they are written. One that holds an integer with too many digits cannot
be, and then the label of its node is drawn in vain. -/

namespace Montage

def HaveFewDigits (pair : Int × Int) : Prop :=
  hasFewDigits pair.1 = true ∧ hasFewDigits pair.2 = true

def Region.HasFewDigits (region : Region) : Prop :=
  HaveFewDigits (region.x, region.y) ∧ HaveFewDigits (region.width, region.height)

instance (pair : Int × Int) : Decidable (HaveFewDigits pair) :=
  inferInstanceAs (Decidable (_ ∧ _))

instance (region : Region) : Decidable region.HasFewDigits :=
  inferInstanceAs (Decidable (_ ∧ _))

theorem writeOptions_eq (options : List (String × Value)) :
    writeOptions options =
      if options.all (·.2.isWritable) then .ok (options.map fun (key, value) => (key, value.plain))
      else .error .tooManyDigits := by
  induction options with
  | nil => rfl
  | cons option rest induction =>
      have unfolded : writeOptions (option :: rest) = (do
          let written ← option.2.write
          return (option.1, written) :: (← writeOptions rest)) := by
        simp only [writeOptions, List.mapM_cons, bind_assoc, pure_bind]
      rw [unfolded, induction, List.all_cons]
      cases writable : option.2.isWritable with
      | false =>
          rw [Value.write_eq_error writable]
          rfl
      | true =>
          rw [Value.write_eq_ok writable, Bool.true_and]
          split <;> rfl

theorem writeOptions_eq_ok_iff {options : List (String × Value)}
    {params : List (String × String)} :
    writeOptions options = .ok params ↔
      (∀ option ∈ options, option.2.isWritable = true) ∧
        options.map (fun (key, value) => (key, value.plain)) = params := by
  rw [writeOptions_eq, ← List.all_eq_true]
  cases options.all (·.2.isWritable) <;> simp

/-- Two numbers and what comes after them. -/
theorem writeOptions_pair {first second : Int} (few : HaveFewDigits (first, second))
    (firstKey secondKey : String) {rest : List (String × Value)} {params : List (String × String)}
    (written : writeOptions rest = .ok params) :
    writeOptions ((firstKey, .int first) :: (secondKey, .int second) :: rest) =
      .ok ((firstKey, integerText first) :: (secondKey, integerText second) :: params) := by
  obtain ⟨writable, rfl⟩ := writeOptions_eq_ok_iff.mp written
  exact writeOptions_eq_ok_iff.mpr
    ⟨List.forall_mem_cons.mpr ⟨few.1, List.forall_mem_cons.mpr ⟨few.2, writable⟩⟩, rfl⟩

theorem writeOptions_region {region : Region} (few : region.HasFewDigits) :
    writeOptions [("w", .int region.width), ("h", .int region.height), ("x", .int region.x),
        ("y", .int region.y)] =
      .ok [("w", integerText region.width), ("h", integerText region.height),
        ("x", integerText region.x), ("y", integerText region.y)] :=
  writeOptions_pair few.2 "w" "h" (writeOptions_pair few.1 "x" "y" rfl)

theorem haveFewDigits_of_writeOptions {first second : Int} {firstKey secondKey : String}
    {rest : List (String × Value)} {params : List (String × String)}
    (written : writeOptions ((firstKey, .int first) :: (secondKey, .int second) :: rest) =
      .ok params) : HaveFewDigits (first, second) :=
  have writable := (writeOptions_eq_ok_iff.mp written).1
  ⟨writable _ List.mem_cons_self, writable _ (List.mem_cons_of_mem _ List.mem_cons_self)⟩

theorem Region.hasFewDigits_of_writeOptions {region : Region} {params : List (String × String)}
    (written : writeOptions [("w", .int region.width), ("h", .int region.height),
      ("x", .int region.x), ("y", .int region.y)] = .ok params) : region.HasFewDigits := by
  have writable := (writeOptions_eq_ok_iff.mp written).1
  exact ⟨⟨writable ("x", .int region.x) (by simp), writable ("y", .int region.y) (by simp)⟩,
    haveFewDigits_of_writeOptions written⟩

/-! ## Regions -/

theorem Builder.eq_of_visibleRegion? {x y width height canvasWidth canvasHeight : Int}
    {region : Region}
    (visible : visibleRegion? x y width height canvasWidth canvasHeight = some region) :
    max x 0 < min (x + width) canvasWidth ∧ max y 0 < min (y + height) canvasHeight ∧
      region = ⟨max x 0, max y 0, min (x + width) canvasWidth - max x 0,
        min (y + height) canvasHeight - max y 0⟩ := by
  simp only [visibleRegion?, Option.ite_none_left_eq_some, Option.some.injEq, not_or, Int.not_le]
    at visible
  exact ⟨visible.1.1, visible.1.2, visible.2.symm⟩

namespace Region

variable {whole region : Region} {canvas : Int × Int}

/-- What is visible of a rectangle lies on the canvas, whose numbers are no smaller. -/
theorem hasFewDigits_of_visible (canvasFew : HaveFewDigits canvas)
    (visible : visibleRegion? whole.x whole.y whole.width whole.height canvas.1 canvas.2 =
      some region) : region.HasFewDigits := by
  obtain ⟨wide, high, rfl⟩ := Builder.eq_of_visibleRegion? visible
  refine ⟨⟨?_, ?_⟩, ?_, ?_⟩
  · exact hasFewDigits_of_natAbs_le canvasFew.1 (by dsimp only; omega)
  · exact hasFewDigits_of_natAbs_le canvasFew.2 (by dsimp only; omega)
  · exact hasFewDigits_of_natAbs_le canvasFew.1 (by dsimp only; omega)
  · exact hasFewDigits_of_natAbs_le canvasFew.2 (by dsimp only; omega)

/-- Seen from the corner of the rectangle it lies in that, whose size is no smaller. -/
theorem hasFewDigits_of_cut (sizeFew : HaveFewDigits (whole.width, whole.height))
    (visible : visibleRegion? whole.x whole.y whole.width whole.height canvas.1 canvas.2 =
      some region) :
    HasFewDigits { region with x := region.x - whole.x, y := region.y - whole.y } := by
  obtain ⟨wide, high, rfl⟩ := Builder.eq_of_visibleRegion? visible
  refine ⟨⟨?_, ?_⟩, ?_, ?_⟩
  · exact hasFewDigits_of_natAbs_le sizeFew.1 (by dsimp only; omega)
  · exact hasFewDigits_of_natAbs_le sizeFew.2 (by dsimp only; omega)
  · exact hasFewDigits_of_natAbs_le sizeFew.1 (by dsimp only; omega)
  · exact hasFewDigits_of_natAbs_le sizeFew.2 (by dsimp only; omega)

/-- A rectangle that can be seen is no farther away than its own size or that of the canvas. -/
theorem position_hasFewDigits_of_visible (canvasFew : HaveFewDigits canvas)
    (sizeFew : HaveFewDigits (whole.width, whole.height))
    (visible : visibleRegion? whole.x whole.y whole.width whole.height canvas.1 canvas.2 =
      some region) : HaveFewDigits (whole.x, whole.y) := by
  obtain ⟨wide, high, -⟩ := Builder.eq_of_visibleRegion? visible
  constructor
  · rcases Int.le_total 0 whole.x with right | left
    · exact hasFewDigits_of_natAbs_le canvasFew.1 (by dsimp only; omega)
    · exact hasFewDigits_of_natAbs_le sizeFew.1 (by dsimp only; omega)
  · rcases Int.le_total 0 whole.y with below | above
    · exact hasFewDigits_of_natAbs_le canvasFew.2 (by dsimp only; omega)
    · exact hasFewDigits_of_natAbs_le sizeFew.2 (by dsimp only; omega)

end Region

/-! ## Nodes -/

namespace Builder

def withNode (builder : Builder) (kind : String) (inputs : List String)
    (params : List (String × String)) : Builder :=
  { builder with
    nodes := builder.nodes ++ [⟨kind, inputs, params, [drawnLabel builder.drawn]⟩]
    drawn := builder.drawn + 1 }

theorem add_eq (kind : String) (inputs : List String) (options : List (String × Value))
    (builder : Builder) :
    add kind inputs options builder =
      match writeOptions options with
      | .ok params => (.ok (drawnLabel builder.drawn), builder.withNode kind inputs params)
      | .error misfit => (.error misfit, { builder with drawn := builder.drawn + 1 }) := by
  unfold add
  cases writeOptions options <;> rfl

theorem add_of_written {kind : String} {inputs : List String} {options : List (String × Value)}
    {params : List (String × String)} (written : writeOptions options = .ok params)
    (builder : Builder) :
    add kind inputs options builder =
      (.ok (drawnLabel builder.drawn), builder.withNode kind inputs params) := by
  rw [add_eq, written]

theorem exists_written_of_add {kind label : String} {inputs : List String}
    {options : List (String × Value)} {before after : Builder}
    (ran : add kind inputs options before = (.ok label, after)) :
    ∃ params, writeOptions options = .ok params := by
  rw [add_eq] at ran
  cases written : writeOptions options with
  | ok params => exact ⟨params, rfl⟩
  | error misfit =>
      rw [written] at ran
      cases ran

end Builder

end Montage

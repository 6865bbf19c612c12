import PlotLang.Proofs.DrawnTags
import PlotLang.Proofs.Sums

/-! # Points of the box on the canvas

Drawing moves a point by the padding and turns its depth around, and then writes both to a number of
places. Each of these steps is monotone and leaves the edges of the canvas where they are, so a
point of the box stays between them whatever is lost to rounding.
-/

namespace PlotLang

/-! ## Places on a canvas -/

/-- A rounding that keeps the order, and leaves zero and its own results alone. -/
structure Arithmetic where
  round : ℚ → ℚ
  mono : Monotone round
  round_zero : round 0 = 0
  round_round : ∀ q, round (round q) = round q

namespace Arithmetic

def exact : Arithmetic := ⟨id, monotone_id, rfl, fun _ => rfl⟩

def binary64 : Arithmetic :=
  ⟨Binary64.nearest, Binary64.monotone_nearest, Binary64.nearest_zero, Binary64.nearest_nearest⟩

variable (a : Arithmetic) {pad x y w h : ℚ}

theorem shift_mem (hPad : 0 ≤ pad) (hLower : 0 ≤ x) (hUpper : x ≤ w) :
    0 ≤ a.round (x + pad) ∧ a.round (x + pad) ≤ a.round (w + pad) := by
  constructor
  · calc 0 = a.round 0 := a.round_zero.symm
      _ ≤ a.round (x + pad) := a.mono (add_nonneg hLower hPad)
  · exact a.mono (add_le_add_left hUpper pad)

theorem le_round_add (hPad : 0 ≤ pad) (hHeight : a.round h = h) : h ≤ a.round (h + pad) :=
  calc h = a.round h := hHeight.symm
    _ ≤ a.round (h + pad) := a.mono (le_add_of_nonneg_right hPad)

/-- The height of the canvas is rounded once more, which does not change it. -/
theorem flip_mem (hPad : 0 ≤ pad) (hHeight : a.round h = h) (hLower : 0 ≤ y) (hUpper : y ≤ h) :
    0 ≤ a.round (a.round (h + pad) - y) ∧
      a.round (a.round (h + pad) - y) ≤ a.round (h + pad) := by
  have hAbove : y ≤ a.round (h + pad) := hUpper.trans (a.le_round_add hPad hHeight)
  constructor
  · calc 0 = a.round 0 := a.round_zero.symm
      _ ≤ a.round (a.round (h + pad) - y) := a.mono (sub_nonneg.mpr hAbove)
  · calc a.round (a.round (h + pad) - y) ≤ a.round (a.round (h + pad)) :=
          a.mono (sub_le_self _ hLower)
      _ = a.round (h + pad) := a.round_round _

end Arithmetic

/-- The place is in the rectangle of the given width and height, which starts in the origin. -/
structure InRectangle (size point : ℚ × ℚ) : Prop where
  left : 0 ≤ point.1
  right : point.1 ≤ size.1
  low : 0 ≤ point.2
  high : point.2 ≤ size.2

def Point.exact (p : Point) : ℚ × ℚ := (p.x.value, p.y.value)

namespace Box

variable {b : Box} {p : Point}

def size (b : Box) : ℚ × ℚ := (b.width.value, b.height.value)

structure Bounded (b : Box) : Prop where
  width : b.width.isFinite ∧ Binary64.le 0 b.width
  height : b.height.isFinite ∧ Binary64.le 0 b.height

structure Encloses (b : Box) (p : Point) : Prop where
  left : Binary64.le 0 p.x
  right : p.x.le b.width
  bottom : Binary64.le 0 p.y
  top : p.y.le b.height

theorem Encloses.isFinite (h : b.Encloses p) (hBounded : b.Bounded) :
    p.x.isFinite ∧ p.y.isFinite :=
  ⟨Binary64.isFinite_of_le_of_le Binary64.isFinite_zero hBounded.width.1 h.left h.right,
    Binary64.isFinite_of_le_of_le Binary64.isFinite_zero hBounded.height.1 h.bottom h.top⟩

theorem Encloses.inRectangle (h : b.Encloses p) (hBounded : b.Bounded) :
    InRectangle b.size p.exact := by
  obtain ⟨hx, hy⟩ := h.isFinite hBounded
  have hZero := Binary64.value_zero
  exact {
    left := hZero.ge.trans ((Binary64.le_iff Binary64.isFinite_zero hx).mp h.left)
    right := (Binary64.le_iff hx hBounded.width.1).mp h.right
    low := hZero.ge.trans ((Binary64.le_iff Binary64.isFinite_zero hy).mp h.bottom)
    high := (Binary64.le_iff hy hBounded.height.1).mp h.top }

end Box

def Markup.Tag.numbers (t : Markup.Tag) (name : String) : List (Option ℚ) :=
  (t.values name).map Decimal.number?

/-- A point of a shape, and the attributes its place is written in. -/
structure Corner where
  point : Point
  across : String
  depth : String

def Shape.corners : Shape → List Corner
  | .line start finish _ _ _ => [⟨start, "x1", "y1"⟩, ⟨finish, "x2", "y2"⟩]
  | .point location _ _ => [⟨location, "cx", "cy"⟩]
  | .graph .. => []

namespace Drawing

open Decimal (fixed number?)
open Markup (Attribute Element Tag)

variable {a : Arithmetic} {places : ℕ} {size point canvas drawn : ℚ × ℚ} {b : Box} {p : Point}

/-- The size of the canvas of a box, and the place on it of a point, in an arithmetic and then to a
number of places. -/
structure Writes (a : Arithmetic) (places : ℕ) (size point canvas drawn : ℚ × ℚ) : Prop where
  width : IsRounded places (a.round (size.1 + padding.value)) canvas.1
  height : IsRounded places (a.round (size.2 + padding.value)) canvas.2
  across : IsRounded places (a.round (point.1 + padding.value)) drawn.1
  depth : IsRounded places (a.round (a.round (size.2 + padding.value) - point.2)) drawn.2

theorem padding_units : padding.signedUnits = 10 * Binary64.unitsInOne := by decide +kernel

theorem padding_value : padding.value = 10 := by
  rw [Binary64.value, padding_units, Int.cast_mul, Int.cast_natCast,
    mul_div_cancel_right₀ _ Binary64.cast_unitsInOne_pos.ne']
  rfl

theorem padding_nonneg : 0 ≤ padding.value := by
  rw [padding_value]
  exact Nat.ofNat_nonneg 10

theorem Writes.inRectangle (h : Writes a places size point canvas drawn)
    (hHeight : a.round size.2 = size.2) (hPoint : InRectangle size point) :
    InRectangle canvas drawn := by
  obtain ⟨hLeft, hRight⟩ := a.shift_mem padding_nonneg hPoint.left hPoint.right
  obtain ⟨hLow, hHigh⟩ := a.flip_mem padding_nonneg hHeight hPoint.low hPoint.high
  exact {
    left := IsRounded.mono hLeft (.zero places) h.across
    right := IsRounded.mono hRight h.across h.width
    low := IsRounded.mono hLow (.zero places) h.depth
    high := IsRounded.mono hHigh h.depth h.height }

/-! ## Finite numbers -/

theorem isFinite_padding : padding.isFinite := by decide +kernel

/-- The padding is less than half the gap below the next power of two, so it is lost there. -/
theorem log2_full_add_padding :
    (Binary64.roundUnits (Binary64.full 2045 + 10 * Binary64.unitsInOne) 1).log2 < 2098 := by
  decide +kernel

theorem isFinite_shift {x : Binary64} (h : x.isFinite) : (x + padding).isFinite := by
  have hPositive := Binary64.cast_unitsInOne_pos
  have hCount : (x.signedUnits.natAbs : ℚ) ≤ Binary64.full 2045 :=
    Nat.cast_le.mpr (Binary64.natAbs_signedUnits_le x)
  refine Binary64.isFinite_add_of_le h isFinite_padding ?_ log2_full_add_padding
  calc |x.value + padding.value| ≤ |x.value| + |padding.value| := abs_add_le _ _
    _ = (x.signedUnits.natAbs : ℚ) / Binary64.unitsInOne + 10 := by
      rw [Binary64.abs_value, padding_value, abs_of_nonneg (Nat.ofNat_nonneg 10)]
    _ ≤ (Binary64.full 2045 : ℚ) / Binary64.unitsInOne + 10 :=
      add_le_add_left (div_le_div_of_nonneg_right hCount hPositive.le) 10
    _ = ((Binary64.full 2045 + 10 * Binary64.unitsInOne : ℕ) : ℚ) / Binary64.unitsInOne := by
      generalize Binary64.full 2045 = top
      rw [Nat.cast_add, Nat.cast_mul, add_div, mul_div_cancel_right₀ _ hPositive.ne']
      rfl

theorem value_shift {x : Binary64} (h : x.isFinite) :
    (x + padding).value = Binary64.nearest (x.value + padding.value) :=
  Binary64.value_add h isFinite_padding (isFinite_shift h)

/-- A depth on the canvas is no greater than its height, so it is finite. -/
theorem isFinite_depth {h y : Binary64} (hHeight : h.isFinite) (hy : y.isFinite)
    (hBottom : 0 ≤ y.value) (hTop : y.value ≤ h.value) : (h + padding - y).isFinite := by
  have hAbove : h.value ≤ (h + padding).value := by
    rw [value_shift hHeight]
    exact Arithmetic.binary64.le_round_add padding_nonneg (Binary64.nearest_value h)
  have hDepth : 0 ≤ (h + padding).value - y.value := sub_nonneg.mpr (hTop.trans hAbove)
  refine Binary64.isFinite_sub_of_abs_le (z := h + padding) (isFinite_shift hHeight) hy ?_
  rw [abs_of_nonneg hDepth, abs_of_nonneg (hBottom.trans (hTop.trans hAbove))]
  exact sub_le_self _ hBottom

theorem exists_canvas (hBounded : b.Bounded) (places : ℕ) : ∃ canvas : ℚ × ℚ,
    number? (fixed (b.width + padding) places) = some canvas.1 ∧
      number? (fixed (b.height + padding) places) = some canvas.2 ∧
      IsRounded places (Binary64.nearest (b.size.1 + padding.value)) canvas.1 ∧
      IsRounded places (Binary64.nearest (b.size.2 + padding.value)) canvas.2 := by
  obtain ⟨W, hW, hWidth⟩ :=
    Decimal.exists_number?_fixed (isFinite_shift hBounded.width.1) places
  obtain ⟨H, hH, hHeight⟩ :=
    Decimal.exists_number?_fixed (isFinite_shift hBounded.height.1) places
  rw [value_shift hBounded.width.1] at hWidth
  rw [value_shift hBounded.height.1] at hHeight
  exact ⟨(W, H), hW, hH, hWidth, hHeight⟩

theorem exists_drawn (hBounded : b.Bounded) (h : b.Encloses p) (places : ℕ) : ∃ drawn : ℚ × ℚ,
    number? (fixed (place (b.height + padding) p).x places) = some drawn.1 ∧
      number? (fixed (place (b.height + padding) p).y places) = some drawn.2 ∧
      IsRounded places (Binary64.nearest (p.exact.1 + padding.value)) drawn.1 ∧
      IsRounded places
        (Binary64.nearest (Binary64.nearest (b.size.2 + padding.value) - p.exact.2)) drawn.2 := by
  obtain ⟨hx, hy⟩ := h.isFinite hBounded
  have hPoint := h.inRectangle hBounded
  have hHeight := hBounded.height.1
  have hDepth := isFinite_depth hHeight hy hPoint.low hPoint.high
  obtain ⟨X, hX, hAcross⟩ := Decimal.exists_number?_fixed (isFinite_shift hx) places
  obtain ⟨Y, hY, hDown⟩ := Decimal.exists_number?_fixed hDepth places
  rw [value_shift hx] at hAcross
  rw [Binary64.value_sub (isFinite_shift hHeight) hy hDepth, value_shift hHeight] at hDown
  exact ⟨(X, Y), hX, hY, hAcross, hDown⟩

/-! ## Tags -/

variable {library : Expression.Library} {c : Canvas} {options : Options} {width : Binary64}
  {s : Shape} {ss : List Shape} {e : Element} {es : List Element} {program : Program}

theorem corner_values (h : Draws library c options width s e) : ∃ attributes,
    e = .empty s.tagName attributes ∧ ∀ corner ∈ s.corners,
      (Tag.mk .empty s.tagName attributes).values corner.across =
        [fixed (place c.height corner.point).x c.places] ∧
      (Tag.mk .empty s.tagName attributes).values corner.depth =
        [fixed (place c.height corner.point).y c.places] := by
  cases s with
  | line start finish name color thickness =>
    cases h
    refine ⟨_, rfl, List.forall_mem_cons.mpr ⟨?_, List.forall_mem_singleton.mpr ?_⟩⟩
    all_goals
      cases name <;> cases color <;> cases thickness <;> exact ⟨rfl, rfl⟩
  | point location name color =>
    cases h
    refine ⟨_, rfl, List.forall_mem_singleton.mpr ?_⟩
    cases name <;> exact ⟨rfl, rfl⟩
  | graph function name color thickness =>
    rw [Draws, shape] at h
    split at h
    · cases h
    · cases h
      exact ⟨_, rfl, List.forall_mem_nil _⟩

/-- The tag of a shape, with the places of the points that the box encloses on its canvas. -/
structure IsPlaced (b : Box) (canvas : ℚ × ℚ) (s : Shape) (t : Tag) : Prop where
  kind : t.kind = .empty
  name : t.name = s.tagName
  corners : ∀ corner ∈ s.corners, b.Encloses corner.point → ∃ drawn,
    t.numbers corner.across = [some drawn.1] ∧ t.numbers corner.depth = [some drawn.2] ∧
      InRectangle canvas drawn

theorem isPlaced_of_draws (hBounded : b.Bounded)
    (hWidth : IsRounded options.precision (Binary64.nearest (b.size.1 + padding.value)) canvas.1)
    (hHeight : IsRounded options.precision (Binary64.nearest (b.size.2 + padding.value)) canvas.2)
    (h : List.Forall₂ (Draws library (.ofBox b options) options width) ss es) :
    List.Forall₂ (IsPlaced b canvas) ss (Element.tagsAll es) := by
  induction h with
  | nil => exact .nil
  | cons hFirst _ ih =>
    obtain ⟨attributes, rfl, hValues⟩ := corner_values hFirst
    refine .cons ⟨rfl, rfl, fun corner hCorner hEncloses => ?_⟩ ih
    obtain ⟨hAcross, hDepth⟩ := hValues corner hCorner
    obtain ⟨drawn, hX, hY, hXRounded, hYRounded⟩ :=
      exists_drawn hBounded hEncloses options.precision
    have hWrites : Writes .binary64 options.precision b.size corner.point.exact canvas drawn :=
      ⟨hWidth, hHeight, hXRounded, hYRounded⟩
    refine ⟨drawn, ?_, ?_, hWrites.inRectangle (Binary64.nearest_value _)
      (hEncloses.inRectangle hBounded)⟩
    · rw [Tag.numbers, hAcross]
      exact congrArg (fun r => [r]) hX
    · rw [Tag.numbers, hDepth]
      exact congrArg (fun r => [r]) hY

theorem exact_places (hBounded : b.Bounded) (places : ℕ) : ∃ canvas : ℚ × ℚ, ∀ p : Point,
    b.Encloses p → ∃ drawn, Writes .exact places b.size p.exact canvas drawn ∧
      InRectangle canvas drawn := by
  obtain ⟨W, hW⟩ := exists_isRounded places (b.size.1 + padding.value)
  obtain ⟨H, hH⟩ := exists_isRounded places (b.size.2 + padding.value)
  refine ⟨(W, H), fun p hEncloses => ?_⟩
  obtain ⟨X, hX⟩ := exists_isRounded places (p.exact.1 + padding.value)
  obtain ⟨Y, hY⟩ := exists_isRounded places (b.size.2 + padding.value - p.exact.2)
  have hWrites : Writes .exact places b.size p.exact (W, H) (X, Y) := ⟨hW, hH, hX, hY⟩
  exact ⟨(X, Y), hWrites, hWrites.inRectangle rfl (hEncloses.inRectangle hBounded)⟩

/-- The points of the shapes that lie in the box are drawn on the canvas: the numbers written for
them are between zero and the size written for the canvas. So they would be in exact arithmetic. -/
theorem corners_on_canvas {d : Markup.Document}
    (h : (document library program options).2 = .ok d) (hBounded : program.root.box.Bounded) :
    (∃ (svg : Tag) (before shapes : List Tag) (canvas : ℚ × ℚ),
      d.tags = (if options.xmlDeclaration then [Markup.declarationTag] else []) ++
        svg :: (before ++ shapes ++ [⟨.closing, "svg", []⟩]) ∧
      ((∀ color ∈ program.colors, IsColor color) → Markup.Reader.read d.text = some d.tags) ∧
      svg.kind = .opening ∧ svg.name = "svg" ∧
      svg.numbers "width" = [some canvas.1] ∧ svg.numbers "height" = [some canvas.2] ∧
      List.Forall₂ (IsPlaced program.root.box canvas) program.shapes shapes) ∧
    ∃ canvas, ∀ s ∈ program.shapes, ∀ corner ∈ s.corners,
      program.root.box.Encloses corner.point → ∃ drawn,
        Writes .exact options.precision program.root.box.size corner.point.exact canvas drawn ∧
          InRectangle canvas drawn := by
  constructor
  · obtain ⟨es, hDraws, rfl⟩ := document_root h
    obtain ⟨canvas, hW, hH, hWidth, hHeight⟩ := exists_canvas hBounded options.precision
    refine ⟨⟨.opening, "svg", rootAttributes program options⟩,
      Element.tagsAll (frame program options), Element.tagsAll es, canvas, ?_,
      fun hColors => Markup.Reader.read_text _ (document_plain h hColors), rfl, rfl,
      congrArg (fun r => [r]) hW, congrArg (fun r => [r]) hH,
      isPlaced_of_draws hBounded hWidth hHeight hDraws⟩
    rw [Markup.Document.tags, Element.tags, tagsAll_append]
  · obtain ⟨canvas, hPlaces⟩ := exact_places hBounded options.precision
    exact ⟨canvas, fun _ _ corner _ => hPlaces corner.point⟩

def farPoint : Point := ⟨.ofRatio false 1 10, .ofRatio false 1 3⟩

def farCorner : Program where
  definitions := []
  root := ⟨⟨0, 0, farPoint.x, farPoint.y⟩, defaultStroke, defaultBackground, ⟨"x", none, 0, 1⟩,
    ⟨"x", none, 0, 1⟩⟩
  grid := none
  shapes := [.point farPoint none none]

theorem corners_on_canvas_farCorner : ∃ (d : Markup.Document) (svg circle : Tag)
    (canvas drawn : ℚ × ℚ), (document .identity farCorner {}).2 = .ok d ∧
      farCorner.root.box.Bounded ∧ farCorner.root.box.Encloses farPoint ∧
      [svg, circle] ⊆ d.tags ∧ svg.name = "svg" ∧ circle.name = "circle" ∧
      svg.numbers "width" = [some canvas.1] ∧ svg.numbers "height" = [some canvas.2] ∧
      circle.numbers "cx" = [some drawn.1] ∧ circle.numbers "cy" = [some drawn.2] ∧
      InRectangle canvas drawn := by
  have hBounded : farCorner.root.box.Bounded := ⟨by decide +kernel, by decide +kernel⟩
  have hEncloses : farCorner.root.box.Encloses farPoint :=
    ⟨by decide +kernel, by decide +kernel, by decide +kernel, by decide +kernel⟩
  obtain ⟨d, hDocument⟩ : ∃ d, (document .identity farCorner {}).2 = .ok d := ⟨_, rfl⟩
  obtain ⟨⟨svg, before, shapes, canvas, hTags, -, -, hName, hWidth, hHeight, hShapes⟩, -⟩ :=
    corners_on_canvas hDocument hBounded
  obtain ⟨circle, rest, hCircle, -, rfl⟩ := List.forall₂_cons_left_iff.mp hShapes
  obtain ⟨drawn, hAcross, hDepth, hOnCanvas⟩ :=
    hCircle.corners ⟨farPoint, "cx", "cy"⟩ List.mem_cons_self hEncloses
  refine ⟨d, svg, circle, canvas, drawn, hDocument, hBounded, hEncloses, ?_, hName, hCircle.name,
    hWidth, hHeight, hAcross, hDepth, hOnCanvas⟩
  rw [hTags]
  exact List.cons_subset.mpr ⟨by simp, by simp⟩

end Drawing

end PlotLang

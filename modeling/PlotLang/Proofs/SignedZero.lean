import PlotLang.Proofs.Strokes
import PlotLang.Proofs.XmlCharacters

/-! # Zeros with a sign

A sign is kept by a negative number that rounds to zero, so two numbers that round alike have one
text unless they round to zero from different sides. In a document this happens to the numbers
that can be negative at all: the depths of points below the upper edge, and the radius of a point.
-/

namespace PlotLang

namespace Decimal

variable {x y : Binary64} {places m n : ℕ} {a b : Bool} {q r : ℚ}

def minusZero : List Char := ['-', '0']

theorem signed_injective (a : Bool) : Function.Injective (signed a) := by
  cases a with
  | true => exact neg_injective
  | false => exact Function.injective_id

theorem signed_eq_zero_iff : signed a q = 0 ↔ q = 0 := by
  cases a with
  | true => exact neg_eq_zero
  | false => exact Iff.rfl

theorem signed_lt_zero_iff (hNonneg : 0 ≤ q) (hSome : signed a q ≠ 0) :
    signed a q < 0 ↔ a = true := by
  have hPositive : 0 < q :=
    lt_of_le_of_ne hNonneg fun hZero => hSome (signed_eq_zero_iff.mpr hZero.symm)
  cases a with
  | true => exact iff_of_true (neg_lt_zero.mpr hPositive) rfl
  | false => exact iff_of_false (not_lt.mpr hNonneg) Bool.false_ne_true

theorem count_injective (places : ℕ) : Function.Injective fun n : ℕ => (n : ℚ) / 10 ^ places := by
  intro m n hEq
  have hPower : (10 : ℚ) ^ places ≠ 0 := by positivity
  exact_mod_cast (div_left_inj' hPower).mp hEq

theorem sign_notMem_numeral (n places : ℕ) : '-' ∉ numeral n places := fun hMem =>
  absurd (List.all_eq_true.mp (isNumberPart_numeral n places) _ hMem) (by decide)

/-- A numeral with a sign tells its sign and its count. -/
theorem withSign_numeral_inj : withSign a (numeral m places) = withSign b (numeral n places) ↔
    a = b ∧ m = n := by
  refine ⟨fun hEq => ?_, by rintro ⟨rfl, rfl⟩; rfl⟩
  have hSign : a = b := by
    have hMem := congrArg (fun cs => '-' ∈ cs) hEq
    cases a <;> cases b <;> simp [withSign, sign_notMem_numeral] at hMem ⊢
  subst hSign
  have hRead := congrArg number? hEq
  rw [number?_numeral, number?_numeral] at hRead
  exact ⟨rfl, count_injective places (signed_injective a (Option.some.inj hRead))⟩

theorem numeral_zero (places : ℕ) : numeral 0 places = ['0'] := by
  have hDigits : digits 0 = ['0'] := rfl
  have hPlaces : placeDigits 0 places = (['0'], List.replicate places '0') := by
    rw [placeDigits, hDigits]
    simp [List.splitAt_eq, ← List.replicate_succ']
  rw [numeral, hPlaces]
  simp [dropTrailingZeros, pointAfter]

/-- Numbers with one text round alike, and to zero from one side only. -/
theorem fixed_eq_iff (hx : x.isFinite) (hy : y.isFinite) : fixed x places = fixed y places ↔
    ∃ r, IsRounded places x.value r ∧ IsRounded places y.value r ∧
      (r = 0 → (x.value < 0 ↔ y.value < 0)) := by
  obtain ⟨m, hX, hRoundX⟩ := exists_fixed hx places
  obtain ⟨n, hY, hRoundY⟩ := exists_fixed hy places
  rw [hX, hY, withSign_numeral_inj]
  constructor
  · rintro ⟨hSign, rfl⟩
    rw [hSign] at hRoundX
    exact ⟨_, hRoundX, hRoundY, fun _ => decide_eq_decide.mp hSign⟩
  · rintro ⟨r, hRX, hRY, hZero⟩
    have hM := hRoundX.unique hRX
    have hN := hRoundY.unique hRY
    have hSides : x.value < 0 ↔ y.value < 0 := by
      by_cases hR : r = 0
      · exact hZero hR
      · -- a number other than zero keeps its sign when it is rounded
        have hSideX := signed_lt_zero_iff (by positivity) (hM ▸ hR)
        have hSideY := signed_lt_zero_iff (by positivity) (hN ▸ hR)
        rw [hM, decide_eq_true_eq] at hSideX
        rw [hN, decide_eq_true_eq] at hSideY
        exact hSideX.symm.trans hSideY
    have hSign : decide (x.value < 0) = decide (y.value < 0) := decide_eq_decide.mpr hSides
    rw [hSign] at hM
    exact ⟨hSign, count_injective places (signed_injective _ (hM.trans hN.symm))⟩

theorem fixed_eq_zero_iff (h : x.isFinite) : fixed x places = withSign a ['0'] ↔
    decide (x.value < 0) = a ∧ IsRounded places x.value 0 := by
  obtain ⟨n, hText, hRounded⟩ := exists_fixed h places
  rw [hText, ← numeral_zero places, withSign_numeral_inj]
  refine and_congr_right fun _ => ⟨?_, fun hZero => ?_⟩
  · rintro rfl
    simpa [signed] using hRounded
  · have hSize := signed_eq_zero_iff.mp (hRounded.unique hZero)
    exact count_injective places (by simpa using hSize)

theorem value_eq_zero_of_not_isFinite (h : x.isFinite = false) : x.value = 0 := by
  have hUnits : x.signedUnits = 0 := by
    cases x with
    | nan => rfl
    | infinite negative => cases negative <;> rfl
    | finite negative units fits => cases h
  rw [Binary64.value, hUnits, Int.cast_zero, zero_div]

/-- A negative number that rounds to zero. -/
def Vanishes (places : ℕ) (x : Binary64) : Prop := x.value < 0 ∧ IsRounded places x.value 0

theorem fixed_eq_minusZero_iff : fixed x places = minusZero ↔ Vanishes places x := by
  cases hFinite : x.isFinite with
  | true =>
    have hZero : fixed x places = withSign true ['0'] ↔
        decide (x.value < 0) = true ∧ IsRounded places x.value 0 := fixed_eq_zero_iff hFinite
    rwa [decide_eq_true_eq] at hZero
  | false =>
    refine iff_of_false ?_ ?_
    · cases x with
      | nan => exact fun hText => absurd hText (by simp [fixed, minusZero])
      | infinite negative =>
        cases negative <;> exact fun hText => absurd hText (by simp [fixed, minusZero, withSign])
      | finite negative units fits => cases hFinite
    · intro hZero
      exact hZero.1.ne (value_eq_zero_of_not_isFinite hFinite)

theorem sign_notMem_fixed (h : x.isMagnitude) (places : ℕ) : '-' ∉ fixed x places := by
  cases x with
  | nan => cases h
  | infinite negative =>
    cases negative with
    | true => cases h
    | false => simp [fixed, withSign]
  | finite negative units fits =>
    cases negative with
    | true => cases h
    | false =>
      rw [fixed_finite]
      exact sign_notMem_numeral _ places

theorem not_vanishes_of_isMagnitude (h : x.isMagnitude) (places : ℕ) :
    ¬Vanishes places x := by
  intro hZero
  have hText := fixed_eq_minusZero_iff.mpr hZero
  exact sign_notMem_fixed h places (hText ▸ List.mem_cons_self)

end Decimal

theorem Binary64.isMagnitude_add {x y : Binary64} (hx : x.isMagnitude) (hy : y.isMagnitude) :
    (x + y).isMagnitude := by
  change (x.add y).isMagnitude
  match x, y with
  | .infinite false, .infinite false => rfl
  | .infinite false, .finite .. => rfl
  | .finite .., .infinite false => rfl
  | .finite false units _, .finite false others _ =>
    have hSum : ¬((units : ℤ) + others < 0) := by omega
    rw [add]
    simp only [signedUnits, hSum, decide_false, ofUnits]
    split
    · rfl
    · split <;> rfl

namespace Text

theorem subset_of_mem_words {cs word : List Char} (h : word ∈ words cs) : word ⊆ cs := by
  induction hLength : cs.length using Nat.strong_induction_on generalizing cs with
  | _ length ih =>
    by_cases hBlank : ' ' ∈ cs
    · obtain ⟨before, after, rfl⟩ := List.append_of_mem hBlank
      rw [List.length_append, List.length_cons] at hLength
      rw [words_blank, List.mem_append] at h
      obtain hFirst | hRest := h
      · exact List.Subset.trans (ih before.length (by omega) hFirst rfl)
          (List.subset_append_left _ _)
      · have hSub := ih after.length (by omega) hRest rfl
        exact List.Subset.trans (List.subset_cons_of_subset _ hSub) (List.subset_append_right _ _)
    · rw [words, List.splitOn_eq_singleton hBlank] at h
      rw [List.mem_singleton.mp (List.mem_of_mem_filter h)]
      exact List.Subset.refl cs

end Text

/-! ## Zeros with a sign in a drawing -/

open Decimal (Vanishes minusZero)
open Markup (Attribute Element Tag)

/-- A zero with a sign among the words of a value that is not the name of a shape. -/
def Markup.ShowsMinusZero (attributes : List Attribute) : Prop :=
  ∃ a ∈ attributes, a.name ≠ "data-name" ∧ minusZero ∈ Text.words a.value

/-- The numbers of a drawn shape that can be negative: depths below the upper edge, and the radius
of a point. -/
def Shape.signedNumbers (library : Expression.Library) (height : Binary64) (options : Options)
    (width : Binary64) : Shape → List Binary64
  | .line start finish _ _ _ => [height - start.y, height - finish.y]
  | .point location _ _ => [height - location.y, options.pointRadius]
  | .graph function _ _ _ =>
    match Curve.values library function width with
    | .ok values => (Curve.ofValues values).map fun v => height - v.y
    | .error _ => []

def Program.signedNumbers (library : Expression.Library) (p : Program) (options : Options) :
    List Binary64 :=
  let canvas := Drawing.Canvas.ofBox p.root.box options
  p.shapes.flatMap (Shape.signedNumbers library canvas.height options p.root.box.width)

theorem Markup.Document.text_ne_nil (d : Markup.Document) : d.text ≠ [] := by
  intro hNil
  rw [Markup.Document.text, List.flatMap_eq_nil_iff] at hNil
  have hLines : d.lines = [] := by
    refine List.eq_nil_iff_forall_not_mem.mpr fun line hMem => ?_
    exact List.append_ne_nil_of_right_ne_nil _ (List.cons_ne_nil _ _) (hNil line hMem)
  rw [Markup.Document.lines, List.append_eq_nil_iff] at hLines
  cases hRoot : d.root with
  | empty name attributes => simp [hRoot, Element.lines] at hLines
  | parent name attributes children => simp [hRoot, Element.lines] at hLines

namespace Drawing

open Markup (ShowsMinusZero)

variable {library : Expression.Library} {c : Canvas} {options : Options} {width : Binary64}
  {s : Shape} {e : Element} {es : List Element} {ss : List Shape} {p : Program}
  {name color : String} {attributes : List Attribute}

theorem shows_cons {a : Attribute} : ShowsMinusZero (a :: attributes) ↔
    (a.name ≠ "data-name" ∧ minusZero ∈ Text.words a.value) ∨ ShowsMinusZero attributes := by
  simp only [ShowsMinusZero, List.mem_cons, or_and_right, exists_or, exists_eq_left]

theorem shows_append {as bs : List Attribute} :
    ShowsMinusZero (as ++ bs) ↔ ShowsMinusZero as ∨ ShowsMinusZero bs := by
  simp only [ShowsMinusZero, List.mem_append, or_and_right, exists_or]

/-- Without a minus sign there is no negative zero. -/
theorem not_shows_of_unsigned (h : ∀ a ∈ attributes, '-' ∉ a.value) :
    ¬ShowsMinusZero attributes := by
  rintro ⟨a, hMem, -, hZero⟩
  exact h a hMem (Text.subset_of_mem_words hZero List.mem_cons_self)

theorem shows_number_iff (hName : name ≠ "data-name") (x : Binary64) (places : ℕ) :
    ((number name x places).name ≠ "data-name" ∧
      minusZero ∈ Text.words (number name x places).value) ↔ Vanishes places x := by
  rw [← Decimal.fixed_eq_minusZero_iff, number, Curve.words_fixed, List.mem_singleton]
  exact (and_iff_right hName).trans eq_comm

theorem sign_notMem_color (hColor : IsColor color) (name : String) :
    '-' ∉ (colorAttribute name color).value := by
  intro hMem
  rw [colorAttribute, Attribute.plain, String.toList_append, List.mem_append] at hMem
  obtain hHash | hDigit := hMem
  · exact absurd hHash (by decide)
  · exact absurd (hColor.2 _ hDigit) (by decide)

theorem not_shows_name (name : Option String) : ¬ShowsMinusZero (Canvas.nameAttribute name) := by
  rintro ⟨a, hMem, hName, -⟩
  obtain ⟨text, -, rfl⟩ := List.mem_map.mp hMem
  exact hName rfl

theorem not_shows_thickness {thickness : Option Binary64}
    (h : ∀ x ∈ thickness.toList, x.isMagnitude) :
    ¬ShowsMinusZero (c.thicknessAttribute thickness) := by
  refine not_shows_of_unsigned fun a hMem => ?_
  obtain ⟨x, hX, rfl⟩ := List.mem_map.mp hMem
  exact Decimal.sign_notMem_fixed (h x hX) c.places

theorem shows_path_iff (vs : List Curve.Vertex) :
    minusZero ∈ Text.words (Curve.path c.height c.places vs) ↔
      ∃ v ∈ vs, Vanishes c.places (c.height - v.y) := by
  rw [Curve.words_path, List.mem_flatMap]
  refine exists_congr fun v => and_congr_right fun _ => ?_
  have hLetter : minusZero ≠ Curve.letter v.begins := by
    cases v.begins <;> decide
  have hX : minusZero ≠ Decimal.fixed (.ofNat v.x) c.places := fun hEq =>
    Decimal.sign_notMem_fixed (Binary64.isMagnitude_ofRatio v.x 1) c.places
      (hEq ▸ List.mem_cons_self)
  rw [Curve.words_command, List.mem_cons, List.mem_cons, List.mem_singleton,
    or_iff_right hLetter, or_iff_right hX, ← Decimal.fixed_eq_minusZero_iff, eq_comm]

theorem not_vanishes_place {location : Point} (h : location.x.isMagnitude) (c : Canvas) :
    ¬Vanishes c.places (place c.height location).x :=
  Decimal.not_vanishes_of_isMagnitude
    (Binary64.isMagnitude_add h (Binary64.isMagnitude_ofNat 10)) c.places

/-- A drawn shape shows a zero with a sign if one of its numbers vanishes. -/
theorem shows_draws_iff (h : Draws library c options width s e)
    (hNumbers : ∀ x ∈ s.numbers, x.isMagnitude)
    (hColors : ∀ color ∈ s.color?, IsColor color) :
    (∃ t ∈ e.tags, ShowsMinusZero t.attributes) ↔
      ∃ x ∈ s.signedNumbers library c.height options width, Vanishes c.places x := by
  have hNil : ¬ShowsMinusZero [] := not_shows_of_unsigned (List.forall_mem_nil _)
  have hColor : ∀ {text : String}, IsColor text → ∀ name,
      ¬(minusZero ∈ Text.words (colorAttribute name text).value) := fun hText name hMem =>
    sign_notMem_color hText name (Text.subset_of_mem_words hMem List.mem_cons_self)
  cases s with
  | line start finish title stroke thickness =>
    simp only [Shape.numbers, Point.numbers, List.forall_mem_append, List.forall_mem_cons]
      at hNumbers
    obtain ⟨⟨⟨hStart, -⟩, ⟨hFinish, -⟩⟩, hThickness⟩ := hNumbers
    have hStroke : ¬ShowsMinusZero (stroke.toList.map (colorAttribute "stroke")) := by
      refine not_shows_of_unsigned fun a hMem => ?_
      obtain ⟨color, hIn, rfl⟩ := List.mem_map.mp hMem
      exact sign_notMem_color (hColors color (Option.mem_toList.mp hIn)) "stroke"
    cases h
    simp only [Canvas.line, Element.tags, List.mem_singleton, exists_eq_left, shows_append,
      shows_cons, shows_number_iff, ne_eq, String.reduceEq, not_false_eq_true, hStroke, hNil,
      not_shows_name, not_shows_thickness hThickness, not_vanishes_place hStart c,
      not_vanishes_place hFinish c, false_or, or_false]
    simp [Shape.signedNumbers, place]
  | point location title stroke =>
    have hStroke : IsColor (Canvas.colorOrDefault stroke) := Canvas.isColor_colorOrDefault hColors
    simp only [Shape.numbers, Point.numbers, List.forall_mem_cons] at hNumbers
    cases h
    simp only [Canvas.point, Element.tags, List.mem_singleton, exists_eq_left, shows_append,
      shows_cons, shows_number_iff, ne_eq, String.reduceEq, not_false_eq_true, hColor hStroke,
      and_false, hNil, not_shows_name, not_vanishes_place hNumbers.1 c, false_or, or_false]
    simp [Shape.signedNumbers, place]
  | graph function title stroke thickness =>
    have hStroke : IsColor (Canvas.colorOrDefault stroke) := Canvas.isColor_colorOrDefault hColors
    have hFill : minusZero ∉ Text.words "none".toList := by decide
    rw [Draws, shape] at h
    split at h
    · cases h
    · rename_i values hValues
      cases h
      simp only [Canvas.graph, Element.tags, List.mem_singleton, exists_eq_left, shows_append,
        shows_cons, shows_path_iff, ne_eq, String.reduceEq, not_false_eq_true, true_and,
        Attribute.plain, hFill, hColor hStroke, and_false, hNil, not_shows_name,
        not_shows_thickness hNumbers, or_false]
      simp [Shape.signedNumbers, hValues]

/-! ## The document -/

/-- What is drawn before the shapes is no negative number. -/
theorem covers_unsigned (hSound : p.Sound) (options : Options) :
    Covers (fun c => '-' ≠ c) p options := by
  have hPadding : padding.isMagnitude := Binary64.isMagnitude_ofNat 10
  have hNumbers := hSound.numbers
  simp only [Program.numbers, Root.numbers, Definition.numbers, Box.numbers,
    List.forall_mem_append, List.forall_mem_cons, List.forall_mem_flatMap] at hNumbers
  obtain ⟨⟨⟨-, ⟨⟨-, -, hWidth, hHeight, -⟩, -, hX, -⟩, -, hY, -⟩, hGrids⟩, -⟩ := hNumbers
  have hLiterals : literals.all fun text => text.toList.all ('-' != ·) := by decide
  simp only [List.all_eq_true, bne_iff_ne] at hLiterals
  refine ⟨hLiterals, fun x hMem c hChar hSign => ?_, fun color hMem c hChar hSign => ?_⟩
  · have hFrame : ∀ x ∈ frameNumbers p, x.isMagnitude := by
      simp only [frameNumbers, List.forall_mem_append, List.forall_mem_cons,
        List.forall_mem_flatMap]
      exact ⟨⟨Binary64.isMagnitude_add hWidth hPadding, Binary64.isMagnitude_add hHeight hPadding,
        hX, hY, hPadding, List.forall_mem_nil _⟩, hGrids⟩
    exact Decimal.sign_notMem_fixed (hFrame x hMem) options.precision (hSign ▸ hChar)
  · have hColor := hSound.colors color (List.mem_append_left _ hMem)
    exact sign_notMem_color hColor "fill" (hSign ▸ hChar)

theorem not_shows_of_within (h : AttributesWithin (fun c => '-' ≠ c) attributes) :
    ¬ShowsMinusZero attributes :=
  not_shows_of_unsigned fun a hMem hSign => (h a hMem).2 _ hSign rfl

theorem not_shows_frame (hSound : p.Sound) (options : Options) :
    ¬∃ t ∈ Element.tagsAll (frame p options), ShowsMinusZero t.attributes := by
  have hTags := Element.forall_tagsAll (covers_unsigned hSound options).frame
  rintro ⟨t, hMem, hShows⟩
  exact not_shows_of_within (hTags t hMem).2 hShows

theorem shows_tags_cons {t : Tag} {ts : List Tag} :
    (∃ u ∈ t :: ts, ShowsMinusZero u.attributes) ↔
      ShowsMinusZero t.attributes ∨ ∃ u ∈ ts, ShowsMinusZero u.attributes := by
  simp only [List.mem_cons, or_and_right, exists_or, exists_eq_left]

theorem shows_tags_append {ts us : List Tag} :
    (∃ t ∈ ts ++ us, ShowsMinusZero t.attributes) ↔
      (∃ t ∈ ts, ShowsMinusZero t.attributes) ∨ ∃ t ∈ us, ShowsMinusZero t.attributes := by
  simp only [List.mem_append, or_and_right, exists_or]

theorem shows_shapes_iff (h : List.Forall₂ (Draws library c options width) ss es)
    (hNumbers : ∀ s ∈ ss, ∀ x ∈ s.numbers, x.isMagnitude)
    (hColors : ∀ s ∈ ss, ∀ color ∈ s.color?, IsColor color) :
    (∃ t ∈ Element.tagsAll es, ShowsMinusZero t.attributes) ↔
      ∃ x ∈ ss.flatMap (Shape.signedNumbers library c.height options width),
        Vanishes c.places x := by
  induction h with
  | nil => simp [Element.tagsAll]
  | cons hFirst _ ih =>
    obtain ⟨hNumber, hNumbers⟩ := List.forall_mem_cons.mp hNumbers
    obtain ⟨hColor, hColors⟩ := List.forall_mem_cons.mp hColors
    rw [Element.tagsAll, shows_tags_append, shows_draws_iff hFirst hNumber hColor,
      ih hNumbers hColors, List.flatMap_cons]
    simp only [List.mem_append, or_and_right, exists_or]

theorem shows_document_iff {d : Markup.Document} (hSound : p.Sound)
    (h : (document library p options).2 = .ok d) : (∃ t ∈ d.tags, ShowsMinusZero t.attributes) ↔
      ∃ x ∈ p.signedNumbers library options, Vanishes options.precision x := by
  obtain ⟨es, hDraws, rfl⟩ := document_root h
  have hNumbers : ∀ s ∈ p.shapes, ∀ x ∈ s.numbers, x.isMagnitude := fun s hS x hX =>
    hSound.numbers x (List.mem_append_right _ (List.mem_flatMap.mpr ⟨s, hS, hX⟩))
  have hShapes := shows_shapes_iff hDraws hNumbers (Program.forall_color? hSound.colors)
  have hDeclared : ¬∃ t ∈ (if options.xmlDeclaration then [Markup.declarationTag] else []),
      ShowsMinusZero t.attributes := by
    unfold ShowsMinusZero
    split <;> decide
  have hOpening := not_shows_of_within (covers_unsigned hSound options).root
  have hFrame := not_shows_frame hSound options
  have hClosing : ¬∃ t ∈ [(⟨.closing, "svg", []⟩ : Tag)], ShowsMinusZero t.attributes := by
    unfold ShowsMinusZero
    decide
  rw [Markup.Document.tags, Element.tags, tagsAll_append, shows_tags_append, shows_tags_cons,
    shows_tags_append, shows_tags_append, or_iff_right hDeclared, or_iff_right hOpening,
    or_iff_left hClosing, or_iff_right hFrame]
  exact hShapes

end Drawing

/-! ## Sources -/

namespace Compilation

open Decimal (fixed)
open Markup (ShowsMinusZero)

/-- Two finite numbers that round alike have one text, unless they round to zero from different
sides: a negative number that rounds to zero keeps its sign. A document shows a zero with a sign
just if a depth below its upper edge, or the radius of a point, is such a number. -/
theorem fixed_canonical_up_to_minusZero {x y : Binary64} (hx : x.isFinite) (hy : y.isFinite)
    (places : ℕ) :
    (fixed x places = fixed y places ↔ ∃ r, IsRounded places x.value r ∧
      IsRounded places y.value r ∧ (r = 0 → (x.value < 0 ↔ y.value < 0))) ∧
    (IsRounded places x.value 0 → fixed x places = if x.value < 0 then minusZero else ['0']) ∧
    ∀ (library : Expression.Library) (source : String) (options : Options) (text : String),
      (document library source options).2 = .ok text → text ≠ "" →
      ∃ (p : Program) (tags : List Tag), (program source).2 = .ok p ∧
        Markup.Reader.read text.toList = some tags ∧
        ((∃ t ∈ tags, ShowsMinusZero t.attributes) ↔
          ∃ x ∈ p.signedNumbers library options, Vanishes options.precision x) := by
  refine ⟨Decimal.fixed_eq_iff hx hy, fun hZero => ?_,
    fun library source options text hDocument hText => ?_⟩
  · have hFixed := (Decimal.fixed_eq_zero_iff hx).mpr ⟨rfl, hZero⟩
    rw [hFixed, Decimal.withSign]
    simp only [decide_eq_true_eq]
    rfl
  · obtain ⟨p, hProgram, hRender⟩ := exists_program_of_document hDocument hText
    obtain ⟨d, hDrawn, rfl⟩ := Drawing.exists_document_of_render hRender
    obtain ⟨tokens, hTokens, hBuild⟩ := program_eq_ok_iff.mp hProgram
    have hSound := Grammar.sound_of_tokenize hTokens hBuild
    have hRead := Markup.Reader.read_text d (Drawing.document_plain hDrawn hSound.colors)
    refine ⟨p, d.tags, hProgram, ?_, Drawing.shows_document_iff hSound hDrawn⟩
    rwa [String.toList_ofList]

/-- A point a little above the canvas. -/
def pointAbove : String :=
  "#define x max 1 #end #root axes x, x box 0 0 9 9 #end @point at 0 19.0001 #end"

def pointAboveTokens : List Token :=
  [⟨1, .define, "define"⟩, ⟨1, .newIdentifier, "x"⟩, ⟨1, .keyword, "max"⟩, ⟨1, .integer, "1"⟩,
    ⟨1, .declaration, "end"⟩, ⟨1, .declaration, "root"⟩, ⟨1, .keyword, "axes"⟩,
    ⟨1, .variable, "x"⟩, ⟨1, .comma, ","⟩, ⟨1, .variable, "x"⟩, ⟨1, .keyword, "box"⟩,
    ⟨1, .integer, "0"⟩, ⟨1, .integer, "0"⟩, ⟨1, .integer, "9"⟩, ⟨1, .integer, "9"⟩,
    ⟨1, .declaration, "end"⟩, ⟨1, .shapeFunction, "point"⟩, ⟨1, .keyword, "at"⟩, ⟨1, .integer, "0"⟩,
    ⟨1, .float, "19.0001"⟩, ⟨1, .declaration, "end"⟩]

theorem exists_document_pointAbove (library : Expression.Library) : ∃ text p,
    (document library pointAbove {}).2 = .ok text ∧ text ≠ "" ∧ (program pointAbove).2 = .ok p ∧
      ∃ x ∈ p.signedNumbers library {}, Vanishes (Options.precision {}) x := by
  have hTokens : Lexer.tokenize pointAbove = .ok pointAboveTokens := by cbv
  have hParts : (Builder.buildChecked pointAboveTokens).toOption.map
      (fun p => (p.root.box, p.shapes)) =
        some (⟨0, 0, 9, 9⟩, [.point ⟨0, .ofRatio false 190001 10000⟩ none none]) := by
    decide +kernel
  obtain ⟨p, hBuild, hParts⟩ := Grammar.exists_ok_of_toOption hParts
  obtain ⟨hBox, hShapes⟩ := Prod.mk.inj hParts
  have hProgram : (program pointAbove).2 = .ok p := program_eq_ok_iff.mpr ⟨_, hTokens, hBuild⟩
  obtain ⟨text, hRender⟩ : ∃ text, (Drawing.render library p {}).2 = .ok text := by
    simp [Drawing.render, Drawing.document, Drawing.shapes, Drawing.shape, hShapes, Except.map]
  obtain ⟨d, -, rfl⟩ := Drawing.exists_document_of_render hRender
  have hText : String.ofList d.text ≠ "" := Lexer.ofList_ne_empty d.text_ne_nil
  have hDepth : Vanishes (Options.precision {})
      ((Drawing.Canvas.ofBox ⟨0, 0, 9, 9⟩ {}).height - .ofRatio false 190001 10000) :=
    Decimal.fixed_eq_minusZero_iff.mp (by decide +kernel)
  have hNumber : (Drawing.Canvas.ofBox ⟨0, 0, 9, 9⟩ {}).height - .ofRatio false 190001 10000 ∈
      p.signedNumbers library {} := by
    rw [Program.signedNumbers, hBox, hShapes]
    simp only [List.flatMap_cons, Shape.signedNumbers, List.mem_append, List.mem_cons, true_or]
  exact ⟨_, p, (document_eq_ok_iff rfl).mpr ⟨p, hProgram, hRender⟩, hText, hProgram, _, hNumber,
    hDepth⟩

theorem vanishes_justBelowZero : Vanishes 3 (.ofRatio true 1 10000) :=
  Decimal.fixed_eq_minusZero_iff.mp (by decide +kernel)

/-- -0.0001 and 0 round alike to three places, but from different sides; the depth of the point
above the canvas is such a number. -/
theorem fixed_canonical_up_to_minusZero_pointAbove :
    (Binary64.ofRatio true 1 10000).isFinite = true ∧ (0 : Binary64).isFinite = true ∧
    (¬∃ r, IsRounded 3 (Binary64.ofRatio true 1 10000).value r ∧
      IsRounded 3 (0 : Binary64).value r ∧
      (r = 0 → ((Binary64.ofRatio true 1 10000).value < 0 ↔ (0 : Binary64).value < 0))) ∧
    fixed (.ofRatio true 1 10000) 3 =
      (if (Binary64.ofRatio true 1 10000).value < 0 then minusZero else ['0']) ∧
    ∃ (text : String) (tags : List Tag),
      (document .identity pointAbove {}).2 = .ok text ∧ text ≠ "" ∧
      Markup.Reader.read text.toList = some tags ∧ ∃ t ∈ tags, ShowsMinusZero t.attributes := by
  have hBelow : (Binary64.ofRatio true 1 10000).isFinite = true := by decide +kernel
  have hZero : (0 : Binary64).isFinite = true := by decide +kernel
  have hTexts : fixed (.ofRatio true 1 10000) 3 ≠ fixed 0 3 := by decide +kernel
  obtain ⟨hSame, hText, hShown⟩ := fixed_canonical_up_to_minusZero hBelow hZero 3
  obtain ⟨text, p, hDocument, hNonempty, hProgram, hVanishes⟩ :=
    exists_document_pointAbove .identity
  obtain ⟨q, tags, hBuilt, hRead, hShows⟩ := hShown .identity pointAbove {} text hDocument hNonempty
  cases hBuilt.symm.trans hProgram
  exact ⟨hBelow, hZero, hSame.not.mp hTexts, hText vanishes_justBelowZero.2, text, tags, hDocument,
    hNonempty, hRead, hShows.mpr hVanishes⟩

/-- Both -0.0001 and 0 round to zero, and their texts differ. -/
theorem fixed_ne_of_same_rounding :
    (Binary64.ofRatio true 1 10000).isFinite = true ∧ (0 : Binary64).isFinite = true ∧
      IsRounded 3 (Binary64.ofRatio true 1 10000).value 0 ∧ IsRounded 3 (0 : Binary64).value 0 ∧
      fixed (.ofRatio true 1 10000) 3 ≠ fixed 0 3 := by
  have hZero : (0 : Binary64).isFinite := by decide +kernel
  have hNone : fixed 0 3 = Decimal.withSign false ['0'] ↔ _ := Decimal.fixed_eq_zero_iff hZero
  exact ⟨by decide +kernel, hZero, vanishes_justBelowZero.2, (hNone.mp (by decide +kernel)).2,
    by decide +kernel⟩

end Compilation

end PlotLang

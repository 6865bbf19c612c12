import PlotLang.Proofs.Names

/-! # What a program built from a source satisfies

What a scan can spell bounds what a field can hold: the text of a number has no sign, so its value
is a magnitude, and the text of a color has hexadecimal digits only. From the value of a field this
passes to the entries of a block, to the item the block amounts to and to the program.
-/

namespace PlotLang

/-- Neither negative nor undefined. Zero has no sign; infinity is a magnitude. -/
def Binary64.isMagnitude : Binary64 → Bool
  | .nan => false
  | .infinite negative | .finite negative _ _ => !negative

def colorDigits : List Char := "0123456789abcdef".toList

def IsColor (text : String) : Prop :=
  (text.length = 3 ∨ text.length = 6) ∧ ∀ c ∈ text.toList, c ∈ colorDigits

instance (text : String) : Decidable (IsColor text) :=
  decidable_of_iff ((text.length = 3 ∨ text.length = 6) ∧ text.toList.all (· ∈ colorDigits))
    (by simp [IsColor])

/-! ## The numbers and colors of a program -/

def Point.numbers (p : Point) : List Binary64 := [p.x, p.y]

def Box.numbers (b : Box) : List Binary64 := [b.x, b.y, b.width, b.height]

def Definition.numbers (d : Definition) : List Binary64 := [d.minimum, d.maximum]

def Root.numbers (r : Root) : List Binary64 :=
  r.box.numbers ++ r.xAxis.numbers ++ r.yAxis.numbers

def Grid.numbers (g : Grid) : List Binary64 := [g.alpha, g.thickness, g.step]

def Shape.numbers : Shape → List Binary64
  | .line start finish _ _ thickness => start.numbers ++ finish.numbers ++ thickness.toList
  | .graph _ _ _ thickness => thickness.toList
  | .point location _ _ => location.numbers

def Program.numbers (p : Program) : List Binary64 :=
  p.definitions.flatMap Definition.numbers ++ p.root.numbers ++
    p.grid.toList.flatMap Grid.numbers ++ p.shapes.flatMap Shape.numbers

def Shape.color? : Shape → Option String
  | .line _ _ _ color _ | .graph _ _ color _ | .point _ _ color => color

def Program.colors (p : Program) : List String :=
  [p.root.color, p.root.background] ++ p.grid.toList.map Grid.color ++
    p.shapes.filterMap Shape.color?

structure Program.Sound (p : Program) : Prop where
  axes : p.root.xAxis ∈ p.definitions ∧ p.root.yAxis ∈ p.definitions
  colors : ∀ color ∈ p.colors, IsColor color
  grid : ∀ g ∈ p.grid, Binary64.le 0 g.alpha ∧ Binary64.le g.alpha 1 ∧ Binary64.lt 0 g.step
  numbers : ∀ x ∈ p.numbers, x.isMagnitude

/-! ## What tokens stand for -/

theorem Binary64.isMagnitude_ofRatio (num den : Nat) : (ofRatio false num den).isMagnitude := by
  unfold ofRatio
  simp only
  split <;> rfl

theorem Binary64.isMagnitude_ofNat (n : Nat) :
    (OfNat.ofNat n : Binary64).isMagnitude :=
  isMagnitude_ofRatio n 1

theorem Literal.isMagnitude_scaled (ds : Literal.Digits) (power : Int) :
    (ds.scaled false power).isMagnitude := by
  unfold Literal.Digits.scaled
  simp only
  split
  · rfl
  · split
    · rfl
    · split
      · rfl
      · exact Binary64.isMagnitude_ofRatio _ _

namespace Text

theorem lowerAfter_of_isHexDigit {cs : List Char} (cased : Bool) (h : cs.all isHexDigit) :
    (lowerAfter cased cs).length = cs.length ∧ ∀ c ∈ lowerAfter cased cs, c ∈ colorDigits := by
  -- no digit is one of the letters that lowering treats in a way of its own
  have hDigits : hexDigits.all fun c => c ≠ 'Σ' ∧ c ≠ 'İ' ∧ lowerChar c ∈ colorDigits := by
    decide
  induction cs generalizing cased with
  | nil => exact ⟨rfl, List.forall_mem_nil _⟩
  | cons c cs ih =>
    obtain ⟨hFirst, hRest⟩ := Bool.and_eq_true_iff.mp (List.all_cons.symm.trans h)
    obtain ⟨hSigma, hDotted, hLower⟩ :=
      of_decide_eq_true (List.all_eq_true.mp hDigits c (mem_hexDigits hFirst))
    obtain ⟨hLength, hMem⟩ := ih (if isCaseIgnorable c then cased else isCased c) hRest
    rw [lowerAfter]
    simp only [if_neg hSigma, if_neg hDotted]
    exact ⟨by rw [List.length_cons, hLength, List.length_cons],
      List.forall_mem_cons.mpr ⟨hLower, hMem⟩⟩

theorem isColor_lowerCase {text : String} (h : text.toList.all isHexDigit)
    (hLength : text.length = 3 ∨ text.length = 6) : IsColor (lowerCase text) := by
  obtain ⟨hSame, hDigits⟩ := lowerAfter_of_isHexDigit false h
  refine ⟨?_, ?_⟩
  · rwa [lowerCase, String.length_ofList, hSame, String.length_toList]
  · rwa [lowerCase, String.toList_ofList]

end Text

namespace Grammar

open Builder
open Token (Kind)

/-- The token stands somewhere among tokens a scan emits. -/
def Spelled (t : Token) : Prop := ∃ before, Lexer.Spelt before t

variable {defs : List Definition} {table : List (String × Field)} {form : Form} {f : Field}
  {t : Token} {tokens ts vs : List Token} {entries : List Entry} {item : Item}
  {items : List Item} {p : Program}

theorem spelled_of_emitted (h : Lexer.Emitted tokens) (hMem : t ∈ tokens) : Spelled t := by
  obtain ⟨before, after, hTokens⟩ := List.append_of_mem hMem
  exact ⟨before, (h.follows hTokens).spelt⟩

/-! ## Values of fields -/

def Field.Sound (defs : List Definition) : (f : Field) → f.Value → Prop
  | .minimum, x | .maximum, x | .thickness, x => x.isMagnitude
  | .alpha, x => x.isMagnitude ∧ Binary64.le 0 x ∧ Binary64.le x 1
  | .step, x => x.isMagnitude ∧ Binary64.lt 0 x
  | .name, _ | .function, _ => True
  | .color, text | .background, text => IsColor text
  | .start, p | .finish, p | .location, p => ∀ x ∈ p.numbers, x.isMagnitude
  | .axes, ds => ds.1 ∈ defs ∧ ds.2 ∈ defs
  | .box, b => ∀ x ∈ b.numbers, x.isMagnitude

theorem isMagnitude_of_number? {x : Binary64} (hSpelled : Spelled t)
    (hKind : t.kind ∈ Kind.numbers) (h : number? t = some x) : x.isMagnitude := by
  obtain ⟨before, hSpelt⟩ := hSpelled
  obtain ⟨ds, hReal⟩ := Literal.real?_of_spelt hSpelt hKind
  cases hReal.symm.trans h
  exact Literal.isMagnitude_scaled ds 0

theorem isMagnitude_of_mem (xs : List Binary64) (hSpelled : ∀ t ∈ vs, Spelled t)
    (hKind : ∀ t ∈ vs, t.kind ∈ Kind.numbers) (h : vs.map number? = xs.map some) :
    ∀ x ∈ xs, x.isMagnitude := by
  intro x hMem
  have hSome : some x ∈ vs.map number? := h ▸ List.mem_map_of_mem hMem
  obtain ⟨t, hT, hValue⟩ := List.mem_map.mp hSome
  exact isMagnitude_of_number? (hSpelled t hT) (hKind t hT) hValue

theorem isHexDigit_of_spelled (hSpelled : Spelled t) (hKind : t.kind = .hexColor) :
    t.text.toList.all Text.isHexDigit := by
  obtain ⟨before, hSpelt⟩ := hSpelled
  rwa [Lexer.Spelt, hKind] at hSpelt

theorem mem_of_definition? {d : Definition} (h : definition? defs t = some d) : d ∈ defs :=
  List.mem_of_find?_eq_some h

theorem Field.sound_of_denotes {x : f.Value} (hSpelled : ∀ t ∈ ts, Spelled t)
    (h : f.Denotes defs ts x) : f.Sound defs x := by
  obtain ⟨vs, hHolds, hMeans⟩ := h
  have hValues : ∀ t ∈ vs, Spelled t := fun t hMem =>
    hSpelled t (layout_holds_value hHolds hMem).1
  have hKinds : ∀ t ∈ vs, t.kind ∈ f.layout.kinds := fun t hMem =>
    (layout_holds_value hHolds hMem).2
  cases f with
  | minimum | maximum | thickness =>
    exact isMagnitude_of_mem [x] hValues hKinds hMeans x List.mem_cons_self
  | alpha =>
    exact ⟨isMagnitude_of_mem [x] hValues hKinds hMeans.1 x List.mem_cons_self, hMeans.2⟩
  | step =>
    exact ⟨isMagnitude_of_mem [x] hValues hKinds hMeans.1 x List.mem_cons_self, hMeans.2⟩
  | name | function => trivial
  | color | background =>
    obtain ⟨t, rfl, hLength, rfl⟩ := hMeans
    have hKind := List.mem_singleton.mp (hKinds t List.mem_cons_self)
    exact Text.isColor_lowerCase
      (isHexDigit_of_spelled (hValues t List.mem_cons_self) hKind) hLength
  | start | finish | location =>
    exact isMagnitude_of_mem (Point.numbers x) hValues hKinds hMeans
  | box => exact isMagnitude_of_mem (Box.numbers x) hValues hKinds hMeans
  | axes =>
    have hFirst : some x.1 ∈ vs.map (definition? defs) := hMeans ▸ List.mem_cons_self
    have hSecond : some x.2 ∈ vs.map (definition? defs) :=
      hMeans ▸ List.mem_cons_of_mem _ List.mem_cons_self
    obtain ⟨u, -, hU⟩ := List.mem_map.mp hFirst
    obtain ⟨v, -, hV⟩ := List.mem_map.mp hSecond
    exact ⟨mem_of_definition? hU, mem_of_definition? hV⟩

/-! ## Entries of a block -/

def Entry.Sound (defs : List Definition) (e : Entry) : Prop := e.field.Sound defs e.value

theorem Body.sound (h : Body defs table ts entries) (hSpelled : ∀ t ∈ ts, Spelled t) :
    ∀ e ∈ entries, e.Sound defs := by
  induction h with
  | close => exact List.forall_mem_nil _
  | field _ _ hDenotes _ ih =>
    obtain ⟨hValue, hRest⟩ := List.forall_mem_append.mp (List.forall_mem_cons.mp hSpelled).2
    exact List.forall_mem_cons.mpr ⟨Field.sound_of_denotes hValue hDenotes, ih hRest⟩

theorem mem_of_last? {x : f.Value} (h : last? f entries = some x) :
    ⟨f, x⟩ ∈ entries := by
  obtain ⟨e, hMem, hValue⟩ := List.mem_filterMap.mp (List.mem_of_getLast? h)
  obtain ⟨field, value⟩ := e
  unfold Entry.value? at hValue
  split at hValue
  · rename_i hField
    cases hField
    cases hValue
    exact hMem
  · cases hValue

theorem last?_sound {x : f.Value} (hEntries : ∀ e ∈ entries, e.Sound defs)
    (h : last? f entries = some x) : f.Sound defs x :=
  hEntries ⟨f, x⟩ (mem_of_last? h)

theorem getD_sound {default : f.Value} (hEntries : ∀ e ∈ entries, e.Sound defs)
    (hDefault : f.Sound defs default) : f.Sound defs ((last? f entries).getD default) := by
  cases hLast : last? f entries with
  | none => exact hDefault
  | some x => exact last?_sound hEntries hLast

/-! ## Items -/

section

variable (hEntries : ∀ e ∈ entries, e.Sound defs)
include hEntries

theorem minimum_sound {default : Binary64} (h : default.isMagnitude) :
    Field.minimum.Sound defs ((last? .minimum entries).getD default) :=
  getD_sound (f := .minimum) hEntries h

theorem alpha_sound {default : Binary64}
    (h : default.isMagnitude ∧ Binary64.le 0 default ∧ Binary64.le default 1) :
    Field.alpha.Sound defs ((last? .alpha entries).getD default) :=
  getD_sound hEntries h

theorem thickness_sound {default : Binary64} (h : default.isMagnitude) :
    Field.thickness.Sound defs ((last? .thickness entries).getD default) :=
  getD_sound (f := .thickness) hEntries h

theorem step_sound {default : Binary64} (h : default.isMagnitude ∧ Binary64.lt 0 default) :
    Field.step.Sound defs ((last? .step entries).getD default) :=
  getD_sound hEntries h

theorem isMagnitude_of_thickness :
    ∀ x ∈ (last? .thickness entries).toList, Binary64.isMagnitude x := fun _ hMem =>
  last?_sound hEntries (Option.mem_toList.mp hMem)

theorem isColor_of_color : ∀ text ∈ last? .color entries, IsColor text := fun _ hMem =>
  last?_sound hEntries hMem

end

theorem isColor_defaultStroke : IsColor defaultStroke := by decide

theorem isColor_defaultBackground : IsColor defaultBackground := by decide

def Item.Sound (defs : List Definition) : Item → Prop
  | .definition d => ∀ x ∈ d.numbers, x.isMagnitude
  | .root r => (∀ x ∈ r.box.numbers, x.isMagnitude) ∧ IsColor r.color ∧ IsColor r.background ∧
      r.xAxis ∈ defs ∧ r.yAxis ∈ defs
  | .grid g => (∀ x ∈ g.numbers, x.isMagnitude) ∧ IsColor g.color ∧
      Binary64.le 0 g.alpha ∧ Binary64.le g.alpha 1 ∧ Binary64.lt 0 g.step
  | .shape s => (∀ x ∈ s.numbers, x.isMagnitude) ∧ ∀ color ∈ s.color?, IsColor color

theorem definition_sound {name : String} (hEntries : ∀ e ∈ entries, e.Sound defs)
    (h : (Form.definition name).item? entries = some item) : item.Sound defs := by
  simp only [Form.item?, Option.bind_eq_bind, Option.bind_eq_some_iff, Option.pure_def,
    Option.some.injEq] at h
  obtain ⟨maximum, hMaximum, rfl⟩ := h
  have hMinimum := minimum_sound hEntries (Binary64.isMagnitude_ofNat 0)
  have hMaximum : Binary64.isMagnitude maximum := last?_sound hEntries hMaximum
  simpa [Item.Sound, Definition.numbers] using ⟨hMinimum, hMaximum⟩

theorem root_sound (hEntries : ∀ e ∈ entries, e.Sound defs)
    (h : Form.root.item? entries = some item) : item.Sound defs := by
  simp only [Form.item?, Option.bind_eq_bind, Option.bind_eq_some_iff, Option.pure_def,
    Option.some.injEq] at h
  obtain ⟨box, hBox, axes, hAxes, rfl⟩ := h
  have hStroke : Field.color.Sound defs defaultStroke := isColor_defaultStroke
  have hBackground : Field.background.Sound defs defaultBackground := isColor_defaultBackground
  exact ⟨last?_sound hEntries hBox, getD_sound hEntries hStroke,
    getD_sound hEntries hBackground, last?_sound hEntries hAxes⟩

theorem grid_sound (hEntries : ∀ e ∈ entries, e.Sound defs)
    (h : Form.grid.item? entries = some item) : item.Sound defs := by
  cases h
  have hColor : Field.color.Sound defs Grid.default.color := isColor_defaultStroke
  have hAlpha : Grid.default.alpha.isMagnitude := by
    simp only [Grid.default, Binary64.isMagnitude_ofRatio]
  have hThickness : Grid.default.thickness.isMagnitude := by
    simp only [Grid.default]
    exact Binary64.isMagnitude_ofNat 1
  have hStep : Grid.default.step.isMagnitude := by
    simp only [Grid.default]
    exact Binary64.isMagnitude_ofNat 1
  obtain ⟨hAlpha, hLow, hHigh⟩ :=
    alpha_sound hEntries ⟨hAlpha, by decide +kernel, by decide +kernel⟩
  have hThickness := thickness_sound hEntries hThickness
  obtain ⟨hStep, hPositive⟩ := step_sound hEntries ⟨hStep, by decide +kernel⟩
  refine ⟨?_, getD_sound hEntries hColor, hLow, hHigh, hPositive⟩
  simpa [Grid.numbers] using ⟨hAlpha, hThickness, hStep⟩

theorem item_sound (hEntries : ∀ e ∈ entries, e.Sound defs) (h : form.item? entries = some item) :
    item.Sound defs := by
  cases form with
  | definition name => exact definition_sound hEntries h
  | root => exact root_sound hEntries h
  | grid => exact grid_sound hEntries h
  | line =>
    simp only [Form.item?, Option.bind_eq_bind, Option.bind_eq_some_iff, Option.pure_def,
      Option.some.injEq] at h
    obtain ⟨start, hStart, finish, hFinish, rfl⟩ := h
    refine ⟨?_, isColor_of_color hEntries⟩
    refine List.forall_mem_append.mpr ⟨List.forall_mem_append.mpr ⟨?_, ?_⟩, ?_⟩
    · exact last?_sound hEntries hStart
    · exact last?_sound hEntries hFinish
    · exact isMagnitude_of_thickness hEntries
  | graph =>
    simp only [Form.item?, Option.bind_eq_bind, Option.bind_eq_some_iff, Option.pure_def,
      Option.some.injEq] at h
    obtain ⟨function, hFunction, rfl⟩ := h
    exact ⟨isMagnitude_of_thickness hEntries, isColor_of_color hEntries⟩
  | point =>
    simp only [Form.item?, Option.bind_eq_bind, Option.bind_eq_some_iff, Option.pure_def,
      Option.some.injEq] at h
    obtain ⟨location, hLocation, rfl⟩ := h
    exact ⟨last?_sound hEntries hLocation, isColor_of_color hEntries⟩

/-! ## Programs -/

theorem Item.Sound.mono {later : List Definition} (h : item.Sound defs) (hSub : defs ⊆ later) :
    item.Sound later := by
  cases item with
  | root r =>
    obtain ⟨hBox, hColor, hBackground, hX, hY⟩ := h
    exact ⟨hBox, hColor, hBackground, hSub hX, hSub hY⟩
  | _ => exact h

theorem Block.sound (h : Block defs ts item) (hSpelled : ∀ t ∈ ts, Spelled t) :
    item.Sound defs := by
  obtain ⟨form, opener, opening, body, entries, rfl, -, hBody, hItem⟩ := h
  exact item_sound (hBody.sound (List.forall_mem_append.mp hSpelled).2) hItem

theorem Blocks.sound (h : Blocks defs ts items) (hSpelled : ∀ t ∈ ts, Spelled t) :
    ∀ item ∈ items, item.Sound (defs ++ items.filterMap Item.definition?) := by
  -- a block knows the definitions before it; the program knows all of them
  induction h with
  | nil => exact List.forall_mem_nil _
  | @cons defs ts rest item items hBlock _ ih =>
    obtain ⟨hTs, hRest⟩ := List.forall_mem_append.mp hSpelled
    have hAll : defs ++ (item :: items).filterMap Item.definition? =
        defs ++ item.definition?.toList ++ items.filterMap Item.definition? := by
      cases hDefinition : item.definition? <;> simp [hDefinition]
    rw [hAll]
    refine List.forall_mem_cons.mpr ⟨(hBlock.sound hTs).mono ?_, ih hRest⟩
    rw [List.append_assoc]
    exact List.subset_append_left _ _

theorem Amounts.sound (h : Amounts items p) (hItems : ∀ item ∈ items, item.Sound p.definitions) :
    p.Sound := by
  have hDefinition : ∀ d ∈ p.definitions, (Item.definition d).Sound p.definitions := by
    intro d hMem
    obtain ⟨item, hItem, hD⟩ := List.mem_filterMap.mp (h.definitions ▸ hMem)
    cases item <;> cases hD
    exact hItems _ hItem
  have hRoot : (Item.root p.root).Sound p.definitions := by
    obtain ⟨item, hItem, hR⟩ := List.mem_filterMap.mp (List.mem_of_getLast? h.root)
    cases item <;> cases hR
    exact hItems _ hItem
  have hGrid : ∀ g ∈ p.grid.toList, (Item.grid g).Sound p.definitions := by
    intro g hMem
    obtain ⟨item, hItem, hG⟩ := List.mem_filterMap.mp (h.grid ▸ hMem)
    cases item <;> cases hG
    exact hItems _ hItem
  have hShape : ∀ s ∈ p.shapes, (Item.shape s).Sound p.definitions := by
    intro s hMem
    obtain ⟨item, hItem, hS⟩ := List.mem_filterMap.mp (h.shapes ▸ hMem)
    cases item <;> cases hS
    exact hItems _ hItem
  obtain ⟨hBox, hColor, hBackground, hX, hY⟩ := hRoot
  exact {
    axes := ⟨hX, hY⟩
    colors := by
      simp only [Program.colors, List.forall_mem_append, List.forall_mem_cons, List.forall_mem_map]
      refine ⟨⟨⟨hColor, hBackground, List.forall_mem_nil _⟩, fun g hMem => (hGrid g hMem).2.1⟩, ?_⟩
      intro color hMem
      obtain ⟨s, hS, hSome⟩ := List.mem_filterMap.mp hMem
      exact (hShape s hS).2 color hSome
    grid := fun g hMem => (hGrid g (Option.mem_toList.mpr hMem)).2.2
    numbers := by
      simp only [Program.numbers, Root.numbers, List.forall_mem_append, List.forall_mem_flatMap]
      exact ⟨⟨⟨hDefinition, ⟨hBox, hDefinition _ hX⟩, hDefinition _ hY⟩,
        fun g hMem => (hGrid g hMem).1⟩, fun s hMem => (hShape s hMem).1⟩ }

/-- Whatever the builder makes of tokens a scan emits is sound. -/
theorem sound_of_emitted (hEmitted : Lexer.Emitted tokens) (h : build tokens = .ok p) :
    p.Sound := by
  obtain ⟨items, hItems⟩ := build_eq_ok_iff.mp h
  obtain ⟨hBlocks, hAmounts⟩ := collects_iff_amounts.mp hItems
  refine hAmounts.sound fun item hMem => ?_
  have hSound := hBlocks.sound (fun t hT => spelled_of_emitted hEmitted hT) item hMem
  rwa [List.nil_append, hAmounts.definitions] at hSound

theorem sound_of_tokenize {source : String} (hTokens : Lexer.tokenize source = .ok tokens)
    (hBuild : buildChecked tokens = .ok p) : p.Sound :=
  sound_of_emitted (Lexer.tokenize_emitted hTokens).1 (buildChecked_eq_ok_iff.mp hBuild).2

theorem spelt_of_mem_names {name : String} (h : Lexer.Emitted tokens)
    (hMem : name ∈ Lexer.names tokens) : name ≠ "" ∧ name.toList.all Text.isLetter := by
  obtain ⟨t, hT, rfl⟩ := List.mem_map.mp hMem
  obtain ⟨hToken, hKind⟩ := List.mem_filter.mp hT
  obtain ⟨before, hSpelt⟩ := spelled_of_emitted h hToken
  rw [Lexer.Spelt, decide_eq_true_eq.mp hKind] at hSpelt
  exact hSpelt.2

/-- The definitions of an accepted source are those the scan registered, in their order, and the
program is sound. -/
theorem scanned_program_sound {source : String} {final : Lexer.State} {p : Program}
    (hScan : Lexer.scan source = (final, none))
    (hBuild : buildChecked final.tokens.toList = .ok p) :
    p.definitions.map Definition.identifier = final.identifiers.toList ∧
      (p.definitions.map Definition.identifier).Nodup ∧
      (∀ d ∈ p.definitions, d.identifier ≠ "" ∧ d.identifier.toList.all Text.isLetter) ∧
      p.Sound := by
  have hKeeps := Lexer.scan_keeps source
  rw [hScan] at hKeeps
  obtain ⟨hEmitted, hIdentifiers⟩ := hKeeps.faithful
  have hBuilt := (buildChecked_eq_ok_iff.mp hBuild).2
  obtain ⟨items, hItems⟩ := build_eq_ok_iff.mp hBuilt
  have hNames : Lexer.names final.tokens.toList = p.definitions.map Definition.identifier :=
    hItems.names_eq
  refine ⟨?_, ?_, fun d hMem => ?_, sound_of_emitted hEmitted hBuilt⟩
  · rw [← hNames, hIdentifiers]
  · rw [← hNames]
    exact hEmitted.nodup
  · refine spelt_of_mem_names hEmitted ?_
    rw [hNames]
    exact List.mem_map_of_mem hMem

/-- A root with a color in capitals, and a grid. -/
def capitalColor : String :=
  "#define x max 1 #end #root axes x, x box 0 0 9 .5 color 0xFfA #end #grid #end"

def capitalColorTokens : List Token :=
  [⟨1, .define, "define"⟩, ⟨1, .newIdentifier, "x"⟩, ⟨1, .keyword, "max"⟩, ⟨1, .integer, "1"⟩,
    ⟨1, .declaration, "end"⟩, ⟨1, .declaration, "root"⟩, ⟨1, .keyword, "axes"⟩,
    ⟨1, .variable, "x"⟩, ⟨1, .comma, ","⟩, ⟨1, .variable, "x"⟩, ⟨1, .keyword, "box"⟩,
    ⟨1, .integer, "0"⟩, ⟨1, .integer, "0"⟩, ⟨1, .integer, "9"⟩, ⟨1, .float, ".5"⟩,
    ⟨1, .keyword, "color"⟩, ⟨1, .hexColor, "FfA"⟩, ⟨1, .declaration, "end"⟩,
    ⟨1, .declaration, "grid"⟩, ⟨1, .declaration, "end"⟩]

theorem scanned_program_sound_capitalColor : ∃ final p,
    Lexer.scan capitalColor = (final, none) ∧ buildChecked final.tokens.toList = .ok p ∧
      p.root.color = "ffa" ∧ p.grid.isSome ∧
      p.definitions.map Definition.identifier = final.identifiers.toList ∧ p.Sound := by
  have hScan : Lexer.scan capitalColor = (⟨[], 1, capitalColorTokens.toArray, #["x"]⟩, none) := by
    cbv
  have hParts : (buildChecked capitalColorTokens).toOption.map
      (fun p => (p.root.color, p.grid.isSome)) = some ("ffa", true) := by
    decide +kernel
  obtain ⟨p, hBuild, hParts⟩ := exists_ok_of_toOption hParts
  obtain ⟨hColor, hGrid⟩ := Prod.mk.inj hParts
  obtain ⟨hNames, -, -, hSound⟩ := scanned_program_sound hScan hBuild
  exact ⟨_, p, hScan, hBuild, hColor, hGrid, hNames, hSound⟩

end Grammar

end PlotLang

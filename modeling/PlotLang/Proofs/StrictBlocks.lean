import Mathlib.Data.List.Forall2
import PlotLang.Proofs.StrictReading
import PlotLang.Proofs.Walk

/-! # Blocks of the strict builder

A block gathers its values under their keys where the builder fills the fields of a record. Each
value read changes both alike, so after a whole block every key stands for the field it belongs to,
and no other key is there. The values a block needs are then demanded just when the builder has
them. So the two builders end alike on any tokens, and no token is taken behind the last one.
-/

/-- The draft at the end of a walk, or the fault in its place. -/
def PlotLang.Builder.Outcome.answer (outcome : Outcome) : Except Fault Draft × Cursor :=
  match outcome.fault with
  | some fault => (.error fault, outcome.cursor)
  | none => (.ok outcome.draft, outcome.cursor)

namespace PlotLang.Strict

open Attempt
open Builder (Draft Fault Fields Reader)
open Token (Kind)

variable {α φ : Type} {slot : Slot α} {values : Values} {key keyword : String} {field : Option α}
  {c : Cursor} {opener t : Token} {draft : Draft}

/-! ## Values under their keys -/

/-- Under the key stands the value of the field, if it has one. -/
def Stands (slot : Slot α) (values : Values) (key : String) (field : Option α) : Prop :=
  values.lookup key = field.map slot.store

theorem load_store (slot : Slot α) (key : String) (a : α) :
    load slot key (slot.store a) = pure a := by
  rw [load, slot.load?_store]

theorem find?_eq (h : Stands slot values key field) : find? slot key values = pure field := by
  rw [find?, h]
  cases field with
  | none => rfl
  | some a =>
    simp only [Option.map_some, load_store]
    rfl

theorem demand_eq {a : α} (h : Stands slot values key (some a)) :
    demand slot key values = pure a := by
  rw [demand, h]
  exact load_store slot key a

/-- A mandatory value is there once it has been found not to be missing. -/
theorem required_follows (h : Stands slot values key field) (cause : Fault) :
    Follows Eq (required slot key values cause) (Reader.get field cause) := by
  rw [required, h]
  cases field with
  | none => exact fun _ => .fault
  | some a =>
    rw [demand_eq h]
    exact fun _ => .ok rfl (Nat.le_refl _)

/-! ## Values and fields -/

/-- A field of a record as the value its key stands for. A field with a default needs no value. -/
structure View (φ : Type) where
  key : String
  default : Option Value
  field : φ → Option Value

def Slot.view (slot : Slot α) (key : String) (field : φ → Option α) : View φ :=
  ⟨key, none, fun gathered => (field gathered).map slot.store⟩

def Slot.viewOr (slot : Slot α) (key : String) (default : α) (field : φ → α) : View φ :=
  ⟨key, some (slot.store default), fun gathered => some (slot.store (field gathered))⟩

structure Holds (views : List (View φ)) (values : Values) (gathered : φ) : Prop where
  known : ∀ entry ∈ values, entry.1 ∈ views.map View.key
  fields : ∀ view ∈ views, (values.lookup view.key).or view.default = view.field gathered

/-- Storing a value under the key of its keyword changes the values as the record is changed. -/
def Stores (views : List (View φ)) (keyword : String) (v : Value) (change : φ → φ) : Prop :=
  ∀ values gathered, Holds views values gathered →
    Holds views ((keyOf keyword, v) :: values) (change gathered)

variable {views : List (View φ)} {v : Value} {change : φ → φ} {gathered empty : φ}

theorem holds_nil (h : ∀ view ∈ views, view.default = view.field empty) : Holds views [] empty :=
  ⟨List.forall_mem_nil _, h⟩

/-- The one field that is changed is that of the key. -/
theorem stores_of_field (hKey : keyOf keyword ∈ views.map View.key)
    (hField : ∀ gathered, ∀ view ∈ views,
      view.field (change gathered) =
        if view.key = keyOf keyword then some v else view.field gathered) :
    Stores views keyword v change := by
  intro values gathered hHolds
  refine ⟨List.forall_mem_cons.mpr ⟨hKey, hHolds.known⟩, fun view hMem => ?_⟩
  rw [hField gathered view hMem]
  split
  · rename_i hSame
    rw [hSame, List.lookup_cons_self]
    rfl
  · rename_i hOther
    rw [List.lookup_cons, beq_false_of_ne hOther]
    exact hHolds.fields view hMem

theorem Holds.stands {get : φ → Option α} (h : Holds views values gathered)
    (hView : slot.view key get ∈ views) : Stands slot values key (get gathered) := by
  have hField := h.fields _ hView
  rwa [Slot.view, Option.or_none] at hField

/-- What is found under the key of a field with a default, or that default, is the field. -/
theorem Holds.exists_find? {default : α} {get : φ → α} (h : Holds views values gathered)
    (hView : slot.viewOr key default get ∈ views) :
    ∃ field, find? slot key values = pure field ∧ field.getD default = get gathered := by
  have hField : (values.lookup key).or (some (slot.store default)) =
      some (slot.store (get gathered)) :=
    h.fields _ hView
  cases hLookup : values.lookup key with
  | none =>
    rw [hLookup] at hField
    have hLoad := congrArg slot.load? (Option.some.inj hField)
    rw [slot.load?_store, slot.load?_store] at hLoad
    exact ⟨none, find?_eq hLookup, Option.some.inj hLoad⟩
  | some v =>
    rw [hLookup] at hField
    exact ⟨some (get gathered), find?_eq (hLookup.trans hField), rfl⟩

/-! ## Reading the fields of a block -/

structure Agrees (views : List (View φ)) (strict : String × (Token → Attempt Value))
    (field : String × (Token → Reader (φ → φ))) : Prop where
  keyword : strict.1 = field.1
  follows : ∀ k, Follows (Stores views strict.1) (strict.2 k) (field.2 k)

def AgreeAll (views : List (View φ)) : Readers → Fields φ → Prop :=
  List.Forall₂ (Agrees views)

variable {readers : Readers} {fields : Fields φ}

theorem reader_agrees {read : Token → Attempt α} {read' : Token → Reader α} {change : α → φ → φ}
    (hRead : ∀ k, Follows Eq (read k) (read' k))
    (hStores : ∀ a, Stores views keyword (slot.store a) (change a)) :
    Agrees views (reader keyword slot read)
      (keyword, fun k => do let a ← read' k; return change a) :=
  ⟨rfl, fun k => (hRead k).bindEq fun a => .pure (hStores a)⟩

theorem AgreeAll.keywords_eq (h : AgreeAll views readers fields) :
    readers.keywords = fields.keywords := by
  induction h with
  | nil => rfl
  | cons hFirst _ ih => exact congrArg₂ List.cons hFirst.keyword ih

/-- A keyword that is allowed has readers that agree, and one that is not has none. -/
theorem AgreeAll.lookup (h : AgreeAll views readers fields) (keyword : String) :
    (keyword ∉ readers.keywords ∧ fields.lookup keyword = none) ∨
      keyword ∈ readers.keywords ∧ ∃ strict field,
        readers.lookup keyword = some strict ∧ fields.lookup keyword = some field ∧
        ∀ k, Follows (Stores views keyword) (strict k) (field k) := by
  induction h with
  | nil => exact .inl ⟨List.not_mem_nil, rfl⟩
  | @cons x y xs ys hFirst _ ih =>
    obtain ⟨name, strict⟩ := x
    obtain ⟨name', field⟩ := y
    obtain ⟨rfl, hFollows⟩ := hFirst
    by_cases hKeyword : keyword = name
    · subst hKeyword
      exact .inr ⟨List.mem_cons_self, strict, field, List.lookup_cons_self, List.lookup_cons_self,
        hFollows⟩
    · rw [List.lookup_cons, List.lookup_cons, beq_false_of_ne hKeyword]
      simpa [Readers.keywords, hKeyword] using ih

theorem readFields_matches {rounds fuel : Nat} (hTable : AgreeAll views readers fields)
    (hHolds : Holds views values gathered) (hRounds : c.rest.length < rounds)
    (hFuel : c.rest.length ≤ fuel) :
    Matches (Holds views) c (readFields opener readers rounds values c)
      (Builder.readFields opener fields fuel gathered c) := by
  induction rounds generalizing values gathered fuel c with
  | zero => exact absurd hRounds (Nat.not_lt_zero _)
  | succ rounds ih =>
    obtain ⟨rest, position⟩ := c
    rw [readFields, peek_bind]
    cases rest with
    | nil =>
      cases fuel with
      | zero => exact .fault
      | succ fuel => exact .fault
    | cons t rest =>
      obtain _ | fuel := fuel
      · exact absurd hFuel (Nat.not_succ_le_zero _)
      rw [Builder.readFields]
      dsimp only [Cursor.peek?, List.head?_cons]
      by_cases hEnd : t.isEnd
      · rw [if_pos hEnd, if_pos hEnd]
        exact .ok hHolds (Nat.le_succ _)
      rw [if_neg hEnd, if_neg hEnd]
      by_cases hKind : t.kind = .keyword
      · obtain ⟨hNone, hLookup⟩ | ⟨hSome, strict, field, hStrict, hLookup, hFollows⟩ :=
          hTable.lookup t.text
        · rw [if_neg fun h => hNone h.2, if_pos hKind, hLookup, hTable.keywords_eq]
          exact .fault
        · rw [if_pos ⟨hKind, hSome⟩, if_pos hKind, hLookup, advance_bind, hStrict]
          have hRounds : rest.length < rounds := Nat.lt_of_succ_lt_succ hRounds
          have hFuel : rest.length ≤ fuel := Nat.le_of_succ_le_succ hFuel
          refine ((hFollows t ⟨rest, position + 1⟩).bind ?_).earlier (Nat.le_succ _)
          intro v change next hStores hRest
          exact ih (hStores values gathered hHolds) (Nat.lt_of_le_of_lt hRest hRounds)
            (Nat.le_trans hRest hFuel)
      · rw [if_neg fun h => hKind h.1, if_neg hKind, hTable.keywords_eq]
        exact .fault

theorem readBlock_follows (hTable : AgreeAll views readers fields)
    (hEmpty : ∀ view ∈ views, view.default = view.field empty) :
    Follows (Holds views) (readBlock opener readers) (Builder.readBlock opener fields empty) :=
  fun _ => readFields_matches hTable (holds_nil hEmpty) (Nat.lt_succ_self _) (Nat.le_refl _)

/-! ## The fields of each form -/

def definitionViews : List (View Builder.DefinitionFields) :=
  [Slot.number.view "min" (·.minimum), Slot.number.view "max" (·.maximum),
    Slot.text.view "name" (·.name)]

def rootViews : List (View Builder.RootFields) :=
  [Slot.box.view "box" (·.box), Slot.text.view "color" (·.color),
    Slot.text.view "background" (·.background), Slot.axes.view "axis" (·.axes)]

def gridViews : List (View Grid) :=
  [Slot.text.viewOr "color" Grid.default.color (·.color),
    Slot.number.viewOr "alpha" Grid.default.alpha (·.alpha),
    Slot.number.viewOr "thickness" Grid.default.thickness (·.thickness),
    Slot.number.viewOr "step" Grid.default.step (·.step)]

def shapeViews : List (View Builder.ShapeFields) :=
  [Slot.point.view "from" (·.start), Slot.point.view "to" (·.finish),
    Slot.point.view "at" (·.location), Slot.text.view "function" (·.function),
    Slot.text.view "name" (·.name), Slot.text.view "color" (·.color),
    Slot.number.view "thickness" (·.thickness)]

theorem definition_agrees :
    AgreeAll definitionViews definitionReaders Builder.definitionFields := by
  refine .cons (reader_agrees number_follows fun _ => stores_of_field ?_ ?_) <|
    .cons (reader_agrees number_follows fun _ => stores_of_field ?_ ?_) <|
    .cons (reader_agrees string_follows fun _ => stores_of_field ?_ ?_) .nil
  all_goals simp [definitionViews, Slot.view, keyOf]

theorem root_agrees (definitions : List Definition) :
    AgreeAll rootViews (rootReaders definitions) (Builder.rootFields definitions) := by
  refine .cons (reader_agrees box_follows fun _ => stores_of_field ?_ ?_) <|
    .cons (reader_agrees color_follows fun _ => stores_of_field ?_ ?_) <|
    .cons (reader_agrees color_follows fun _ => stores_of_field ?_ ?_) <|
    .cons (reader_agrees (axes_follows definitions) fun _ => stores_of_field ?_ ?_) <|
    .cons (reader_agrees (axes_follows definitions) fun _ => stores_of_field ?_ ?_) .nil
  all_goals simp [rootViews, Slot.view, keyOf]

theorem grid_agrees : AgreeAll gridViews gridReaders Builder.gridFields := by
  refine .cons (reader_agrees color_follows fun _ => stores_of_field ?_ ?_) <|
    .cons (reader_agrees alpha_follows fun _ => stores_of_field ?_ ?_) <|
    .cons (reader_agrees number_follows fun _ => stores_of_field ?_ ?_) <|
    .cons (reader_agrees step_follows fun _ => stores_of_field ?_ ?_) .nil
  all_goals simp [gridViews, Slot.viewOr, keyOf]

theorem name_agrees : Agrees shapeViews (reader "name" .text string) Builder.nameField := by
  refine reader_agrees string_follows fun _ => stores_of_field ?_ ?_
  all_goals simp [shapeViews, Slot.view, keyOf]

theorem color_agrees : Agrees shapeViews (reader "color" .text color) Builder.colorField := by
  refine reader_agrees color_follows fun _ => stores_of_field ?_ ?_
  all_goals simp [shapeViews, Slot.view, keyOf]

theorem thickness_agrees :
    Agrees shapeViews (reader "thickness" .number number) Builder.thicknessField := by
  refine reader_agrees number_follows fun _ => stores_of_field ?_ ?_
  all_goals simp [shapeViews, Slot.view, keyOf]

theorem line_agrees : AgreeAll shapeViews lineReaders Builder.lineFields := by
  refine .cons (reader_agrees pair_follows fun _ => stores_of_field ?_ ?_) <|
    .cons (reader_agrees pair_follows fun _ => stores_of_field ?_ ?_) <|
    .cons thickness_agrees <| .cons name_agrees <| .cons color_agrees .nil
  all_goals simp [shapeViews, Slot.view, keyOf]

theorem graph_agrees : AgreeAll shapeViews graphReaders Builder.graphFields := by
  refine .cons (reader_agrees string_follows fun _ => stores_of_field ?_ ?_) <|
    .cons thickness_agrees <| .cons name_agrees <| .cons color_agrees .nil
  all_goals simp [shapeViews, Slot.view, keyOf]

theorem point_agrees : AgreeAll shapeViews pointReaders Builder.pointFields := by
  refine .cons (reader_agrees pair_follows fun _ => stores_of_field ?_ ?_) <|
    .cons name_agrees <| .cons color_agrees .nil
  all_goals simp [shapeViews, Slot.view, keyOf]

/-! ## Blocks -/

theorem Holds.definition {f : Builder.DefinitionFields} (h : Holds definitionViews values f) :
    Stands .number values "min" f.minimum ∧ Stands .number values "max" f.maximum ∧
      Stands .text values "name" f.name :=
  ⟨h.stands (by simp [definitionViews]), h.stands (by simp [definitionViews]),
    h.stands (by simp [definitionViews])⟩

theorem Holds.root {f : Builder.RootFields} (h : Holds rootViews values f) :
    Stands .box values "box" f.box ∧ Stands .text values "color" f.color ∧
      Stands .text values "background" f.background ∧ Stands .axes values "axis" f.axes :=
  ⟨h.stands (by simp [rootViews]), h.stands (by simp [rootViews]), h.stands (by simp [rootViews]),
    h.stands (by simp [rootViews])⟩

theorem Holds.shape {f : Builder.ShapeFields} (h : Holds shapeViews values f) :
    Stands .text values "name" f.name ∧ Stands .text values "color" f.color ∧
      Stands .number values "thickness" f.thickness :=
  ⟨h.stands (by simp [shapeViews]), h.stands (by simp [shapeViews]),
    h.stands (by simp [shapeViews])⟩

theorem gridOf_eq {g : Grid} (h : Holds gridViews values g) : gridOf values = pure g := by
  have hKnown : values.find? (fun entry => entry.1 ∉ gridKeys) = none :=
    List.find?_eq_none.mpr fun entry hMem hUnknown =>
      of_decide_eq_true hUnknown (h.known entry hMem)
  obtain ⟨stroke, hColor, hStroke⟩ : ∃ field, find? .text "color" values = pure field ∧
      field.getD Grid.default.color = g.color := h.exists_find? (by simp [gridViews])
  obtain ⟨opacity, hAlpha, hOpacity⟩ : ∃ field, find? .number "alpha" values = pure field ∧
      field.getD Grid.default.alpha = g.alpha := h.exists_find? (by simp [gridViews])
  obtain ⟨width, hThickness, hWidth⟩ : ∃ field, find? .number "thickness" values = pure field ∧
      field.getD Grid.default.thickness = g.thickness := h.exists_find? (by simp [gridViews])
  obtain ⟨distance, hStep, hDistance⟩ : ∃ field, find? .number "step" values = pure field ∧
      field.getD Grid.default.step = g.step := h.exists_find? (by simp [gridViews])
  simp only [gridOf, hKnown, hColor, hAlpha, hThickness, hStep, pure_bind, hStroke, hOpacity,
    hWidth, hDistance]

theorem newName_follows (marker : Token) :
    Follows Eq (newName marker) (Builder.nameAfter marker) := by
  rintro ⟨rest, position⟩
  rw [newName, peek_bind, Builder.nameAfter]
  cases rest with
  | nil => exact .fault
  | cons t rest =>
    dsimp only [Cursor.peek?, List.head?_cons]
    by_cases hKind : t.kind = .newIdentifier
    · rw [if_pos hKind, if_pos hKind]
      exact .ok rfl (Nat.le_succ _)
    · rw [if_neg hKind, if_neg hKind]
      exact .fault

theorem definition_follows (marker : Token) :
    Follows Eq (definition marker) (Builder.readDefinition marker) := by
  refine (newName_follows marker).bindEq fun name => ?_
  refine (readBlock_follows definition_agrees (by simp [definitionViews, Slot.view])).bind ?_
  intro values f hHolds
  obtain ⟨hMinimum, hMaximum, hName⟩ := hHolds.definition
  refine (required_follows hMaximum _).bindEq fun maximum => ?_
  simp only [find?_eq hName, find?_eq hMinimum, pure_bind]
  exact .pure rfl

theorem root_follows (definitions : List Definition) (opener : Token) :
    Follows Eq (root definitions opener) (Builder.readRoot definitions opener) := by
  refine (readBlock_follows (root_agrees definitions) (by simp [rootViews, Slot.view])).bind ?_
  intro values f hHolds
  obtain ⟨hBox, hColor, hBackground, hAxes⟩ := hHolds.root
  refine (required_follows hBox _).bindEq fun area => ?_
  refine (required_follows hAxes _).bindEq fun ds => ?_
  simp only [find?_eq hColor, find?_eq hBackground, pure_bind]
  exact .pure rfl

theorem grid_follows (present : Bool) (opener : Token) :
    Follows Eq (grid present opener) (Builder.readGrid present opener) := by
  refine (Follows.require _ _).bindEq fun _ => ?_
  exact (readBlock_follows grid_agrees (by simp [gridViews, Slot.viewOr])).bindPure
    fun _ _ => gridOf_eq

theorem empty_shape : ∀ view ∈ shapeViews, view.default = view.field {} := by
  simp [shapeViews, Slot.view]

theorem line_follows (h : opener.text = "line") :
    Follows Eq (line opener) (Builder.readShape opener) := by
  rw [Builder.readShape, h]
  refine (readBlock_follows line_agrees empty_shape).bind fun values f hHolds => ?_
  obtain ⟨hName, hColor, hThickness⟩ := hHolds.shape
  have hStart : Stands .point values "from" f.start := hHolds.stands (by simp [shapeViews])
  have hFinish : Stands .point values "to" f.finish := hHolds.stands (by simp [shapeViews])
  refine (required_follows hStart _).bindEq fun start => ?_
  refine (required_follows hFinish _).bindEq fun finish => ?_
  simp only [find?_eq hName, find?_eq hColor, find?_eq hThickness, pure_bind]
  exact .pure rfl

theorem graph_follows (h : opener.text = "graph") :
    Follows Eq (graph opener) (Builder.readShape opener) := by
  rw [Builder.readShape, h]
  refine (readBlock_follows graph_agrees empty_shape).bind fun values f hHolds => ?_
  obtain ⟨hName, hColor, hThickness⟩ := hHolds.shape
  have hFunction : Stands .text values "function" f.function := hHolds.stands (by simp [shapeViews])
  refine (required_follows hFunction _).bindEq fun function => ?_
  simp only [find?_eq hName, find?_eq hColor, find?_eq hThickness, pure_bind]
  exact .pure rfl

theorem point_follows (h : opener.text = "point") :
    Follows Eq (point opener) (Builder.readShape opener) := by
  rw [Builder.readShape, h]
  refine (readBlock_follows point_agrees empty_shape).bind fun values f hHolds => ?_
  obtain ⟨hName, hColor, -⟩ := hHolds.shape
  have hLocation : Stands .point values "at" f.location := hHolds.stands (by simp [shapeViews])
  refine (required_follows hLocation _).bindEq fun location => ?_
  simp only [find?_eq hName, find?_eq hColor, pure_bind]
  exact .pure rfl

theorem shape_follows (opener : Token) :
    Follows Eq (shape opener) (Builder.readShape opener) := by
  unfold shape
  split
  · rename_i hLine
    exact line_follows hLine
  split
  · rename_i hGraph
    exact graph_follows hGraph
  split
  · rename_i hPoint
    exact point_follows hPoint
  · rename_i hLine hGraph hPoint
    rw [Grammar.readShape_of_unknown hLine hGraph hPoint]
    exact .fault _

/-! ## The walk -/

theorem declaration_follows (draft : Draft) (hKind : t.kind = .declaration) :
    Follows Eq (declaration draft t) (Builder.readBlockInto draft t) := by
  unfold declaration
  split
  · rename_i hRoot
    rw [Builder.readBlockInto, hKind, hRoot]
    exact (root_follows _ _).bindEq fun _ => .pure rfl
  split
  · rename_i hGrid
    rw [Builder.readBlockInto, hKind, hGrid]
    exact (grid_follows _ _).bindEq fun _ => .pure rfl
  · rename_i hRoot hGrid
    have hUnknown : Builder.readBlockInto draft t =
        Builder.Reader.fail (.unknownDeclaration t) := by
      unfold Builder.readBlockInto
      rw [hKind]
      dsimp only
      split
      · contradiction
      · contradiction
      · rfl
    rw [hUnknown]
    exact .fault _

/-- A block takes at least the token that begins it. -/
theorem block_matches (draft : Draft) (t : Token) (rest : List Token) (position : Nat) :
    Matches Eq ⟨rest, position + 1⟩ (block draft t ⟨t :: rest, position⟩)
      (Grammar.nextBlock draft ⟨t :: rest, position⟩) := by
  cases hKind : t.kind with
  | define =>
    have hBegins : Builder.beginsBlock t := by simp [Builder.beginsBlock, hKind]
    have hFollows : Follows Eq (do
        let d ← definition t
        return { draft with definitions := draft.definitions ++ [d] })
        (Builder.readBlockInto draft t) := by
      rw [Builder.readBlockInto, hKind]
      exact (definition_follows t).bindEq fun _ => .pure rfl
    rw [Grammar.nextBlock_begun draft rest position hBegins, block, hKind]
    exact hFollows ⟨rest, position + 1⟩
  | declaration =>
    have hBegins : Builder.beginsBlock t := by simp [Builder.beginsBlock, hKind]
    rw [Grammar.nextBlock_begun draft rest position hBegins, block, hKind]
    exact declaration_follows draft hKind _
  | shapeFunction =>
    have hBegins : Builder.beginsBlock t := by simp [Builder.beginsBlock, hKind]
    have hFollows : Follows Eq (do
        let s ← shape t
        return { draft with shapes := draft.shapes ++ [s] })
        (Builder.readBlockInto draft t) := by
      rw [Builder.readBlockInto, hKind]
      exact (shape_follows t).bindEq fun _ => .pure rfl
    rw [Grammar.nextBlock_begun draft rest position hBegins, block, hKind]
    exact hFollows ⟨rest, position + 1⟩
  | _ =>
    rw [Grammar.nextBlock, block, hKind]
    dsimp only
    rw [Builder.readBlockInto, hKind]
    exact .fault

theorem blocks_matches {rounds fuel : Nat} (hRounds : c.rest.length < rounds)
    (hFuel : c.rest.length ≤ fuel) :
    Matches Eq c (blocks rounds draft c) (Builder.walk fuel draft c).answer := by
  -- each block takes a token, so the rounds and the fuel that are left remain enough
  induction rounds generalizing draft fuel c with
  | zero => exact absurd hRounds (Nat.not_lt_zero _)
  | succ rounds ih =>
    obtain ⟨rest, position⟩ := c
    cases rest with
    | nil =>
      have hWalk : Builder.walk fuel draft ⟨[], position⟩ = ⟨draft, ⟨[], position⟩, none⟩ := by
        cases fuel <;> rfl
      rw [hWalk]
      exact .ok rfl (Nat.le_refl _)
    | cons t rest =>
      obtain _ | fuel := fuel
      · exact absurd hFuel (Nat.not_succ_le_zero _)
      have hBlock := block_matches draft t rest position
      rw [Grammar.walk_cons]
      change Matches Eq _ (StateT.bind (block draft t) (blocks rounds) _) _
      unfold StateT.bind
      generalize block draft t _ = x at hBlock ⊢
      generalize Grammar.nextBlock draft _ = y at hBlock ⊢
      cases hBlock with
      | ok hSame hRest =>
        cases hSame
        have hLess := Nat.lt_of_le_of_lt hRest (Nat.lt_of_succ_lt_succ hRounds)
        have hEnough := Nat.le_trans hRest (Nat.le_of_succ_le_succ hFuel)
        exact (ih hLess hEnough).earlier (Nat.le_succ_of_le hRest)
      | fault => exact .fault
      | unreadable => exact .unreadable

/-! ## Programs -/

/-- How the two builders can end on the same tokens: the strict one lapses only in a number that
cannot be read, for which the other has a fault. -/
inductive EndAlike : Except (Stop Fault) Program → Except Fault Program → Prop
  | built (p : Program) : EndAlike (.ok p) (.ok p)
  | fault (cause : Fault) : EndAlike (.error (.fault cause)) (.error cause)
  | unreadable (text : String) :
      EndAlike (.error (.lapse (.unreadable text))) (.error (.unreadableNumber text))

theorem build_endAlike (ts : List Token) : EndAlike (build ts) (Builder.build ts) := by
  have hWalk : Matches Eq (.start ts) (blocks (ts.length + 1) {} (.start ts))
      (Builder.walk ts.length {} (.start ts)).answer :=
    blocks_matches (Nat.lt_succ_self _) (Nat.le_refl _)
  have hRounds : (Attempt.rounds >>= fun n => blocks n {}) (.start ts) =
      blocks (ts.length + 1) {} (.start ts) := rfl
  rw [build, hRounds, Builder.build, Builder.Outcome.program, Grammar.collect_eq]
  generalize blocks (ts.length + 1) {} (.start ts) = x at hWalk ⊢
  generalize Builder.walk ts.length {} (.start ts) = outcome at hWalk ⊢
  obtain ⟨⟨definitions, root, grid, shapes⟩, c, _ | cause⟩ := outcome
  · cases hWalk with
    | ok hSame _ =>
      cases hSame
      cases root with
      | none => exact .fault _
      | some r => exact .built _
  · cases hWalk with
    | fault => cases root <;> exact .fault _
    | unreadable => cases root <;> exact .unreadable _

end PlotLang.Strict

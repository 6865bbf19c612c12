import PlotLang.Proofs.Body

/-! # Reading the forms of blocks

After its opening a block of each form is read by its own reader. That reader takes the fields of
the form's table, asks for the mandatory ones, and adds to the draft what the block amounts to.
-/

namespace PlotLang.Grammar

open Builder
open Token (Kind)

/-! ## What is gathered from the entries of a block -/

def gatherDefinition (e : Entry) (g : DefinitionFields) : DefinitionFields :=
  ⟨(e.value? .minimum).or g.minimum, (e.value? .maximum).or g.maximum, (e.value? .name).or g.name⟩

def gatherRoot (e : Entry) (g : RootFields) : RootFields :=
  ⟨(e.value? .box).or g.box, (e.value? .color).or g.color, (e.value? .background).or g.background,
    (e.value? .axes).or g.axes⟩

def gatherGrid (e : Entry) (g : Grid) : Grid :=
  ⟨(e.value? .color).getD g.color, (e.value? .alpha).getD g.alpha,
    (e.value? .thickness).getD g.thickness, (e.value? .step).getD g.step⟩

def gatherShape (e : Entry) (g : ShapeFields) : ShapeFields :=
  ⟨(e.value? .start).or g.start, (e.value? .finish).or g.finish, (e.value? .location).or g.location,
    (e.value? .function).or g.function, (e.value? .name).or g.name, (e.value? .color).or g.color,
    (e.value? .thickness).or g.thickness⟩

theorem definitionFields_eq (defs : List Definition) (name : String) :
    definitionFields = fieldsOf defs gatherDefinition (Form.definition name).table := rfl

theorem rootFields_eq (defs : List Definition) :
    rootFields defs = fieldsOf defs gatherRoot Form.root.table := rfl

theorem gridFields_eq (defs : List Definition) :
    gridFields = fieldsOf defs gatherGrid Form.grid.table := rfl

theorem lineFields_eq (defs : List Definition) :
    lineFields = fieldsOf defs gatherShape Form.line.table := rfl

theorem graphFields_eq (defs : List Definition) :
    graphFields = fieldsOf defs gatherShape Form.graph.table := rfl

theorem pointFields_eq (defs : List Definition) :
    pointFields = fieldsOf defs gatherShape Form.point.table := rfl

variable {entries : List Entry}

theorem gathered_cons {φ : Type} (gather : Entry → φ → φ) (start : φ) (e : Entry) :
    gathered gather start (e :: entries) = gathered gather (gather e start) entries := rfl

theorem gathered_definition (g : DefinitionFields) : gathered gatherDefinition g entries =
    ⟨(last? .minimum entries).or g.minimum, (last? .maximum entries).or g.maximum,
      (last? .name entries).or g.name⟩ := by
  induction entries generalizing g with
  | nil => rfl
  | cons e entries ih =>
    rw [gathered_cons, ih]
    simp only [last?_cons, Option.or_assoc, gatherDefinition]

theorem gathered_root (g : RootFields) : gathered gatherRoot g entries =
    ⟨(last? .box entries).or g.box, (last? .color entries).or g.color,
      (last? .background entries).or g.background, (last? .axes entries).or g.axes⟩ := by
  induction entries generalizing g with
  | nil => rfl
  | cons e entries ih =>
    rw [gathered_cons, ih]
    simp only [last?_cons, Option.or_assoc, gatherRoot]

theorem gathered_grid (g : Grid) : gathered gatherGrid g entries =
    ⟨(last? .color entries).getD g.color, (last? .alpha entries).getD g.alpha,
      (last? .thickness entries).getD g.thickness, (last? .step entries).getD g.step⟩ := by
  induction entries generalizing g with
  | nil => rfl
  | cons e entries ih =>
    rw [gathered_cons, ih]
    simp only [last?_cons, Option.getD_or, gatherGrid]

theorem gathered_shape (g : ShapeFields) : gathered gatherShape g entries =
    ⟨(last? .start entries).or g.start, (last? .finish entries).or g.finish,
      (last? .location entries).or g.location, (last? .function entries).or g.function,
      (last? .name entries).or g.name, (last? .color entries).or g.color,
      (last? .thickness entries).or g.thickness⟩ := by
  induction entries generalizing g with
  | nil => rfl
  | cons e entries ih =>
    rw [gathered_cons, ih]
    simp only [last?_cons, Option.or_assoc, gatherShape]

/-! ## The forms of blocks, after their opening -/

def add (draft : Draft) : Item → Draft
  | .definition d => { draft with definitions := draft.definitions ++ [d] }
  | .root r => { draft with root := some r }
  | .grid g => { draft with grid := some g }
  | .shape s => { draft with shapes := draft.shapes ++ [s] }

/-- The reader takes the rest of a block of a form whose opening has been taken, and adds to the
draft what the block amounts to. -/
def Completes (draft : Draft) (form : Form) (opener : Token) (r : Reader Draft) : Prop :=
  r.Exact
    (fun ts grown => ∃ entries item, Body draft.definitions form.table ts entries ∧
      form.item? entries = some item ∧ add draft item = grown)
    (fun ts next fault => Body.Refuses draft.definitions form.table opener ts next fault ∨
      ∃ entries missing, Body draft.definitions form.table ts entries ∧
        form.missing? opener entries = some missing ∧
        fault = .missingField missing.1 missing.2 opener)

/-- The fields are read first, and nothing more is taken when they are put together. -/
theorem Completes.ofStill {draft : Draft} {form : Form} {opener : Token} {φ : Type}
    {gather : Entry → φ → φ} {start : φ} {f : φ → Reader Draft} {g : φ → Except Fault Draft}
    (hf : ∀ fields, (f fields).Still (g fields))
    (hOk : ∀ entries grown, g (gathered gather start entries) = .ok grown ↔
      ∃ item, form.item? entries = some item ∧ add draft item = grown)
    (hError : ∀ entries fault, g (gathered gather start entries) = .error fault ↔
      ∃ missing, form.missing? opener entries = some missing ∧
        fault = .missingField missing.1 missing.2 opener) :
    Completes draft form opener
      (readBlock opener (fieldsOf draft.definitions gather form.table) start >>= f) := fun c => by
  refine ((readBlock_exact _ _ _ _ _ c).bindStill hf).congr (fun ts grown => ?_)
    (fun ts next fault => or_congr_right ?_)
  · constructor
    · rintro ⟨_, ⟨entries, hBody, rfl⟩, hG⟩
      obtain ⟨item, hItem, hGrown⟩ := (hOk entries grown).mp hG
      exact ⟨entries, item, hBody, hItem, hGrown⟩
    · rintro ⟨entries, item, hBody, hItem, hGrown⟩
      exact ⟨_, ⟨entries, hBody, rfl⟩, (hOk entries grown).mpr ⟨item, hItem, hGrown⟩⟩
  · constructor
    · rintro ⟨_, ⟨entries, hBody, rfl⟩, hG⟩
      obtain ⟨missing, hMissing, hFault⟩ := (hError entries fault).mp hG
      exact ⟨entries, missing, hBody, hMissing, hFault⟩
    · rintro ⟨entries, missing, hBody, hMissing, hFault⟩
      exact ⟨_, ⟨entries, hBody, rfl⟩, (hError entries fault).mpr ⟨missing, hMissing, hFault⟩⟩

variable (draft : Draft) (opener : Token)

theorem root_completes :
    Completes draft .root opener
      (do let r ← readRoot draft.definitions opener; return { draft with root := some r }) := by
  unfold readRoot
  simp only [Reader.bind_assoc]
  rw [rootFields_eq]
  refine .ofStill (fun fields => (get_still _ _).bind fun box => (get_still _ _).bind fun axes =>
    .bind (.pure _) fun r => .pure _) (fun entries grown => ?_) (fun entries fault => ?_)
  · cases hBox : last? .box entries <;> cases hAxes : last? .axes entries <;>
      simp [gathered_root, Form.item?, add, hBox, hAxes]
  · cases hBox : last? .box entries <;> cases hAxes : last? .axes entries <;>
      simp [gathered_root, Form.missing?, Form.mandatory, hBox, hAxes]

theorem definition_completes (name : Token) :
    Completes draft (.definition name.text) opener
      (do
        let fields ← readBlock opener definitionFields {}
        let maximum ← Reader.get fields.maximum <| .missingField "max"
          ("Need to specify a maximum value for the variable '" ++ name.text ++ "'") opener
        let d ← pure (Definition.mk name.text fields.name (fields.minimum.getD 0) maximum)
        return { draft with definitions := draft.definitions ++ [d] }) := by
  rw [definitionFields_eq draft.definitions name.text]
  refine .ofStill (fun fields => (get_still _ _).bind fun maximum =>
    .bind (.pure _) fun d => .pure _) (fun entries grown => ?_) (fun entries fault => ?_)
  · cases hMaximum : last? .maximum entries <;>
      simp [gathered_definition, Form.item?, add, hMaximum]
  · cases hMaximum : last? .maximum entries <;>
      simp [gathered_definition, Form.missing?, Form.mandatory, hMaximum]

theorem grid_completes :
    Completes draft .grid opener
      (do let g ← readBlock opener gridFields Grid.default; return { draft with grid := some g }) := by
  rw [gridFields_eq draft.definitions]
  refine .ofStill (fun fields => .pure _) (fun entries grown => ?_) (fun entries fault => ?_)
  · simp [gathered_grid, Form.item?, add]
  · simp [Form.missing?, Form.mandatory]

theorem required_still {α : Type} (field : Option α) (keyword : String) :
    (required field keyword opener).Still
      (orFault field (.missingField keyword (Form.mandatory.hint opener keyword) opener)) :=
  get_still _ _

theorem line_completes (hText : opener.text = "line") :
    Completes draft .line opener
      (do let s ← readShape opener; return { draft with shapes := draft.shapes ++ [s] }) := by
  unfold readShape
  rw [hText]
  simp only [Reader.bind_assoc]
  rw [lineFields_eq draft.definitions]
  refine .ofStill (fun fields => (required_still _ _ _).bind fun start =>
    (required_still _ _ _).bind fun finish => .bind (.pure _) fun s => .pure _)
    (fun entries grown => ?_) (fun entries fault => ?_)
  · cases hStart : last? .start entries <;> cases hFinish : last? .finish entries <;>
      simp [gathered_shape, Form.item?, add, hStart, hFinish]
  · cases hStart : last? .start entries <;> cases hFinish : last? .finish entries <;>
      simp [gathered_shape, Form.missing?, Form.mandatory, hStart, hFinish]

theorem graph_completes (hText : opener.text = "graph") :
    Completes draft .graph opener
      (do let s ← readShape opener; return { draft with shapes := draft.shapes ++ [s] }) := by
  unfold readShape
  rw [hText]
  simp only [Reader.bind_assoc]
  rw [graphFields_eq draft.definitions]
  refine .ofStill (fun fields => (required_still _ _ _).bind fun function =>
    .bind (.pure _) fun s => .pure _) (fun entries grown => ?_) (fun entries fault => ?_)
  · cases hFunction : last? .function entries <;>
      simp [gathered_shape, Form.item?, add, hFunction]
  · cases hFunction : last? .function entries <;>
      simp [gathered_shape, Form.missing?, Form.mandatory, hFunction]

theorem point_completes (hText : opener.text = "point") :
    Completes draft .point opener
      (do let s ← readShape opener; return { draft with shapes := draft.shapes ++ [s] }) := by
  unfold readShape
  rw [hText]
  simp only [Reader.bind_assoc]
  rw [pointFields_eq draft.definitions]
  refine .ofStill (fun fields => (required_still _ _ _).bind fun location =>
    .bind (.pure _) fun s => .pure _) (fun entries grown => ?_) (fun entries fault => ?_)
  · cases hLocation : last? .location entries <;>
      simp [gathered_shape, Form.item?, add, hLocation]
  · cases hLocation : last? .location entries <;>
      simp [gathered_shape, Form.missing?, Form.mandatory, hLocation]

end PlotLang.Grammar

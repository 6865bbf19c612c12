import PlotLang.Proofs.Forms

/-! # Reading a block

The first token of a block tells its form. The reader of one block is exact for the blocks of the
grammar, and its failures are exactly those in which a block refuses its tokens.
-/

namespace PlotLang.Grammar

open Builder
open Token (Kind)

/-! ## Blocks from their first token on -/

variable {defs : List Definition} {gridGiven : Bool} {form : Form} {t : Token} {ts : List Token}
  {item : Item} {next : Option Token} {fault : Fault}

/-- The opening of a block other than a definition is a single token, which tells the form. -/
theorem Form.Opens.eq_of_single {form' : Form} {opener : Token} {opening body : List Token}
    (h : form.Opens t [t]) (h' : form'.Opens opener opening) (hEq : t :: ts = opening ++ body) :
    form' = form ∧ opener = t ∧ body = ts := by
  cases h <;> cases h' <;> simp_all

theorem block_iff_of_opens (h : form.Opens t [t]) :
    Block defs (t :: ts) item ↔ ∃ entries, Body defs form.table ts entries ∧
      form.item? entries = some item := by
  constructor
  · rintro ⟨form', opener, opening, body, entries, hEq, hOpens, hBody, hItem⟩
    obtain ⟨rfl, rfl, rfl⟩ := h.eq_of_single hOpens hEq
    exact ⟨entries, hBody, hItem⟩
  · rintro ⟨entries, hBody, hItem⟩
    exact ⟨form, t, [t], ts, entries, rfl, h, hBody, hItem⟩

theorem block_refuses_iff_of_opens (h : form.Opens t [t])
    (hGrid : form = .grid → gridGiven = false) :
    Block.Refuses defs gridGiven (t :: ts) next fault ↔
      Body.Refuses defs form.table t ts next fault ∨
      ∃ entries missing, Body defs form.table ts entries ∧
        form.missing? t entries = some missing ∧ fault = .missingField missing.1 missing.2 t := by
  constructor
  · generalize hEq : t :: ts = taken
    intro hRefuses
    cases hRefuses with
    | stray _ => cases hEq
    | unknownDeclaration hKind hRoot hGrid => cases hEq; cases h <;> simp_all
    | unknownShape hKind hText => cases hEq; cases h <;> simp_all [Vocabulary.shapes]
    | nameless hKind _ => cases hEq; cases h <;> simp_all
    | repeatedGrid hOpens hGiven => cases hEq; cases hOpens; cases h <;> simp_all
    | body hOpens _ hBody =>
      obtain ⟨rfl, rfl, rfl⟩ := h.eq_of_single hOpens hEq
      exact .inl hBody
    | incomplete hOpens hBody hMissing =>
      obtain ⟨rfl, rfl, rfl⟩ := h.eq_of_single hOpens hEq
      exact .inr ⟨_, _, hBody, hMissing, rfl⟩
  · rintro (hBody | ⟨entries, missing, hBody, hMissing, rfl⟩)
    · exact .body h hGrid hBody
    · exact .incomplete h hBody hMissing

theorem Form.Opens.begins {opener : Token} {opening : List Token} (h : form.Opens opener opening) :
    Builder.beginsBlock opener ∧ ∃ names, opening = opener :: names := by
  cases h <;> simp_all [Builder.beginsBlock]

theorem not_block_nil : ¬Block defs [] item := by
  rintro ⟨form, opener, opening, body, entries, hEq, hOpens, -⟩
  obtain ⟨-, names, rfl⟩ := hOpens.begins
  cases hEq

theorem block_refuses_nil_iff : Block.Refuses defs gridGiven [] next fault ↔
    ∃ t, next = some t ∧ ¬beginsBlock t ∧ fault = .read (.unexpected t .block) := by
  constructor
  · generalize hEq : [] = taken
    intro hRefuses
    cases hRefuses with
    | stray h => exact ⟨_, rfl, h, rfl⟩
    | unknownDeclaration | unknownShape | nameless | repeatedGrid => cases hEq
    | body hOpens | incomplete hOpens =>
      obtain ⟨-, names, rfl⟩ := hOpens.begins
      cases hEq
  · rintro ⟨t, rfl, h, rfl⟩
    exact .stray h

theorem block_iff_of_define (h : t.kind = .define) :
    Block defs (t :: ts) item ↔ ∃ name body entries, ts = name :: body ∧
      name.kind = .newIdentifier ∧ Body defs (Form.definition name.text).table body entries ∧
      (Form.definition name.text).item? entries = some item := by
  constructor
  · rintro ⟨form, opener, opening, body, entries, hEq, hOpens, hBody, hItem⟩
    cases hOpens with
    | definition _ hName =>
      cases hEq
      exact ⟨_, body, entries, rfl, hName, hBody, hItem⟩
    | _ => cases hEq; simp_all
  · rintro ⟨name, body, entries, rfl, hName, hBody, hItem⟩
    exact ⟨_, t, _, body, entries, rfl, .definition h hName, hBody, hItem⟩

theorem block_refuses_iff_of_define (h : t.kind = .define) :
    Block.Refuses defs gridGiven (t :: ts) next fault ↔ (ts = [] ∧ Nameless t next fault) ∨
      ∃ name body, ts = name :: body ∧ name.kind = .newIdentifier ∧
        (Body.Refuses defs (Form.definition name.text).table t body next fault ∨
        ∃ entries missing, Body defs (Form.definition name.text).table body entries ∧
          (Form.definition name.text).missing? t entries = some missing ∧
          fault = .missingField missing.1 missing.2 t) := by
  constructor
  · generalize hEq : t :: ts = taken
    intro hRefuses
    cases hRefuses with
    | stray _ => cases hEq
    | unknownDeclaration hKind | unknownShape hKind => cases hEq; cases h.symm.trans hKind
    | nameless _ hNameless => cases hEq; exact .inl ⟨rfl, hNameless⟩
    | repeatedGrid hOpens _ => cases hEq; cases hOpens; simp_all
    | body hOpens _ hBody =>
      cases hOpens with
      | definition _ hName => cases hEq; exact .inr ⟨_, _, rfl, hName, .inl hBody⟩
      | _ => cases hEq; simp_all
    | incomplete hOpens hBody hMissing =>
      cases hOpens with
      | definition _ hName =>
        cases hEq
        exact .inr ⟨_, _, rfl, hName, .inr ⟨_, _, hBody, hMissing, rfl⟩⟩
      | _ => cases hEq; simp_all
  · rintro (⟨rfl, hNameless⟩ | ⟨name, body, rfl, hName, hBody | ⟨_, _, hBody, hMissing, rfl⟩⟩)
    · exact .nameless h hNameless
    · exact .body (.definition h hName) nofun hBody
    · exact .incomplete (.definition h hName) hBody hMissing

theorem not_block_of_not_opens (h : ∀ form opening, ¬Form.Opens form t opening) :
    ¬Block defs (t :: ts) item := by
  rintro ⟨form, opener, opening, body, entries, hEq, hOpens, -⟩
  obtain ⟨-, names, rfl⟩ := hOpens.begins
  cases hEq
  exact h form _ hOpens

theorem not_opens_of_unknownDeclaration {opening : List Token} (hKind : t.kind = .declaration)
    (hRoot : t.text ≠ "root") (hGrid : t.text ≠ "grid") : ¬form.Opens t opening := by
  intro h
  cases h <;> simp_all

theorem not_opens_of_unknownShape {opening : List Token} (hKind : t.kind = .shapeFunction)
    (hText : t.text ∉ Vocabulary.shapes) : ¬form.Opens t opening := by
  intro h
  cases h <;> simp_all [Vocabulary.shapes]

theorem block_refuses_iff_of_not_opens (hNotDefine : t.kind ≠ .define)
    (h : ∀ form opening, ¬Form.Opens form t opening) :
    Block.Refuses defs gridGiven (t :: ts) next fault ↔ ts = [] ∧
      ((t.kind = .declaration ∧ fault = .unknownDeclaration t) ∨
        (t.kind = .shapeFunction ∧ fault = .unknownShape t)) := by
  constructor
  · generalize hEq : t :: ts = taken
    intro hRefuses
    cases hRefuses with
    | stray _ => cases hEq
    | unknownDeclaration hKind _ _ => cases hEq; exact ⟨rfl, .inl ⟨hKind, rfl⟩⟩
    | unknownShape hKind _ => cases hEq; exact ⟨rfl, .inr ⟨hKind, rfl⟩⟩
    | nameless hKind _ => cases hEq; exact absurd hKind hNotDefine
    | repeatedGrid hOpens _ => cases hEq; exact absurd hOpens (h _ _)
    | body hOpens | incomplete hOpens =>
      obtain ⟨-, names, rfl⟩ := hOpens.begins
      cases hEq
      exact absurd hOpens (h _ _)
  · rintro ⟨rfl, ⟨hKind, rfl⟩ | ⟨hKind, rfl⟩⟩
    · exact .unknownDeclaration hKind (fun hText => h _ _ (.root hKind hText))
        fun hText => h _ _ (.grid hKind hText)
    · refine .unknownShape hKind fun hText => ?_
      simp only [Vocabulary.shapes, List.mem_cons, List.not_mem_nil, or_false] at hText
      obtain hText | hText | hText := hText
      · exact h _ _ (.line hKind hText)
      · exact h _ _ (.graph hKind hText)
      · exact h _ _ (.point hKind hText)

theorem block_refuses_iff_of_repeatedGrid (h : Form.grid.Opens t [t]) :
    Block.Refuses defs true (t :: ts) next fault ↔ ts = [] ∧ fault = .repeatedGrid t := by
  constructor
  · generalize hEq : t :: ts = taken
    intro hRefuses
    cases hRefuses with
    | stray _ => cases hEq
    | unknownDeclaration _ _ hGrid => cases hEq; cases h; contradiction
    | unknownShape hKind _ | nameless hKind _ => cases hEq; cases h; simp_all
    | repeatedGrid _ _ => cases hEq; exact ⟨rfl, rfl⟩
    | body hOpens hGrid _ =>
      obtain ⟨rfl, rfl, rfl⟩ := h.eq_of_single hOpens hEq
      cases hGrid rfl
    | incomplete hOpens _ hMissing =>
      obtain ⟨rfl, rfl, rfl⟩ := h.eq_of_single hOpens hEq
      cases hMissing
  · rintro ⟨rfl, rfl⟩
    exact .repeatedGrid h rfl

theorem not_opens_of_stray {opening : List Token} (h : ¬beginsBlock t) : ¬form.Opens t opening :=
  fun hOpens => h hOpens.begins.1

/-- What kind of item a block of each form amounts to. -/
def Form.Makes : Form → Item → Prop
  | .definition name, item => ∃ d, item = .definition d ∧ d.identifier = name
  | .root, item => ∃ r, item = .root r
  | .grid, item => ∃ g, item = .grid g
  | .line, item | .graph, item | .point, item => ∃ s, item = .shape s

theorem makes_of_item? {entries : List Entry} (h : form.item? entries = some item) :
    form.Makes item := by
  cases form with
  | grid =>
    cases h
    exact ⟨_, rfl⟩
  | definition | graph | point =>
    simp only [Form.item?, Option.bind_eq_bind, Option.bind_eq_some_iff, Option.pure_def,
      Option.some.injEq] at h
    obtain ⟨_, _, rfl⟩ := h
    simp [Form.Makes]
  | root | line =>
    simp only [Form.item?, Option.bind_eq_bind, Option.bind_eq_some_iff, Option.pure_def,
      Option.some.injEq] at h
    obtain ⟨_, _, _, _, rfl⟩ := h
    simp [Form.Makes]

theorem Form.Makes.grid?_isSome_iff (h : form.Makes item) : item.grid?.isSome ↔ form = .grid := by
  cases form with
  | definition name =>
    obtain ⟨d, rfl, -⟩ := h
    simp [Item.grid?]
  | _ =>
    obtain ⟨_, rfl⟩ := h
    simp [Item.grid?]

/-! ## The reader of a block -/

/-- One block, begun with the first token if that token can begin one. -/
def nextBlock (draft : Draft) : Reader Draft := fun c =>
  match c.rest with
  | [] => (.ok draft, c)
  | t :: rest =>
    readBlockInto draft t (if beginsBlock t then ⟨rest, c.position + 1⟩ else c)

/-- What a block is accepted for, given what has been collected before it. -/
def Extends (draft : Draft) (ts : List Token) (grown : Draft) : Prop :=
  ∃ item, Block draft.definitions ts item ∧ (item.grid?.isSome → draft.grid = none) ∧
    add draft item = grown

theorem nextBlock_exactAt_of_opens {draft : Draft} {r : Reader Draft} {rest : List Token}
    {position : Nat} (h : form.Opens t [t]) (hGrid : form = .grid → draft.grid = none)
    (hRead : nextBlock draft ⟨t :: rest, position⟩ = r ⟨rest, position + 1⟩)
    (hr : Completes draft form t r) :
    Reader.ExactAt ⟨t :: rest, position⟩ (nextBlock draft) (Extends draft)
      (Block.Refuses draft.definitions draft.grid.isSome) := by
  refine .ofNext hRead ((hr _).congr (fun ts grown => ?_) fun ts next fault => ?_) ?_ ?_
  · simp only [Extends, block_iff_of_opens h]
    constructor
    · rintro ⟨entries, item, hBody, hItem, hGrown⟩
      have hIff := (makes_of_item? hItem).grid?_isSome_iff
      exact ⟨item, ⟨entries, hBody, hItem⟩, fun hSome => hGrid (hIff.mp hSome), hGrown⟩
    · rintro ⟨item, ⟨entries, hBody, hItem⟩, -, hGrown⟩
      exact ⟨entries, item, hBody, hItem, hGrown⟩
  · rw [block_refuses_iff_of_opens h]
    intro hForm
    simp [hGrid hForm]
  · rintro grown ⟨item, hBlock, -⟩
    exact not_block_nil hBlock
  · exact by simp [block_refuses_nil_iff, h.begins.1]

theorem nextBlock_exactAt_of_fault {draft : Draft} {rest : List Token} {position : Nat}
    (hBegins : beginsBlock t)
    (hRead : nextBlock draft ⟨t :: rest, position⟩ = (.error fault, ⟨rest, position + 1⟩))
    (hExtends : ∀ ts grown, ¬Extends draft (t :: ts) grown)
    (hRefuses : ∀ ts next cause,
      Block.Refuses draft.definitions draft.grid.isSome (t :: ts) next cause ↔
        ts = [] ∧ cause = fault) :
    Reader.ExactAt ⟨t :: rest, position⟩ (nextBlock draft) (Extends draft)
      (Block.Refuses draft.definitions draft.grid.isSome) := by
  refine .ofNext (s := Reader.fail fault) hRead
    (((Reader.Still.fail fault).exactAt _).congr (fun ts grown => ?_) fun ts next cause => ?_) ?_ ?_
  · simp [hExtends]
  · rw [hRefuses, Except.error.injEq, eq_comm (a := cause)]
  · rintro grown ⟨item, hBlock, -⟩
    exact not_block_nil hBlock
  · exact by simp [block_refuses_nil_iff, hBegins]

theorem nextBlock_begun (draft : Draft) (rest : List Token) (position : Nat)
    (hBegins : beginsBlock t) :
    nextBlock draft ⟨t :: rest, position⟩ = readBlockInto draft t ⟨rest, position + 1⟩ := by
  simp only [nextBlock, hBegins, if_true]

theorem readShape_of_unknown (hLine : t.text ≠ "line") (hGraph : t.text ≠ "graph")
    (hPoint : t.text ≠ "point") : readShape t = Reader.fail (.unknownShape t) := by
  unfold readShape
  split
  · contradiction
  · contradiction
  · contradiction
  · rfl

/-- The name of a new definition is a single token, and it stays unread if it is none. -/
theorem nameAfter_exact (marker : Token) :
    (nameAfter marker).Exact (fun ts name => name.kind = .newIdentifier ∧ ts = [name])
      (fun ts next fault => ts = [] ∧ Nameless marker next fault) := fun c => by
  have hNil : ∀ position, nameAfter marker ⟨[], position⟩ =
      (.error (.missingName marker), ⟨[], position⟩) := fun _ => rfl
  have hCons : ∀ t rest position, nameAfter marker ⟨t :: rest, position⟩ =
      if t.kind ∈ [Kind.newIdentifier] then (.ok t, ⟨rest, position + 1⟩)
      else (.error (.missingName t), ⟨t :: rest, position⟩) := by
    intro t rest position
    simp only [nameAfter, List.mem_singleton]
  refine (Reader.exact_of_single hNil hCons c).congr (fun ts name => by rw [List.mem_singleton])
    fun ts next fault => and_congr_right fun _ => ?_
  cases next <;> simp [Reader.Misses, Nameless]

section

variable (draft : Draft) (rest : List Token) (position : Nat)

theorem nextBlock_exactAt_of_define (hKind : t.kind = .define) :
    Reader.ExactAt ⟨t :: rest, position⟩ (nextBlock draft) (Extends draft)
      (Block.Refuses draft.definitions draft.grid.isSome) := by
  have hBegins : beginsBlock t := by simp [beginsBlock, hKind]
  have hNext := nextBlock_begun draft rest position hBegins
  simp only [readBlockInto, hKind, readDefinition, Reader.bind_assoc] at hNext
  refine .ofNext hNext (((nameAfter_exact t _).bind fun _ name m _ _ =>
    definition_completes draft t name m).congr ?_ ?_) ?_ ?_
  · intro ts grown
    simp only [Extends, block_iff_of_define hKind]
    constructor
    · rintro ⟨_, body, name, rfl, ⟨hName, rfl⟩, entries, item, hBody, hItem, hGrown⟩
      refine ⟨item, ⟨name, body, entries, rfl, hName, hBody, hItem⟩, fun hGrid => ?_, hGrown⟩
      cases (makes_of_item? hItem).grid?_isSome_iff.mp hGrid
    · rintro ⟨item, ⟨name, body, entries, rfl, hName, hBody, hItem⟩, -, hGrown⟩
      exact ⟨[name], body, name, rfl, ⟨hName, rfl⟩, entries, item, hBody, hItem, hGrown⟩
  · intro ts next fault
    rw [block_refuses_iff_of_define hKind]
    refine or_congr_right ?_
    constructor
    · rintro ⟨_, body, name, rfl, ⟨hName, rfl⟩, hRefuses⟩
      exact ⟨name, body, rfl, hName, hRefuses⟩
    · rintro ⟨name, body, rfl, hName, hRefuses⟩
      exact ⟨[name], body, name, rfl, ⟨hName, rfl⟩, hRefuses⟩
  · rintro grown ⟨item, hBlock, -⟩
    exact not_block_nil hBlock
  · exact by simp [block_refuses_nil_iff, hBegins]

theorem nextBlock_exactAt_of_declaration (hKind : t.kind = .declaration) :
    Reader.ExactAt ⟨t :: rest, position⟩ (nextBlock draft) (Extends draft)
      (Block.Refuses draft.definitions draft.grid.isSome) := by
  have hBegins : beginsBlock t := by simp [beginsBlock, hKind]
  have hNext := nextBlock_begun draft rest position hBegins
  by_cases hRoot : t.text = "root"
  · refine nextBlock_exactAt_of_opens (.root hKind hRoot) nofun ?_ (root_completes draft t)
    rw [hNext, readBlockInto, hKind, hRoot]
    rfl
  · by_cases hGrid : t.text = "grid"
    · have hOpens : Form.grid.Opens t [t] := .grid hKind hGrid
      rw [readBlockInto, hKind, hGrid] at hNext
      by_cases hGiven : draft.grid = none
      · refine nextBlock_exactAt_of_opens hOpens (fun _ => hGiven) ?_ (grid_completes draft t)
        rw [hNext, hGiven]
        rfl
      · obtain ⟨g, hSome⟩ := Option.ne_none_iff_exists'.mp hGiven
        have hFault : nextBlock draft ⟨t :: rest, position⟩ =
            (.error (.repeatedGrid t), ⟨rest, position + 1⟩) := by
          rw [hNext, hSome]
          rfl
        refine nextBlock_exactAt_of_fault hBegins hFault ?_ ?_
        · rintro ts grown ⟨item, hBlock, hAbsent, -⟩
          obtain ⟨entries, -, hItem⟩ := (block_iff_of_opens hOpens).mp hBlock
          cases hItem
          exact hGiven (hAbsent rfl)
        · simp [hSome, block_refuses_iff_of_repeatedGrid hOpens]
    · have hNot (form : Form) (opening : List Token) : ¬form.Opens t opening :=
        not_opens_of_unknownDeclaration hKind hRoot hGrid
      have hFault : nextBlock draft ⟨t :: rest, position⟩ =
          (.error (.unknownDeclaration t), ⟨rest, position + 1⟩) := by
        rw [hNext, readBlockInto, hKind]
        split <;> first | contradiction | rfl
      refine nextBlock_exactAt_of_fault hBegins hFault ?_ ?_
      · rintro ts grown ⟨item, hBlock, -⟩
        exact not_block_of_not_opens hNot hBlock
      · simp [block_refuses_iff_of_not_opens _ hNot, hKind]

theorem nextBlock_exactAt_of_shape (hKind : t.kind = .shapeFunction) :
    Reader.ExactAt ⟨t :: rest, position⟩ (nextBlock draft) (Extends draft)
      (Block.Refuses draft.definitions draft.grid.isSome) := by
  have hBegins : beginsBlock t := by simp [beginsBlock, hKind]
  have hNext := nextBlock_begun draft rest position hBegins
  rw [readBlockInto, hKind] at hNext
  by_cases hLine : t.text = "line"
  · exact nextBlock_exactAt_of_opens (.line hKind hLine) nofun hNext (line_completes draft t hLine)
  · by_cases hGraph : t.text = "graph"
    · exact nextBlock_exactAt_of_opens (.graph hKind hGraph) nofun hNext
        (graph_completes draft t hGraph)
    · by_cases hPoint : t.text = "point"
      · exact nextBlock_exactAt_of_opens (.point hKind hPoint) nofun hNext
          (point_completes draft t hPoint)
      · have hText : t.text ∉ Vocabulary.shapes := by
          simp [Vocabulary.shapes, hLine, hGraph, hPoint]
        have hNot (form : Form) (opening : List Token) : ¬form.Opens t opening :=
          not_opens_of_unknownShape hKind hText
        have hFault : nextBlock draft ⟨t :: rest, position⟩ =
            (.error (.unknownShape t), ⟨rest, position + 1⟩) := by
          rw [hNext, readShape_of_unknown hLine hGraph hPoint]
          rfl
        refine nextBlock_exactAt_of_fault hBegins hFault ?_ ?_
        · rintro ts grown ⟨item, hBlock, -⟩
          exact not_block_of_not_opens hNot hBlock
        · simp [block_refuses_iff_of_not_opens _ hNot, hKind]

theorem nextBlock_exactAt_of_stray (h : ¬beginsBlock t) :
    Reader.ExactAt ⟨t :: rest, position⟩ (nextBlock draft) (Extends draft)
      (Block.Refuses draft.definitions draft.grid.isSome) := by
  have hNot (form : Form) (opening : List Token) : ¬form.Opens t opening := not_opens_of_stray h
  have hKind : t.kind ≠ .define ∧ t.kind ≠ .declaration ∧ t.kind ≠ .shapeFunction := by
    simpa [beginsBlock, and_assoc] using h
  have hFault : nextBlock draft ⟨t :: rest, position⟩ =
      (.error (.read (.unexpected t .block)), ⟨t :: rest, position⟩) := by
    simp only [nextBlock, h]
    rw [readBlockInto]
    split <;> simp_all [Reader.fail]
  refine .ofFault hFault ?_ ?_
  · rintro ts c' grown hTs ⟨item, hBlock, -⟩
    cases ts with
    | nil => exact not_block_nil hBlock
    | cons u us =>
      obtain rfl := hTs.head_eq
      exact not_block_of_not_opens hNot hBlock
  · intro ts c' cause hTs
    cases ts with
    | nil =>
      rw [Cursor.after_nil_iff.mp hTs]
      simp [block_refuses_nil_iff, h]
    | cons u us =>
      obtain rfl := hTs.head_eq
      simp [block_refuses_iff_of_not_opens hKind.1 hNot, hKind]

end

theorem nextBlock_exactAt (draft : Draft) (t : Token) (rest : List Token) (position : Nat) :
    Reader.ExactAt ⟨t :: rest, position⟩ (nextBlock draft) (Extends draft)
      (Block.Refuses draft.definitions draft.grid.isSome) := by
  by_cases hBegins : beginsBlock t
  · simp only [beginsBlock, Bool.or_eq_true, decide_eq_true_eq] at hBegins
    obtain (hKind | hKind) | hKind := hBegins
    · exact nextBlock_exactAt_of_define draft rest position hKind
    · exact nextBlock_exactAt_of_declaration draft rest position hKind
    · exact nextBlock_exactAt_of_shape draft rest position hKind
  · exact nextBlock_exactAt_of_stray draft rest position hBegins

theorem nextBlock_of_block {us : List Token} (draft : Draft)
    (h : Block draft.definitions us item) (hAbsent : item.grid?.isSome → draft.grid = none)
    (vs : List Token) :
    nextBlock draft (Cursor.start (us ++ vs)) = (.ok (add draft item), ⟨vs, us.length⟩) := by
  cases us with
  | nil => exact absurd h not_block_nil
  | cons t us =>
    refine ((nextBlock_exactAt draft t (us ++ vs) 0).ok_iff ..).mpr ⟨t :: us, ⟨rfl, ?_⟩, item, h,
      hAbsent, rfl⟩
    exact (Nat.zero_add _).symm

end PlotLang.Grammar

import Mathlib.Data.List.Forall2
import Mathlib.Logic.Relation
import PlotLang.Proofs.Balance

/-! # Arrangements of a program

A block is read group by group, a keyword with the tokens of its value. Commas stand only inside the
values of several tokens and say nothing there, and of the groups of one field only the last one
counts. So commas may be left out or put in before such a value, and groups of different fields may
change places.
-/

namespace PlotLang.Grammar

open Builder
open Token (Kind)

variable {defs : List Definition} {table : List (String × Field)} {kinds : List Kind} {f : Field}
  {ts ts' vs us before after rest body tail : List Token} {k t v : Token}
  {entries entries' : List Entry} {item : Item} {items : List Item} {p : Program}

/-! ## Values -/

/-- The kinds of the tokens in a value, the commas included. -/
def valueKinds : List Kind :=
  [.string, .integer, .float, .hexColor, .comma, .variable]

theorem Field.kinds_subset_valueKinds (f : Field) : f.layout.kinds ⊆ valueKinds := by
  cases f <;> decide

theorem Field.comma_notMem_kinds (f : Field) : .comma ∉ f.layout.kinds := by
  cases f <;> decide

theorem denotes_kind {x : f.Value} (h : f.Denotes defs ts x) (hMem : t ∈ ts) :
    t.kind ∈ valueKinds := by
  obtain ⟨vs, hHolds, -⟩ := h
  obtain hComma | hKind := layout_holds_kind hHolds hMem
  · rw [hComma]
    decide
  · exact f.kinds_subset_valueKinds hKind

def withoutCommas (ts : List Token) : List Token := ts.filter (·.kind ≠ .comma)

theorem withoutCommas_append (ts us : List Token) :
    withoutCommas (ts ++ us) = withoutCommas ts ++ withoutCommas us :=
  List.filter_append ..

theorem withoutCommas_cons (h : t.kind ≠ .comma) :
    withoutCommas (t :: ts) = t :: withoutCommas ts :=
  List.filter_cons_of_pos (by simpa using h)

theorem withoutCommas_eq_of_spaced (h : Spaced kinds ts vs) : withoutCommas ts = vs := by
  induction h with
  | nil => rfl
  | value hValue _ _ ih => rw [withoutCommas_cons hValue, ih]
  | comma hComma _ ih => rwa [withoutCommas, List.filter_cons_of_neg (by simpa using hComma)]

theorem spaced_withoutCommas (h : Spaced kinds ts vs) : Spaced kinds (withoutCommas ts) vs := by
  rw [withoutCommas_eq_of_spaced h]
  induction h with
  | nil => exact .nil
  | value hValue hKind _ ih => exact .value hValue hKind ih
  | comma _ _ ih => exact ih

theorem Field.Denotes.withoutCommas {x : f.Value} (h : f.Denotes defs ts x) :
    f.Denotes defs (withoutCommas ts) x := by
  obtain ⟨vs, hHolds, hMeans⟩ := h
  refine ⟨vs, ?_, hMeans⟩
  cases hLayout : f.layout with
  | one kinds expected =>
    rw [hLayout] at hHolds
    obtain ⟨t, hKind, rfl, rfl⟩ := hHolds
    have hKinds := f.comma_notMem_kinds
    rw [hLayout] at hKinds
    exact ⟨t, hKind, withoutCommas_cons (ne_of_mem_of_not_mem hKind hKinds), rfl⟩
  | many kinds count =>
    rw [hLayout] at hHolds
    exact ⟨spaced_withoutCommas hHolds.1, hHolds.2⟩

/-- Commas may be put in before a value. -/
theorem spaced_addCommas {commas : List Token} (hCommas : ∀ t ∈ commas, t.kind = .comma)
    (hValue : v.kind ≠ .comma) (h : Spaced kinds (ts ++ v :: us) vs) :
    Spaced kinds (ts ++ (commas ++ v :: us)) vs := by
  induction ts generalizing vs with
  | nil =>
    have hVs : vs ≠ [] := by
      obtain ⟨-, us, rfl, -⟩ := (spaced_value_iff hValue).mp h
      exact List.cons_ne_nil _ _
    induction commas with
    | nil => exact h
    | cons c commas ih =>
      obtain ⟨hComma, hCommas⟩ := List.forall_mem_cons.mp hCommas
      exact (spaced_comma_iff hComma).mpr ⟨hVs, ih hCommas⟩
  | cons t ts ih =>
    by_cases hComma : t.kind = .comma
    · obtain ⟨hVs, hRest⟩ := (spaced_comma_iff hComma).mp h
      exact (spaced_comma_iff hComma).mpr ⟨hVs, ih hRest⟩
    · obtain ⟨hKind, vs, rfl, hRest⟩ := (spaced_value_iff hComma).mp h
      exact (spaced_value_iff hComma).mpr ⟨hKind, vs, rfl, ih hRest⟩

theorem Field.Means.unique {x y : f.Value} (hX : f.Means defs vs x) (hY : f.Means defs vs y) :
    x = y := by
  cases f with
  | minimum | maximum | thickness => simpa using hX.symm.trans hY
  | alpha | step => simpa using hX.1.symm.trans hY.1
  | name | function => simpa using hX.symm.trans hY
  | color | background =>
    obtain ⟨t, rfl, -, rfl⟩ := hX
    obtain ⟨u, hU, -, rfl⟩ := hY
    cases hU
    rfl
  | start | finish | location =>
    cases x
    cases y
    simpa using hX.symm.trans hY
  | axes => simpa [Prod.ext_iff] using hX.symm.trans hY
  | box =>
    cases x
    cases y
    simpa using hX.symm.trans hY

theorem Field.Denotes.unique {x y : f.Value} (hX : f.Denotes defs ts x)
    (hY : f.Denotes defs ts y) : x = y := by
  obtain ⟨vs, hHolds, hMeans⟩ := hX
  obtain ⟨vs', hHolds', hMeans'⟩ := hY
  have hVs : vs = vs' := by
    cases hLayout : f.layout with
    | one kinds expected =>
      rw [hLayout] at hHolds hHolds'
      obtain ⟨t, -, rfl, rfl⟩ := hHolds
      obtain ⟨u, -, hU, rfl⟩ := hHolds'
      exact hU
    | many kinds count =>
      rw [hLayout] at hHolds hHolds'
      rw [← withoutCommas_eq_of_spaced hHolds.1, withoutCommas_eq_of_spaced hHolds'.1]
  subst hVs
  exact hMeans.unique hMeans'

/-! ## Commas left out -/

theorem Body.withoutCommas (h : Body defs table ts entries) :
    Body defs table (withoutCommas ts) entries := by
  induction h with
  | @close t hEnd =>
    have hKind : t.kind ≠ .comma := by simp [(isEnd_iff.mp hEnd).1]
    rw [withoutCommas_cons hKind]
    exact .close hEnd
  | @field k f us rest x entries hKind hField hDenotes _ ih =>
    have hNotComma : k.kind ≠ .comma := by simp [hKind]
    rw [withoutCommas_cons hNotComma, withoutCommas_append]
    exact .field hKind hField hDenotes.withoutCommas ih

theorem Form.Opens.withoutCommas {form : Form} {opener : Token} {opening : List Token}
    (h : form.Opens opener opening) : withoutCommas opening = opening := by
  cases h <;> simp_all [Grammar.withoutCommas]

theorem Block.withoutCommas (h : Block defs ts item) : Block defs (withoutCommas ts) item := by
  obtain ⟨form, opener, opening, body, entries, rfl, hOpens, hBody, hItem⟩ := h
  refine ⟨form, opener, opening, Grammar.withoutCommas body, entries, ?_, hOpens,
    hBody.withoutCommas, hItem⟩
  rw [withoutCommas_append, hOpens.withoutCommas]

theorem Blocks.withoutCommas (h : Blocks defs ts items) : Blocks defs (withoutCommas ts) items := by
  induction h with
  | nil => exact .nil
  | cons hBlock _ ih =>
    rw [withoutCommas_append]
    exact .cons hBlock.withoutCommas ih

/-! ## The rest of a block from a keyword on -/

theorem append_eq_append_cons (h : us ++ vs = before ++ k :: after) (hNot : k ∉ us) :
    ∃ ws, before = us ++ ws ∧ vs = ws ++ k :: after := by
  obtain ⟨ws, hBefore, hVs⟩ | ⟨ws, hUs, hAfter⟩ := List.append_eq_append_iff.mp h
  · exact ⟨ws, hBefore, hVs⟩
  · cases ws with
    | nil => exact ⟨[], by simpa using hUs.symm, hAfter.symm⟩
    | cons w ws =>
      obtain ⟨rfl, -⟩ := List.cons_eq_cons.mp hAfter
      exact absurd (by rw [hUs]; simp) hNot

/-- The fields from a keyword on may be exchanged for others. -/
theorem Body.split (h : Body defs table (before ++ k :: after) entries)
    (hKind : k.kind = .keyword) :
    ∃ first last, entries = first ++ last ∧ Body defs table (k :: after) last ∧
      ∀ ts others, Body defs table ts others →
        Body defs table (before ++ ts) (first ++ others) := by
  generalize hTs : before ++ k :: after = ts at h
  induction h generalizing before with
  | @close t hEnd =>
    obtain rfl : t = k := by
      have hMem : k ∈ [t] := hTs ▸ List.mem_append_right _ List.mem_cons_self
      exact (List.mem_singleton.mp hMem).symm
    exact absurd hEnd (not_isEnd_of_keyword hKind)
  | @field k' f us rest x entries hKind' hField hDenotes hRest ih =>
    cases before with
    | nil =>
      rw [List.nil_append] at hTs
      refine ⟨[], ⟨f, x⟩ :: entries, rfl, ?_, fun ts others hOthers => hOthers⟩
      rw [hTs]
      exact .field hKind' hField hDenotes hRest
    | cons b before =>
      rw [List.cons_append] at hTs
      obtain ⟨rfl, hEq⟩ := List.cons_eq_cons.mp hTs
      have hNot : k ∉ us := by
        intro hMem
        have hValue := denotes_kind hDenotes hMem
        rw [hKind] at hValue
        revert hValue
        decide
      obtain ⟨ws, rfl, hRest⟩ := append_eq_append_cons hEq.symm hNot
      obtain ⟨first, last, rfl, hLast, hExchange⟩ := ih hRest.symm
      refine ⟨⟨f, x⟩ :: first, last, rfl, hLast, fun ts others hOthers => ?_⟩
      rw [List.cons_append, List.append_assoc]
      exact .field hKind' hField hDenotes (hExchange ts others hOthers)

theorem last?_append (f : Field) (first last : List Entry) :
    last? f (first ++ last) = (last? f last).or (last? f first) := by
  rw [last?, List.filterMap_append, List.getLast?_append]
  rfl

/-- Only the last value of each field counts. -/
theorem item?_congr {form : Form} (h : ∀ f, last? f entries = last? f entries') :
    form.item? entries = form.item? entries' := by
  cases form <;> simp only [Form.item?, h]

theorem Form.Opens.not_keyword {form : Form} {opener : Token} {opening : List Token}
    (h : form.Opens opener opening) : ∀ t ∈ opening, t.kind ≠ .keyword := by
  cases h <;> simp_all

theorem Block.exchange (h : Block defs (before ++ k :: after) item) (hKind : k.kind = .keyword) :
    ∃ (form : Form) (last : List Entry), Body defs form.table (k :: after) last ∧
      ∀ ts others, Body defs form.table ts others → (∀ f, last? f others = last? f last) →
        Block defs (before ++ ts) item := by
  obtain ⟨form, opener, opening, body, entries, hTs, hOpens, hBody, hItem⟩ := h
  have hNot : k ∉ opening := fun hMem => hOpens.not_keyword k hMem hKind
  obtain ⟨ws, rfl, rfl⟩ := append_eq_append_cons hTs.symm hNot
  obtain ⟨first, last, rfl, hLast, hExchange⟩ := hBody.split hKind
  refine ⟨form, last, hLast, fun ts others hOthers hSame => ?_⟩
  refine ⟨form, opener, opening, ws ++ ts, first ++ others, List.append_assoc .., hOpens,
    hExchange ts others hOthers, ?_⟩
  rw [← hItem]
  exact item?_congr fun f => by rw [last?_append, last?_append, hSame]

theorem Blocks.exchange (h : Blocks defs (before ++ k :: after) items) (hKind : k.kind = .keyword) :
    ∃ (defs' : List Definition) (form : Form) (inner rest : List Token) (last : List Entry),
      after = inner ++ rest ∧ Body defs' form.table (k :: inner) last ∧
        ∀ ts others, Body defs' form.table ts others → (∀ f, last? f others = last? f last) →
          Blocks defs (before ++ (ts ++ rest)) items := by
  generalize hTs : before ++ k :: after = ts at h
  induction h generalizing before with
  | nil => simp at hTs
  | @cons defs us vs item items hBlock hBlocks ih =>
    obtain ⟨ws, rfl, hAfter⟩ | ⟨ws, rfl, hVs⟩ := List.append_eq_append_iff.mp hTs
    · cases ws with
      | nil =>
        have hHere : [] ++ k :: after = vs := hAfter
        obtain ⟨defs', form, inner, rest, last, rfl, hLast, hExchange⟩ := ih hHere
        refine ⟨defs', form, inner, rest, last, rfl, hLast, fun ts others hOthers hSame => ?_⟩
        rw [List.append_nil] at hBlock
        exact .cons hBlock (hExchange ts others hOthers hSame)
      | cons w ws =>
        obtain ⟨rfl, rfl⟩ := List.cons_eq_cons.mp hAfter
        obtain ⟨form, last, hLast, hExchange⟩ := hBlock.exchange hKind
        refine ⟨defs, form, ws, vs, last, rfl, hLast, fun ts others hOthers hSame => ?_⟩
        rw [← List.append_assoc]
        exact .cons (hExchange ts others hOthers hSame) hBlocks
    · obtain ⟨defs', form, inner, rest, last, rfl, hLast, hExchange⟩ := ih hVs.symm
      refine ⟨defs', form, inner, rest, last, rfl, hLast, fun ts others hOthers hSame => ?_⟩
      rw [List.append_assoc]
      exact .cons hBlock (hExchange ts others hOthers hSame)

/-! ## Groups -/

/-- A keyword with the tokens of its value. -/
structure Group where
  keyword : Token
  value : List Token
  deriving DecidableEq

namespace Group

def tokens (g : Group) : List Token := g.keyword :: g.value

/-- `axes` and `axis` are one field. -/
def field (g : Group) : String := if g.keyword.text = "axes" then "axis" else g.keyword.text

structure Formed (g : Group) : Prop where
  keyword : g.keyword.kind = .keyword
  value : ∀ t ∈ g.value, t.kind ∈ valueKinds

structure Gives (defs : List Definition) (table : List (String × Field)) (g : Group) (e : Entry) :
    Prop where
  field : table.lookup g.keyword.text = some e.field
  value : e.field.Denotes defs g.value e.value

end Group

/-- No value goes on with these tokens. -/
def EndsValue (ts : List Token) : Prop := ∀ t ∈ ts.head?, t.kind ∉ valueKinds

variable {g : Group} {gs gs' : List Group} {tokens tokens' : List Token}

theorem endsValue_of_keyword (h : k.kind = .keyword) : EndsValue (k :: ts) := by
  rintro t ⟨⟩
  rw [h]
  decide

theorem Body.endsValue (h : Body defs table ts entries) (rest : List Token) :
    EndsValue (ts ++ rest) := by
  cases h with
  | close hEnd =>
    rintro t ⟨⟩
    rw [(isEnd_iff.mp hEnd).1]
    decide
  | field hKind _ _ _ => exact endsValue_of_keyword hKind

theorem endsValue_groups (h : ∀ g ∈ gs, g.Formed) (hAfter : EndsValue after) :
    EndsValue (gs.flatMap Group.tokens ++ after) := by
  cases gs with
  | nil => exact hAfter
  | cons g gs => exact endsValue_of_keyword (h g List.mem_cons_self).keyword

/-- A text of value tokens does not reach into what ends a value. -/
theorem append_of_endsValue (hTail : EndsValue tail) (hUs : ∀ t ∈ us, t.kind ∈ valueKinds)
    (h : ts ++ tail = us ++ after) :
    ∃ ws, ts = us ++ ws ∧ after = ws ++ tail := by
  obtain ⟨ws, hUs', hTail'⟩ | ⟨ws, hTs, hAfter⟩ := List.append_eq_append_iff.mp h
  · cases ws with
    | nil =>
      rw [List.append_nil] at hUs'
      exact ⟨[], by rw [hUs', List.append_nil], hTail'.symm⟩
    | cons w ws =>
      have hKind : w.kind ∈ valueKinds := hUs w (by rw [hUs']; simp)
      exact absurd hKind (hTail w (by rw [hTail']; rfl))
  · exact ⟨ws, hTs, hAfter⟩

/-- A block read from groups on has an entry for each of them. -/
theorem Body.groups (hBody : Body defs table body entries) (hGroups : ∀ g ∈ gs, g.Formed)
    (hAfter : EndsValue after) (h : body ++ rest = gs.flatMap Group.tokens ++ after) :
    ∃ last firsts lasts, body = gs.flatMap Group.tokens ++ last ∧ after = last ++ rest ∧
      entries = firsts ++ lasts ∧ List.Forall₂ (Group.Gives defs table) gs firsts ∧
        Body defs table last lasts := by
  induction gs generalizing body entries with
  | nil => exact ⟨body, [], entries, rfl, h.symm, rfl, .nil, hBody⟩
  | cons g gs ih =>
    obtain ⟨hFormed, hGroups⟩ := List.forall_mem_cons.mp hGroups
    rw [List.flatMap_cons, List.append_assoc, Group.tokens, List.cons_append] at h
    cases hBody with
    | close hEnd =>
      obtain ⟨rfl, -⟩ := List.cons_eq_cons.mp h
      exact absurd hEnd (not_isEnd_of_keyword hFormed.keyword)
    | @field k f us next x entries hKind hField hDenotes hNext =>
      rw [List.cons_append, List.append_assoc] at h
      obtain ⟨rfl, hValue⟩ := List.cons_eq_cons.mp h
      -- The field takes the tokens of the group, no fewer and no more.
      obtain ⟨more, rfl, hMore⟩ := append_of_endsValue (hNext.endsValue rest) hFormed.value hValue
      have hInside : ∀ t ∈ more, t.kind ∈ valueKinds := fun t hMem =>
        denotes_kind hDenotes (List.mem_append_right _ hMem)
      have hMore : [] ++ (gs.flatMap Group.tokens ++ after) = more ++ (next ++ rest) := hMore
      obtain ⟨none, hNone, hRest⟩ :=
        append_of_endsValue (endsValue_groups hGroups hAfter) hInside hMore
      obtain ⟨rfl, rfl⟩ := List.append_eq_nil_iff.mp hNone.symm
      obtain ⟨last, firsts, lasts, rfl, rfl, rfl, hGives, hLast⟩ := ih hNext hGroups hRest
      rw [List.append_nil] at hDenotes
      refine ⟨last, ⟨f, x⟩ :: firsts, lasts, ?_, rfl, rfl, .cons ⟨hField, hDenotes⟩ hGives, hLast⟩
      rw [List.append_nil, List.flatMap_cons, List.append_assoc, Group.tokens, List.cons_append]

theorem body_of_groups (hGives : List.Forall₂ (Group.Gives defs table) gs entries)
    (hGroups : ∀ g ∈ gs, g.Formed) (hLast : Body defs table after entries') :
    Body defs table (gs.flatMap Group.tokens ++ after) (entries ++ entries') := by
  induction hGives with
  | nil => exact hLast
  | @cons g e gs entries hGive _ ih =>
    obtain ⟨hFormed, hGroups⟩ := List.forall_mem_cons.mp hGroups
    rw [List.flatMap_cons, List.append_assoc, Group.tokens, List.cons_append, List.cons_append]
    exact .field hFormed.keyword hGive.field hGive.value (ih hGroups)

theorem Group.Gives.unique {e e' : Entry} (h : g.Gives defs table e) (h' : g.Gives defs table e') :
    e = e' := by
  obtain ⟨field, value⟩ := e
  obtain ⟨field', value'⟩ := e'
  obtain rfl : field = field' := Option.some.inj (h.field.symm.trans h'.field)
  exact congrArg (Entry.mk field) (h.value.unique h'.value)

theorem Group.exists_gives (h : List.Forall₂ (Group.Gives defs table) gs entries) :
    ∀ g ∈ gs, ∃ e, g.Gives defs table e := by
  induction h with
  | nil => exact List.forall_mem_nil _
  | cons hGive _ ih => exact List.forall_mem_cons.mpr ⟨⟨_, hGive⟩, ih⟩

theorem Group.eq_map_of_gives {entry : Group → Entry}
    (h : List.Forall₂ (Group.Gives defs table) gs entries)
    (hEntry : ∀ g ∈ gs, g.Gives defs table (entry g)) : entries = gs.map entry := by
  induction h with
  | nil => rfl
  | cons hGive _ ih =>
    obtain ⟨hFirst, hRest⟩ := List.forall_mem_cons.mp hEntry
    rw [List.map_cons, ← ih hRest, hGive.unique hFirst]

/-- The entry of a group is a function of the group alone. -/
theorem Group.exists_entry (h : List.Forall₂ (Group.Gives defs table) gs entries) :
    ∃ entry : Group → Entry, entries = gs.map entry ∧ ∀ g ∈ gs, g.Gives defs table (entry g) := by
  have hEach : ∀ g, ∃ e, g ∈ gs → g.Gives defs table e := by
    intro g
    by_cases hMem : g ∈ gs
    · obtain ⟨e, hGive⟩ := Group.exists_gives h g hMem
      exact ⟨e, fun _ => hGive⟩
    · exact ⟨⟨.name, ""⟩, fun hMem' => absurd hMem' hMem⟩
  choose entry hEntry using hEach
  exact ⟨entry, Group.eq_map_of_gives h hEntry, hEntry⟩

/-! ## The order of groups -/

/-- The name of a field, one of its keywords. -/
def Field.label : Field → String
  | .minimum => "min"
  | .maximum => "max"
  | .name => "name"
  | .color => "color"
  | .background => "background"
  | .alpha => "alpha"
  | .thickness => "thickness"
  | .step => "step"
  | .function => "function"
  | .start => "from"
  | .finish => "to"
  | .location => "at"
  | .axes => "axis"
  | .box => "box"

theorem mem_of_lookup {text : String} (h : table.lookup text = some f) : (text, f) ∈ table := by
  obtain ⟨before, after, rfl, -⟩ := List.lookup_eq_some_iff.mp h
  exact List.mem_append_right _ List.mem_cons_self

theorem label_of_mem_table (form : Form) : ∀ field ∈ form.table,
    (if field.1 = "axes" then "axis" else field.1) = field.2.label := by
  cases form <;> simp [Form.table, Field.label]

theorem Group.Gives.field_eq {form : Form} {e : Entry} (h : g.Gives defs form.table e) :
    g.field = e.field.label :=
  label_of_mem_table form _ (mem_of_lookup h.field)

/-- The values of a field are those of its groups. -/
theorem filterMap_value? {entry : Group → Entry} (f : Field)
    (h : ∀ g ∈ gs, g.field = (entry g).field.label) :
    (gs.map entry).filterMap (Entry.value? f) =
      ((gs.filter fun g => g.field = f.label).map entry).filterMap (Entry.value? f) := by
  induction gs with
  | nil => rfl
  | cons g gs ih =>
    obtain ⟨hField, hRest⟩ := List.forall_mem_cons.mp h
    rw [List.map_cons, List.filterMap_cons, ih hRest]
    by_cases hLabel : g.field = f.label
    · rw [List.filter_cons_of_pos (by simpa using hLabel), List.map_cons, List.filterMap_cons]
    · have hNone : Entry.value? f (entry g) = none :=
        dif_neg fun hEq => hLabel (hField.trans (congrArg Field.label hEq))
      rw [List.filter_cons_of_neg (by simpa using hLabel), hNone]

theorem last?_map_congr {entry : Group → Entry} (f : Field)
    (h : ∀ g ∈ gs, g.field = (entry g).field.label)
    (h' : ∀ g ∈ gs', g.field = (entry g).field.label)
    (hOrder : (gs.filter fun g => g.field = f.label) = gs'.filter fun g => g.field = f.label) :
    last? f (gs.map entry) = last? f (gs'.map entry) := by
  rw [last?, filterMap_value? f h, hOrder, ← filterMap_value? f h']
  rfl

theorem Blocks.rearranged (h : Blocks defs (before ++ (gs.flatMap Group.tokens ++ after)) items)
    (hGroups : ∀ g ∈ gs, g.Formed) (hAfter : EndsValue after) (hPerm : gs'.Perm gs)
    (hOrder : ∀ label, gs'.filter (fun g => g.field = label) = gs.filter fun g => g.field = label) :
    Blocks defs (before ++ (gs'.flatMap Group.tokens ++ after)) items := by
  cases gs with
  | nil =>
    rw [hPerm.eq_nil]
    exact h
  | cons g gs =>
    rw [List.flatMap_cons, Group.tokens, List.cons_append, List.cons_append, List.append_assoc] at h
    obtain ⟨defs', form, inner, rest, entries, hInner, hBody, hExchange⟩ :=
      h.exchange (hGroups g List.mem_cons_self).keyword
    have hWhole : (g.keyword :: inner) ++ rest = (g :: gs).flatMap Group.tokens ++ after := by
      rw [List.cons_append, ← hInner, List.flatMap_cons, Group.tokens, List.cons_append,
        List.cons_append, List.append_assoc]
    obtain ⟨last, firsts, lasts, -, rfl, rfl, hGives, hLast⟩ := hBody.groups hGroups hAfter hWhole
    obtain ⟨entry, rfl, hEntry⟩ := Group.exists_entry hGives
    have hEntry' : ∀ g' ∈ gs', g'.Gives defs' form.table (entry g') := fun g' hMem =>
      hEntry g' (hPerm.subset hMem)
    have hGroups' : ∀ g' ∈ gs', g'.Formed := fun g' hMem => hGroups g' (hPerm.subset hMem)
    have hGives' : List.Forall₂ (Group.Gives defs' form.table) gs' (gs'.map entry) :=
      List.forall₂_map_right_iff.mpr (List.forall₂_same.mpr hEntry')
    have hLast? : ∀ f, last? f (gs'.map entry) = last? f ((g :: gs).map entry) := fun f =>
      last?_map_congr f (fun g hMem => (hEntry' g hMem).field_eq)
        (fun g hMem => (hEntry g hMem).field_eq) (hOrder f.label)
    have hBlocks := hExchange _ _ (body_of_groups hGives' hGroups' hLast) fun f => by
      rw [last?_append, last?_append, hLast?]
    rwa [List.append_assoc] at hBlocks

/-! ## Commas put in -/

/-- The keywords of the fields with several values. -/
def tupleKeywords : List String := ["box", "axes", "axis", "from", "to", "at"]

theorem layout_of_mem_table (form : Form) : ∀ field ∈ form.table, field.1 ∈ tupleKeywords →
    ∃ kinds count, field.2.layout = .many kinds count := by
  cases form <;> simp [Form.table, tupleKeywords, Field.layout]

theorem Field.Denotes.addCommas {x : f.Value} {commas : List Token} {count : Nat}
    (h : f.Denotes defs (ts ++ v :: us) x) (hLayout : f.layout = .many kinds count)
    (hCommas : ∀ t ∈ commas, t.kind = .comma) (hValue : v.kind ≠ .comma) :
    f.Denotes defs (ts ++ (commas ++ v :: us)) x := by
  obtain ⟨vs, hHolds, hMeans⟩ := h
  rw [hLayout] at hHolds
  refine ⟨vs, ?_, hMeans⟩
  rw [hLayout]
  exact ⟨spaced_addCommas hCommas hValue hHolds.1, hHolds.2⟩

theorem Blocks.addCommas {commas : List Token}
    (h : Blocks defs (before ++ k :: (us ++ v :: after)) items) (hKind : k.kind = .keyword)
    (hText : k.text ∈ tupleKeywords) (hUs : ∀ t ∈ us, t.kind ∈ valueKinds)
    (hV : v.kind ∈ valueKinds) (hValue : v.kind ≠ .comma)
    (hCommas : ∀ t ∈ commas, t.kind = .comma) :
    Blocks defs (before ++ k :: (us ++ (commas ++ v :: after))) items := by
  obtain ⟨defs', form, inner, rest, entries, hInner, hBody, hExchange⟩ := h.exchange hKind
  cases hBody with
  | close hEnd => exact absurd hEnd (not_isEnd_of_keyword hKind)
  | @field k f ts next x entries _ hField hDenotes hNext =>
    have hTaken : ∀ t ∈ us ++ [v], t.kind ∈ valueKinds :=
      List.forall_mem_append.mpr ⟨hUs, List.forall_mem_singleton.mpr hV⟩
    have hSplit : ts ++ (next ++ rest) = (us ++ [v]) ++ after := by
      rw [← List.append_assoc, ← hInner, List.append_assoc, List.singleton_append]
    obtain ⟨ws, rfl, rfl⟩ := append_of_endsValue (hNext.endsValue rest) hTaken hSplit
    obtain ⟨kinds, count, hLayout⟩ := layout_of_mem_table form _ (mem_of_lookup hField) hText
    rw [List.append_assoc, List.singleton_append] at hDenotes
    have hBlocks := hExchange _ _
      (.field hKind hField (hDenotes.addCommas hLayout hCommas hValue) hNext) fun f => rfl
    simpa using hBlocks

/-! ## Programs -/

/-- Another way to write the tokens of a program. -/
inductive Varies : List Token → List Token → Prop
  | dropCommas {tokens : List Token} : Varies tokens (withoutCommas tokens)
  | addCommas {before after inside commas : List Token} {keyword value : Token} :
      keyword.kind = .keyword → keyword.text ∈ tupleKeywords →
      (∀ t ∈ inside, t.kind ∈ valueKinds) → value.kind ∈ valueKinds → value.kind ≠ .comma →
      (∀ t ∈ commas, t.kind = .comma) →
      Varies (before ++ keyword :: (inside ++ value :: after))
        (before ++ keyword :: (inside ++ (commas ++ value :: after)))
  | rearrange {before after : List Token} {gs gs' : List Group} :
      (∀ g ∈ gs, g.Formed) → EndsValue after → gs'.Perm gs →
      (∀ label, gs'.filter (fun g => g.field = label) = gs.filter fun g => g.field = label) →
      Varies (before ++ (gs.flatMap Group.tokens ++ after))
        (before ++ (gs'.flatMap Group.tokens ++ after))

theorem Varies.blocks (h : Varies tokens tokens') (hBlocks : Blocks defs tokens items) :
    Blocks defs tokens' items := by
  cases h with
  | dropCommas => exact hBlocks.withoutCommas
  | addCommas hKind hText hInside hV hValue hCommas =>
    exact hBlocks.addCommas hKind hText hInside hV hValue hCommas
  | rearrange hGroups hAfter hPerm hOrder => exact hBlocks.rearranged hGroups hAfter hPerm hOrder

/-- However often commas are left out of a program or put in before one of several values, and
groups of a block rearranged with those of one field in their order, the same program is built. -/
theorem build_of_varies (hBuild : build tokens = .ok p)
    (hVaries : Relation.ReflTransGen Varies tokens tokens') : build tokens' = .ok p := by
  obtain ⟨items, hItems⟩ := build_eq_ok_iff.mp hBuild
  refine build_eq_ok_iff.mpr ⟨items, ?_, hItems.oneGrid, hItems.grown_eq⟩
  induction hVaries with
  | refl => exact hItems.blocks
  | tail _ hVaries ih => exact hVaries.blocks ih

def boxBetweenAxes : List Token :=
  [⟨1, .define, "define"⟩, ⟨1, .newIdentifier, "x"⟩, ⟨1, .keyword, "max"⟩, ⟨1, .integer, "1"⟩,
    ⟨1, .declaration, "end"⟩, ⟨2, .declaration, "root"⟩, ⟨3, .keyword, "axes"⟩, ⟨3, .variable, "x"⟩,
    ⟨3, .comma, ","⟩, ⟨3, .variable, "x"⟩, ⟨4, .keyword, "box"⟩, ⟨4, .integer, "0"⟩,
    ⟨4, .integer, "0"⟩, ⟨4, .integer, "9"⟩, ⟨4, .integer, "9"⟩, ⟨5, .keyword, "axis"⟩,
    ⟨5, .variable, "x"⟩, ⟨5, .variable, "x"⟩, ⟨6, .declaration, "end"⟩]

/-- The box comes first and has two commas, and neither pair of axes has one. -/
def boxFirst : List Token :=
  [⟨1, .define, "define"⟩, ⟨1, .newIdentifier, "x"⟩, ⟨1, .keyword, "max"⟩, ⟨1, .integer, "1"⟩,
    ⟨1, .declaration, "end"⟩, ⟨2, .declaration, "root"⟩, ⟨4, .keyword, "box"⟩, ⟨4, .integer, "0"⟩,
    ⟨4, .comma, ","⟩, ⟨4, .comma, ","⟩, ⟨4, .integer, "0"⟩, ⟨4, .integer, "9"⟩,
    ⟨4, .integer, "9"⟩, ⟨3, .keyword, "axes"⟩, ⟨3, .variable, "x"⟩, ⟨3, .variable, "x"⟩,
    ⟨5, .keyword, "axis"⟩, ⟨5, .variable, "x"⟩, ⟨5, .variable, "x"⟩, ⟨6, .declaration, "end"⟩]

theorem build_of_varies_boxFirst : ∃ p, build boxBetweenAxes = .ok p ∧
    Relation.ReflTransGen Varies boxBetweenAxes boxFirst ∧ build boxFirst = .ok p := by
  have hBuild : build boxBetweenAxes = .ok
      ⟨[⟨"x", none, 0, 1⟩],
        ⟨⟨0, 0, 9, 9⟩, "000000", "ffffff", ⟨"x", none, 0, 1⟩, ⟨"x", none, 0, 1⟩⟩, none, []⟩ := by
    decide +kernel
  let axes : Group := ⟨⟨3, .keyword, "axes"⟩, [⟨3, .variable, "x"⟩, ⟨3, .variable, "x"⟩]⟩
  let box : Group := ⟨⟨4, .keyword, "box"⟩,
    [⟨4, .integer, "0"⟩, ⟨4, .integer, "0"⟩, ⟨4, .integer, "9"⟩, ⟨4, .integer, "9"⟩]⟩
  let axis : Group := ⟨⟨5, .keyword, "axis"⟩, [⟨5, .variable, "x"⟩, ⟨5, .variable, "x"⟩]⟩
  have hFormed : ∀ g ∈ [axes, box, axis], g.Formed := by
    refine List.forall_mem_cons.mpr ⟨⟨rfl, by decide⟩, ?_⟩
    refine List.forall_mem_cons.mpr ⟨⟨rfl, by decide⟩, ?_⟩
    exact List.forall_mem_singleton.mpr ⟨rfl, by decide⟩
  have hOrder : ∀ label, [box, axes, axis].filter (fun g => g.field = label) =
      [axes, box, axis].filter fun g => g.field = label := by
    intro label
    by_cases hBox : "box" = label
    · subst hBox
      decide
    · by_cases hAxis : "axis" = label <;> simp [axes, box, axis, Group.field, hBox, hAxis]
  have hEnd : EndsValue [⟨6, .declaration, "end"⟩] := by
    rintro t ⟨⟩
    decide
  have hDrop : Varies boxBetweenAxes (withoutCommas boxBetweenAxes) := .dropCommas
  have hRearrange : Varies (withoutCommas boxBetweenAxes) (withoutCommas boxFirst) :=
    @Varies.rearrange (boxBetweenAxes.take 6) _ _ _ hFormed hEnd (.swap axes box [axis]) hOrder
  have hAdd : Varies (withoutCommas boxFirst) boxFirst :=
    @Varies.addCommas (boxBetweenAxes.take 6) _ [⟨4, .integer, "0"⟩]
      [⟨4, .comma, ","⟩, ⟨4, .comma, ","⟩] ⟨4, .keyword, "box"⟩ ⟨4, .integer, "0"⟩ rfl (by decide)
      (by decide) (by decide) (by decide) (by decide)
  have hVaries := ((Relation.ReflTransGen.single hDrop).tail hRearrange).tail hAdd
  exact ⟨_, hBuild, hVaries, build_of_varies hBuild hVaries⟩

end PlotLang.Grammar

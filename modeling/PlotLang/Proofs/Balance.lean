import PlotLang.Proofs.Walk

/-! # Openers and ends

No token that opens or ends a block is ever read as part of a field. So complete blocks hold their
openers and ends in pairs, and a block that refuses its tokens has taken no `end` since its opener.
-/

namespace PlotLang.Grammar

open Builder
open Token (Kind)

variable {defs : List Definition} {table : List (String × Field)} {form : Form} {f : Field}
  {opener keyword t : Token} {ts vs : List Token} {entries : List Entry} {item : Item}
  {items : List Item} {next : Option Token} {fault : Fault} {gridGiven : Bool}

/-! ## The kinds of tokens inside a block -/

/-- The kinds of the tokens a field can be made of. -/
def fieldKinds : List Kind :=
  [.string, .integer, .float, .hexColor, .comma, .keyword, .variable]

def Layout.kinds : Layout → List Kind
  | .one kinds _ => kinds
  | .many kinds _ => kinds

theorem Field.kinds_subset (f : Field) : f.layout.kinds ⊆ fieldKinds := by
  cases f <;> decide

theorem spaced_kind {kinds : List Kind} (h : Spaced kinds ts vs) (hMem : t ∈ ts) :
    t.kind = .comma ∨ t.kind ∈ kinds := by
  induction h with
  | nil => cases hMem
  | value _ hKind _ ih =>
    obtain rfl | hMem := List.mem_cons.mp hMem
    · exact .inr hKind
    · exact ih hMem
  | comma hComma _ ih =>
    obtain rfl | hMem := List.mem_cons.mp hMem
    · exact .inl hComma
    · exact ih hMem

theorem layout_holds_kind {layout : Layout} (h : layout.Holds ts vs) (hMem : t ∈ ts) :
    t.kind = .comma ∨ t.kind ∈ layout.kinds := by
  cases layout with
  | one kinds expected =>
    obtain ⟨u, hKind, rfl, -⟩ := h
    obtain rfl := List.mem_singleton.mp hMem
    exact .inr hKind
  | many kinds count => exact spaced_kind h.1 hMem

theorem layout_refuses_kind {layout : Layout} (h : layout.Refuses keyword ts next fault)
    (hMem : t ∈ ts) : t.kind = .comma ∨ t.kind ∈ layout.kinds := by
  cases h with
  | missing | unexpected => cases hMem
  | tooFew hShort | stray hShort => exact hShort.1 t hMem

theorem mem_fieldKinds (h : t.kind = .comma ∨ t.kind ∈ f.layout.kinds) : t.kind ∈ fieldKinds := by
  obtain hComma | hKind := h
  · rw [hComma]
    decide
  · exact f.kinds_subset hKind

theorem field_refuses_kind (h : f.Refuses defs keyword ts next fault) (hMem : t ∈ ts) :
    t.kind ∈ fieldKinds := by
  obtain h | ⟨vs, hHolds, -⟩ := h
  · exact mem_fieldKinds (layout_refuses_kind h hMem)
  · exact mem_fieldKinds (layout_holds_kind hHolds hMem)

theorem field_denotes_kind {x : f.Value} (h : f.Denotes defs ts x) (hMem : t ∈ ts) :
    t.kind ∈ fieldKinds := by
  obtain ⟨vs, hHolds, -⟩ := h
  exact mem_fieldKinds (layout_holds_kind hHolds hMem)

theorem forall_cons_keyword (hKind : t.kind = .keyword) (hTs : ∀ u ∈ ts, u.kind ∈ fieldKinds) :
    ∀ u ∈ t :: ts, u.kind ∈ fieldKinds := by
  refine List.forall_mem_cons.mpr ⟨?_, hTs⟩
  rw [hKind]
  decide

theorem Body.kinds (h : Body defs table ts entries) :
    ∃ inner close, ts = inner ++ [close] ∧ close.isEnd ∧ ∀ t ∈ inner, t.kind ∈ fieldKinds := by
  induction h with
  | close hEnd => exact ⟨[], _, rfl, hEnd, nofun⟩
  | @field k f us rest x entries hKind _ hDenotes _ ih =>
    obtain ⟨inner, close, rfl, hEnd, hInner⟩ := ih
    refine ⟨k :: (us ++ inner), close, by simp, hEnd, forall_cons_keyword hKind ?_⟩
    exact List.forall_mem_append.mpr ⟨fun t => field_denotes_kind hDenotes, hInner⟩

theorem Body.Refuses.kinds (h : Body.Refuses defs table opener ts next fault) :
    ∀ t ∈ ts, t.kind ∈ fieldKinds := by
  induction h with
  | unclosed | unexpected => nofun
  | value hKind _ hRefuses =>
    exact forall_cons_keyword hKind fun t => field_refuses_kind hRefuses
  | field hKind _ hDenotes _ ih =>
    exact forall_cons_keyword hKind
      (List.forall_mem_append.mpr ⟨fun t => field_denotes_kind hDenotes, ih⟩)

/-! ## Blocks in pairs of an opener and an end -/

theorem isEnd_iff : t.isEnd ↔ t.kind = .declaration ∧ t.text = "end" := by
  simp [Token.isEnd]

theorem isRoot_iff : t.isRoot ↔ t.kind = .declaration ∧ t.text = "root" := by
  simp [Token.isRoot]

theorem not_opensBlock_of_isEnd (h : t.isEnd) : ¬t.opensBlock := by
  obtain ⟨hKind, hText⟩ := isEnd_iff.mp h
  simp [Token.opensBlock, hKind, hText]

theorem not_opensBlock_of_kind (h : t.kind ∈ fieldKinds) : ¬t.opensBlock := by
  unfold Token.opensBlock
  split <;> simp_all [fieldKinds]

theorem not_isEnd_of_kind (h : t.kind ∈ fieldKinds) : ¬t.isEnd := by
  intro hEnd
  rw [(isEnd_iff.mp hEnd).1] at h
  revert h
  decide

theorem opensBlock_of_isRoot (h : t.isRoot) : t.opensBlock := by
  obtain ⟨hKind, hText⟩ := isRoot_iff.mp h
  simp [Token.opensBlock, hKind, hText]

/-- Openers, each with an end of its own, and between the two neither openers nor ends. -/
inductive Balanced : List Token → Prop
  | nil : Balanced []
  | block {opener close : Token} {inner rest : List Token} : opener.opensBlock →
      (∀ t ∈ inner, ¬t.opensBlock ∧ ¬t.isEnd) → close.isEnd → Balanced rest →
      Balanced (opener :: (inner ++ close :: rest))

/-- After its first token the opening of a block holds at most the name of a definition. -/
theorem Form.Opens.shape {opening : List Token} (h : form.Opens opener opening) :
    opener.opensBlock ∧ (opener.isRoot ↔ form = .root) ∧
      ∃ names, opening = opener :: names ∧ ∀ t ∈ names, t.kind = .newIdentifier := by
  cases h <;> simp_all [Token.opensBlock, Token.isRoot]

theorem Form.Makes.root?_isSome_iff (h : form.Makes item) : item.root?.isSome ↔ form = .root := by
  cases form with
  | definition name =>
    obtain ⟨d, rfl, -⟩ := h
    simp [Item.root?]
  | _ =>
    obtain ⟨_, rfl⟩ := h
    simp [Item.root?]

/-- The tokens of a complete block, from its opener to its end. -/
theorem Block.shape (h : Block defs ts item) : ∃ opener names inner close,
    ts = opener :: (names ++ inner ++ [close]) ∧ opener.opensBlock ∧
      (opener.isRoot ↔ item.root?.isSome) ∧ (∀ t ∈ names, t.kind = .newIdentifier) ∧
      (∀ t ∈ inner, t.kind ∈ fieldKinds) ∧ close.isEnd := by
  obtain ⟨form, opener, opening, body, entries, rfl, hOpens, hBody, hItem⟩ := h
  obtain ⟨hOpener, hRoot, names, rfl, hNames⟩ := hOpens.shape
  obtain ⟨inner, close, rfl, hEnd, hInner⟩ := hBody.kinds
  refine ⟨opener, names, inner, close, by simp, hOpener, ?_, hNames, hInner, hEnd⟩
  rw [hRoot, (makes_of_item? hItem).root?_isSome_iff]

theorem quiet_of_kind (h : t.kind ∈ .newIdentifier :: fieldKinds) : ¬t.opensBlock ∧ ¬t.isEnd := by
  obtain hName | hKind := List.mem_cons.mp h
  · simp [Token.opensBlock, Token.isEnd, hName]
  · exact ⟨not_opensBlock_of_kind hKind, not_isEnd_of_kind hKind⟩

theorem not_isRoot_of_not_opensBlock (h : ¬t.opensBlock) : ¬t.isRoot :=
  fun hRoot => h (opensBlock_of_isRoot hRoot)

theorem Block.countP_isRoot (h : Block defs ts item) :
    ts.countP Token.isRoot = item.root?.toList.length := by
  obtain ⟨opener, names, inner, close, rfl, -, hRoot, hNames, hInner, hEnd⟩ := h.shape
  have hNone : (names ++ inner ++ [close]).countP Token.isRoot = 0 := by
    refine List.countP_eq_zero.mpr fun t hMem => not_isRoot_of_not_opensBlock ?_
    simp only [List.mem_append, List.mem_singleton] at hMem
    obtain (hMem | hMem) | rfl := hMem
    · exact (quiet_of_kind (List.mem_cons.mpr (.inl (hNames t hMem)))).1
    · exact (quiet_of_kind (List.mem_cons_of_mem _ (hInner t hMem))).1
    · exact not_opensBlock_of_isEnd hEnd
  rw [List.countP_cons, hNone]
  cases hItem : item.root? <;> simp_all

theorem Blocks.countP_isRoot (h : Blocks defs ts items) :
    ts.countP Token.isRoot = (items.filterMap Item.root?).length := by
  induction h with
  | nil => rfl
  | @cons defs ts rest item items hBlock _ ih =>
    rw [List.countP_append, hBlock.countP_isRoot, ih, List.filterMap_cons]
    cases item.root? <;> simp [Nat.add_comm]

theorem Blocks.balanced (h : Blocks defs ts items) : Balanced ts := by
  induction h with
  | nil => exact .nil
  | cons hBlock _ ih =>
    obtain ⟨opener, names, inner, close, rfl, hOpener, -, hNames, hInner, hEnd⟩ := hBlock.shape
    have hQuiet : ∀ t ∈ names ++ inner, ¬t.opensBlock ∧ ¬t.isEnd := by
      refine List.forall_mem_append.mpr ⟨fun t hMem => ?_, fun t hMem => ?_⟩
      · exact quiet_of_kind (List.mem_cons.mpr (.inl (hNames t hMem)))
      · exact quiet_of_kind (List.mem_cons_of_mem _ (hInner t hMem))
    simpa using Balanced.block hOpener hQuiet hEnd ih

end PlotLang.Grammar

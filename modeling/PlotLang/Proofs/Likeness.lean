import Mathlib.Data.List.Forall2
import PlotLang.Drawing
import PlotLang.Proofs.Walk

/-! # The builder over tokens that are alike

Two lists of tokens are alike if they have the same kinds and, but for the names in them, the same
texts; the names of one answer to those of the other one by one, and the lines have no part in it.
The builder ends alike over both: it takes as many tokens, and builds programs that differ in
names alone or blames tokens that are alike. The second builder may have definitions to begin with
that the first has not, as long as no name answers to theirs.
-/

namespace PlotLang

open Builder (Draft Fields Outcome Reader)
open Token (Kind)

def Token.IsName (t : Token) : Prop := t.kind = .newIdentifier ∨ t.kind = .variable

/-- Which token of the second list may stand where one of the first list stands, and which name is
used for which. -/
structure Likeness where
  token : Token → Token → Prop
  name : String → String → Prop
  /-- The definitions that the second builder begins with. -/
  front : List Definition
  kind_eq : ∀ {t t'}, token t t' → t'.kind = t.kind
  text_eq : ∀ {t t'}, token t t' → ¬t.IsName → t'.text = t.text
  names : ∀ {t t'}, token t t' → t.IsName → name t.text t'.text
  name_eq_iff : ∀ {a a' b b'}, name a a' → name b b' → (a' = b' ↔ a = b)
  front_ne : ∀ {a a' d}, name a a' → d ∈ front → d.identifier ≠ a'

namespace Likeness

variable {α β γ δ φ ψ : Type} {L : Likeness} {R : α → β → Prop} {S : γ → δ → Prop}
  {G : φ → ψ → Prop} {t t' k k' opener opener' : Token} {c c' : Cursor} {kinds : List Kind}
  {r : Reader α} {r' : Reader β} {defs defs' : List Definition} {draft draft' : Draft}

/-! ## What is alike -/

def TokensAlike (L : Likeness) : List Token → List Token → Prop := List.Forall₂ L.token

structure DefinitionAlike (L : Likeness) (d d' : Definition) : Prop where
  identifier : L.name d.identifier d'.identifier
  name : d'.name = d.name
  minimum : d'.minimum = d.minimum
  maximum : d'.maximum = d.maximum

def DefinitionsAlike (L : Likeness) (defs defs' : List Definition) : Prop :=
  ∃ own, defs' = L.front ++ own ∧ List.Forall₂ L.DefinitionAlike defs own

structure RootAlike (L : Likeness) (r r' : Root) : Prop where
  box : r'.box = r.box
  color : r'.color = r.color
  background : r'.background = r.background
  xAxis : L.DefinitionAlike r.xAxis r'.xAxis
  yAxis : L.DefinitionAlike r.yAxis r'.yAxis

structure DraftAlike (L : Likeness) (d d' : Draft) : Prop where
  definitions : L.DefinitionsAlike d.definitions d'.definitions
  root : Option.Rel L.RootAlike d.root d'.root
  grid : d'.grid = d.grid
  shapes : d'.shapes = d.shapes

structure ProgramAlike (L : Likeness) (p p' : Program) : Prop where
  definitions : L.DefinitionsAlike p.definitions p'.definitions
  root : L.RootAlike p.root p'.root
  grid : p'.grid = p.grid
  shapes : p'.shapes = p.shapes

def maximumHint (name : String) : String :=
  "Need to specify a maximum value for the variable '" ++ name ++ "'"

/-- The same is wrong with tokens that are alike. -/
inductive FaultAlike (L : Likeness) : Builder.Fault → Builder.Fault → Prop
  | missingValue {k k' : Token} : L.token k k' →
      L.FaultAlike (.read (.missingValue k)) (.read (.missingValue k'))
  | missingValues {k k' : Token} (count : Nat) : L.token k k' →
      L.FaultAlike (.read (.missingValues k count)) (.read (.missingValues k' count))
  | unexpected {t t' : Token} (expected : Expectation) : L.token t t' →
      L.FaultAlike (.read (.unexpected t expected)) (.read (.unexpected t' expected))
  | unreadableNumber (text : String) :
      L.FaultAlike (.unreadableNumber text) (.unreadableNumber text)
  | invalidColor {k k' t t' : Token} : L.token k k' → L.token t t' →
      L.FaultAlike (.invalidColor k t) (.invalidColor k' t')
  | alphaOutOfRange {k k' : Token} : L.token k k' →
      L.FaultAlike (.alphaOutOfRange k) (.alphaOutOfRange k')
  | stepNotPositive {k k' : Token} : L.token k k' →
      L.FaultAlike (.stepNotPositive k) (.stepNotPositive k')
  | undefinedVariable {t t' : Token} : L.token t t' →
      L.FaultAlike (.undefinedVariable t) (.undefinedVariable t')
  | missingName {t t' : Token} : L.token t t' → L.FaultAlike (.missingName t) (.missingName t')
  | missingField {o o' : Token} (keyword hint : String) : L.token o o' →
      L.FaultAlike (.missingField keyword hint o) (.missingField keyword hint o')
  | missingMaximum {name name' : String} {o o' : Token} : L.name name name' → L.token o o' →
      L.FaultAlike (.missingField "max" (maximumHint name) o)
        (.missingField "max" (maximumHint name') o')
  | repeatedGrid {o o' : Token} : L.token o o' → L.FaultAlike (.repeatedGrid o) (.repeatedGrid o')
  | unknownDeclaration {o o' : Token} : L.token o o' →
      L.FaultAlike (.unknownDeclaration o) (.unknownDeclaration o')
  | unknownShape {o o' : Token} : L.token o o' → L.FaultAlike (.unknownShape o) (.unknownShape o')
  | unclosed {o o' : Token} : L.token o o' →
      L.FaultAlike (.malformed (.unclosed o)) (.malformed (.unclosed o'))
  | missingRoot : L.FaultAlike (.malformed .missingRoot) (.malformed .missingRoot)

/-- Two readers have come to values that are related, with tokens left that are alike, or to faults
that are alike. -/
inductive Ends (L : Likeness) (R : α → β → Prop) :
    Except Builder.Fault α × Cursor → Except Builder.Fault β × Cursor → Prop
  | ok {a : α} {b : β} {c c' : Cursor} : R a b → L.TokensAlike c.rest c'.rest →
      Ends L R (.ok a, c) (.ok b, c')
  | error {cause cause' : Builder.Fault} {c c' : Cursor} : L.FaultAlike cause cause' →
      Ends L R (.error cause, c) (.error cause', c')

def Alike (L : Likeness) (R : α → β → Prop) (r : Reader α) (r' : Reader β) : Prop :=
  ∀ c c', L.TokensAlike c.rest c'.rest → L.Ends R (r c) (r' c')

/-! ## Readers built from others -/

namespace Alike

theorem pure {a : α} {b : β} (h : R a b) : L.Alike R (Pure.pure a) (Pure.pure b) :=
  fun _ _ hRest => .ok h hRest

theorem fail {cause cause' : Builder.Fault} (h : L.FaultAlike cause cause') :
    L.Alike R (Reader.fail cause) (Reader.fail cause') :=
  fun _ _ _ => .error h

theorem bind {f : α → Reader γ} {g : β → Reader δ} (h : L.Alike R r r')
    (hf : ∀ a b, R a b → L.Alike S (f a) (g b)) : L.Alike S (r >>= f) (r' >>= g) := by
  intro c c' hRest
  have hFirst := h c c' hRest
  change L.Ends S (Reader.bind r f c) (Reader.bind r' g c')
  unfold Reader.bind
  generalize r c = x at hFirst
  generalize r' c' = y at hFirst
  cases hFirst with
  | ok hR hLeft => exact hf _ _ hR _ _ hLeft
  | error hFault => exact .error hFault

theorem bindEq {r r' : Reader α} {f : α → Reader γ} {g : α → Reader δ} (h : L.Alike Eq r r')
    (hf : ∀ a, L.Alike S (f a) (g a)) : L.Alike S (r >>= f) (r' >>= g) := by
  refine h.bind fun a b hEq => ?_
  cases hEq
  exact hf a

theorem require {cause cause' : Builder.Fault} (condition : Bool) (h : L.FaultAlike cause cause') :
    L.Alike Eq (Reader.require condition cause) (Reader.require condition cause') := by
  unfold Reader.require
  split
  · exact pure rfl
  · exact fail h

theorem get {field : Option α} {field' : Option β} {cause cause' : Builder.Fault}
    (hField : Option.Rel R field field') (h : L.FaultAlike cause cause') :
    L.Alike R (Reader.get field cause) (Reader.get field' cause') := by
  cases hField with
  | some hR => exact pure hR
  | none => exact fail h

theorem getEq {cause cause' : Builder.Fault} (field : Option α) (h : L.FaultAlike cause cause') :
    L.Alike Eq (Reader.get field cause) (Reader.get field cause') := by
  cases field with
  | some a => exact pure rfl
  | none => exact fail h

end Alike

/-! ## Values -/

/-- Tokens that are alike and of an allowed kind. -/
def value (L : Likeness) (kinds : List Kind) (t t' : Token) : Prop :=
  L.token t t' ∧ t.kind ∈ kinds

theorem value_text (h : L.value kinds t t') (hNew : .newIdentifier ∉ kinds)
    (hVariable : .variable ∉ kinds) : t'.text = t.text := by
  refine L.text_eq h.1 ?_
  rintro (hKind | hKind)
  · exact hNew (hKind ▸ h.2)
  · exact hVariable (hKind ▸ h.2)

theorem readOne_alike (h : L.token k k') (kinds : List Kind) (expected : Expectation) :
    L.Alike (L.value kinds) (Reader.ofRead (Cursor.readOne k kinds expected))
      (Reader.ofRead (Cursor.readOne k' kinds expected)) := by
  rintro ⟨rest, position⟩ ⟨rest', position'⟩ hRest
  unfold Reader.ofRead Cursor.readOne
  cases hRest with
  | nil => exact .error (.missingValue h)
  | @cons t t' rest rest' hToken hRest =>
    dsimp only
    rw [L.kind_eq hToken]
    by_cases hKind : t.kind ∈ kinds
    · rw [if_pos hKind, if_pos hKind]
      exact .ok ⟨hToken, hKind⟩ hRest
    · rw [if_neg hKind, if_neg hKind]
      exact .error (.unexpected expected hToken)

theorem readValues_alike (h : L.token k k') (kinds : List Kind) (count needed : Nat)
    {rest rest' : List Token} (hRest : L.TokensAlike rest rest') (position position' : Nat) :
    L.Ends (fun ts ts' => List.Forall₂ (L.value kinds) ts ts' ∧ ts.length = needed)
      (Reader.ofRead (fun c => Cursor.readValues k kinds count needed c.rest c.position)
        ⟨rest, position⟩)
      (Reader.ofRead (fun c => Cursor.readValues k' kinds count needed c.rest c.position)
        ⟨rest', position'⟩) := by
  induction hRest generalizing needed position position' with
  | nil =>
    cases needed with
    | zero => exact .ok ⟨.nil, rfl⟩ .nil
    | succ needed => exact .error (.missingValues count h)
  | @cons t t' rest rest' hToken hRest ih =>
    cases needed with
    | zero => exact .ok ⟨.nil, rfl⟩ (.cons hToken hRest)
    | succ needed =>
      unfold Reader.ofRead
      dsimp only
      rw [Cursor.readValues, Cursor.readValues, L.kind_eq hToken]
      by_cases hComma : t.kind = .comma
      -- A comma leaves as many values to be read as before.
      · rw [if_pos hComma, if_pos hComma]
        exact ih (needed + 1) (position + 1) (position' + 1)
      rw [if_neg hComma, if_neg hComma]
      by_cases hKind : t.kind ∈ kinds
      · rw [if_pos hKind, if_pos hKind]
        have hLater := ih needed (position + 1) (position' + 1)
        unfold Reader.ofRead at hLater
        dsimp only at hLater
        generalize Cursor.readValues k kinds count needed rest (position + 1) = x at hLater ⊢
        generalize Cursor.readValues k' kinds count needed rest' (position' + 1) = y at hLater ⊢
        obtain ⟨cause | us, stopped⟩ := x <;> obtain ⟨cause' | vs, stopped'⟩ := y <;>
          cases hLater
        · exact .error ‹_›
        · rename_i hValues hLeft
          exact .ok ⟨.cons ⟨hToken, hKind⟩ hValues.1, congrArg Nat.succ hValues.2⟩ hLeft
      · rw [if_neg hKind, if_neg hKind]
        exact .error (.unexpected _ hToken)

theorem readTuple_alike (h : L.token k k') (kinds : List Kind) (count : Nat) :
    L.Alike (fun ts ts' => List.Forall₂ (L.value kinds) ts ts' ∧ ts.length = count)
      (Reader.ofRead (Cursor.readTuple k kinds count))
      (Reader.ofRead (Cursor.readTuple k' kinds count)) :=
  fun _ _ hRest => readValues_alike h kinds count count hRest _ _

theorem numeral_alike (h : L.value Kind.numbers t t') :
    L.Alike Eq (Builder.numeral t) (Builder.numeral t') := by
  unfold Builder.numeral
  rw [value_text h (by decide) (by decide)]
  cases Literal.real? t.text with
  | some x => exact .pure rfl
  | none => exact .fail (.unreadableNumber _)

theorem number_alike (h : L.token k k') : L.Alike Eq (Builder.number k) (Builder.number k') :=
  (readOne_alike h _ _).bind fun _ _ hValue => numeral_alike hValue

theorem string_alike (h : L.token k k') : L.Alike Eq (Builder.string k) (Builder.string k') :=
  (readOne_alike h _ _).bind fun _ _ hValue =>
    .pure (value_text hValue (by decide) (by decide)).symm

theorem color_alike (h : L.token k k') : L.Alike Eq (Builder.color k) (Builder.color k') := by
  refine (readOne_alike h _ _).bind fun t t' hValue => ?_
  rw [value_text hValue (by decide) (by decide)]
  exact (Alike.require _ (.invalidColor h hValue.1)).bindEq fun _ => .pure rfl

theorem alpha_alike (h : L.token k k') : L.Alike Eq (Builder.alpha k) (Builder.alpha k') :=
  (number_alike h).bindEq fun _ =>
    (Alike.require _ (.alphaOutOfRange h)).bindEq fun _ => .pure rfl

theorem step_alike (h : L.token k k') : L.Alike Eq (Builder.step k) (Builder.step k') :=
  (number_alike h).bindEq fun _ =>
    (Alike.require _ (.stepNotPositive h)).bindEq fun _ => .pure rfl

theorem pair_alike (h : L.token k k') : L.Alike Eq (Builder.pair k) (Builder.pair k') := by
  refine (readTuple_alike h _ _).bind ?_
  rintro ts ts' ⟨hValues, hLength⟩
  match ts, ts', hLength, hValues with
  | [x, y], [x', y'], _, .cons hX (.cons hY .nil) =>
    exact (numeral_alike hX).bindEq fun _ => (numeral_alike hY).bindEq fun _ => .pure rfl

theorem box_alike (h : L.token k k') : L.Alike Eq (Builder.box k) (Builder.box k') := by
  refine (readTuple_alike h _ _).bind ?_
  rintro ts ts' ⟨hValues, hLength⟩
  match ts, ts', hLength, hValues with
  | [x, y, w, h], [x', y', w', h'], _, .cons hX (.cons hY (.cons hW (.cons hH .nil))) =>
    exact (numeral_alike hX).bindEq fun _ => (numeral_alike hY).bindEq fun _ =>
      (numeral_alike hW).bindEq fun _ => (numeral_alike hH).bindEq fun _ => .pure rfl

/-- A name answers to the first definition of it, and what answers to the name to the first
definition alike. -/
theorem find?_alike {own : List Definition} {a a' : String} (hName : L.name a a')
    (h : List.Forall₂ L.DefinitionAlike defs own) :
    Option.Rel L.DefinitionAlike (defs.find? fun d => d.identifier == a)
      (own.find? fun d => d.identifier == a') := by
  induction h with
  | nil => exact .none
  | @cons d d' defs own hFirst _ ih =>
    rw [List.find?_cons, List.find?_cons]
    have hEq : (d'.identifier == a') = (d.identifier == a) := by
      rw [Bool.eq_iff_iff, beq_iff_eq, beq_iff_eq]
      exact L.name_eq_iff hFirst.identifier hName
    rw [hEq]
    cases d.identifier == a with
    | true => exact .some hFirst
    | false => exact ih

theorem lookup_alike (hDefs : L.DefinitionsAlike defs defs') (h : L.value [.variable] t t') :
    L.Alike L.DefinitionAlike (Builder.lookup defs t) (Builder.lookup defs' t') := by
  obtain ⟨own, rfl, hOwn⟩ := hDefs
  have hName := L.names h.1 (.inr (List.mem_singleton.mp h.2))
  -- The lookup in the second list passes over the front, to which no name answers.
  have hFront : L.front.find? (fun d => d.identifier == t'.text) = none := by
    simpa using fun d hMem => L.front_ne hName hMem
  unfold Builder.lookup
  rw [List.find?_append, hFront, Option.none_or]
  exact .get (find?_alike hName hOwn) (.undefinedVariable h.1)

theorem axes_alike (hDefs : L.DefinitionsAlike defs defs') (h : L.token k k') :
    L.Alike (fun ds ds' => L.DefinitionAlike ds.1 ds'.1 ∧ L.DefinitionAlike ds.2 ds'.2)
      (Builder.axes defs k) (Builder.axes defs' k') := by
  refine (readTuple_alike h _ _).bind ?_
  rintro ts ts' ⟨hValues, hLength⟩
  match ts, ts', hLength, hValues with
  | [x, y], [x', y'], _, .cons hX (.cons hY .nil) =>
    exact (lookup_alike hDefs hX).bind fun _ _ hFirst =>
      (lookup_alike hDefs hY).bind fun _ _ hSecond => .pure ⟨hFirst, hSecond⟩

/-! ## Fields -/

/-- Changes that keep what has been gathered related. -/
def Change (G : φ → ψ → Prop) (f : φ → φ) (g : ψ → ψ) : Prop := ∀ a b, G a b → G (f a) (g b)

structure EntryAlike (L : Likeness) (G : φ → ψ → Prop)
    (entry : String × (Token → Reader (φ → φ))) (entry' : String × (Token → Reader (ψ → ψ))) :
    Prop where
  keyword : entry'.1 = entry.1
  reader : ∀ k k', L.token k k' → L.Alike (Change G) (entry.2 k) (entry'.2 k')

def FieldsAlike (L : Likeness) (G : φ → ψ → Prop) : Fields φ → Fields ψ → Prop :=
  List.Forall₂ (L.EntryAlike G)

variable {fields : Fields φ} {fields' : Fields ψ}

theorem entry_alike {read : Token → Reader α} {read' : Token → Reader β} {change : α → φ → φ}
    {change' : β → ψ → ψ} {keyword : String}
    (hRead : ∀ k k', L.token k k' → L.Alike R (read k) (read' k'))
    (hChange : ∀ a b, R a b → Change G (change a) (change' b)) :
    L.EntryAlike G (keyword, fun k => do let a ← read k; return change a)
      (keyword, fun k => do let b ← read' k; return change' b) :=
  ⟨rfl, fun k k' hToken => (hRead k k' hToken).bind fun a b hR => .pure (hChange a b hR)⟩

theorem entry_alikeEq {read : Token → Reader α} {change : α → φ → φ} {keyword : String}
    (hRead : ∀ k k', L.token k k' → L.Alike Eq (read k) (read k')) :
    L.EntryAlike Eq (keyword, fun k => do let a ← read k; return change a)
      (keyword, fun k => do let a ← read k; return change a) :=
  entry_alike hRead fun _ _ hValue _ _ hGathered => hValue ▸ hGathered ▸ rfl

theorem keywords_eq (h : L.FieldsAlike G fields fields') :
    Builder.Fields.keywords fields' = Builder.Fields.keywords fields := by
  induction h with
  | nil => rfl
  | cons hFirst _ ih => exact congrArg₂ List.cons hFirst.keyword ih

theorem fields_lookup_alike (h : L.FieldsAlike G fields fields') (keyword : String) :
    Option.Rel (fun read read' => ∀ k k', L.token k k' → L.Alike (Change G) (read k) (read' k'))
      (fields.lookup keyword) (fields'.lookup keyword) := by
  induction h with
  | nil => exact .none
  | @cons entry entry' _ _ hFirst _ ih =>
    obtain ⟨name, read⟩ := entry
    obtain ⟨name', read'⟩ := entry'
    obtain ⟨rfl, hRead⟩ := hFirst
    rw [List.lookup_cons, List.lookup_cons]
    cases keyword == name' with
    | true => exact .some hRead
    | false => exact ih

theorem isEnd_eq (h : L.token t t') : t'.isEnd = t.isEnd := by
  unfold Token.isEnd
  rw [L.kind_eq h]
  by_cases hKind : t.kind = .declaration
  · rw [L.text_eq h (by simp [Token.IsName, hKind])]
  · simp [hKind]

theorem readFields_alike (hFields : L.FieldsAlike G fields fields')
    (hOpener : L.token opener opener') (fuel : Nat) {a : φ} {b : ψ} (hGathered : G a b) :
    L.Alike G (Builder.readFields opener fields fuel a)
      (Builder.readFields opener' fields' fuel b) := by
  induction fuel generalizing a b with
  | zero => exact .fail (.unclosed hOpener)
  | succ fuel ih =>
    rintro ⟨rest, position⟩ ⟨rest', position'⟩ hRest
    rw [Builder.readFields, Builder.readFields]
    cases hRest with
    | nil => exact .error (.unclosed hOpener)
    | @cons t t' rest rest' hToken hRest =>
      dsimp only
      rw [isEnd_eq hToken, L.kind_eq hToken, keywords_eq hFields]
      split
      · exact .ok hGathered hRest
      split
      · rename_i hKind
        rw [L.text_eq hToken (by simp [Token.IsName, hKind])]
        have hLookup := fields_lookup_alike hFields t.text
        generalize fields.lookup t.text = x at hLookup
        generalize fields'.lookup t.text = y at hLookup
        cases hLookup with
        | none => exact .error (.unexpected _ hToken)
        | some hRead =>
          exact ((hRead t t' hToken).bind fun _ _ hChange => ih (hChange _ _ hGathered)) _ _ hRest
      · exact .error (.unexpected _ hToken)

theorem readBlock_alike (hFields : L.FieldsAlike G fields fields')
    (hOpener : L.token opener opener') {a : φ} {b : ψ} (hEmpty : G a b) :
    L.Alike G (Builder.readBlock opener fields a) (Builder.readBlock opener' fields' b) := by
  intro c c' hRest
  have hLength := hRest.length_eq
  unfold Builder.readBlock
  rw [← hLength]
  exact readFields_alike hFields hOpener _ hEmpty c c' hRest

/-! ## Blocks -/

theorem definitionFields_alike :
    L.FieldsAlike Eq Builder.definitionFields Builder.definitionFields :=
  .cons (entry_alikeEq fun _ _ => number_alike) <| .cons (entry_alikeEq fun _ _ => number_alike) <|
    .cons (entry_alikeEq fun _ _ => string_alike) .nil

theorem gridFields_alike : L.FieldsAlike Eq Builder.gridFields Builder.gridFields :=
  .cons (entry_alikeEq fun _ _ => color_alike) <| .cons (entry_alikeEq fun _ _ => alpha_alike) <|
    .cons (entry_alikeEq fun _ _ => number_alike) <|
    .cons (entry_alikeEq fun _ _ => step_alike) .nil

theorem nameField_alike : L.EntryAlike Eq Builder.nameField Builder.nameField :=
  entry_alikeEq fun _ _ => string_alike

theorem colorField_alike : L.EntryAlike Eq Builder.colorField Builder.colorField :=
  entry_alikeEq fun _ _ => color_alike

theorem thicknessField_alike : L.EntryAlike Eq Builder.thicknessField Builder.thicknessField :=
  entry_alikeEq fun _ _ => number_alike

theorem lineFields_alike : L.FieldsAlike Eq Builder.lineFields Builder.lineFields :=
  .cons (entry_alikeEq fun _ _ => pair_alike) <| .cons (entry_alikeEq fun _ _ => pair_alike) <|
    .cons thicknessField_alike <| .cons nameField_alike <| .cons colorField_alike .nil

theorem graphFields_alike : L.FieldsAlike Eq Builder.graphFields Builder.graphFields :=
  .cons (entry_alikeEq fun _ _ => string_alike) <|
    .cons thicknessField_alike <| .cons nameField_alike <| .cons colorField_alike .nil

theorem pointFields_alike : L.FieldsAlike Eq Builder.pointFields Builder.pointFields :=
  .cons (entry_alikeEq fun _ _ => pair_alike) <|
    .cons nameField_alike <| .cons colorField_alike .nil

/-- Of a root only the axes are given by names. -/
structure GatheredAlike (L : Likeness) (g g' : Builder.RootFields) : Prop where
  box : g'.box = g.box
  color : g'.color = g.color
  background : g'.background = g.background
  axes : Option.Rel (fun ds ds' => L.DefinitionAlike ds.1 ds'.1 ∧ L.DefinitionAlike ds.2 ds'.2)
    g.axes g'.axes

theorem rootFields_alike (hDefs : L.DefinitionsAlike defs defs') :
    L.FieldsAlike L.GatheredAlike (Builder.rootFields defs) (Builder.rootFields defs') := by
  refine .cons (entry_alike (fun _ _ => box_alike) ?_) <|
    .cons (entry_alike (fun _ _ => color_alike) ?_) <|
    .cons (entry_alike (fun _ _ => color_alike) ?_) <|
    .cons (entry_alike (fun _ _ => axes_alike hDefs) ?_) <|
    .cons (entry_alike (fun _ _ => axes_alike hDefs) ?_) .nil
  · rintro b _ rfl g g' h
    exact { h with box := rfl }
  · rintro color _ rfl g g' h
    exact { h with color := rfl }
  · rintro color _ rfl g g' h
    exact { h with background := rfl }
  all_goals
    intro ds ds' hAxes g g' h
    exact { h with axes := .some hAxes }

theorem nameAfter_alike (h : L.token opener opener') :
    L.Alike (L.value [.newIdentifier]) (Builder.nameAfter opener) (Builder.nameAfter opener') := by
  rintro ⟨rest, position⟩ ⟨rest', position'⟩ hRest
  unfold Builder.nameAfter
  cases hRest with
  | nil => exact .error (.missingName h)
  | @cons t t' rest rest' hToken hRest =>
    dsimp only
    rw [L.kind_eq hToken]
    split
    · rename_i hKind
      exact .ok ⟨hToken, List.mem_singleton.mpr hKind⟩ hRest
    · exact .error (.missingName hToken)

theorem readDefinition_alike (h : L.token opener opener') :
    L.Alike L.DefinitionAlike (Builder.readDefinition opener) (Builder.readDefinition opener') := by
  refine (nameAfter_alike h).bind fun name name' hValue => ?_
  have hName := L.names hValue.1 (.inl (List.mem_singleton.mp hValue.2))
  exact (readBlock_alike definitionFields_alike h rfl).bindEq fun fields =>
    (Alike.getEq _ (.missingMaximum hName h)).bindEq fun maximum => .pure ⟨hName, rfl, rfl, rfl⟩

theorem readRoot_alike (hDefs : L.DefinitionsAlike defs defs') (h : L.token opener opener') :
    L.Alike L.RootAlike (Builder.readRoot defs opener) (Builder.readRoot defs' opener') := by
  refine (readBlock_alike (rootFields_alike hDefs) h ⟨rfl, rfl, rfl, .none⟩).bind
    fun g g' hGathered => ?_
  rw [hGathered.box, hGathered.color, hGathered.background]
  exact (Alike.getEq _ (.missingField _ _ h)).bindEq fun box =>
    (Alike.get hGathered.axes (.missingField _ _ h)).bind fun axes axes' hAxes =>
      .pure ⟨rfl, rfl, rfl, hAxes.1, hAxes.2⟩

theorem readGrid_alike (present : Bool) (h : L.token opener opener') :
    L.Alike Eq (Builder.readGrid present opener) (Builder.readGrid present opener') :=
  (Alike.require _ (.repeatedGrid h)).bindEq fun _ => readBlock_alike gridFields_alike h rfl

theorem required_alike (field : Option α) (keyword : String) (h : L.token opener opener')
    (hText : opener'.text = opener.text) :
    L.Alike Eq (Builder.required field keyword opener)
      (Builder.required field keyword opener') := by
  unfold Builder.required
  rw [hText]
  exact .getEq _ (.missingField _ _ h)

theorem readShape_alike (h : L.token opener opener') (hText : opener'.text = opener.text) :
    L.Alike Eq (Builder.readShape opener) (Builder.readShape opener') := by
  unfold Builder.readShape
  rw [hText]
  split
  · exact (readBlock_alike lineFields_alike h rfl).bindEq fun _ =>
      (required_alike _ _ h hText).bindEq fun _ => (required_alike _ _ h hText).bindEq fun _ =>
        .pure rfl
  · exact (readBlock_alike graphFields_alike h rfl).bindEq fun _ =>
      (required_alike _ _ h hText).bindEq fun _ => .pure rfl
  · exact (readBlock_alike pointFields_alike h rfl).bindEq fun _ =>
      (required_alike _ _ h hText).bindEq fun _ => .pure rfl
  · exact .fail (.unknownShape h)

theorem DefinitionsAlike.append {d d' : Definition} (h : L.DefinitionsAlike defs defs')
    (hLast : L.DefinitionAlike d d') : L.DefinitionsAlike (defs ++ [d]) (defs' ++ [d']) := by
  obtain ⟨own, rfl, hOwn⟩ := h
  exact ⟨own ++ [d'], List.append_assoc .., List.rel_append hOwn (.cons hLast .nil)⟩

theorem readBlockInto_alike (hDraft : L.DraftAlike draft draft') (h : L.token t t') :
    L.Alike L.DraftAlike (Builder.readBlockInto draft t) (Builder.readBlockInto draft' t') := by
  unfold Builder.readBlockInto
  rw [L.kind_eq h]
  cases hKind : t.kind with
  | define =>
    exact (readDefinition_alike h).bind fun d d' hLast =>
      .pure { hDraft with definitions := hDraft.definitions.append hLast }
  | declaration =>
    dsimp only
    rw [L.text_eq h (by simp [Token.IsName, hKind])]
    split
    · exact (readRoot_alike hDraft.definitions h).bind fun r r' hRoot =>
        .pure { hDraft with root := .some hRoot }
    · rw [hDraft.grid]
      exact (readGrid_alike _ h).bindEq fun _ => .pure { hDraft with grid := rfl }
    · exact .fail (.unknownDeclaration h)
  | shapeFunction =>
    have hText := L.text_eq h (by simp [Token.IsName, hKind])
    exact (readShape_alike h hText).bindEq fun s =>
      .pure { hDraft with shapes := congrArg (· ++ [s]) hDraft.shapes }
  | _ => exact .fail (.unexpected _ h)

/-! ## Whole lists -/

inductive OutcomeAlike (L : Likeness) : Outcome → Outcome → Prop
  | done {d d' : Draft} {c c' : Cursor} : L.DraftAlike d d' →
      OutcomeAlike L ⟨d, c, none⟩ ⟨d', c', none⟩
  | fault {d d' : Draft} {c c' : Cursor} {cause cause' : Builder.Fault} :
      L.FaultAlike cause cause' → OutcomeAlike L ⟨d, c, some cause⟩ ⟨d', c', some cause'⟩

theorem beginsBlock_eq (h : L.token t t') : Builder.beginsBlock t' = Builder.beginsBlock t := by
  unfold Builder.beginsBlock
  rw [L.kind_eq h]

theorem walk_alike (fuel : Nat) (hDraft : L.DraftAlike draft draft')
    (hRest : L.TokensAlike c.rest c'.rest) :
    L.OutcomeAlike (Builder.walk fuel draft c) (Builder.walk fuel draft' c') := by
  induction fuel generalizing draft draft' c c' with
  | zero => exact .done hDraft
  | succ fuel ih =>
    obtain ⟨rest, position⟩ := c
    obtain ⟨rest', position'⟩ := c'
    rw [Builder.walk, Builder.walk]
    cases hRest with
    | nil => exact .done hDraft
    | @cons t t' rest rest' hToken hRest =>
      dsimp only
      -- Both walks take the first token as an opener, or both leave it for the fault.
      have hOpened : L.TokensAlike
          (if Builder.beginsBlock t then (⟨rest, position + 1⟩ : Cursor)
            else ⟨t :: rest, position⟩).rest
          (if Builder.beginsBlock t' then (⟨rest', position' + 1⟩ : Cursor)
            else ⟨t' :: rest', position'⟩).rest := by
        rw [beginsBlock_eq hToken]
        split
        · exact hRest
        · exact .cons hToken hRest
      have hBlock := readBlockInto_alike hDraft hToken _ _ hOpened
      generalize Builder.readBlockInto draft t _ = x at hBlock
      generalize Builder.readBlockInto draft' t' _ = y at hBlock
      cases hBlock with
      | ok hGrown hLeft => exact ih hGrown hLeft
      | error hFault => exact .fault hFault

inductive ResultAlike (L : Likeness) :
    Except Builder.Fault Program → Except Builder.Fault Program → Prop
  | ok {p p' : Program} : L.ProgramAlike p p' → ResultAlike L (.ok p) (.ok p')
  | error {cause cause' : Builder.Fault} : L.FaultAlike cause cause' →
      ResultAlike L (.error cause) (.error cause')

theorem OutcomeAlike.program {o o' : Outcome} (h : L.OutcomeAlike o o') :
    L.ResultAlike o.program o'.program := by
  cases h with
  | @done d d' c c' hDraft =>
    obtain ⟨defs, root, grid, shapes⟩ := d
    obtain ⟨defs', root', grid', shapes'⟩ := d'
    obtain ⟨hDefs, hRoot, hGrid, hShapes⟩ := hDraft
    cases hRoot with
    | none => exact .error .missingRoot
    | some hRoot => exact .ok ⟨hDefs, hRoot, hGrid, hShapes⟩
  | fault hFault => exact .error hFault

/-! ## Drawing -/

/-- Names are not drawn. -/
theorem ProgramAlike.render_eq {p p' : Program} (h : L.ProgramAlike p p')
    (library : Expression.Library) (options : Options) :
    Drawing.render library p' options = Drawing.render library p options := by
  unfold Drawing.render Drawing.document Drawing.Canvas.ticks
  dsimp only
  rw [h.root.box, h.root.color, h.root.background, h.root.xAxis.maximum, h.root.yAxis.maximum,
    h.grid, h.shapes]

end Likeness

end PlotLang

import PlotLang.Proofs.Values

/-! # Reading the fields of a block

The fields of a block are read until its `end`. What has been gathered then is what the entries,
taken in order, make of what was there at the start, and a field's value is the last one given.
-/

namespace PlotLang.Grammar

open Builder
open Token (Kind)

variable {defs : List Definition} {table : List (String × Field)} {opener t : Token} {f : Field}
  {ts : List Token} {entries : List Entry} {next : Option Token} {fault : Fault}

theorem not_isEnd_of_keyword (h : t.kind = .keyword) : ¬t.isEnd := by
  simp [Token.isEnd, h]

/-! ## The first token of a block's fields -/

theorem not_body_nil : ¬Body defs table [] entries := nofun

theorem body_end_iff (hEnd : t.isEnd) :
    Body defs table (t :: ts) entries ↔ ts = [] ∧ entries = [] := by
  constructor
  · intro h
    cases h with
    | close _ => exact ⟨rfl, rfl⟩
    | field hKind _ _ _ => exact absurd hEnd (not_isEnd_of_keyword hKind)
  · rintro ⟨rfl, rfl⟩
    exact .close hEnd

theorem body_field_iff (hKind : t.kind = .keyword) (hField : table.lookup t.text = some f) :
    Body defs table (t :: ts) entries ↔ ∃ us vs x rest, ts = us ++ vs ∧ f.Denotes defs us x ∧
      Body defs table vs rest ∧ entries = ⟨f, x⟩ :: rest := by
  constructor
  · intro h
    cases h with
    | close hEnd => exact absurd hEnd (not_isEnd_of_keyword hKind)
    | field _ hField' hDenotes hRest =>
      cases hField.symm.trans hField'
      exact ⟨_, _, _, _, rfl, hDenotes, hRest, rfl⟩
  · rintro ⟨us, vs, x, rest, rfl, hDenotes, hRest, rfl⟩
    exact .field hKind hField hDenotes hRest

theorem not_body_of_stray (hEnd : ¬t.isEnd)
    (hField : t.kind = .keyword → table.lookup t.text = none) :
    ¬Body defs table (t :: ts) entries := by
  intro h
  cases h with
  | close h => exact hEnd h
  | field hKind hField' _ _ => cases (hField hKind).symm.trans hField'

theorem body_refuses_nil_iff :
    Body.Refuses defs table opener [] next fault ↔
      (next = none ∧ fault = .malformed (.unclosed opener)) ∨
      ∃ t, next = some t ∧ ¬t.isEnd ∧ (t.kind = .keyword → table.lookup t.text = none) ∧
        fault = .read (.unexpected t (.field (table.map (·.1)))) := by
  constructor
  · intro h
    cases h with
    | unclosed => exact .inl ⟨rfl, rfl⟩
    | unexpected hEnd hField => exact .inr ⟨_, rfl, hEnd, hField, rfl⟩
  · rintro (⟨rfl, rfl⟩ | ⟨t, rfl, hEnd, hField, rfl⟩)
    · exact .unclosed
    · exact .unexpected hEnd hField

theorem body_refuses_field_iff (hKind : t.kind = .keyword)
    (hField : table.lookup t.text = some f) :
    Body.Refuses defs table opener (t :: ts) next fault ↔ f.Refuses defs t ts next fault ∨
      ∃ us vs x, ts = us ++ vs ∧ f.Denotes defs us x ∧
        Body.Refuses defs table opener vs next fault := by
  constructor
  · intro h
    cases h with
    | value _ hField' h =>
      cases hField.symm.trans hField'
      exact .inl h
    | field _ hField' hDenotes h =>
      cases hField.symm.trans hField'
      exact .inr ⟨_, _, _, rfl, hDenotes, h⟩
  · rintro (h | ⟨us, vs, x, rfl, hDenotes, h⟩)
    · exact .value hKind hField h
    · exact .field hKind hField hDenotes h

theorem not_body_refuses_of_stray (h : t.kind = .keyword → table.lookup t.text = none) :
    ¬Body.Refuses defs table opener (t :: ts) next fault := by
  intro hRefuses
  cases hRefuses with
  | value hKind hField _ => cases (h hKind).symm.trans hField
  | field hKind hField _ _ => cases (h hKind).symm.trans hField

/-! ## The reader of a block's fields -/

variable {φ : Type}

/-- The fields of a table, each of which changes what has been gathered as `gather` says. -/
def fieldsOf (defs : List Definition) (gather : Entry → φ → φ) (table : List (String × Field)) :
    Fields φ :=
  table.map fun (keyword, f) => (keyword, fun k => do
    let x ← f.read defs k
    return gather ⟨f, x⟩)

theorem keywords_fieldsOf (gather : Entry → φ → φ) :
    (fieldsOf defs gather table).keywords = table.map (·.1) := by
  simp [fieldsOf, Fields.keywords]

theorem lookup_fieldsOf (gather : Entry → φ → φ) (keyword : String) :
    (fieldsOf defs gather table).lookup keyword = (table.lookup keyword).map fun f => fun k => do
      let x ← f.read defs k
      return gather ⟨f, x⟩ := by
  induction table with
  | nil => rfl
  | cons entry table ih =>
    obtain ⟨name, f⟩ := entry
    simp only [fieldsOf, List.map_cons, List.lookup_cons] at ih ⊢
    cases keyword == name with
    | true => rfl
    | false => exact ih

def gathered (gather : Entry → φ → φ) (start : φ) (entries : List Entry) : φ :=
  entries.foldl (fun g e => gather e g) start

/-- What the loop over the fields is exact for, from what has been gathered on. -/
def FieldsExactAt (defs : List Definition) (gather : Entry → φ → φ) (table : List (String × Field))
    (opener : Token) (start : φ) (c : Cursor) (r : Reader φ) : Prop :=
  r.ExactAt c (fun ts g => ∃ entries, Body defs table ts entries ∧ g = gathered gather start entries)
    (Body.Refuses defs table opener)

variable {gather : Entry → φ → φ} {start : φ} {rest : List Token} {position fuel : Nat}

theorem exactAt_of_unclosed {r : Reader φ}
    (h : r ⟨[], position⟩ = (.error (.malformed (.unclosed opener)), ⟨[], position⟩)) :
    FieldsExactAt defs gather table opener start ⟨[], position⟩ r := by
  refine .ofFault h ?_ ?_
  · rintro ts c' g hTs ⟨entries, hBody, -⟩
    obtain ⟨rfl, -⟩ := List.append_eq_nil_iff.mp hTs.1.symm
    exact not_body_nil hBody
  · intro ts c' fault hTs
    obtain ⟨rfl, hRest⟩ := List.append_eq_nil_iff.mp hTs.1.symm
    simp [hRest, body_refuses_nil_iff]

theorem exactAt_of_stray {r : Reader φ} (hEnd : ¬t.isEnd)
    (hField : t.kind = .keyword → table.lookup t.text = none)
    (h : r ⟨t :: rest, position⟩ =
      (.error (.read (.unexpected t (.field (table.map (·.1))))), ⟨t :: rest, position⟩)) :
    FieldsExactAt defs gather table opener start ⟨t :: rest, position⟩ r := by
  refine .ofFault h ?_ ?_
  · rintro ts c' g hTs ⟨entries, hBody, -⟩
    cases ts with
    | nil => exact not_body_nil hBody
    | cons u us =>
      obtain rfl := hTs.head_eq
      exact not_body_of_stray hEnd hField hBody
  · intro ts c' fault hTs
    cases ts with
    | nil =>
      obtain rfl := Cursor.after_nil_iff.mp hTs
      simpa [body_refuses_nil_iff, hEnd] using fun _ => hField
    | cons u us =>
      obtain rfl := hTs.head_eq
      simp [not_body_refuses_of_stray hField]

theorem exactAt_of_end {r : Reader φ} (hEnd : t.isEnd)
    (h : r ⟨t :: rest, position⟩ = (Pure.pure start : Reader φ) ⟨rest, position + 1⟩) :
    FieldsExactAt defs gather table opener start ⟨t :: rest, position⟩ r := by
  have hNoField : t.kind = .keyword → table.lookup t.text = none :=
    fun hKind => absurd hEnd (not_isEnd_of_keyword hKind)
  refine .ofNext h (((Reader.Still.pure start).exactAt _).congr ?_ ?_) ?_ ?_
  · intro ts g
    simp only [body_end_iff hEnd, Except.ok.injEq]
    constructor
    · rintro ⟨rfl, rfl⟩
      exact ⟨[], ⟨rfl, rfl⟩, rfl⟩
    · rintro ⟨_, ⟨rfl, rfl⟩, rfl⟩
      exact ⟨rfl, rfl⟩
  · intro ts next fault
    simp [not_body_refuses_of_stray hNoField]
  · rintro g ⟨entries, hBody, -⟩
    exact not_body_nil hBody
  · intro fault
    simp [body_refuses_nil_iff, hEnd]

/-- A field is taken by its own reader, and the fields after it by what reads on from there. -/
theorem exactAt_of_field {r : Reader φ} {loop : φ → Reader φ} (hKind : t.kind = .keyword)
    (hField : table.lookup t.text = some f)
    (h : r ⟨t :: rest, position⟩ = ((f.read defs t >>= fun x => Pure.pure (gather ⟨f, x⟩)) >>=
      fun change => loop (change start)) ⟨rest, position + 1⟩)
    (hLoop : ∀ ts m next, Cursor.After ⟨rest, position + 1⟩ ts m →
      FieldsExactAt defs gather table opener next m (loop next)) :
    FieldsExactAt defs gather table opener start ⟨t :: rest, position⟩ r := by
  have hReader := (f.read_exact defs t ⟨rest, position + 1⟩).bindStill
    fun x => Reader.Still.pure (gather ⟨f, x⟩)
  refine .ofNext h ((hReader.bind fun ts change m hTs _ => hLoop ts m _ hTs).congr ?_ ?_) ?_ ?_
  · intro ts g
    simp only [body_field_iff hKind hField, Except.ok.injEq]
    constructor
    · rintro ⟨us, vs, _, rfl, ⟨x, hDenotes, rfl⟩, entries, hBody, rfl⟩
      exact ⟨_, ⟨us, vs, x, entries, rfl, hDenotes, hBody, rfl⟩, rfl⟩
    · rintro ⟨_, ⟨us, vs, x, entries, rfl, hDenotes, hBody, rfl⟩, rfl⟩
      exact ⟨us, vs, _, rfl, ⟨x, hDenotes, rfl⟩, entries, hBody, rfl⟩
  · intro ts next fault
    simp only [body_refuses_field_iff hKind hField, Except.ok.injEq, reduceCtorEq, and_false,
      exists_false, or_false]
    refine or_congr_right ?_
    constructor
    · rintro ⟨us, vs, _, rfl, ⟨x, hDenotes, -⟩, hRefuses⟩
      exact ⟨us, vs, x, rfl, hDenotes, hRefuses⟩
    · rintro ⟨us, vs, x, rfl, hDenotes, hRefuses⟩
      exact ⟨us, vs, _, rfl, ⟨x, hDenotes, rfl⟩, hRefuses⟩
  · rintro g ⟨entries, hBody, -⟩
    exact not_body_nil hBody
  · intro fault hRefuses
    simp only [body_refuses_nil_iff, Option.some.injEq, exists_eq_left', reduceCtorEq, false_and,
      false_or] at hRefuses
    cases (hRefuses.2.1 hKind).symm.trans hField

theorem readFields_end (hEnd : t.isEnd) :
    readFields opener (fieldsOf defs gather table) (fuel + 1) start ⟨t :: rest, position⟩ =
      (Pure.pure start : Reader φ) ⟨rest, position + 1⟩ := by
  rw [readFields]
  simp only [if_pos hEnd]
  rfl

theorem readFields_stray (hEnd : ¬t.isEnd)
    (hField : t.kind = .keyword → table.lookup t.text = none) :
    readFields opener (fieldsOf defs gather table) (fuel + 1) start ⟨t :: rest, position⟩ =
      (.error (.read (.unexpected t (.field (table.map (·.1))))), ⟨t :: rest, position⟩) := by
  rw [readFields, keywords_fieldsOf]
  by_cases hKind : t.kind = .keyword
  · simp only [if_neg hEnd, if_pos hKind, lookup_fieldsOf, hField hKind, Option.map_none]
  · simp only [if_neg hEnd, if_neg hKind]

theorem readFields_field (hKind : t.kind = .keyword) (hField : table.lookup t.text = some f) :
    readFields opener (fieldsOf defs gather table) (fuel + 1) start ⟨t :: rest, position⟩ =
      ((f.read defs t >>= fun x => Pure.pure (gather ⟨f, x⟩)) >>= fun change =>
        readFields opener (fieldsOf defs gather table) fuel (change start))
          ⟨rest, position + 1⟩ := by
  rw [readFields]
  simp only [if_neg (not_isEnd_of_keyword hKind), if_pos hKind, lookup_fieldsOf, hField]
  rfl

/-- As much fuel as tokens is enough, since a field takes at least its keyword. -/
theorem readFields_exactAt (defs : List Definition) (gather : Entry → φ → φ)
    (table : List (String × Field)) (opener : Token) (fuel : Nat) (start : φ) (c : Cursor)
    (hFuel : c.rest.length ≤ fuel) :
    FieldsExactAt defs gather table opener start c
      (readFields opener (fieldsOf defs gather table) fuel start) := by
  induction fuel generalizing start c with
  | zero =>
    obtain ⟨rest, position⟩ := c
    obtain rfl := List.length_eq_zero_iff.mp (Nat.le_zero.mp hFuel)
    exact exactAt_of_unclosed rfl
  | succ fuel ih =>
    obtain ⟨rest, position⟩ := c
    cases rest with
    | nil => exact exactAt_of_unclosed rfl
    | cons t rest =>
      by_cases hEnd : t.isEnd
      · exact exactAt_of_end hEnd (readFields_end hEnd)
      · by_cases hNoField : t.kind = .keyword → table.lookup t.text = none
        · exact exactAt_of_stray hEnd hNoField (readFields_stray hEnd hNoField)
        · obtain ⟨hKind, hSome⟩ := Classical.not_imp.mp hNoField
          obtain ⟨f, hField⟩ := Option.ne_none_iff_exists'.mp hSome
          refine exactAt_of_field hKind hField (readFields_field hKind hField) ?_
          intro ts m next hTs
          have hLength := hTs.length_le
          simp only [List.length_cons] at hFuel hLength
          exact ih next m (by omega)

theorem readBlock_exact (defs : List Definition) (gather : Entry → φ → φ)
    (table : List (String × Field)) (opener : Token) (start : φ) :
    (readBlock opener (fieldsOf defs gather table) start).Exact
      (fun ts g => ∃ entries, Body defs table ts entries ∧ g = gathered gather start entries)
      (Body.Refuses defs table opener) := fun c => by
  have h := readFields_exactAt defs gather table opener c.rest.length start c (Nat.le_refl _)
  exact ⟨h.ok_iff, h.error_iff⟩

/-! ## What the entries of a block amount to -/

theorem last?_cons (e : Entry) : last? f (e :: entries) = (last? f entries).or (e.value? f) := by
  unfold last?
  rw [List.filterMap_cons]
  cases e.value? f with
  | none => simp
  | some x => rw [List.getLast?_cons]; cases (entries.filterMap (Entry.value? f)).getLast? <;> rfl

end PlotLang.Grammar

import PlotLang.Proofs.Reading

/-! # Reading the tokens of a value

A value is a single token of an allowed kind, or a number of them with commas in between. What is
read before a token that has no place in the value stays read.
-/

namespace PlotLang

namespace Grammar

open Token (Kind)

variable {kinds : List Kind} {count : Nat} {t : Token} {ts vs : List Token}

theorem spaced_nil_iff : Spaced kinds ts [] ↔ ts = [] := by
  constructor
  · intro h
    cases h
    rfl
  · rintro rfl
    exact .nil

theorem spaced_comma_iff (hComma : t.kind = .comma) :
    Spaced kinds (t :: ts) vs ↔ vs ≠ [] ∧ Spaced kinds ts vs := by
  constructor
  · intro h
    cases h with
    | value hNot _ _ => exact absurd hComma hNot
    | comma _ h => exact ⟨List.cons_ne_nil _ _, h⟩
  · rintro ⟨hVs, h⟩
    cases vs with
    | nil => exact absurd rfl hVs
    | cons v vs => exact .comma hComma h

theorem spaced_value_iff (hValue : t.kind ≠ .comma) :
    Spaced kinds (t :: ts) vs ↔ t.kind ∈ kinds ∧ ∃ us, vs = t :: us ∧ Spaced kinds ts us := by
  constructor
  · intro h
    cases h with
    | value _ hKind h => exact ⟨hKind, _, rfl, h⟩
    | comma hComma _ => exact absurd hComma hValue
  · rintro ⟨hKind, us, rfl, h⟩
    exact .value hValue hKind h

theorem short_nil_iff : Short kinds count [] ↔ 0 < count := by
  simp [Short]

theorem short_comma_iff (hComma : t.kind = .comma) :
    Short kinds count (t :: ts) ↔ Short kinds count ts := by
  simp [Short, hComma]

theorem short_value_iff (hValue : t.kind ≠ .comma) :
    Short kinds (count + 1) (t :: ts) ↔ t.kind ∈ kinds ∧ Short kinds count ts := by
  simp [Short, hValue, and_assoc]

end Grammar

namespace Cursor

open Grammar
open Token (Kind)

variable {keyword : Token} {kinds : List Kind} {count : Nat}

/-- The fault of a tuple that stops before a token of no use to it, or at the end. -/
def Stops (keyword : Token) (kinds : List Kind) (count : Nat) : Option Token → ReadFault → Prop
  | none, fault => fault = .missingValues keyword count
  | some t, fault => t.kind ≠ .comma ∧ t.kind ∉ kinds ∧ fault = .unexpected t (.kinds kinds)

theorem readValues_zero_eq_ok_iff {rest vs : List Token} {position : Nat} {c' : Cursor} :
    readValues keyword kinds count 0 rest position = (.ok vs, c') ↔
      ∃ ts, After ⟨rest, position⟩ ts c' ∧ Spaced kinds ts vs ∧ vs.length = 0 := by
  simp only [readValues, Prod.mk.injEq, Except.ok.injEq, List.length_eq_zero_iff]
  constructor
  · rintro ⟨rfl, rfl⟩
    exact ⟨[], after_nil_iff.mpr rfl, .nil, rfl⟩
  · rintro ⟨ts, hTs, hSpaced, rfl⟩
    obtain rfl := spaced_nil_iff.mp hSpaced
    exact ⟨rfl, (after_nil_iff.mp hTs).symm⟩

theorem readValues_eq_ok_iff {rest vs : List Token} {needed position : Nat} {c' : Cursor} :
    readValues keyword kinds count needed rest position = (.ok vs, c') ↔
      ∃ ts, After ⟨rest, position⟩ ts c' ∧ Spaced kinds ts vs ∧ vs.length = needed := by
  -- On the tokens, not on the values needed: a comma is taken and no value with it.
  induction rest generalizing needed position vs with
  | nil =>
    cases needed with
    | zero => exact readValues_zero_eq_ok_iff
    | succ needed =>
      simp only [readValues, Prod.mk.injEq, reduceCtorEq, false_and, false_iff]
      rw [exists_after_nil_iff]
      rintro ⟨-, hSpaced, hLength⟩
      cases hSpaced
      cases hLength
  | cons t rest ih =>
    cases needed with
    | zero => exact readValues_zero_eq_ok_iff
    | succ needed =>
      have hNil : ¬(c' = ⟨t :: rest, position⟩ ∧ Spaced kinds [] vs ∧ vs.length = needed + 1) := by
        rintro ⟨-, hSpaced, hLength⟩
        cases hSpaced
        cases hLength
      rw [readValues, exists_after_cons_iff, or_iff_right hNil]
      by_cases hComma : t.kind = .comma
      · rw [if_pos hComma, ih]
        refine exists_congr fun ts => and_congr_right fun _ => ?_
        rw [spaced_comma_iff hComma, and_assoc, iff_and_self]
        rintro ⟨-, hLength⟩
        exact List.ne_nil_of_length_eq_add_one hLength
      · simp only [if_neg hComma, spaced_value_iff hComma]
        by_cases hKind : t.kind ∈ kinds
        · simp only [hKind, if_true, true_and]
          constructor
          · intro h
            cases hRead : readValues keyword kinds count needed rest (position + 1) with
            | mk result stopped =>
              rw [hRead] at h
              cases result with
              | error fault => cases h
              | ok us =>
                cases h
                obtain ⟨ts, hTs, hSpaced, hLength⟩ := ih.mp hRead
                exact ⟨ts, hTs, ⟨us, rfl, hSpaced⟩, by rw [List.length_cons, hLength]⟩
          · rintro ⟨ts, hTs, ⟨us, rfl, hSpaced⟩, hLength⟩
            rw [ih.mpr ⟨ts, hTs, hSpaced, Nat.succ.inj hLength⟩]
            rfl
        · simp [hKind]

theorem readValues_eq_error_iff {rest : List Token} {needed position : Nat} {fault : ReadFault}
    {c' : Cursor} :
    readValues keyword kinds count needed rest position = (.error fault, c') ↔
      ∃ ts, After ⟨rest, position⟩ ts c' ∧ Short kinds needed ts ∧
        Stops keyword kinds count c'.rest.head? fault := by
  have hZero : ∀ ts, ¬Short kinds 0 ts := fun ts h => absurd h.2 (Nat.not_lt_zero _)
  induction rest generalizing needed position with
  | nil =>
    rw [exists_after_nil_iff, short_nil_iff]
    cases needed with
    | zero => simp [readValues]
    | succ needed =>
      simp only [readValues, Prod.mk.injEq, Except.error.injEq]
      constructor
      · rintro ⟨rfl, rfl⟩
        exact ⟨rfl, Nat.succ_pos _, rfl⟩
      · rintro ⟨rfl, -, hStops⟩
        exact ⟨hStops.symm, rfl⟩
  | cons t rest ih =>
    cases needed with
    | zero => simp [readValues, hZero]
    | succ needed =>
      rw [readValues, exists_after_cons_iff]
      by_cases hComma : t.kind = .comma
      · have hStop : ¬(c' = ⟨t :: rest, position⟩ ∧ Short kinds (needed + 1) [] ∧
            Stops keyword kinds count c'.rest.head? fault) := by
          rintro ⟨rfl, -, hNot, -⟩
          exact hNot hComma
        rw [if_pos hComma, or_iff_right hStop]
        refine ih.trans ?_
        simp only [short_comma_iff hComma]
      · by_cases hKind : t.kind ∈ kinds
        · have hStop : ¬(c' = ⟨t :: rest, position⟩ ∧ Short kinds (needed + 1) [] ∧
              Stops keyword kinds count c'.rest.head? fault) := by
            rintro ⟨rfl, -, -, hNot, -⟩
            exact hNot hKind
          simp only [if_neg hComma, hKind, if_true, short_value_iff hComma, true_and]
          refine Iff.trans ?_ (ih.trans (or_iff_right hStop).symm)
          cases readValues keyword kinds count needed rest (position + 1) with
          | mk result stopped => cases result <;> simp [Except.map]
        · simp only [if_neg hComma, hKind, if_false, short_value_iff hComma, false_and, and_false,
            exists_false, or_false, short_nil_iff]
          constructor
          · intro h
            cases h
            exact ⟨rfl, Nat.succ_pos _, hComma, hKind, rfl⟩
          · rintro ⟨rfl, -, -, -, rfl⟩
            rfl

end Cursor

namespace Builder.Reader

open Grammar
open Token (Kind)

/-- The token that is wanted is absent, or another one stands in its place. -/
def Misses (kinds : List Kind) (absent : Fault) (wrong : Token → Fault) :
    Option Token → Fault → Prop
  | none, fault => fault = absent
  | some t, fault => t.kind ∉ kinds ∧ fault = wrong t

variable {α : Type} {read : Cursor → Except ReadFault α × Cursor} {c c' : Cursor}

theorem ofRead_eq_ok_iff {a : α} : Reader.ofRead read c = (.ok a, c') ↔ read c = (.ok a, c') := by
  unfold Reader.ofRead
  split <;> simp [*]

theorem ofRead_eq_error_iff {fault : Fault} : Reader.ofRead read c = (.error fault, c') ↔
    ∃ cause, read c = (.error cause, c') ∧ fault = .read cause := by
  unfold Reader.ofRead
  split
  · simp [*]
  · simp only [*, Prod.mk.injEq, Except.error.injEq]
    constructor
    · rintro ⟨rfl, rfl⟩
      exact ⟨_, ⟨rfl, rfl⟩, rfl⟩
    · rintro ⟨_, ⟨rfl, rfl⟩, rfl⟩
      exact ⟨rfl, rfl⟩

/-- A reader that takes one token of some kinds, and nothing where it does not find one. -/
theorem exact_of_single {r : Reader Token} {kinds : List Kind} {absent : Fault}
    {wrong : Token → Fault}
    (hNil : ∀ position, r ⟨[], position⟩ = (.error absent, ⟨[], position⟩))
    (hCons : ∀ t rest position, r ⟨t :: rest, position⟩ =
      if t.kind ∈ kinds then (.ok t, ⟨rest, position + 1⟩)
      else (.error (wrong t), ⟨t :: rest, position⟩)) :
    r.Exact (fun ts t => t.kind ∈ kinds ∧ ts = [t])
      (fun ts next fault => ts = [] ∧ Misses kinds absent wrong next fault) := by
  rintro ⟨rest, position⟩
  cases rest with
  | nil =>
    refine .ofFault (hNil position) ?_ ?_
    · rintro ts c' t hTs ⟨-, rfl⟩
      cases hTs.1
    · intro ts c' cause hTs
      obtain ⟨rfl, hRest⟩ := List.append_eq_nil_iff.mp hTs.1.symm
      simp [hRest, Misses]
  | cons t rest =>
    by_cases hKind : t.kind ∈ kinds
    · have hRead : r ⟨t :: rest, position⟩ = (Pure.pure t : Reader Token) ⟨rest, position + 1⟩ := by
        rw [hCons, if_pos hKind]
        rfl
      refine .ofNext hRead (((Still.pure t).exactAt _).congr ?_ ?_) ?_ ?_
      · intro ts u
        simp only [Except.ok.injEq, List.cons.injEq]
        constructor
        · rintro ⟨rfl, rfl⟩
          exact ⟨hKind, rfl, rfl⟩
        · rintro ⟨-, rfl, rfl⟩
          exact ⟨rfl, rfl⟩
      · simp
      · simp
      · simp [Misses, hKind]
    · have hRead : r ⟨t :: rest, position⟩ = (.error (wrong t), ⟨t :: rest, position⟩) := by
        rw [hCons, if_neg hKind]
      refine .ofFault hRead ?_ ?_
      · rintro ts c' u hTs ⟨hU, rfl⟩
        obtain rfl := hTs.head_eq
        exact hKind hU
      · intro ts c' cause hTs
        constructor
        · rintro ⟨rfl, hMisses⟩
          rw [Cursor.after_nil_iff.mp hTs] at hMisses
          exact ⟨rfl, hMisses.2⟩
        · rintro ⟨rfl, rfl⟩
          rw [Cursor.after_nil_iff.mp hTs]
          exact ⟨rfl, hKind, rfl⟩

theorem refuses_one_iff {keyword : Token} {kinds : List Kind} {expected : Expectation}
    {ts : List Token} {next : Option Token} {fault : Fault} :
    Layout.Refuses keyword (.one kinds expected) ts next fault ↔
      ts = [] ∧ Misses kinds (.read (.missingValue keyword))
        (fun t => .read (.unexpected t expected)) next fault := by
  constructor
  · intro h
    cases h with
    | missing => exact ⟨rfl, rfl⟩
    | unexpected hKind => exact ⟨rfl, hKind, rfl⟩
  · rintro ⟨rfl, hMisses⟩
    cases next with
    | none => exact hMisses ▸ .missing
    | some t =>
      obtain ⟨hKind, rfl⟩ := hMisses
      exact .unexpected hKind

theorem readOne_exact (keyword : Token) (kinds : List Kind) (expected : Expectation) :
    (Reader.ofRead (Cursor.readOne keyword kinds expected)).Exact
      (fun ts t => (Layout.one kinds expected).Holds ts [t])
      (Layout.Refuses keyword (.one kinds expected)) := fun c => by
  have hNil : ∀ position, Reader.ofRead (Cursor.readOne keyword kinds expected) ⟨[], position⟩ =
      (.error (.read (.missingValue keyword)), ⟨[], position⟩) := fun _ => rfl
  have hCons : ∀ t rest position,
      Reader.ofRead (Cursor.readOne keyword kinds expected) ⟨t :: rest, position⟩ =
        if t.kind ∈ kinds then (.ok t, ⟨rest, position + 1⟩)
        else (.error (.read (.unexpected t expected)), ⟨t :: rest, position⟩) := by
    intro t rest position
    rw [ofRead, Cursor.readOne]
    by_cases hKind : t.kind ∈ kinds
    · simp only [if_pos hKind]
    · simp only [if_neg hKind]
  refine (exact_of_single hNil hCons c).congr (fun ts t => ?_) fun _ _ _ => refuses_one_iff.symm
  constructor
  · rintro ⟨hKind, rfl⟩
    exact ⟨t, hKind, rfl, rfl⟩
  · rintro ⟨u, hKind, rfl, hEq⟩
    cases hEq
    exact ⟨hKind, rfl⟩

theorem refuses_many_iff {keyword : Token} {kinds : List Kind} {count : Nat} {ts : List Token}
    {next : Option Token} {fault : Fault} :
    Layout.Refuses keyword (.many kinds count) ts next fault ↔
      Short kinds count ts ∧ ∃ cause, Cursor.Stops keyword kinds count next cause ∧
        fault = .read cause := by
  constructor
  · intro h
    cases h with
    | tooFew hShort => exact ⟨hShort, _, rfl, rfl⟩
    | stray hShort hComma hKind => exact ⟨hShort, _, ⟨hComma, hKind, rfl⟩, rfl⟩
  · rintro ⟨hShort, cause, hStops, rfl⟩
    cases next with
    | none => exact hStops ▸ .tooFew hShort
    | some t =>
      obtain ⟨hComma, hKind, rfl⟩ := hStops
      exact .stray hShort hComma hKind

theorem readTuple_exact (keyword : Token) (kinds : List Kind) (count : Nat) :
    (Reader.ofRead (Cursor.readTuple keyword kinds count)).Exact (Layout.many kinds count).Holds
      (Layout.Refuses keyword (.many kinds count)) := fun c => {
  ok_iff vs c' := ofRead_eq_ok_iff.trans Cursor.readValues_eq_ok_iff
  error_iff fault c' := by
    simp only [ofRead_eq_error_iff, Cursor.readTuple, Cursor.readValues_eq_error_iff,
      refuses_many_iff]
    constructor
    · rintro ⟨cause, ⟨ts, hTs, hShort, hStops⟩, rfl⟩
      exact ⟨ts, hTs, hShort, cause, hStops, rfl⟩
    · rintro ⟨ts, hTs, hShort, cause, hStops, rfl⟩
      exact ⟨cause, ⟨ts, hTs, hShort, hStops⟩, rfl⟩ }

end Builder.Reader

end PlotLang

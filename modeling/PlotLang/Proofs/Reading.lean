import PlotLang.Proofs.Refusal

/-! # What a reader takes and answers

A reader is exact for a language of values and a language of refusals if it answers a value just
when the tokens it took are in the first, and a fault just when those it took, with the token that
follows, are in the second. Readers built from exact ones are exact for the languages built in the
same way.
-/

namespace PlotLang

/-! ## Cursors -/

namespace Cursor

/-- The second cursor stands `ts` beyond the first one. -/
def After (c : Cursor) (ts : List Token) (c' : Cursor) : Prop :=
  c.rest = ts ++ c'.rest ∧ c'.position = c.position + ts.length

theorem after_nil_iff {c c' : Cursor} : c.After [] c' ↔ c' = c := by
  obtain ⟨rest, position⟩ := c
  obtain ⟨rest', position'⟩ := c'
  simp only [After, List.nil_append, List.length_nil, Nat.add_zero, Cursor.mk.injEq]
  exact and_congr_left fun _ => eq_comm

theorem after_append_iff {c c' : Cursor} {us vs : List Token} :
    c.After (us ++ vs) c' ↔ ∃ m, c.After us m ∧ m.After vs c' := by
  constructor
  · rintro ⟨hRest, hPosition⟩
    refine ⟨⟨vs ++ c'.rest, c.position + us.length⟩, ⟨by simp [hRest], rfl⟩, rfl, ?_⟩
    simp [hPosition, Nat.add_assoc]
  · rintro ⟨m, ⟨hRest, hPosition⟩, hRest', hPosition'⟩
    exact ⟨by simp [hRest, hRest'], by simp [hPosition, hPosition', Nat.add_assoc]⟩

theorem after_cons_iff {t : Token} {rest ts : List Token} {position : Nat} {c' : Cursor} :
    After ⟨rest, position + 1⟩ ts c' ↔ After ⟨t :: rest, position⟩ (t :: ts) c' := by
  simp [After, Nat.add_assoc, Nat.add_comm 1]

/-- Either nothing has been taken, or the first token and then what was taken after it. -/
theorem exists_after_cons_iff {t : Token} {rest : List Token} {position : Nat} {c' : Cursor}
    {p : List Token → Prop} :
    (∃ ts, After ⟨t :: rest, position⟩ ts c' ∧ p ts) ↔
      (c' = ⟨t :: rest, position⟩ ∧ p []) ∨
        ∃ ts, After ⟨rest, position + 1⟩ ts c' ∧ p (t :: ts) := by
  constructor
  · rintro ⟨ts, hTs, hP⟩
    cases ts with
    | nil => exact .inl ⟨after_nil_iff.mp hTs, hP⟩
    | cons u ts =>
      obtain rfl := (List.cons.inj hTs.1).1
      exact .inr ⟨ts, after_cons_iff.mpr hTs, hP⟩
  · rintro (⟨hEq, hP⟩ | ⟨ts, hTs, hP⟩)
    · exact ⟨[], after_nil_iff.mpr hEq, hP⟩
    · exact ⟨t :: ts, after_cons_iff.mp hTs, hP⟩

theorem exists_after_nil_iff {position : Nat} {c' : Cursor} {p : List Token → Prop} :
    (∃ ts, After ⟨[], position⟩ ts c' ∧ p ts) ↔ c' = ⟨[], position⟩ ∧ p [] := by
  constructor
  · rintro ⟨ts, hTs, hP⟩
    obtain ⟨rfl, -⟩ := List.append_eq_nil_iff.mp hTs.1.symm
    exact ⟨after_nil_iff.mp hTs, hP⟩
  · rintro ⟨hEq, hP⟩
    exact ⟨[], after_nil_iff.mpr hEq, hP⟩

theorem After.head_eq {t u : Token} {rest ts : List Token} {position : Nat} {c' : Cursor}
    (h : After ⟨t :: rest, position⟩ (u :: ts) c') : t = u :=
  (List.cons.inj h.1).1

theorem After.length_le {c c' : Cursor} {ts : List Token} (h : c.After ts c') :
    c'.rest.length + ts.length = c.rest.length := by
  rw [h.1, List.length_append, Nat.add_comm]

end Cursor

namespace Builder.Reader

open Grammar
open Token (Kind)

/-! ## Exactness -/

/-- What a reader answers from one cursor on. -/
structure ExactAt (c : Cursor) (r : Reader α) (accepts : List Token → α → Prop)
    (refuses : List Token → Option Token → Fault → Prop) : Prop where
  ok_iff : ∀ a c', r c = (.ok a, c') ↔ ∃ ts, c.After ts c' ∧ accepts ts a
  error_iff : ∀ fault c',
    r c = (.error fault, c') ↔ ∃ ts, c.After ts c' ∧ refuses ts c'.rest.head? fault

def Exact (r : Reader α) (accepts : List Token → α → Prop)
    (refuses : List Token → Option Token → Fault → Prop) : Prop :=
  ∀ c, ExactAt c r accepts refuses

variable {α β γ : Type} {c : Cursor} {r : Reader α} {accepts accepts' : List Token → α → Prop}
  {refuses refuses' : List Token → Option Token → Fault → Prop}

theorem ExactAt.congr (h : ExactAt c r accepts refuses)
    (hAccepts : ∀ ts a, accepts ts a ↔ accepts' ts a)
    (hRefuses : ∀ ts next fault, refuses ts next fault ↔ refuses' ts next fault) :
    ExactAt c r accepts' refuses' where
  ok_iff a c' := by simp only [h.ok_iff, hAccepts]
  error_iff fault c' := by simp only [h.error_iff, hRefuses]

/-- A reader that fails without taking a token. -/
theorem ExactAt.ofFault {fault : Fault} (h : r c = (.error fault, c))
    (hAccepts : ∀ ts c' a, c.After ts c' → ¬accepts ts a)
    (hRefuses : ∀ ts c' cause, c.After ts c' →
      (refuses ts c'.rest.head? cause ↔ ts = [] ∧ cause = fault)) :
    ExactAt c r accepts refuses where
  ok_iff a c' := by
    rw [h]
    constructor
    · intro hEq
      cases hEq
    · rintro ⟨ts, hTs, hA⟩
      exact absurd hA (hAccepts ts c' a hTs)
  error_iff cause c' := by
    rw [h]
    constructor
    · intro hEq
      cases hEq
      have hHere := Cursor.after_nil_iff.mpr (Eq.refl c)
      exact ⟨[], hHere, (hRefuses [] c _ hHere).mpr ⟨rfl, rfl⟩⟩
    · rintro ⟨ts, hTs, hR⟩
      obtain ⟨rfl, rfl⟩ := (hRefuses ts c' cause hTs).mp hR
      rw [Cursor.after_nil_iff.mp hTs]

/-- A reader that takes one token and goes on as another reader does. -/
theorem ExactAt.ofNext {t : Token} {rest : List Token} {position : Nat} {s : Reader α}
    (h : r ⟨t :: rest, position⟩ = s ⟨rest, position + 1⟩)
    (hs : ExactAt ⟨rest, position + 1⟩ s (fun ts => accepts (t :: ts)) fun ts => refuses (t :: ts))
    (hAccepts : ∀ a, ¬accepts [] a) (hRefuses : ∀ fault, ¬refuses [] (some t) fault) :
    ExactAt ⟨t :: rest, position⟩ r accepts refuses where
  ok_iff a c' := by
    rw [h, hs.ok_iff, Cursor.exists_after_cons_iff, or_iff_right]
    exact fun hNil => hAccepts a hNil.2
  error_iff fault c' := by
    rw [h, hs.error_iff, Cursor.exists_after_cons_iff, or_iff_right]
    rintro ⟨rfl, hR⟩
    exact hRefuses fault hR

theorem bind_eq_ok_iff {f : α → Reader β} {c' : Cursor} {b : β} :
    (r >>= f) c = (.ok b, c') ↔ ∃ a m, r c = (.ok a, m) ∧ f a m = (.ok b, c') := by
  change Reader.bind r f c = _ ↔ _
  unfold Reader.bind
  split <;> simp [*, and_assoc]

theorem bind_eq_error_iff {f : α → Reader β} {c' : Cursor} {fault : Fault} :
    (r >>= f) c = (.error fault, c') ↔
      r c = (.error fault, c') ∨ ∃ a m, r c = (.ok a, m) ∧ f a m = (.error fault, c') := by
  change Reader.bind r f c = _ ↔ _
  unfold Reader.bind
  split <;> simp [*, and_assoc]

theorem bind_assoc {f : α → Reader β} {g : β → Reader γ} :
    (r >>= f) >>= g = r >>= fun a => f a >>= g := by
  funext c
  change Reader.bind (Reader.bind r f) g c = Reader.bind r (fun a => Reader.bind (f a) g) c
  unfold Reader.bind
  cases r c with
  | mk result next => cases result <;> rfl

theorem ExactAt.bind {f : α → Reader β} {accepts₂ : α → List Token → β → Prop}
    {refuses₂ : α → List Token → Option Token → Fault → Prop} (h : ExactAt c r accepts refuses)
    (hf : ∀ ts a m, c.After ts m → accepts ts a → ExactAt m (f a) (accepts₂ a) (refuses₂ a)) :
    ExactAt c (r >>= f) (fun ts b => ∃ us vs a, ts = us ++ vs ∧ accepts us a ∧ accepts₂ a vs b)
      (fun ts next fault => refuses ts next fault ∨
        ∃ us vs a, ts = us ++ vs ∧ accepts us a ∧ refuses₂ a vs next fault) where
  ok_iff b c' := by
    rw [bind_eq_ok_iff]
    constructor
    · rintro ⟨a, m, ha, hb⟩
      obtain ⟨us, hUs, hA⟩ := (h.ok_iff ..).mp ha
      obtain ⟨vs, hVs, hB⟩ := ((hf us a m hUs hA).ok_iff ..).mp hb
      exact ⟨us ++ vs, Cursor.after_append_iff.mpr ⟨m, hUs, hVs⟩, us, vs, a, rfl, hA, hB⟩
    · rintro ⟨_, hTs, us, vs, a, rfl, hA, hB⟩
      obtain ⟨m, hUs, hVs⟩ := Cursor.after_append_iff.mp hTs
      exact ⟨a, m, (h.ok_iff ..).mpr ⟨us, hUs, hA⟩,
        ((hf us a m hUs hA).ok_iff ..).mpr ⟨vs, hVs, hB⟩⟩
  error_iff fault c' := by
    rw [bind_eq_error_iff]
    constructor
    · rintro (hFault | ⟨a, m, ha, hb⟩)
      · obtain ⟨ts, hTs, hR⟩ := (h.error_iff ..).mp hFault
        exact ⟨ts, hTs, .inl hR⟩
      · obtain ⟨us, hUs, hA⟩ := (h.ok_iff ..).mp ha
        obtain ⟨vs, hVs, hB⟩ := ((hf us a m hUs hA).error_iff ..).mp hb
        exact ⟨us ++ vs, Cursor.after_append_iff.mpr ⟨m, hUs, hVs⟩, .inr ⟨us, vs, a, rfl, hA, hB⟩⟩
    · rintro ⟨ts, hTs, hR | ⟨us, vs, a, rfl, hA, hB⟩⟩
      · exact .inl ((h.error_iff ..).mpr ⟨ts, hTs, hR⟩)
      · obtain ⟨m, hUs, hVs⟩ := Cursor.after_append_iff.mp hTs
        exact .inr ⟨a, m, (h.ok_iff ..).mpr ⟨us, hUs, hA⟩,
          ((hf us a m hUs hA).error_iff ..).mpr ⟨vs, hVs, hB⟩⟩

/-! ## Readers that take no token -/

/-- The reader answers `result` wherever it stands and stays there. -/
def Still (r : Reader α) (result : Except Fault α) : Prop :=
  ∀ c, r c = (result, c)

theorem Still.exactAt {result : Except Fault α} (h : r.Still result) (c : Cursor) :
    ExactAt c r (fun ts a => ts = [] ∧ result = .ok a)
      (fun ts _ fault => ts = [] ∧ result = .error fault) where
  ok_iff a c' := by
    rw [h c, Prod.mk.injEq]
    constructor
    · rintro ⟨hResult, rfl⟩
      exact ⟨[], Cursor.after_nil_iff.mpr rfl, rfl, hResult⟩
    · rintro ⟨_, hTs, rfl, hResult⟩
      exact ⟨hResult, (Cursor.after_nil_iff.mp hTs).symm⟩
  error_iff fault c' := by
    rw [h c, Prod.mk.injEq]
    constructor
    · rintro ⟨hResult, rfl⟩
      exact ⟨[], Cursor.after_nil_iff.mpr rfl, rfl, hResult⟩
    · rintro ⟨_, hTs, rfl, hResult⟩
      exact ⟨hResult, (Cursor.after_nil_iff.mp hTs).symm⟩

theorem Still.pure (a : α) : Still (Pure.pure a : Reader α) (.ok a) := fun _ => rfl

theorem Still.fail (fault : Fault) : Still (Reader.fail fault : Reader α) (.error fault) :=
  fun _ => rfl

theorem Still.bind {f : α → Reader β} {result : Except Fault α} {g : α → Except Fault β}
    (h : r.Still result) (hf : ∀ a, (f a).Still (g a)) : (r >>= f).Still (result >>= g) := by
  intro c
  change Reader.bind r f c = _
  rw [Reader.bind, h c]
  cases result with
  | ok a => exact hf a c
  | error fault => rfl

theorem ExactAt.bindStill {f : α → Reader β} {g : α → Except Fault β}
    (h : ExactAt c r accepts refuses) (hf : ∀ a, (f a).Still (g a)) :
    ExactAt c (r >>= f) (fun ts b => ∃ a, accepts ts a ∧ g a = .ok b)
      (fun ts next fault => refuses ts next fault ∨ ∃ a, accepts ts a ∧ g a = .error fault) := by
  refine (h.bind fun _ a m _ _ => (hf a).exactAt m).congr (fun ts b => ?_) (fun ts next fault => ?_)
  · constructor
    · rintro ⟨us, _, a, rfl, hA, rfl, hB⟩
      exact ⟨a, by simpa using hA, hB⟩
    · rintro ⟨a, hA, hB⟩
      exact ⟨ts, [], a, by simp, hA, rfl, hB⟩
  · refine or_congr_right ?_
    constructor
    · rintro ⟨us, _, a, rfl, hA, rfl, hB⟩
      exact ⟨a, by simpa using hA, hB⟩
    · rintro ⟨a, hA, hB⟩
      exact ⟨ts, [], a, by simp, hA, rfl, hB⟩

end Builder.Reader

end PlotLang

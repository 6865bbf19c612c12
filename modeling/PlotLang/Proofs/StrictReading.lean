import PlotLang.Strict

/-! # Strict readers follow the builder's

From every cursor a strict attempt ends as the reader it follows: with a related value at the same
cursor, or with the same fault. The one lapse it may end in is that of a number that cannot be read,
and the reader has a fault for it. What is built from such readers in the same way follows what is
built from the others.
-/

namespace PlotLang.Strict

open Attempt
open Builder (Fault Reader)
open Token (Kind)

variable {α β γ δ φ : Type} {R : α → β → Prop} {S : γ → δ → Prop} {c next : Cursor}
  {s : Attempt α} {r : Reader β} {f : α → Attempt γ} {g : β → Reader δ} {keyword opener t : Token}
  {kinds : List Kind} {count : Nat}

/-- How an attempt and the reader it follows end, from the cursor `c` on. -/
inductive Matches (R : α → β → Prop) (c : Cursor) :
    Except (Stop Fault) (α × Cursor) → Except Fault β × Cursor → Prop
  | ok {a : α} {b : β} {next : Cursor} : R a b → next.rest.length ≤ c.rest.length →
      Matches R c (.ok (a, next)) (.ok b, next)
  | fault {cause : Fault} {stopped : Cursor} :
      Matches R c (.error (.fault cause)) (.error cause, stopped)
  | unreadable {text : String} {stopped : Cursor} :
      Matches R c (.error (.lapse (.unreadable text))) (.error (.unreadableNumber text), stopped)

def Follows (R : α → β → Prop) (s : Attempt α) (r : Reader β) : Prop :=
  ∀ c, Matches R c (s c) (r c)

/-- A cursor further on has fewer tokens left. -/
theorem Matches.earlier {x : Except (Stop Fault) (α × Cursor)} {y : Except Fault β × Cursor}
    (h : Matches R next x y) (hNext : next.rest.length ≤ c.rest.length) : Matches R c x y := by
  cases h with
  | ok hR hRest => exact .ok hR (Nat.le_trans hRest hNext)
  | fault => exact .fault
  | unreadable => exact .unreadable

/-- What follows is begun where both have ended, with no more tokens left. -/
theorem Matches.bind (h : Matches R c (s c) (r c)) (hf : ∀ a b next, R a b →
    next.rest.length ≤ c.rest.length → Matches S next (f a next) (g b next)) :
    Matches S c ((s >>= f) c) ((r >>= g) c) := by
  change Matches S c (StateT.bind s f c) (Reader.bind r g c)
  unfold StateT.bind Reader.bind
  generalize s c = x at h
  generalize r c = y at h
  cases h with
  | ok hR hRest => exact (hf _ _ _ hR hRest).earlier hRest
  | fault => exact .fault
  | unreadable => exact .unreadable

namespace Follows

theorem bind (h : Follows R s r) (hf : ∀ a b, R a b → Follows S (f a) (g b)) :
    Follows S (s >>= f) (r >>= g) :=
  fun c => (h c).bind fun a b next hR _ => hf a b hR next

theorem pure {a : α} {b : β} (h : R a b) : Follows R (Pure.pure a) (Pure.pure b) :=
  fun _ => .ok h (Nat.le_refl _)

theorem fault (cause : Fault) : Follows R (Attempt.fault cause) (Reader.fail cause) :=
  fun _ => .fault

theorem bindEq {s : Attempt β} {f : β → Attempt γ} (h : Follows Eq s r)
    (hf : ∀ b, Follows S (f b) (g b)) : Follows S (s >>= f) (r >>= g) := by
  refine h.bind fun a b hEq => ?_
  cases hEq
  exact hf a

/-- What only makes of a value the one that the reader answers needs no reader to follow. -/
theorem bindPure {f : α → Attempt β} (h : Follows R s r) (hf : ∀ a b, R a b → f a = Pure.pure b) :
    Follows Eq (s >>= f) r := by
  intro c
  have hFirst := h c
  change Matches Eq c (StateT.bind s f c) (r c)
  unfold StateT.bind
  generalize s c = x at hFirst ⊢
  generalize r c = y at hFirst ⊢
  cases hFirst with
  | ok hR hRest =>
    change Matches Eq c (f _ _) _
    rw [hf _ _ hR]
    exact .ok rfl hRest
  | fault => exact .fault
  | unreadable => exact .unreadable

theorem require (condition : Bool) (cause : Fault) :
    Follows Eq (Attempt.require condition cause) (Reader.require condition cause) := by
  unfold Attempt.require Reader.require
  split
  · exact pure rfl
  · exact fault cause

end Follows

/-! ## Values of one token -/

theorem peek_bind (f : Option Token → Attempt α) (c : Cursor) : (peek >>= f) c = f c.peek? c := rfl

theorem advance_bind (f : Token → Attempt α) (t : Token) (rest : List Token) (position : Nat) :
    (advance >>= f) ⟨t :: rest, position⟩ = f t ⟨rest, position + 1⟩ := rfl

theorem value_follows (keyword : Token) (kinds : List Kind) (expected : Expectation) :
    Follows Eq (value keyword kinds expected)
      (Reader.ofRead (Cursor.readOne keyword kinds expected)) := by
  rintro ⟨rest, position⟩
  rw [value, peek_bind, Reader.ofRead, Cursor.readOne]
  cases rest with
  | nil => exact .fault
  | cons t rest =>
    simp only [Cursor.peek?, List.head?_cons]
    by_cases hKind : t.kind ∈ kinds
    · simp only [if_pos hKind]
      exact .ok rfl (Nat.le_succ _)
    · simp only [if_neg hKind]
      exact .fault

theorem numeral_follows (t : Token) : Follows Eq (numeral t) (Builder.numeral t) := by
  unfold numeral Builder.numeral
  cases Literal.real? t.text with
  | some x => exact .pure rfl
  | none => exact fun _ => .unreadable

theorem number_follows (keyword : Token) : Follows Eq (number keyword) (Builder.number keyword) :=
  (value_follows _ _ _).bindEq numeral_follows

theorem string_follows (keyword : Token) : Follows Eq (string keyword) (Builder.string keyword) :=
  (value_follows _ _ _).bindEq fun _ => .pure rfl

theorem color_follows (keyword : Token) : Follows Eq (color keyword) (Builder.color keyword) :=
  (value_follows _ _ _).bindEq fun _ => (Follows.require _ _).bindEq fun _ => .pure rfl

theorem alpha_follows (keyword : Token) : Follows Eq (alpha keyword) (Builder.alpha keyword) :=
  (number_follows keyword).bindEq fun _ => (Follows.require _ _).bindEq fun _ => .pure rfl

theorem step_follows (keyword : Token) : Follows Eq (step keyword) (Builder.step keyword) :=
  (number_follows keyword).bindEq fun _ => (Follows.require _ _).bindEq fun _ => .pure rfl

/-! ## Tuples -/

theorem gather_matches {rounds needed : Nat} {values : List Token}
    (hCount : values.length + needed = count) (hRounds : c.rest.length < rounds) :
    Matches (fun vs ws => vs = values ++ ws ∧ ws.length = needed) c
      (gather keyword kinds count rounds values c)
      (Reader.ofRead
        (fun c => Cursor.readValues keyword kinds count needed c.rest c.position) c) := by
  induction rounds generalizing needed values c with
  | zero => exact absurd hRounds (Nat.not_lt_zero _)
  | succ rounds ih =>
    obtain ⟨rest, position⟩ := c
    cases needed with
    | zero =>
      have hDone : ¬values.length < count := by omega
      rw [gather, if_neg hDone, Reader.ofRead, Cursor.readValues]
      exact .ok ⟨(List.append_nil _).symm, rfl⟩ (Nat.le_refl _)
    | succ needed =>
      have hMore : values.length < count := by omega
      rw [gather, if_pos hMore, peek_bind]
      cases rest with
      | nil => exact .fault
      | cons t rest =>
        have hRest : rest.length < rounds := Nat.lt_of_succ_lt_succ hRounds
        simp only [Cursor.peek?, List.head?_cons]
        by_cases hComma : t.kind = .comma
        · rw [if_pos hComma, advance_bind, Reader.ofRead, Cursor.readValues, if_pos hComma]
          exact (ih (c := ⟨rest, position + 1⟩) hCount hRest).earlier (Nat.le_succ _)
        · rw [if_neg hComma, Reader.ofRead, Cursor.readValues, if_neg hComma]
          by_cases hKind : t.kind ∈ kinds
          · have hLonger : (values ++ [t]).length + needed = count := by
              rw [List.length_append, List.length_singleton]
              omega
            have hLater := ih (c := ⟨rest, position + 1⟩) hLonger hRest
            rw [if_pos hKind, advance_bind, if_pos hKind]
            dsimp only [Reader.ofRead] at hLater
            generalize gather keyword kinds count rounds (values ++ [t]) _ = x at hLater ⊢
            generalize Cursor.readValues keyword kinds count needed rest _ = y at hLater ⊢
            obtain ⟨cause | ws, stopped⟩ := y
            · cases hLater
              exact .fault
            · cases hLater with
              | ok hValues hStopped =>
                obtain ⟨rfl, hLength⟩ := hValues
                exact .ok ⟨List.append_assoc _ _ _, congrArg Nat.succ hLength⟩
                  (Nat.le_succ_of_le hStopped)
          · rw [if_neg hKind, if_neg hKind]
            exact .fault

/-- The tokens of a tuple are the same, and as many as they have to be. -/
theorem tuple_follows (keyword : Token) (kinds : List Kind) (count : Nat) :
    Follows (fun vs ws => vs = ws ∧ ws.length = count) (tuple keyword kinds count)
      (Reader.ofRead (Cursor.readTuple keyword kinds count)) := by
  intro c
  have hNone : ([] : List Token).length + count = count := Nat.zero_add _
  exact gather_matches hNone (Nat.lt_succ_self _)

theorem pair_follows (keyword : Token) : Follows Eq (pair keyword) (Builder.pair keyword) := by
  refine (tuple_follows _ _ _).bind ?_
  rintro ts _ ⟨rfl, hLength⟩
  match ts, hLength with
  | [x, y], _ =>
    exact (numeral_follows x).bindEq fun _ => (numeral_follows y).bindEq fun _ => .pure rfl

theorem box_follows (keyword : Token) : Follows Eq (box keyword) (Builder.box keyword) := by
  refine (tuple_follows _ _ _).bind ?_
  rintro ts _ ⟨rfl, hLength⟩
  match ts, hLength with
  | [x, y, width, height], _ =>
    exact (numeral_follows x).bindEq fun _ => (numeral_follows y).bindEq fun _ =>
      (numeral_follows width).bindEq fun _ => (numeral_follows height).bindEq fun _ => .pure rfl

theorem lookup_follows (definitions : List Definition) (axis : Token) :
    Follows Eq (lookup definitions axis) (Builder.lookup definitions axis) := by
  unfold lookup Builder.lookup
  cases definitions.find? fun d => d.identifier == axis.text with
  | some d => exact .pure rfl
  | none => exact .fault _

theorem axes_follows (definitions : List Definition) (keyword : Token) :
    Follows Eq (axes definitions keyword) (Builder.axes definitions keyword) := by
  refine (tuple_follows _ _ _).bind ?_
  rintro ts _ ⟨rfl, hLength⟩
  match ts, hLength with
  | [first, second], _ =>
    exact (lookup_follows definitions first).bindEq fun _ =>
      (lookup_follows definitions second).bindEq fun _ => .pure rfl

end PlotLang.Strict

import PlotLang.Proofs.AddedDefinition
import PlotLang.Proofs.Arrangement

/-! # Reading several values

A tuple is read up to its last value and no further. Only the tokens that are no commas count: if as
many of them as are wanted come first and are of allowed kinds, these are what is read. Otherwise
the reader stops at the first one of another kind and blames it, or at the end of the tokens and
blames the keyword.
-/

namespace PlotLang

namespace Grammar

open Token (Kind)

variable {kinds : List Kind} {count : Nat} {t : Token} {ts vs : List Token}

/-- The first values are as many as wanted and of allowed kinds. -/
def Supplies (kinds : List Kind) (count : Nat) (vs : List Token) : Prop :=
  count ≤ vs.length ∧ ∀ t ∈ vs.take count, t.kind ∈ kinds

instance (kinds : List Kind) (count : Nat) (vs : List Token) :
    Decidable (Supplies kinds count vs) :=
  inferInstanceAs (Decidable (_ ∧ _))

theorem withoutCommas_comma (h : t.kind = .comma) : withoutCommas (t :: ts) = withoutCommas ts :=
  List.filter_cons_of_neg (by simpa using h)

theorem not_supplies_nil : ¬Supplies kinds (count + 1) [] :=
  fun h => absurd h.1 (Nat.not_succ_le_zero count)

theorem supplies_cons_iff :
    Supplies kinds (count + 1) (t :: vs) ↔ t.kind ∈ kinds ∧ Supplies kinds count vs := by
  simp only [Supplies, List.length_cons, Nat.add_le_add_iff_right, List.take_succ_cons,
    List.forall_mem_cons]
  exact and_left_comm

theorem exists_spaced (h : Supplies kinds count (withoutCommas ts)) :
    ∃ taken after, ts = taken ++ after ∧
      Spaced kinds taken ((withoutCommas ts).take count) := by
  -- A comma before a value is taken with it; behind the last value nothing more is wanted.
  induction ts generalizing count with
  | nil =>
    cases count with
    | zero => exact ⟨[], [], rfl, .nil⟩
    | succ count => exact absurd h not_supplies_nil
  | cons t ts ih =>
    cases count with
    | zero => exact ⟨[], t :: ts, rfl, .nil⟩
    | succ count =>
      by_cases hComma : t.kind = .comma
      · rw [withoutCommas_comma hComma] at h ⊢
        obtain ⟨taken, after, rfl, hSpaced⟩ := ih h
        have hLength := List.length_take_of_le h.1
        exact ⟨t :: taken, after, rfl,
          (spaced_comma_iff hComma).mpr ⟨List.ne_nil_of_length_eq_add_one hLength, hSpaced⟩⟩
      · rw [withoutCommas_cons hComma] at h ⊢
        obtain ⟨hKind, hRest⟩ := supplies_cons_iff.mp h
        obtain ⟨taken, after, rfl, hSpaced⟩ := ih hRest
        exact ⟨t :: taken, after, rfl, .value hComma hKind hSpaced⟩

theorem Spaced.getLast? (h : Spaced kinds ts vs) : ∀ t ∈ ts.getLast?, t.kind ≠ .comma := by
  induction h with
  | nil => nofun
  | @value t ts vs hValue _ _ ih =>
    rw [List.getLast?_cons]
    cases hLast : ts.getLast? with
    | none => simpa using hValue
    | some last => simpa using ih last hLast
  | @comma t v ts vs _ hSpaced ih =>
    rw [List.getLast?_cons]
    cases hLast : ts.getLast? with
    | none =>
      rw [List.getLast?_eq_none_iff.mp hLast] at hSpaced
      cases hSpaced
    | some last => simpa using ih last hLast

/-- A token that has no place in a tuple. -/
def isStray (kinds : List Kind) (t : Token) : Bool := t.kind ≠ .comma && t.kind ∉ kinds

theorem isStray_eq_false_iff : isStray kinds t = false ↔ t.kind = .comma ∨ t.kind ∈ kinds := by
  simp [isStray, Classical.or_iff_not_imp_left]

theorem short_of_not_supplies (h : ¬Supplies kinds count (withoutCommas ts)) :
    Short kinds count (ts.takeWhile (!isStray kinds ·)) := by
  have hAllowed : ∀ t ∈ ts.takeWhile (!isStray kinds ·), t.kind = .comma ∨ t.kind ∈ kinds := by
    intro t hMem
    have hStray := List.mem_takeWhile_imp hMem
    exact isStray_eq_false_iff.mp (by simpa using hStray)
  -- If there were enough values before the first stray token, they would be the first ones of all.
  refine ⟨hAllowed, Nat.lt_of_not_le fun hEnough => h ?_⟩
  have hSplit : withoutCommas ts = withoutCommas (ts.takeWhile (!isStray kinds ·)) ++
      withoutCommas (ts.dropWhile (!isStray kinds ·)) := by
    rw [← withoutCommas_append, List.takeWhile_append_dropWhile]
  rw [List.countP_eq_length_filter] at hEnough
  change count ≤ (withoutCommas _).length at hEnough
  rw [hSplit]
  refine ⟨?_, fun t hMem => ?_⟩
  · rw [List.length_append]
    exact Nat.le_add_right_of_le hEnough
  · rw [List.take_append_of_le_length hEnough] at hMem
    obtain ⟨hBefore, hValue⟩ := List.mem_filter.mp (List.mem_of_mem_take hMem)
    exact (hAllowed t hBefore).resolve_left (by simpa using hValue)

end Grammar

namespace Cursor

open Grammar
open Token (Kind)

/-- A cursor on the token with a given index. -/
def placed (tokens : List Token) (position : Nat) : Cursor := ⟨tokens.drop position, position⟩

variable {tokens ts after : List Token} {position : Nat} {kinds : List Kind}

theorem rest_placed (h : tokens.drop position = ts ++ after) :
    (placed tokens (position + ts.length)).rest = after := by
  rw [placed, ← List.drop_drop, h, List.drop_left]

theorem placed_after (h : tokens.drop position = ts ++ after) :
    After (placed tokens position) ts (placed tokens (position + ts.length)) :=
  ⟨by rw [rest_placed h, placed, h], rfl⟩

theorem getElem?_placed (h : tokens.drop position = ts ++ after) {i : Nat} (hLess : i < ts.length) :
    tokens[position + i]? = ts[i]? := by
  rw [← List.getElem?_drop, h, List.getElem?_append_left hLess]

/-- The tokens from an index up to another one are values with commas before each of them. -/
structure ReadsUpTo (tokens : List Token) (position : Nat) (vs : List Token) (stop : Nat) :
    Prop where
  position_le : position ≤ stop
  values : withoutCommas ((tokens.take stop).drop position) = vs
  last : if vs = [] then stop = position
    else ∃ last, tokens[stop - 1]? = some last ∧ last.kind ≠ .comma

/-- What is told of a tuple that cannot be read. -/
structure Reports (fault : ReadFault) (message : String) (line : Int) : Prop where
  errorClass : (Failure.building (.read fault)).errorClass = .building
  message : fault.diagnostic.message = message
  line : fault.diagnostic.line = some line

/-- Where a tuple ends too early, at its first stray token or behind all tokens. -/
structure StopsAt (keyword : Token) (kinds : List Kind) (tokens : List Token) (position : Nat)
    (fault : ReadFault) (stop : Nat) : Prop where
  position_le : position ≤ stop
  before : ∀ i u, position ≤ i → i < stop → tokens[i]? = some u →
    u.kind = .comma ∨ u.kind ∈ kinds
  reports : match tokens[stop]? with
    | some t => t.kind ≠ .comma ∧ t.kind ∉ kinds ∧
        Reports fault ("Unexpected token '" ++ t.text ++ "'") t.line
    | none => stop = max position tokens.length ∧
        Reports fault ("Missing values after '" ++ keyword.text ++ "'") keyword.line

theorem readsUpTo_of_spaced {vs : List Token} (hRest : tokens.drop position = ts ++ after)
    (hSpaced : Spaced kinds ts vs) : ReadsUpTo tokens position vs (position + ts.length) where
  position_le := Nat.le_add_right ..
  values := by
    rw [List.drop_take, Nat.add_sub_cancel_left, hRest, List.take_left,
      withoutCommas_eq_of_spaced hSpaced]
  last := by
    obtain rfl | ⟨before, last, rfl⟩ := List.eq_nil_or_concat ts
    · cases hSpaced
      rfl
    · rw [List.concat_eq_append] at hSpaced hRest ⊢
      have hValue : last.kind ≠ .comma := hSpaced.getLast? last List.getLast?_concat
      have hSome : vs ≠ [] := by
        rintro rfl
        cases List.append_eq_nil_iff.mp (spaced_nil_iff.mp hSpaced) with
        | intro _ hLast => cases hLast
      rw [if_neg hSome]
      refine ⟨last, ?_, hValue⟩
      rw [List.length_append, List.length_singleton, ← Nat.add_assoc, Nat.add_sub_cancel,
        getElem?_placed hRest (by simp)]
      simp

theorem exists_stops (keyword : Token) (kinds : List Kind) (count : Nat) (ts : List Token) :
    ∃ fault, Stops keyword kinds count (ts.dropWhile (!isStray kinds ·)).head? fault := by
  have hHead := List.head?_dropWhile_not (!isStray kinds ·) ts
  cases hNext : (ts.dropWhile (!isStray kinds ·)).head? with
  | none => exact ⟨_, rfl⟩
  | some t =>
    rw [hNext] at hHead
    have hStray : t.kind ≠ .comma ∧ t.kind ∉ kinds := by simpa [isStray] using hHead
    exact ⟨_, hStray.1, hStray.2, rfl⟩

theorem stopsAt_of_stops {keyword : Token} {count : Nat} {fault : ReadFault}
    (hRest : tokens.drop position = ts ++ after)
    (hAllowed : ∀ t ∈ ts, t.kind = .comma ∨ t.kind ∈ kinds)
    (hStops : Stops keyword kinds count after.head? fault) :
    StopsAt keyword kinds tokens position fault (position + ts.length) where
  position_le := Nat.le_add_right ..
  before i u hFrom hBelow hToken := by
    obtain ⟨k, rfl⟩ := Nat.exists_eq_add_of_le hFrom
    have hLess : k < ts.length := Nat.lt_of_add_lt_add_left hBelow
    rw [getElem?_placed hRest hLess] at hToken
    exact hAllowed u (List.mem_of_getElem? hToken)
  reports := by
    have hNext : tokens[position + ts.length]? = after.head? := by
      rw [← List.getElem?_drop, hRest, List.getElem?_append_right (Nat.le_refl _), Nat.sub_self,
        List.head?_eq_getElem?]
    rw [hNext]
    cases after with
    | nil =>
      obtain rfl := hStops
      have hLength := congrArg List.length hRest
      rw [List.append_nil, List.length_drop] at hLength
      exact ⟨by omega, rfl, rfl, rfl⟩
    | cons t after =>
      obtain ⟨hComma, hKind, rfl⟩ := hStops
      exact ⟨hComma, hKind, rfl, rfl, rfl⟩

/-- If the first tokens that are no commas are as many as wanted and of allowed kinds, they are read
and nothing behind the last of them. Otherwise the reader stops at the first stray token or behind
all tokens, and tells of that token or of the keyword. -/
theorem readTuple_stops (keyword : Token) (kinds : List Kind) (count : Nat) (tokens : List Token)
    (position : Nat) :
    (Supplies kinds count (withoutCommas (tokens.drop position)) → ∃ stop,
      readTuple keyword kinds count (placed tokens position) =
        (.ok ((withoutCommas (tokens.drop position)).take count), placed tokens stop) ∧
      ReadsUpTo tokens position ((withoutCommas (tokens.drop position)).take count) stop) ∧
    (¬Supplies kinds count (withoutCommas (tokens.drop position)) → ∃ fault stop,
      readTuple keyword kinds count (placed tokens position) = (.error fault, placed tokens stop) ∧
      StopsAt keyword kinds tokens position fault stop) ∧
    ∀ vs c', readTuple keyword kinds count (placed tokens position) = (.ok vs, c') →
      ∀ v ∈ vs, v.kind ≠ .comma := by
  refine ⟨fun hSupplies => ?_, fun hShort => ?_, fun vs c' hRead => ?_⟩
  · obtain ⟨ts, after, hRest, hSpaced⟩ := exists_spaced hSupplies
    have hLength := List.length_take_of_le hSupplies.1
    exact ⟨_, readValues_eq_ok_iff.mpr ⟨ts, placed_after hRest, hSpaced, hLength⟩,
      readsUpTo_of_spaced hRest hSpaced⟩
  · have hShort := short_of_not_supplies hShort
    have hRest : tokens.drop position = (tokens.drop position).takeWhile (!isStray kinds ·) ++
        (tokens.drop position).dropWhile (!isStray kinds ·) :=
      List.takeWhile_append_dropWhile.symm
    obtain ⟨fault, hStops⟩ := exists_stops keyword kinds count (tokens.drop position)
    refine ⟨fault, _, readValues_eq_error_iff.mpr ⟨_, placed_after hRest, hShort, ?_⟩,
      stopsAt_of_stops hRest hShort.1 hStops⟩
    rwa [rest_placed hRest]
  · obtain ⟨ts, -, hSpaced, -⟩ := readValues_eq_ok_iff.mp hRead
    rw [← withoutCommas_eq_of_spaced hSpaced]
    intro v hMem
    simpa using (List.mem_filter.mp hMem).2

/-- A keyword, two numbers with commas around them, and the end of the block. -/
def twoNumbers : List Token :=
  [⟨1, .keyword, "box"⟩, ⟨1, .comma, ","⟩, ⟨1, .integer, "0"⟩, ⟨1, .comma, ","⟩, ⟨1, .comma, ","⟩,
    ⟨2, .integer, "9"⟩, ⟨2, .comma, ","⟩, ⟨3, .declaration, "end"⟩]

/-- Two numbers are read and the comma behind them is not; a third one is not found. -/
theorem readTuple_stops_twoNumbers :
    (readTuple ⟨1, .keyword, "box"⟩ [.integer, .comma] 2 (placed twoNumbers 1) =
        (.ok [⟨1, .integer, "0"⟩, ⟨2, .integer, "9"⟩], placed twoNumbers 6) ∧
      ReadsUpTo twoNumbers 1 [⟨1, .integer, "0"⟩, ⟨2, .integer, "9"⟩] 6) ∧
    ∃ fault, readTuple ⟨1, .keyword, "box"⟩ [.integer, .comma] 3 (placed twoNumbers 1) =
        (.error fault, placed twoNumbers 7) ∧
      StopsAt ⟨1, .keyword, "box"⟩ [.integer, .comma] twoNumbers 1 fault 7 := by
  obtain ⟨stop, hRead, hReads⟩ :=
    (readTuple_stops ⟨1, .keyword, "box"⟩ [.integer, .comma] 2 twoNumbers 1).1 (by decide)
  obtain ⟨fault, stop', hRead', hStops⟩ :=
    (readTuple_stops ⟨1, .keyword, "box"⟩ [.integer, .comma] 3 twoNumbers 1).2.1 (by decide)
  have hStop : 6 = stop := congrArg (fun answer => answer.2.position) hRead
  have hStop' : 7 = stop' := congrArg (fun answer => answer.2.position) hRead'
  subst hStop hStop'
  exact ⟨⟨hRead, hReads⟩, fault, hRead', hStops⟩

end Cursor

end PlotLang

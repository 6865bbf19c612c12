import PlotLang.Proofs.Emission

/-! # The lines of tokens

Three kinds of text hold line breaks: code, comments and string literals. Which one a character
belongs to is told by reading the source once, character by character. A token carries the number of
line breaks before it in code. So its line is short of the true one by those in the literals before
it, while those in comments are left out on purpose.
-/

namespace PlotLang.Lexer

open Text

/-! ## Regions of a source -/

inductive Region where
  | code
  | comment
  | literal (escaped : Bool)
  deriving DecidableEq, Repr

namespace Region

def next : Region → Char → Region
  | .code, c => if c = '%' then .comment else if c = '"' then .literal false else .code
  | .comment, c => if c = '%' then .code else .comment
  | .literal true, _ => .literal false
  | .literal false, c => if c = '"' then .code else .literal (c = '\\')

/-- The region a text ends in. -/
def after (r : Region) (cs : List Char) : Region := cs.foldl next r

def isCode (r : Region) : Bool := r = .code

def isComment (r : Region) : Bool := r = .comment

def isLiteral : Region → Bool
  | .literal _ => true
  | _ => false

/-- The line breaks of a text that begins in region `r`, where `counted` tells which regions
count. -/
def breaks (counted : Region → Bool) (r : Region) : List Char → Nat
  | [] => 0
  | c :: cs => (if c = '\n' ∧ counted r then 1 else 0) + breaks counted (r.next c) cs

variable {r : Region} {counted : Region → Bool} {cs ds : List Char}

theorem after_append : r.after (cs ++ ds) = (r.after cs).after ds :=
  List.foldl_append

theorem breaks_append :
    breaks counted r (cs ++ ds) = breaks counted r cs + breaks counted (r.after cs) ds := by
  induction cs generalizing r with
  | nil => simp [breaks, after]
  | cons c cs ih => simp only [List.cons_append, breaks, ih, after, List.foldl_cons, Nat.add_assoc]

/-- A break outside comments stands in code or in a literal. -/
theorem breaks_outside_comments :
    breaks (fun r => !r.isComment) r cs = breaks isCode r cs + breaks isLiteral r cs := by
  induction cs generalizing r with
  | nil => rfl
  | cons c cs ih =>
    have hFirst : (if c = '\n' ∧ (!r.isComment) = true then 1 else 0) =
        (if c = '\n' ∧ r.isCode = true then 1 else 0) +
          if c = '\n' ∧ r.isLiteral = true then 1 else 0 := by
      cases r <;> simp [isCode, isComment, isLiteral]
    simp only [breaks, ih, hFirst]
    omega

/-! ## Texts of one region -/

/-- A text without a quote or a percent sign stays in code. -/
theorem after_code (h : ∀ c ∈ cs, c ≠ '%' ∧ c ≠ '"') : after .code cs = .code := by
  induction cs with
  | nil => rfl
  | cons c cs ih =>
    obtain ⟨⟨hPercent, hQuote⟩, hRest⟩ := List.forall_mem_cons.mp h
    rw [after, List.foldl_cons, next, if_neg hPercent, if_neg hQuote]
    exact ih hRest

theorem breaks_code (h : ∀ c ∈ cs, c ≠ '%' ∧ c ≠ '"') :
    breaks isCode .code cs = cs.count '\n' := by
  induction cs with
  | nil => rfl
  | cons c cs ih =>
    obtain ⟨⟨hPercent, hQuote⟩, hRest⟩ := List.forall_mem_cons.mp h
    rw [breaks, next, if_neg hPercent, if_neg hQuote, ih hRest, List.count_cons, Nat.add_comm]
    simp [isCode]

theorem after_comment (h : ∀ c ∈ cs, c ≠ '%') : after .comment cs = .comment := by
  induction cs with
  | nil => rfl
  | cons c cs ih =>
    obtain ⟨hPercent, hRest⟩ := List.forall_mem_cons.mp h
    rw [after, List.foldl_cons, next, if_neg hPercent]
    exact ih hRest

theorem breaks_comment (h : ∀ c ∈ cs, c ≠ '%') : breaks isCode .comment cs = 0 := by
  induction cs with
  | nil => rfl
  | cons c cs ih =>
    obtain ⟨hPercent, hRest⟩ := List.forall_mem_cons.mp h
    rw [breaks, next, if_neg hPercent, ih hRest]
    simp [isCode]

/-- A comment that is left open. -/
theorem breaks_openComment (h : ∀ c ∈ cs, c ≠ '%') : breaks isCode .code ('%' :: cs) = 0 := by
  simp [breaks, next, breaks_comment h]

theorem breaks_closedComment (h : ∀ c ∈ cs, c ≠ '%') :
    breaks isCode .code ('%' :: (cs ++ ['%'])) = 0 := by
  simp [breaks, next, breaks_append, breaks_comment h, after_comment h]

theorem after_closedComment (h : ∀ c ∈ cs, c ≠ '%') :
    after .code ('%' :: (cs ++ ['%'])) = .code := by
  have hInside : after .code ('%' :: cs) = .comment := after_comment h
  rw [← List.cons_append, after_append, hInside]
  rfl

end Region

/-! ## Places of tokens -/

def beginsToken (c : Char) : Bool :=
  isLetter c || isNumberPart c || ['"', ',', '#', '@', '%'].contains c

/-- A text without a token. Only the end of a source leaves a comment open. -/
inductive Silent : List Char → Prop
  | inert {cs : List Char} : (∀ c ∈ cs, beginsToken c = false) → Silent cs
  | dot : Silent ['.']
  | comment {cs : List Char} : (∀ c ∈ cs, c ≠ '%') → Silent ('%' :: (cs ++ ['%']))
  | openComment {cs : List Char} : (∀ c ∈ cs, c ≠ '%') → Silent ('%' :: cs)

/-- The texts a token is written as. -/
def Writes (t : Token) (lexeme : List Char) : Prop :=
  match t.kind with
  | .string => ∃ body, lexeme = '"' :: body ∧ stringBody body = (t.text.toList, [])
  | .hexColor => lexeme = '0' :: 'x' :: t.text.toList
  | .declaration | .define => lexeme = '#' :: t.text.toList
  | .shapeFunction => lexeme = '@' :: t.text.toList
  | _ => lexeme = t.text.toList

/-- A token with the text before its first character. -/
structure Placed where
  before : List Char
  token : Token

/-- A text cut into silent parts and lexemes, each of which begins in code. -/
inductive Cut : List Char → List Placed → Prop
  | nil : Cut [] []
  | silent {cs gap : List Char} {ps : List Placed} : Cut cs ps →
      Region.after .code cs = .code → Silent gap → Cut (cs ++ gap) ps
  | lexeme {cs ds : List Char} {t : Token} {ps : List Placed} : Cut cs ps →
      Region.after .code cs = .code → Writes t ds → Cut (cs ++ ds) (ps ++ [⟨cs, t⟩])

def lineAfter (cs : List Char) : Nat := 1 + Region.breaks Region.isCode .code cs

/-- The tokens stand in the beginning of a source, each on the line its place gives it. -/
structure Places (source : String) (cut : List Char) (ps : List Placed) (tokens : List Token) :
    Prop where
  taken : cut <+: source.toList
  divided : Cut cut ps
  tokens_eq : ps.map Placed.token = tokens
  lines : ∀ p ∈ ps, p.token.line = lineAfter p.before

/-- Between two steps the line is that of what is read next, which is code unless nothing is
left. -/
structure Traced (source : String) (cut : List Char) (ps : List Placed) (s : State) : Prop where
  source_eq : source.toList = cut ++ s.rest
  divided : Cut cut ps
  tokens_eq : ps.map Placed.token = s.tokens.toList
  lines : ∀ p ∈ ps, p.token.line = lineAfter p.before
  line : s.line = lineAfter cut
  region : Region.after .code cut = .code ∨ s.rest = []

variable {source : String} {cut gap rest cs ds : List Char} {ps : List Placed} {s : State}
  {kind : Token.Kind} {text : List Char} {c : Char}

theorem traced_start (source : String) : Traced source [] [] (State.start source) where
  source_eq := rfl
  divided := .nil
  tokens_eq := rfl
  lines := List.forall_mem_nil _
  line := rfl
  region := .inl rfl

theorem Traced.places (h : Traced source cut ps s) : Places source cut ps s.tokens.toList :=
  ⟨⟨s.rest, h.source_eq.symm⟩, h.divided, h.tokens_eq, h.lines⟩

theorem Traced.after_eq (h : Traced source cut ps s) (hRest : s.rest ≠ []) :
    Region.after .code cut = .code :=
  h.region.resolve_right hRest

theorem after_cut_append (hCut : Region.after .code cut = .code)
    (hAfter : Region.after .code ds = .code ∨ rest = []) :
    Region.after .code (cut ++ ds) = .code ∨ rest = [] := by
  rwa [Region.after_append, hCut]

theorem lineAfter_append (hCut : Region.after .code cut = .code) :
    lineAfter (cut ++ ds) = lineAfter cut + Region.breaks Region.isCode .code ds := by
  rw [lineAfter, Region.breaks_append, hCut, lineAfter, Nat.add_assoc]

theorem Traced.silent {count : Nat} (h : Traced source cut ps s)
    (hCut : Region.after .code cut = .code) (hRest : s.rest = gap ++ rest) (hGap : Silent gap)
    (hBreaks : Region.breaks Region.isCode .code gap = count)
    (hAfter : Region.after .code gap = .code ∨ rest = []) :
    Traced source (cut ++ gap) ps { s with rest := rest, line := s.line + count } where
  source_eq := by rw [h.source_eq, hRest, List.append_assoc]
  divided := h.divided.silent hCut hGap
  tokens_eq := h.tokens_eq
  lines := h.lines
  line := by rw [lineAfter_append hCut, hBreaks, h.line]
  region := after_cut_append hCut hAfter

theorem Traced.lexeme (h : Traced source cut ps s) (hCut : Region.after .code cut = .code)
    (hRest : s.rest = ds ++ rest) (hWrites : Writes ⟨s.line, kind, String.ofList text⟩ ds)
    (hBreaks : Region.breaks Region.isCode .code ds = 0)
    (hAfter : Region.after .code ds = .code ∨ rest = []) :
    Traced source (cut ++ ds) (ps ++ [⟨cut, ⟨s.line, kind, String.ofList text⟩⟩])
      ((s.emit kind text).advanceTo rest) where
  source_eq := by rw [h.source_eq, hRest, List.append_assoc]; rfl
  divided := h.divided.lexeme hCut hWrites
  tokens_eq := by simp [State.emit, State.advanceTo, h.tokens_eq]
  lines := by
    refine List.forall_mem_append.mpr ⟨h.lines, List.forall_mem_singleton.mpr ?_⟩
    rw [h.line]
  line := by
    rw [lineAfter_append hCut, hBreaks, ← h.line]
    rfl
  region := after_cut_append hCut hAfter

/-! ## Words -/

/-- A character of code that is no line break. -/
def IsWordPart (c : Char) : Prop := c ≠ '%' ∧ c ≠ '"' ∧ c ≠ '\n'

theorem isWordPart_of {p : Char → Bool} (hPercent : p '%' = false) (hQuote : p '"' = false)
    (hBreak : p '\n' = false) (h : p c) : IsWordPart c := by
  refine ⟨?_, ?_, ?_⟩ <;> rintro rfl
  · exact Bool.false_ne_true (hPercent.symm.trans h)
  · exact Bool.false_ne_true (hQuote.symm.trans h)
  · exact Bool.false_ne_true (hBreak.symm.trans h)

theorem isWordPart_of_isLetter (h : isLetter c) : IsWordPart c :=
  isWordPart_of (by decide) (by decide) (by decide) h

theorem isWordPart_of_isNumberPart (h : isNumberPart c) : IsWordPart c :=
  isWordPart_of (by decide) (by decide) (by decide) h

theorem isWordPart_of_isHexDigit (h : isHexDigit c) : IsWordPart c :=
  isWordPart_of (by decide) (by decide) (by decide) h

theorem forall_takeWhile_isWordPart {p : Char → Bool} (h : ∀ c, p c → IsWordPart c) :
    ∀ c ∈ cs.takeWhile p, IsWordPart c := fun c hMem =>
  h c (List.all_eq_true.mp List.all_takeWhile c hMem)

/-- A lexeme that is a word, with a sign before it or without one. -/
theorem Traced.word (h : Traced source cut ps s) (hCut : Region.after .code cut = .code)
    (hRest : s.rest = ds ++ rest) (hWrites : Writes ⟨s.line, kind, String.ofList text⟩ ds)
    (hWord : ∀ c ∈ ds, IsWordPart c) :
    Traced source (cut ++ ds) (ps ++ [⟨cut, ⟨s.line, kind, String.ofList text⟩⟩])
      ((s.emit kind text).advanceTo rest) := by
  have hCode : ∀ c ∈ ds, c ≠ '%' ∧ c ≠ '"' := fun c hMem => ⟨(hWord c hMem).1, (hWord c hMem).2.1⟩
  have hBreaks : Region.breaks Region.isCode .code ds = 0 := by
    rw [Region.breaks_code hCode]
    exact List.count_eq_zero.mpr fun hMem => (hWord _ hMem).2.2 rfl
  exact h.lexeme hCut hRest hWrites hBreaks (.inl (Region.after_code hCode))

/-! ## Steps -/

/-- The tokens found by a step have their places, and unless it fails the next step finds the
source as it should. -/
structure Traces (source : String) (result : State × Option Error) : Prop where
  places : ∃ cut ps, Places source cut ps result.1.tokens.toList
  traced : result.2 = none → ∃ cut ps, Traced source cut ps result.1

theorem Traces.done (h : Traced source cut ps s) : Traces source (s, none) :=
  ⟨⟨cut, ps, h.places⟩, fun _ => ⟨cut, ps, h⟩⟩

theorem Traces.fail (h : Traced source cut ps s) (rest : List Char) (fault : Fault) :
    Traces source ((s.advanceTo rest).fail fault) :=
  ⟨⟨cut, ps, h.places⟩, nofun⟩

theorem stringBody_cons {cs : List Char} (hQuote : c ≠ '"') (hBackslash : c ≠ '\\') :
    stringBody (c :: cs) = (c :: (stringBody cs).1, (stringBody cs).2) := by
  rw [stringBody]
  · exact hQuote
  · exact fun hEq => absurd hEq hBackslash
  · exact fun _ _ hEq => absurd hEq hBackslash

/-- A literal takes characters of its own region up to its closing quote, or all there are. -/
theorem exists_stringBody (cs : List Char) : ∃ body, cs = body ++ (stringBody cs).2 ∧
    stringBody body = ((stringBody cs).1, []) ∧
      Region.breaks Region.isCode (.literal false) body = 0 ∧
        (Region.after (.literal false) body = .code ∨ (stringBody cs).2 = []) := by
  fun_induction stringBody cs with
  | case1 => exact ⟨[], rfl, rfl, rfl, .inr rfl⟩
  | case2 rest => exact ⟨['"'], rfl, rfl, rfl, .inl rfl⟩
  | case3 => exact ⟨['\\'], rfl, rfl, rfl, .inr rfl⟩
  | case4 c rest text rest' hText ih =>
    obtain ⟨body, hRest, hBody, hBreaks, hAfter⟩ := ih
    refine ⟨'\\' :: c :: body, ?_, ?_, ?_, ?_⟩
    · simpa [hText] using hRest
    · simp [stringBody, hBody, hText]
    · simpa [Region.breaks, Region.isCode, Region.next] using hBreaks
    · simpa [hText, Region.after, Region.next] using hAfter
  | case5 c rest hQuote hLast hEscape text rest' hText ih =>
    obtain ⟨body, hRest, hBody, hBreaks, hAfter⟩ := ih
    have hQuote : c ≠ '"' := hQuote
    have hBackslash : c ≠ '\\' := by
      intro hEq
      cases rest with
      | nil => exact hLast hEq rfl
      | cons d rest => exact hEscape d rest hEq rfl
    have hNext : Region.next (.literal false) c = .literal false := by
      simp [Region.next, hQuote, hBackslash]
    refine ⟨c :: body, ?_, ?_, ?_, ?_⟩
    · simpa [hText] using hRest
    · simp [stringBody_cons hQuote hBackslash, hBody, hText]
    · simpa [Region.breaks, Region.isCode, hNext] using hBreaks
    · simpa [hText, Region.after, hNext] using hAfter

theorem readString_traces (h : Traced source cut ps s) (hRest : s.rest = '"' :: rest) :
    Traces source (readString s rest, none) := by
  obtain ⟨body, hBody, hText, hBreaks, hAfter⟩ := exists_stringBody rest
  have hSplit : s.rest = ('"' :: body) ++ (stringBody rest).2 := by
    rw [hRest, List.cons_append, ← hBody]
  have hWrites : Writes ⟨s.line, .string, String.ofList (stringBody rest).1⟩ ('"' :: body) :=
    ⟨body, rfl, by rw [hText, String.toList_ofList]⟩
  have hCut := h.after_eq (by rw [hRest]; exact List.cons_ne_nil _ _)
  refine .done (h.lexeme hCut hSplit hWrites ?_ ?_)
  · simpa [Region.breaks, Region.next] using hBreaks
  · simpa [Region.after, Region.next] using hAfter

/-- A word read up to the first character that is none of its parts. -/
theorem Traced.takeWhile {p : Char → Bool} {sign : List Char} (h : Traced source cut ps s)
    (hCut : Region.after .code cut = .code) (hRest : s.rest = sign ++ rest)
    (hWrites : Writes ⟨s.line, kind, String.ofList (rest.takeWhile p)⟩ (sign ++ rest.takeWhile p))
    (hSign : ∀ c ∈ sign, IsWordPart c) (hParts : ∀ c, p c → IsWordPart c) :
    Traced source (cut ++ (sign ++ rest.takeWhile p))
      (ps ++ [⟨cut, ⟨s.line, kind, String.ofList (rest.takeWhile p)⟩⟩])
      ((s.emit kind (rest.takeWhile p)).advanceTo (rest.dropWhile p)) := by
  have hSplit : s.rest = (sign ++ rest.takeWhile p) ++ rest.dropWhile p := by
    rw [hRest, List.append_assoc, List.takeWhile_append_dropWhile]
  exact h.word hCut hSplit hWrites
    (List.forall_mem_append.mpr ⟨hSign, forall_takeWhile_isWordPart hParts⟩)

theorem Traced.after_eq_of_append (h : Traced source cut ps s) (hRest : s.rest = ds ++ rest)
    (hSome : ds ≠ []) : Region.after .code cut = .code :=
  h.after_eq (by simp [hRest, hSome])

theorem Traced.inert (h : Traced source cut ps s) (hRest : s.rest = gap ++ rest)
    (hGap : ∀ c ∈ gap, beginsToken c = false) :
    Traced source (cut ++ gap) ps { s with rest := rest, line := s.line + gap.count '\n' } := by
  by_cases hSome : gap = []
  · subst hSome
    obtain rfl : s.rest = rest := hRest
    simpa using h
  · have hCode : ∀ c ∈ gap, c ≠ '%' ∧ c ≠ '"' := by
      intro c hMem
      have hInert := hGap c hMem
      constructor <;> rintro rfl <;> exact absurd hInert (by decide)
    exact h.silent (h.after_eq_of_append hRest hSome) hRest (.inert hGap)
      (Region.breaks_code hCode) (.inl (Region.after_code hCode))

theorem readHex_traces (h : Traced source cut ps s) (hRest : s.rest = '0' :: 'x' :: rest) :
    Traces source (readHex s rest, none) := by
  have hSplit : s.rest = ['0', 'x'] ++ rest := hRest
  have hCut := h.after_eq_of_append hSplit (List.cons_ne_nil _ _)
  refine .done (h.takeWhile hCut hSplit ?_ ?_ fun c => isWordPart_of_isHexDigit)
  · simp [Writes]
  · simp [IsWordPart]

theorem readNumber_traces (h : Traced source cut ps s)
    (hRest : s.rest.takeWhile isNumberPart ≠ []) : Traces source (readNumber s) := by
  have hSplit : s.rest = s.rest.takeWhile isNumberPart ++ s.rest.dropWhile isNumberPart :=
    List.takeWhile_append_dropWhile.symm
  have hCut := h.after_eq_of_append hSplit hRest
  have hHere : s.rest = [] ++ s.rest := rfl
  have hWord : ∀ c, isNumberPart c → IsWordPart c := fun _ => isWordPart_of_isNumberPart
  unfold readNumber
  simp only
  split
  · refine .done (h.takeWhile hCut hHere ?_ (List.forall_mem_nil _) hWord)
    simp [Writes]
  · split
    · rename_i hDot
      rw [hDot] at hSplit
      exact .done (h.silent hCut hSplit .dot rfl (.inl rfl))
    · refine .done (h.takeWhile hCut hHere ?_ (List.forall_mem_nil _) hWord)
      simp [Writes]
  · exact .fail h _ _

/-- A word of letters, with a sign before it or without one. -/
theorem Traced.letters {sign : List Char} (h : Traced source cut ps s)
    (hCut : Region.after .code cut = .code) (hRest : s.rest = sign ++ rest)
    (hWrites : Writes ⟨s.line, kind, String.ofList (rest.takeWhile isLetter)⟩
      (sign ++ rest.takeWhile isLetter))
    (hSign : ∀ c ∈ sign, IsWordPart c) : ∃ cut ps, Traced source cut ps
      ((s.emit kind (rest.takeWhile isLetter)).advanceTo (rest.dropWhile isLetter)) :=
  ⟨_, _, h.takeWhile hCut hRest hWrites hSign fun _ => isWordPart_of_isLetter⟩

theorem readIdentifier_traces (h : Traced source cut ps s) :
    Traces source (readIdentifier s) := by
  unfold readIdentifier
  simp only
  split
  · exact .fail h _ _
  · split
    · exact .fail h _ _
    · rename_i hName _
      have hSome : s.rest ≠ [] := by
        rintro hNil
        rw [hNil] at hName
        exact hName rfl
      have hHere : s.rest = [] ++ s.rest := rfl
      have hWrites : Writes ⟨s.line, .newIdentifier, String.ofList (s.rest.takeWhile isLetter)⟩
          ([] ++ s.rest.takeWhile isLetter) := by
        simp [Writes]
      obtain ⟨cut', ps', hTraced⟩ :=
        h.letters (h.after_eq hSome) hHere hWrites (List.forall_mem_nil _)
      -- registering the name leaves everything a place depends on as it is
      exact .done ⟨hTraced.source_eq, hTraced.divided, hTraced.tokens_eq, hTraced.lines,
        hTraced.line, hTraced.region⟩

theorem beginsToken_of_isGap (h : isGap c) : beginsToken c = false := by
  simp only [isGap, Bool.or_eq_true, decide_eq_true_eq] at h
  obtain (rfl | rfl) | rfl := h <;> decide

theorem forall_takeWhile_isGap (cs : List Char) :
    ∀ c ∈ cs.takeWhile isGap, beginsToken c = false := fun c hMem =>
  beginsToken_of_isGap (List.all_eq_true.mp List.all_takeWhile c hMem)

theorem count_takeWhile_isGap (cs : List Char) : (cs.takeWhile isGap).count '\n' = 0 := by
  refine List.count_eq_zero.mpr fun hMem => ?_
  cases List.all_eq_true.mp List.all_takeWhile '\n' hMem

theorem skipGap_traces (h : Traced source cut ps s) : ∃ cut, Traced source cut ps (skipGap s) := by
  have hSplit : s.rest = s.rest.takeWhile isGap ++ s.rest.dropWhile isGap :=
    List.takeWhile_append_dropWhile.symm
  unfold skipGap
  split
  · rename_i rest hBreak
    have hRest : s.rest =
        (s.rest.takeWhile isGap ++ '\n' :: rest.takeWhile isGap) ++ rest.dropWhile isGap := by
      rw [List.append_assoc, List.cons_append, List.takeWhile_append_dropWhile, ← hBreak]
      exact hSplit
    have hGap : ∀ c ∈ s.rest.takeWhile isGap ++ '\n' :: rest.takeWhile isGap,
        beginsToken c = false :=
      List.forall_mem_append.mpr ⟨forall_takeWhile_isGap _,
        List.forall_mem_cons.mpr ⟨by decide, forall_takeWhile_isGap _⟩⟩
    have hTraced := h.inert hRest hGap
    simp only [List.count_append, List.count_cons_self, count_takeWhile_isGap] at hTraced
    exact ⟨_, hTraced⟩
  · have hTraced := h.inert hSplit (forall_takeWhile_isGap _)
    rw [count_takeWhile_isGap] at hTraced
    exact ⟨_, hTraced⟩

theorem readDeclaration_traces (h : Traced source cut ps s) (hRest : s.rest = '#' :: rest) :
    Traces source (readDeclaration s rest) := by
  have hSplit : s.rest = ['#'] ++ rest := hRest
  have hCut := h.after_eq_of_append hSplit (List.cons_ne_nil _ _)
  have hSign : ∀ c ∈ ['#'], IsWordPart c := by simp [IsWordPart]
  have hWrites : ∀ kind, kind = .define ∨ kind = .declaration →
      Writes ⟨s.line, kind, String.ofList (rest.takeWhile isLetter)⟩
        (['#'] ++ rest.takeWhile isLetter) := by
    rintro kind (rfl | rfl) <;> simp [Writes]
  unfold readDeclaration
  simp only
  split
  · exact .fail h _ _
  · split
    · obtain ⟨cut, ps, hMarked⟩ := h.letters hCut hSplit (hWrites .define (.inl rfl)) hSign
      obtain ⟨cut, hTraced⟩ := skipGap_traces hMarked
      exact readIdentifier_traces hTraced
    · obtain ⟨cut, ps, hTraced⟩ :=
        h.letters hCut hSplit (hWrites .declaration (.inr rfl)) hSign
      exact .done hTraced

theorem readShape_traces (h : Traced source cut ps s) (hRest : s.rest = '@' :: rest) :
    Traces source (readShape s rest) := by
  have hSplit : s.rest = ['@'] ++ rest := hRest
  have hCut := h.after_eq_of_append hSplit (List.cons_ne_nil _ _)
  have hWrites : Writes ⟨s.line, .shapeFunction, String.ofList (rest.takeWhile isLetter)⟩
      (['@'] ++ rest.takeWhile isLetter) := by
    simp [Writes]
  unfold readShape
  simp only
  split
  · obtain ⟨cut, ps, hTraced⟩ := h.letters hCut hSplit hWrites (by simp [IsWordPart])
    exact .done hTraced
  · exact .fail h _ _

theorem readWord_traces (h : Traced source cut ps s) (hSome : s.rest ≠ []) :
    Traces source (readWord s) := by
  have hLetters : ∀ kind, Writes ⟨s.line, kind, String.ofList (s.rest.takeWhile isLetter)⟩
      (s.rest.takeWhile isLetter) → Traces source
        ((s.advanceTo (s.rest.dropWhile isLetter)).emit kind (s.rest.takeWhile isLetter),
          none) := by
    intro kind hWrites
    have hHere : s.rest = [] ++ s.rest := rfl
    obtain ⟨cut, ps, hTraced⟩ :=
      h.letters (h.after_eq hSome) hHere hWrites (List.forall_mem_nil _)
    exact .done hTraced
  unfold readWord
  simp only
  split
  · exact hLetters _ (by simp [Writes])
  · split
    · exact hLetters _ (by simp [Writes])
    · exact .fail h _ _

theorem afterComment_traces (h : Traced source cut ps s) (hRest : s.rest = '%' :: rest) :
    Traces source (s.advanceTo (afterComment rest), none) := by
  have hCut := h.after_eq (by rw [hRest]; exact List.cons_ne_nil _ _)
  have hInside : ∀ c ∈ rest.takeWhile (· != '%'), c ≠ '%' := by
    intro c hMem
    simpa using List.all_eq_true.mp List.all_takeWhile c hMem
  have hSplit : rest = rest.takeWhile (· != '%') ++ rest.dropWhile (· != '%') :=
    List.takeWhile_append_dropWhile.symm
  rw [afterComment]
  cases hEnd : rest.dropWhile (· != '%') with
  | nil =>
    have hAll : s.rest = '%' :: rest.takeWhile (· != '%') ++ [] := by
      rw [hRest, List.cons_append, ← hEnd, ← hSplit]
    exact .done (h.silent hCut hAll (.openComment hInside) (Region.breaks_openComment hInside)
      (.inr rfl))
  | cons c after =>
    obtain rfl : c = '%' := by
      have hFirst := List.head_dropWhile_not (· != '%') (l := rest) (by simp [hEnd])
      simpa [hEnd] using hFirst
    have hAll : s.rest = '%' :: (rest.takeWhile (· != '%') ++ ['%']) ++ after := by
      rw [hRest, List.cons_append, List.append_assoc, List.singleton_append, ← hEnd, ← hSplit]
    exact .done (h.silent hCut hAll (.comment hInside) (Region.breaks_closedComment hInside)
      (.inl (Region.after_closedComment hInside)))

theorem step_traces (h : Traced source cut ps s) : Traces source (step s) := by
  unfold step
  split
  · exact .done h
  · exact readString_traces h ‹_›
  · rename_i rest hRest
    have hSplit : s.rest = ['\n'] ++ rest := hRest
    exact .done (h.inert hSplit (List.forall_mem_singleton.mpr rfl))
  · exact readHex_traces h ‹_›
  · rename_i rest hRest
    have hSplit : s.rest = [','] ++ rest := hRest
    have hCut := h.after_eq_of_append hSplit (List.cons_ne_nil _ _)
    exact .done (h.word hCut hSplit (by simp [Writes]) (by simp [IsWordPart]))
  · exact readDeclaration_traces h ‹_›
  · exact readShape_traces h ‹_›
  · exact afterComment_traces h ‹_›
  · rename_i c rest hQuote hBreak hHex hComma hSign hAt hPercent hRest
    split
    · rename_i hNumber
      refine readNumber_traces h ?_
      rw [hRest, List.takeWhile_cons_of_pos hNumber]
      exact List.cons_ne_nil _ _
    · split
      · exact readWord_traces h (by rw [hRest]; exact List.cons_ne_nil _ _)
      · rename_i hNumber hLetter
        have hOther : ['"', ',', '#', '@', '%'].contains c = false := by
          simpa using ⟨hQuote, hComma, hSign, hAt, hPercent⟩
        have hInert : ∀ d ∈ [c], beginsToken d = false := by
          simp only [List.forall_mem_singleton, beginsToken, hOther]
          simp [hNumber, hLetter]
        have hSplit : s.rest = [c] ++ rest := hRest
        have hTraced := h.inert hSplit hInert
        rw [List.count_singleton, if_neg (by simpa using hBreak)] at hTraced
        exact .done hTraced

theorem run_traces (h : Traced source cut ps s) (steps : Nat) : Traces source (run steps s) := by
  induction steps generalizing cut ps s with
  | zero => exact .done h
  | succ steps ih =>
    rw [run]
    split
    · exact .done h
    · have hStep := step_traces h
      split
      · rename_i next hNext
        rw [hNext] at hStep
        obtain ⟨cut, ps, hTraced⟩ := hStep.traced rfl
        exact ih hTraced
      · exact hStep

/-- Each token stands on the line that the breaks before it in code give. The breaks in literals
before it are what its line lacks, once comments are left out. -/
theorem token_line_add_breaks {n : Nat} {error : Option Error}
    (hRun : run n (State.start source) = (s, error)) :
    ∃ cut ps, cut <+: source.toList ∧ Cut cut ps ∧ ps.map Placed.token = s.tokens.toList ∧
      ∀ p ∈ ps, p.token.line = 1 + (Region.breaks Region.isCode .code p.before : Int) ∧
        p.token.line + Region.breaks Region.isLiteral .code p.before =
          1 + (Region.breaks (fun r => !r.isComment) .code p.before : Int) := by
  have hTraces := run_traces (traced_start source) n
  rw [hRun] at hTraces
  obtain ⟨cut, ps, hTaken, hDivided, hTokens, hLines⟩ := hTraces.places
  refine ⟨cut, ps, hTaken, hDivided, hTokens, fun p hMem => ?_⟩
  have hLine := hLines p hMem
  rw [lineAfter] at hLine
  rw [Region.breaks_outside_comments]
  omega

/-- A comment and a literal with a line break each, and a comma on the third line. -/
def brokenLiteral : String := "%\n%\"\n\"\n,"

theorem token_line_add_breaks_brokenLiteral : ∃ s error,
    run 5 (State.start brokenLiteral) = (s, error) ∧
      s.tokens.toList = [⟨1, .string, "\n"⟩, ⟨2, .comma, ","⟩] ∧
      ∃ cut ps, cut <+: brokenLiteral.toList ∧ Cut cut ps ∧
        ps.map Placed.token = s.tokens.toList ∧
        ∀ p ∈ ps, p.token.line + Region.breaks Region.isLiteral .code p.before =
          1 + (Region.breaks (fun r => !r.isComment) .code p.before : Int) := by
  have hRun : run 5 (State.start brokenLiteral) =
      (⟨[], 2, #[⟨1, .string, "\n"⟩, ⟨2, .comma, ","⟩], #[]⟩, none) := by
    cbv
  obtain ⟨cut, ps, hTaken, hDivided, hTokens, hLines⟩ := token_line_add_breaks hRun
  exact ⟨_, _, hRun, rfl, cut, ps, hTaken, hDivided, hTokens, fun p hMem => (hLines p hMem).2⟩

/-- The comma is not on the line it claims to be on. -/
theorem token_line_ne_brokenLiteral : ∃ ps p,
    Cut brokenLiteral.toList ps ∧
      ps.map Placed.token = (scan brokenLiteral).1.tokens.toList ∧ p ∈ ps ∧
      p.token.line ≠ 1 + (Region.breaks (fun r => !r.isComment) .code p.before : Int) := by
  have hScan : (scan brokenLiteral).1.tokens.toList =
      [⟨1, .string, "\n"⟩, ⟨2, .comma, ","⟩] := by
    cbv
  have hComment : Silent ('%' :: (['\n'] ++ ['%'])) := .comment
    (List.forall_mem_singleton.mpr (by decide))
  have hLiteral : Writes ⟨1, .string, "\n"⟩ "\"\n\"".toList := ⟨_, rfl, rfl⟩
  have hBreak : Silent ['\n'] := .inert (List.forall_mem_singleton.mpr rfl)
  have hComma : Writes ⟨2, .comma, ","⟩ [','] := rfl
  have hCut := (((Cut.nil.silent rfl hComment).lexeme rfl hLiteral).silent rfl hBreak).lexeme rfl
    hComma
  refine ⟨_, _, hCut, by rw [hScan]; rfl, List.mem_append_right _ List.mem_cons_self, ?_⟩
  decide

end PlotLang.Lexer

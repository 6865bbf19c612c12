import PlotLang.Proofs.FixedPoint
import PlotLang.Proofs.NoTrace
import PlotLang.Proofs.Vocabulary
import PlotLang.Text.Lines

/-! # Listed tokens

A listing writes the tokens one behind the other, each with a line break after it, and the text of a
literal as it is. So it has one line for each token just if no literal holds a line break. A reader
that begins a token at every line spelt like one gets the tokens back just if no line inside a
literal is spelt so. Otherwise the listing is also that of the tokens the literal falls apart into.
-/

namespace PlotLang

/-! ## The lines of one token -/

namespace Token

open Text

/-- What is listed of a token before its text. -/
def label (t : Token) : List Char :=
  t.line.repr.toList ++ '\t' :: (t.kind.tag.toList ++ ['\t'])

def numberOf (cs : List Char) : Int :=
  let (negative, digits) := Literal.sign cs
  if negative then -(Literal.value digits : Int) else Literal.value digits

/-- The token that a line is the listing of. -/
def ofListing? (cs : List Char) : Option Token :=
  match cs.splitOn '\t' with
  | number :: tag :: text => do
    let kind ← Kind.ofTag? (String.ofList tag)
    let t : Token := ⟨numberOf number, kind, String.ofList (['\t'].intercalate text)⟩
    if t.listing.toList = cs then some t else none
  | _ => none

/-- A token whose text goes on with more lines. -/
def extend (t : Token) (more : List (List Char)) : Token :=
  { t with text := String.ofList (['\n'].intercalate (t.text.toList :: more)) }

def lines (t : Token) : List (List Char) := t.listing.toList.splitOn '\n'

/-- The lines of a text behind its first one. -/
def laterLines (t : Token) : List (List Char) := (t.text.toList.splitOn '\n').tail

variable {t : Token} {cs : List Char} {more : List (List Char)}

theorem toList_listing (t : Token) : t.listing.toList = t.label ++ t.text.toList := by
  simp [listing, label]

theorem toList_repr (i : Int) :
    i.repr.toList = Decimal.withSign (decide (i < 0)) (Decimal.digits i.natAbs) := by
  cases i with
  | ofNat n => exact Nat.toList_repr
  | negSucc n =>
    change ("-" ++ (n + 1).repr).toList = _
    rw [String.toList_append, Nat.toList_repr]
    simp [Decimal.withSign, Decimal.digits, Int.negSucc_lt_zero]

theorem separator_notMem_number (i : Int) :
    '\t' ∉ i.repr.toList ∧ '\n' ∉ i.repr.toList := by
  have hDigits : ∀ c ∈ Decimal.digits i.natAbs, isDigit c := fun _ => Decimal.isDigit_of_mem_digits
  have hNone : ∀ c, isDigit c = false → c ≠ '-' → c ∉ i.repr.toList := by
    intro c hDigit hMinus hMem
    rw [toList_repr, Decimal.withSign] at hMem
    split at hMem
    · obtain hEq | hMem := List.mem_cons.mp hMem
      · exact hMinus hEq
      · exact Bool.false_ne_true (hDigit.symm.trans (hDigits c hMem))
    · exact Bool.false_ne_true (hDigit.symm.trans (hDigits c hMem))
  exact ⟨hNone _ rfl (by decide), hNone _ rfl (by decide)⟩

theorem numberOf_repr (i : Int) : numberOf i.repr.toList = i := by
  have hDigits : (Decimal.digits i.natAbs).all Lexer.isNumberPart :=
    List.all_eq_true.mpr fun c hMem =>
      Bool.or_eq_true_iff.mpr (.inl (Decimal.isDigit_of_mem_digits hMem))
  have hValue : Literal.value (Decimal.digits i.natAbs) = i.natAbs := Nat.ofDigitChars_ten_toDigits
  rw [toList_repr, numberOf]
  by_cases hNegative : i < 0
  · rw [decide_eq_true hNegative]
    change -(Literal.value (Decimal.digits i.natAbs) : Int) = i
    omega
  · rw [decide_eq_false hNegative]
    simp only [Decimal.withSign, Bool.false_eq_true, if_false, Literal.sign_eq hDigits, hValue]
    omega

theorem separator_notMem_tag (kind : Kind) :
    '\t' ∉ kind.tag.toList ∧ '\n' ∉ kind.tag.toList := by
  cases kind <;> decide

theorem break_notMem_label (t : Token) : '\n' ∉ t.label := by
  have hNumber := (separator_notMem_number t.line).2
  have hTag := (separator_notMem_tag t.kind).2
  simp [label, hNumber, hTag]

theorem break_mem_listing_iff : '\n' ∈ t.listing.toList ↔ '\n' ∈ t.text.toList := by
  rw [toList_listing, List.mem_append, or_iff_right (break_notMem_label t)]

theorem ofTag?_tag (kind : Kind) : Kind.ofTag? kind.tag = some kind := by
  cases kind <;> decide

theorem ofListing?_eq_some_iff : ofListing? cs = some t ↔ t.listing.toList = cs := by
  constructor
  · intro h
    unfold ofListing? at h
    split at h
    · obtain ⟨kind, -, h⟩ := Option.bind_eq_some_iff.mp h
      dsimp only at h
      split at h
      · rename_i hListing
        cases h
        exact hListing
      · cases h
    · cases h
  · rintro rfl
    have hSplit : t.listing.toList.splitOn '\t' =
        t.line.repr.toList :: t.kind.tag.toList :: t.text.toList.splitOn '\t' := by
      rw [toList_listing, label, List.append_assoc, List.cons_append, List.append_assoc,
        List.splitOn_append_cons_self_of_not_mem (separator_notMem_number t.line).1,
        List.singleton_append,
        List.splitOn_append_cons_self_of_not_mem (separator_notMem_tag t.kind).1]
    rw [ofListing?, hSplit]
    simp [ofTag?_tag, numberOf_repr, List.intercalate_splitOn]

theorem ofListing?_listing (t : Token) : ofListing? t.listing.toList = some t :=
  ofListing?_eq_some_iff.mpr rfl

theorem lines_extend (hFirst : '\n' ∉ t.text.toList) (hMore : ∀ l ∈ more, '\n' ∉ l) :
    (t.extend more).lines = t.listing.toList :: more := by
  have hListing : (t.extend more).listing.toList =
      ['\n'].intercalate (t.listing.toList :: more) := by
    rw [toList_listing, toList_listing, ← append_intercalate]
    simp [extend, label]
  rw [lines, hListing]
  refine List.splitOn_intercalate '\n' (List.forall_mem_cons.mpr ⟨?_, hMore⟩) (List.cons_ne_nil _ _)
  rwa [break_mem_listing_iff]

theorem laterLines_eq_nil (h : '\n' ∉ t.text.toList) : t.laterLines = [] := by
  rw [laterLines, List.splitOn_eq_singleton h, List.tail_cons]

theorem exists_first (t : Token) : ∃ first : Token, first.extend t.laterLines = t ∧
    t.lines = first.listing.toList :: t.laterLines := by
  obtain ⟨l, more, hSplit⟩ := List.exists_cons_of_ne_nil (List.splitOn_ne_nil '\n' t.text.toList)
  have hLater : t.laterLines = more := by rw [laterLines, hSplit, List.tail_cons]
  have hBreak : ∀ m ∈ l :: more, '\n' ∉ m := fun m hMem => notMem_of_mem_splitOn (hSplit ▸ hMem)
  obtain ⟨hFirst, hMore⟩ := List.forall_mem_cons.mp hBreak
  have hExtend : extend { t with text := String.ofList l } more = t := by
    have hText : ['\n'].intercalate (l :: more) = t.text.toList := by
      rw [← hSplit, List.intercalate_splitOn]
    simp [extend, hText]
  refine ⟨{ t with text := String.ofList l }, by rw [hLater, hExtend], ?_⟩
  rw [hLater, ← lines_extend (by simpa using hFirst) hMore, hExtend]

end Token

/-! ## Reading a listing -/

namespace Listing

open Text
open Token (ofListing? ofListing?_eq_some_iff ofListing?_listing)

def written (ts : List Token) : List Char := unlines (ts.flatMap Token.lines)

/-- The tokens that lines are listings of, each with the lines behind it that are none, and the
lines before the first one. -/
def gather : List (List Char) → List (List Char) × List Token
  | [] => ([], [])
  | l :: ls =>
    match ofListing? l with
    | some t => ([], t.extend (gather ls).1 :: (gather ls).2)
    | none => (l :: (gather ls).1, (gather ls).2)

def recover (cs : List Char) : List Token := (gather (lines cs)).2

/-- The tokens that the lines of one token are listings of. -/
def apart (t : Token) : List Token := (gather t.lines).2

variable {t : Token} {ts us : List Token} {ls ms : List (List Char)}

theorem gather_append (h : (gather ms).1 = []) :
    gather (ls ++ ms) = ((gather ls).1, (gather ls).2 ++ (gather ms).2) := by
  induction ls with
  | nil => exact Prod.ext h rfl
  | cons l ls ih =>
    rw [List.cons_append, gather, gather, ih]
    split <;> rfl

theorem length_gather (ls : List (List Char)) :
    (gather ls).2.length = ls.countP fun l => (ofListing? l).isSome := by
  induction ls with
  | nil => rfl
  | cons l ls ih =>
    rw [gather, List.countP_cons, ← ih]
    cases ofListing? l <;> rfl

theorem lines_gather (h : ∀ l ∈ ls, '\n' ∉ l) :
    (gather ls).1 ++ (gather ls).2.flatMap Token.lines = ls := by
  -- From the last line on: the listing of a token takes the lines that wait behind it.
  induction ls with
  | nil => rfl
  | cons l ls ih =>
    obtain ⟨hFirst, hRest⟩ := List.forall_mem_cons.mp h
    specialize ih hRest
    rw [gather]
    split
    · rename_i t hToken
      have hListing := ofListing?_eq_some_iff.mp hToken
      have hMore : ∀ m ∈ (gather ls).1, '\n' ∉ m := fun m hMem =>
        hRest m (ih ▸ List.mem_append_left _ hMem)
      have hText : '\n' ∉ t.text.toList := by rwa [← Token.break_mem_listing_iff, hListing]
      rw [List.nil_append, List.flatMap_cons, Token.lines_extend hText hMore, hListing,
        List.cons_append, ih]
    · rw [List.cons_append, ih]

theorem gather_lines (t : Token) :
    ∃ first : Token, first.extend t.laterLines = t ∧
      gather t.lines = ([], first.extend (gather t.laterLines).1 :: (gather t.laterLines).2) := by
  obtain ⟨first, hExtend, hLines⟩ := t.exists_first
  refine ⟨first, hExtend, ?_⟩
  rw [hLines, gather, ofListing?_listing]

theorem gather_lines_fst (t : Token) : (gather t.lines).1 = [] := by
  obtain ⟨first, -, hGather⟩ := gather_lines t
  rw [hGather]

theorem lines_apart (t : Token) : (apart t).flatMap Token.lines = t.lines := by
  have hBreak : ∀ l ∈ t.lines, '\n' ∉ l := fun l hMem => notMem_of_mem_splitOn hMem
  have hLines := lines_gather hBreak
  rwa [gather_lines_fst, List.nil_append] at hLines

theorem length_apart (t : Token) :
    (apart t).length = (t.laterLines.countP fun l => (ofListing? l).isSome) + 1 := by
  obtain ⟨first, -, hGather⟩ := gather_lines t
  rw [apart, hGather, List.length_cons, length_gather]

theorem gather_of_none (h : ∀ l ∈ ls, ofListing? l = none) : gather ls = (ls, []) := by
  induction ls with
  | nil => rfl
  | cons l ls ih =>
    obtain ⟨hFirst, hRest⟩ := List.forall_mem_cons.mp h
    rw [gather, hFirst, ih hRest]

theorem listing_notMem_laterLines (h : (apart t).length = 1) (u : Token) :
    u.listing.toList ∉ t.laterLines := by
  intro hMem
  rw [length_apart, Nat.add_eq_right, List.countP_eq_zero] at h
  exact h _ hMem (by rw [ofListing?_listing, Option.isSome_some])

/-- A token stays whole just if no later line of its text is the listing of a token. -/
theorem apart_eq_iff : apart t = [t] ↔ ∀ u : Token, u.listing.toList ∉ t.laterLines := by
  constructor
  · intro h
    exact listing_notMem_laterLines (congrArg List.length h)
  · intro h
    obtain ⟨first, hExtend, hGather⟩ := gather_lines t
    have hNone : ∀ l ∈ t.laterLines, ofListing? l = none := fun l hMem =>
      Option.eq_none_iff_forall_ne_some.mpr fun u hSome =>
        h u ((ofListing?_eq_some_iff.mp hSome).symm ▸ hMem)
    rw [apart, hGather, gather_of_none hNone, hExtend]

theorem gather_flatMap (ts : List Token) :
    gather (ts.flatMap Token.lines) = ([], ts.flatMap apart) := by
  induction ts with
  | nil => rfl
  | cons t ts ih =>
    rw [List.flatMap_cons, gather_append (by rw [ih]), ih, gather_lines_fst, List.flatMap_cons]
    rfl

theorem lines_written (ts : List Token) : lines (written ts) = ts.flatMap Token.lines := by
  refine lines_unlines fun l hMem => ?_
  obtain ⟨t, -, hLine⟩ := List.mem_flatMap.mp hMem
  exact notMem_of_mem_splitOn hLine

theorem recover_written (ts : List Token) : recover (written ts) = ts.flatMap apart := by
  rw [recover, lines_written, gather_flatMap]

theorem written_eq_iff : written ts = written us ↔ ts.flatMap apart = us.flatMap apart := by
  constructor
  · intro h
    rw [← recover_written, h, recover_written]
  · intro h
    -- A token that falls apart loses none of its lines.
    have hApart : ∀ vs : List Token, written (vs.flatMap apart) = written vs := by
      intro vs
      rw [written, written, List.flatMap_assoc]
      simp only [lines_apart]
    rw [← hApart ts, h, hApart]

section Pieces

variable {α β : Type} {f : α → List β} {as : List α}

theorem length_le_length_flatMap (hSome : ∀ a, f a ≠ []) (as : List α) :
    as.length ≤ (as.flatMap f).length := by
  induction as with
  | nil => exact Nat.le_refl 0
  | cons a as ih =>
    have hPositive := List.length_pos_of_ne_nil (hSome a)
    rw [List.flatMap_cons, List.length_append, List.length_cons]
    omega

theorem length_eq_one_of_flatMap (hSome : ∀ a, f a ≠ [])
    (hLength : (as.flatMap f).length = as.length) : ∀ a ∈ as, (f a).length = 1 := by
  induction as with
  | nil => nofun
  | cons a as ih =>
    have hPositive := List.length_pos_of_ne_nil (hSome a)
    have hRest := length_le_length_flatMap hSome as
    rw [List.flatMap_cons, List.length_append, List.length_cons] at hLength
    exact List.forall_mem_cons.mpr ⟨by omega, ih (by omega)⟩

end Pieces

theorem lines_ne_nil (t : Token) : t.lines ≠ [] := List.splitOn_ne_nil '\n' _

theorem apart_ne_nil (t : Token) : apart t ≠ [] := by
  intro h
  have hLength := length_apart t
  rw [h] at hLength
  cases hLength

theorem lines_written_eq_iff : lines (written ts) = ts.map (·.listing.toList) ↔
    ∀ t ∈ ts, '\n' ∉ t.text.toList := by
  rw [lines_written]
  constructor
  · intro h t hMem
    have hLength := congrArg List.length h
    rw [List.length_map] at hLength
    obtain ⟨l, hLine⟩ := List.length_eq_one_iff.mp
      (length_eq_one_of_flatMap lines_ne_nil hLength t hMem)
    have hSame : t.listing.toList = l := by
      have hJoin : ['\n'].intercalate t.lines = t.listing.toList := List.intercalate_splitOn '\n'
      rw [← hJoin, hLine, List.intercalate_singleton]
    rw [← Token.break_mem_listing_iff, hSame]
    exact notMem_of_mem_splitOn (hLine ▸ List.mem_singleton_self l : l ∈ t.lines)
  · intro h
    rw [List.map_eq_flatMap]
    refine List.flatMap_congr fun t hMem => List.splitOn_eq_singleton ?_
    rw [Token.break_mem_listing_iff]
    exact h t hMem

theorem recover_written_eq_iff : recover (written ts) = ts ↔
    ∀ t ∈ ts, ∀ u : Token, u.listing.toList ∉ t.laterLines := by
  rw [recover_written]
  constructor
  · intro h t hMem
    exact listing_notMem_laterLines
      (length_eq_one_of_flatMap apart_ne_nil (congrArg List.length h) t hMem)
  · intro h
    have hSame : ts.flatMap apart = ts.flatMap fun t => [t] :=
      List.flatMap_congr fun t hMem => apart_eq_iff.mpr (h t hMem)
    rw [hSame, List.flatMap_singleton']

theorem toList_join_listing (ts : List Token) :
    (String.join (ts.map fun t => t.listing ++ "\n")).toList = written ts := by
  rw [String.toList_join, List.flatMap_map, written, unlines, List.flatMap_assoc]
  refine List.flatMap_congr fun t _ => ?_
  rw [String.toList_append]
  exact (unlines_splitOn t.listing.toList).symm

end Listing

/-! ## The listing of a source -/

namespace Lexer

open Text

variable {t : Token} {ts : List Token}

theorem Spells.break_notMem {kind : Token.Kind} {text : String} (h : Spells kind text)
    (hKind : kind ≠ .string) : '\n' ∉ text.toList := by
  have hAll : ∀ {p : Char → Bool} {cs : List Char}, cs.all p → p '\n' = false → '\n' ∉ cs :=
    fun hAll hBreak hMem => Bool.false_ne_true (hBreak.symm.trans (List.all_eq_true.mp hAll _ hMem))
  have hWords : ∀ {words : List String}, text ∈ words → (∀ word ∈ words, '\n' ∉ word.toList) →
      '\n' ∉ text.toList :=
    fun hMem hAll => hAll text hMem
  cases kind with
  | string => exact absurd rfl hKind
  | integer => exact hAll h.2 rfl
  | float =>
    obtain ⟨whole, fraction, hText, hDigits, -⟩ := h
    have hNone := hAll hDigits rfl
    rw [List.mem_append, not_or] at hNone
    rw [hText, List.mem_append, List.mem_cons]
    simp [hNone]
  | hexColor => exact hAll h rfl
  | keyword | declaration | shapeFunction => exact hWords h (by decide)
  | comma | define =>
    obtain rfl : text = _ := h
    decide
  | _ => exact hAll h.2 (by decide)

theorem break_notMem_of_emitted (h : Emitted ts) (hMem : t ∈ ts) (hKind : t.kind ≠ .string) :
    '\n' ∉ t.text.toList := by
  obtain ⟨before, after, rfl⟩ := List.append_of_mem hMem
  exact ((h.follows rfl).spelt.spells (h.of_append rfl)).break_notMem hKind

end Lexer

theorem Compilation.tokens_eq_ok_iff {source : String} {ts : List Token} :
    (tokens source).2 = .ok ts ↔ Lexer.tokenize source = .ok ts := by
  rw [tokens, Lexer.tokenize]
  rcases Lexer.scan source with ⟨final, _ | error⟩ <;> simp

namespace Command

open Listing

variable {σ Handle : Type} {library : Expression.Library} {fs : FileSystem σ Handle}
  {arguments : List String} {files : σ} {input : List UInt8} {ts : List Token}

/-- A command that lists the tokens of the source it is given. -/
inductive Lists (fs : FileSystem σ Handle) (arguments : List String) (files : σ)
    (input : List UInt8) (ts : List Token) : Prop
  | of {i : Invocation} {source : String} (hArguments : read arguments = .ok i)
    (hTask : i.task = .tokens)
    (hSource : ((Machine.start files).attempt (i.source.read (fs.host input))).1 = .ok source)
    (hScan : Lexer.tokenize source = .ok ts) : Lists fs arguments files input ts

theorem Lists.emitted (h : Lists fs arguments files input ts) : Lexer.Emitted ts := by
  obtain ⟨-, -, -, hScan⟩ := h
  exact (Lexer.tokenize_emitted hScan).1

/-- The tokens are printed one behind the other. -/
theorem attempt_tokens {source : String} (verbose : Bool) (hScan : Lexer.tokenize source = .ok ts)
    (s : Machine σ) : ∃ log,
      s.attempt (Task.tokens.perform library (fs.host input) verbose source) =
        (.ok (), (s.complained log).printed (String.join (ts.map fun t => t.listing ++ "\n"))) := by
  refine ⟨logLines verbose (Compilation.tokens source).1, ?_⟩
  rw [Task.perform, attempt_settle_bind, Compilation.tokens_eq_ok_iff.mpr hScan]
  refine (Machine.attempt_lift (perform_printLines _ _)).trans ?_
  rw [List.map_map]
  rfl

theorem Lists.run_eq (h : Lists fs arguments files input ts) :
    ∃ output log, run library fs arguments files input = (files, ⟨output, log, .exit 0⟩) ∧
      output.toList = written ts := by
  obtain @⟨i, source, hArguments, hTask, hSource, hScan⟩ := h
  rw [run_eq_answer hArguments hSource, perform_answer, Invocation.perform]
  by_cases hEmpty : source.isEmpty
  · rw [if_pos hEmpty]
    cases String.isEmpty_iff.mp hEmpty
    cases hScan
    rw [Machine.attempt_lift (perform_tell i.verbose [.emptySource] _), report_conclude_ok]
    exact ⟨_, _, rfl, rfl⟩
  · rw [if_neg hEmpty, hTask]
    obtain ⟨log, hAttempt⟩ := attempt_tokens i.verbose hScan (.start files)
    rw [hAttempt, report_conclude_ok]
    refine ⟨_, _, rfl, ?_⟩
    rw [Machine.printed, complained_start, String.empty_append, toList_join_listing]

/-- A listing has one line for each token just if no literal holds a line break. Beginning a token
at each line that is the listing of one gives the tokens back just if no line inside a literal is;
and two sources have one listing just if their tokens fall apart into the same ones. -/
theorem run_listing (library : Expression.Library) (h : Lists fs arguments files input ts) :
    ∃ output log, run library fs arguments files input = (files, ⟨output, log, .exit 0⟩) ∧
      (Text.lines output.toList = ts.map (·.listing.toList) ↔
        ∀ t ∈ ts, t.kind = .string → '\n' ∉ t.text.toList) ∧
      (recover output.toList = ts ↔
        ∀ t ∈ ts, t.kind = .string → ∀ u : Token, u.listing.toList ∉ t.laterLines) ∧
      ∀ arguments' files' input' ts', Lists fs arguments' files' input' ts' →
        ((run library fs arguments' files' input').2.output = output ↔
          ts'.flatMap apart = ts.flatMap apart) := by
  obtain ⟨output, log, hRun, hOutput⟩ := h.run_eq
  have hPlain : ∀ t ∈ ts, t.kind ≠ .string → '\n' ∉ t.text.toList := fun t hMem hKind =>
    Lexer.break_notMem_of_emitted h.emitted hMem hKind
  refine ⟨output, log, hRun, ?_, ?_, fun arguments' files' input' ts' h' => ?_⟩
  · rw [hOutput, lines_written_eq_iff]
    refine forall₂_congr fun t hMem => ⟨fun hNone _ => hNone, fun hNone => ?_⟩
    by_cases hKind : t.kind = .string
    · exact hNone hKind
    · exact hPlain t hMem hKind
  · rw [hOutput, recover_written_eq_iff]
    refine forall₂_congr fun t hMem => ⟨fun hNone _ => hNone, fun hNone u => ?_⟩
    by_cases hKind : t.kind = .string
    · exact hNone hKind u
    · rw [Token.laterLines_eq_nil (hPlain t hMem hKind)]
      exact List.not_mem_nil
  · obtain ⟨output', log', hRun', hOutput'⟩ := h'.run_eq
    rw [hRun', ← String.toList_inj, hOutput, hOutput']
    exact written_eq_iff

/-- The second line of the literal is no listing. -/
def brokenText : List Token := [⟨1, .string, "a\nb"⟩, ⟨1, .comma, ","⟩]

theorem lists_brokenText :
    Lists FileTree.system ["tokens", "-e", "\"a\nb\","] (.empty ["w"]) [] brokenText := by
  have hArguments : read ["tokens", "-e", "\"a\nb\","] =
      .ok ⟨false, .inline "\"a\nb\",", .tokens⟩ := by
    cbv
  exact .of hArguments rfl rfl (by cbv)

/-- The tokens are read back although their listing has three lines. -/
theorem run_listing_brokenText : ∃ output log,
    run .identity FileTree.system ["tokens", "-e", "\"a\nb\","] (.empty ["w"]) [] =
        (.empty ["w"], ⟨output, log, .exit 0⟩) ∧
      Text.lines output.toList ≠ brokenText.map (·.listing.toList) ∧
      recover output.toList = brokenText := by
  obtain ⟨output, log, hRun, hLines, hRecover, -⟩ := run_listing .identity lists_brokenText
  have hApart : ∀ t ∈ brokenText, apart t = [t] := by decide
  have hBreak : ¬∀ t ∈ brokenText, t.kind = .string → '\n' ∉ t.text.toList := by decide
  exact ⟨output, log, hRun, fun hEq => hBreak (hLines.mp hEq),
    hRecover.mpr fun t hMem _ => apart_eq_iff.mp (hApart t hMem)⟩

/-- The second line of the literal is spelt like the listing of a comma. -/
def commaInText : List Token := [⟨1, .string, "a\n1\tCOMMA\t,"⟩]

def commaBehindText : List Token := [⟨1, .string, "a"⟩, ⟨1, .comma, ","⟩]

theorem lists_commaInText :
    Lists FileTree.system ["tokens", "-e", "\"a\n1\tCOMMA\t,\""] (.empty ["w"]) [] commaInText := by
  have hArguments : read ["tokens", "-e", "\"a\n1\tCOMMA\t,\""] =
      .ok ⟨false, .inline "\"a\n1\tCOMMA\t,\"", .tokens⟩ := by
    cbv
  exact .of hArguments rfl rfl (by cbv)

theorem lists_commaBehindText :
    Lists FileTree.system ["tokens", "-e", "\"a\","] (.empty ["w"]) [] commaBehindText := by
  have hArguments : read ["tokens", "-e", "\"a\","] = .ok ⟨false, .inline "\"a\",", .tokens⟩ := by
    cbv
  exact .of hArguments rfl rfl (by cbv)

/-- One token has two lines, and another source with two tokens has the same listing. -/
theorem run_listing_ambiguous : ∃ files arguments arguments' ts ts',
    Lists FileTree.system arguments files [] ts ∧ Lists FileTree.system arguments' files [] ts' ∧
      ts ≠ ts' ∧
      (run .identity FileTree.system arguments files []).2.output =
        (run .identity FileTree.system arguments' files []).2.output ∧
      Text.lines (run .identity FileTree.system arguments files []).2.output.toList ≠
        ts.map (·.listing.toList) := by
  obtain ⟨output, log, hRun, hOutput⟩ := lists_commaInText.run_eq
  obtain ⟨output', log', hRun', hOutput'⟩ := lists_commaBehindText.run_eq
  refine ⟨_, _, _, _, _, lists_commaInText, lists_commaBehindText, by decide, ?_, ?_⟩
  · rw [hRun, hRun', ← String.toList_inj, hOutput, hOutput']
    decide
  · rw [hRun, hOutput]
    decide

end Command

end PlotLang

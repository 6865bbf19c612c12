import PlotLang.Proofs.Balance
import PlotLang.Proofs.Numerals
import PlotLang.Proofs.StrictBlocks

/-! # The structure check and the builder

The check asks that an `end` follows every opener and that there is one root. Every list the builder
accepts satisfies the first, and what the check accepts cannot run out inside a block.
-/

namespace PlotLang.Grammar

open Builder
open Token (Kind)

variable {opener t : Token} {ts tokens : List Token} {fault : Fault}

/-! ## The structure check -/

/-- Every opener has some end after it, not always one of its own. -/
def EndFollows (tokens : List Token) : Prop :=
  ∀ before opener after, tokens = before ++ opener :: after → opener.opensBlock →
    ∃ close ∈ after, close.isEnd

theorem endFollows_nil : EndFollows [] := by
  intro before opener after hEq
  simp at hEq

theorem endFollows_cons_iff :
    EndFollows (t :: ts) ↔ (t.opensBlock → ∃ close ∈ ts, close.isEnd) ∧ EndFollows ts := by
  constructor
  · intro h
    refine ⟨h [] t ts rfl, fun before opener after hEq => ?_⟩
    exact h (t :: before) opener after (by rw [hEq, List.cons_append])
  · rintro ⟨hFirst, hRest⟩ before opener after hEq
    cases before with
    | nil =>
      cases hEq
      exact hFirst
    | cons u before =>
      cases hEq
      exact hRest before opener after rfl

theorem endFollows_append {us : List Token} (hUs : ∀ t ∈ us, ¬t.opensBlock) (h : EndFollows ts) :
    EndFollows (us ++ ts) := by
  induction us with
  | nil => exact h
  | cons u us ih =>
    obtain ⟨hU, hUs⟩ := List.forall_mem_cons.mp hUs
    exact endFollows_cons_iff.mpr ⟨fun hOpens => absurd hOpens hU, ih hUs⟩

theorem Balanced.endFollows (h : Balanced ts) : EndFollows ts := by
  induction h with
  | nil => exact endFollows_nil
  | @block opener close inner rest _ hInner hEnd _ ih =>
    refine endFollows_cons_iff.mpr ⟨fun _ => ⟨close, by simp, hEnd⟩, ?_⟩
    refine endFollows_append (fun t hMem => (hInner t hMem).1) ?_
    exact endFollows_cons_iff.mpr ⟨fun hOpens => absurd hOpens (not_opensBlock_of_isEnd hEnd), ih⟩

theorem afterLastEnd_of_none (h : ∀ t ∈ ts, ¬t.isEnd) : Structure.afterLastEnd ts = ts := by
  have hAll : ∀ t ∈ ts.reverse, (!t.isEnd) = true := by simpa using h
  rw [Structure.afterLastEnd, List.takeWhile_eq_self_iff.mpr hAll, List.reverse_reverse]

theorem afterLastEnd_cons_of_some (h : ∃ close ∈ ts, close.isEnd) :
    Structure.afterLastEnd (t :: ts) = Structure.afterLastEnd ts := by
  obtain ⟨close, hMem, hEnd⟩ := h
  have hNotAll : ts.reverse.takeWhile (fun t => !t.isEnd) ≠ ts.reverse := fun hAll => by
    simpa [hEnd] using List.takeWhile_eq_self_iff.mp hAll close (List.mem_reverse.mpr hMem)
  rw [Structure.afterLastEnd, List.reverse_cons, List.takeWhile_append, if_neg,
    Structure.afterLastEnd]
  exact fun hLength => hNotAll ((List.takeWhile_prefix _).eq_of_length hLength)

theorem afterLastEnd_cons_of_none (h : ∀ t ∈ ts, ¬t.isEnd) :
    Structure.afterLastEnd (t :: ts) = if t.isEnd then ts else t :: ts := by
  have hAll : ∀ t ∈ ts.reverse, (!t.isEnd) = true := by simpa using h
  rw [Structure.afterLastEnd, List.reverse_cons, List.takeWhile_append_of_pos hAll]
  cases hEnd : t.isEnd <;> simp [hEnd]

/-- Nothing before an `end` is looked at when what is open after the last one is looked for. -/
theorem afterLastEnd_append (before : List Token) {close : Token} (hEnd : close.isEnd) :
    Structure.afterLastEnd (before ++ close :: ts) = Structure.afterLastEnd ts := by
  induction before with
  | nil =>
    by_cases hClose : ∃ t ∈ ts, t.isEnd
    · exact afterLastEnd_cons_of_some hClose
    · have hNone : ∀ t ∈ ts, ¬t.isEnd := fun t hMem hEnd => hClose ⟨t, hMem, hEnd⟩
      rw [List.nil_append, afterLastEnd_cons_of_none hNone, if_pos hEnd,
        afterLastEnd_of_none hNone]
  | cons t before ih =>
    rw [List.cons_append, afterLastEnd_cons_of_some ⟨close, by simp, hEnd⟩, ih]

theorem afterLastEnd_find?_eq_none_iff :
    (Structure.afterLastEnd ts).find? Token.opensBlock = none ↔ EndFollows ts := by
  induction ts with
  | nil => exact ⟨fun _ => endFollows_nil, fun _ => rfl⟩
  | cons t ts ih =>
    rw [endFollows_cons_iff]
    by_cases hClose : ∃ close ∈ ts, close.isEnd
    · rw [afterLastEnd_cons_of_some hClose, ih]
      simp [hClose]
    · have hNone : ∀ t ∈ ts, ¬t.isEnd := fun u hMem hEnd => hClose ⟨u, hMem, hEnd⟩
      rw [afterLastEnd_of_none hNone] at ih
      rw [afterLastEnd_cons_of_none hNone, ← ih]
      by_cases hEnd : t.isEnd
      · simp [hEnd, not_opensBlock_of_isEnd hEnd]
      · simp [hEnd, hClose]

theorem check_eq_ok_iff :
    Structure.check ts = .ok () ↔ EndFollows ts ∧ ts.countP Token.isRoot = 1 := by
  rw [← afterLastEnd_find?_eq_none_iff, Structure.check, List.countP_eq_length_filter]
  split
  · rename_i hFind
    simp [hFind]
  · rename_i hFind
    split <;> simp [*]

theorem check_eq_error_of_endFollows {error : Structure.Error} (hEnds : EndFollows ts)
    (hRoot : ts.countP Token.isRoot ≠ 0) (hCheck : Structure.check ts = .error error) :
    ∃ first second others, ts.filter Token.isRoot = first :: second :: others ∧
      error = .repeatedRoot second := by
  rw [Structure.check, afterLastEnd_find?_eq_none_iff.mpr hEnds] at hCheck
  rw [List.countP_eq_length_filter] at hRoot
  match hFilter : ts.filter Token.isRoot with
  | [] => simp [hFilter] at hRoot
  | [_] => simp [hFilter] at hCheck
  | first :: second :: others =>
    simp only [hFilter, Except.error.injEq] at hCheck
    exact ⟨first, second, others, rfl, hCheck.symm⟩

theorem buildChecked_eq_ok_iff {p : Program} :
    buildChecked tokens = .ok p ↔ Structure.check tokens = .ok () ∧ build tokens = .ok p := by
  unfold buildChecked
  cases Structure.check tokens with
  | ok _ => simp [Except.mapError, bind, Except.bind]
  | error e => simp [Except.mapError, bind, Except.bind]

theorem buildChecked_eq_error_iff {fault : Fault} : buildChecked tokens = .error fault ↔
    (∃ error, Structure.check tokens = .error error ∧ fault = .malformed error) ∨
      Structure.check tokens = .ok () ∧ build tokens = .error fault := by
  unfold buildChecked
  cases Structure.check tokens with
  | ok _ => simp [Except.mapError, bind, Except.bind]
  | error e => simp [Except.mapError, bind, Except.bind, eq_comm]

/-- The check only adds to the builder that a single root is given. The builder alone accepts no
list in which an opener lacks its end, so the check never finds one missing where a program can be
built. -/
theorem buildChecked_eq_ok_iff_one_root (tokens : List Token) :
    (∀ p, buildChecked tokens = .ok p ↔ build tokens = .ok p ∧ tokens.countP Token.isRoot = 1) ∧
      ∀ p, build tokens = .ok p → Balanced tokens ∧
        ∀ error, Structure.check tokens = .error error →
          ∃ first second others, tokens.filter Token.isRoot = first :: second :: others ∧
            error = .repeatedRoot second := by
  constructor
  · intro p
    rw [buildChecked_eq_ok_iff, check_eq_ok_iff]
    constructor
    · rintro ⟨⟨-, hRoot⟩, hBuild⟩
      exact ⟨hBuild, hRoot⟩
    · rintro ⟨hBuild, hRoot⟩
      obtain ⟨items, hItems⟩ := build_eq_ok_iff.mp hBuild
      exact ⟨⟨hItems.blocks.balanced.endFollows, hRoot⟩, hBuild⟩
  · intro p hBuild
    obtain ⟨items, hItems⟩ := build_eq_ok_iff.mp hBuild
    have hBalanced := hItems.blocks.balanced
    refine ⟨hBalanced, fun error => check_eq_error_of_endFollows hBalanced.endFollows ?_⟩
    rw [hItems.blocks.countP_isRoot]
    have hRoot := (collects_iff_amounts.mp hItems).2.root
    intro hNone
    rw [List.length_eq_zero_iff.mp hNone] at hRoot
    cases hRoot

def twoRoots : List Token :=
  let block := [⟨3, .declaration, "root"⟩, ⟨3, .keyword, "box"⟩, ⟨3, .integer, "0"⟩,
    ⟨3, .integer, "0"⟩, ⟨3, .integer, "9"⟩, ⟨3, .integer, "9"⟩, ⟨4, .keyword, "axes"⟩,
    ⟨4, .variable, "x"⟩, ⟨4, .comma, ","⟩, ⟨4, .variable, "x"⟩, ⟨5, .declaration, "end"⟩]
  [⟨1, .define, "define"⟩, ⟨1, .newIdentifier, "x"⟩, ⟨2, .keyword, "max"⟩, ⟨2, .integer, "1"⟩,
    ⟨2, .declaration, "end"⟩] ++ block ++ block

theorem buildChecked_twoRoots : ∃ p, build twoRoots = .ok p ∧ buildChecked twoRoots ≠ .ok p ∧
    Balanced twoRoots ∧ ∃ first second others,
      twoRoots.filter Token.isRoot = first :: second :: others ∧
        Structure.check twoRoots = .error (.repeatedRoot second) := by
  have hOk : (build twoRoots).isOk = true := by decide +kernel
  have hCheck : Structure.check twoRoots = .error (.repeatedRoot ⟨3, .declaration, "root"⟩) := rfl
  obtain ⟨hIff, hOnly⟩ := buildChecked_eq_ok_iff_one_root twoRoots
  cases hBuild : build twoRoots with
  | error fault => simp [hBuild, Except.isOk, Except.toBool] at hOk
  | ok p =>
    obtain ⟨hBalanced, hError⟩ := hOnly p hBuild
    obtain ⟨first, second, others, hFilter, hSecond⟩ := hError _ hCheck
    refine ⟨p, rfl, fun h => ?_, hBalanced, first, second, others, hFilter, by rw [hCheck, hSecond]⟩
    exact absurd ((hIff p).mp h).2 (by decide)

/-! ## What a failing builder blames -/

/-- A fault blames the token it met, or something among the tokens taken before. -/
def Blames (taken : List Token) (next : Option Token) : Fault → Prop
  | .read (.unexpected t _) | .missingName t => next = some t
  | .unreadableNumber text =>
    ∃ t ∈ taken, t.kind ∈ Kind.numbers ∧ t.text = text ∧ number? t = none
  | .invalidColor keyword digits => keyword ∈ taken ∧ digits ∈ taken
  | .alphaOutOfRange t | .stepNotPositive t | .undefinedVariable t | .missingField _ _ t
  | .repeatedGrid t | .unknownDeclaration t | .unknownShape t => t ∈ taken
  | .read (.missingValue _) | .read (.missingValues _ _) | .malformed _ => False

variable {defs : List Definition} {table : List (String × Field)} {f : Field} {keyword : Token}
  {vs taken : List Token} {next : Option Token} {gridGiven : Bool}

theorem Blames.mono (h : Blames ts next fault) (hSub : ts ⊆ taken) : Blames taken next fault := by
  cases fault with
  | read fault => cases fault <;> exact h
  | missingName | malformed => exact h
  | unreadableNumber text =>
    obtain ⟨t, hMem, hNumber⟩ := h
    exact ⟨t, hSub hMem, hNumber⟩
  | invalidColor keyword digits => exact ⟨hSub h.1, hSub h.2⟩
  | _ => exact hSub h

theorem spaced_value_mem {kinds : List Kind} (h : Spaced kinds ts vs) (hMem : t ∈ vs) :
    t ∈ ts ∧ t.kind ∈ kinds := by
  induction h with
  | nil => cases hMem
  | value _ hKind _ ih =>
    obtain rfl | hMem := List.mem_cons.mp hMem
    · exact ⟨List.mem_cons_self, hKind⟩
    · exact ⟨List.mem_cons_of_mem _ (ih hMem).1, (ih hMem).2⟩
  | comma _ _ ih => exact ⟨List.mem_cons_of_mem _ (ih hMem).1, (ih hMem).2⟩

theorem layout_holds_value {layout : Layout} (h : layout.Holds ts vs) (hMem : t ∈ vs) :
    t ∈ ts ∧ t.kind ∈ layout.kinds := by
  cases layout with
  | one kinds expected =>
    obtain ⟨u, hKind, rfl, rfl⟩ := h
    exact ⟨hMem, by rwa [List.mem_singleton.mp hMem]⟩
  | many kinds count => exact spaced_value_mem h.1 hMem

/-- The token a search blames is among the tokens of the value. -/
theorem exists_of_firstWithout {α : Type} {answer? : Token → Option α} {blame : Token → Fault}
    (h : FirstWithout answer? blame vs fault) : ∃ t ∈ vs, answer? t = none ∧ fault = blame t := by
  obtain ⟨t, hFind, hFault⟩ := h
  exact ⟨t, List.mem_of_find?_eq_some hFind, by simpa using List.find?_some hFind, hFault⟩

theorem unreadable_blames (hKinds : f.layout.kinds = Kind.numbers) (hHolds : f.layout.Holds ts vs)
    (h : Unreadable vs fault) : Blames (keyword :: ts) next fault := by
  obtain ⟨t, hMem, hNone, rfl⟩ := exists_of_firstWithout h
  obtain ⟨hTaken, hKind⟩ := layout_holds_value hHolds hMem
  exact ⟨t, List.mem_cons_of_mem _ hTaken, hKinds ▸ hKind, rfl, hNone⟩

theorem meaningless_blames (hHolds : f.layout.Holds ts vs)
    (h : f.Meaningless defs keyword vs fault) : Blames (keyword :: ts) next fault := by
  cases f with
  | minimum | maximum | thickness | start | finish | location | box =>
    exact unreadable_blames rfl hHolds h
  | name | function => cases h
  | alpha | step =>
    obtain hUnreadable | ⟨x, -, -, rfl⟩ := h
    · exact unreadable_blames rfl hHolds hUnreadable
    · exact List.mem_cons_self
  | color | background =>
    obtain ⟨t, rfl, -, -, rfl⟩ := h
    obtain ⟨hTaken, -⟩ := layout_holds_value hHolds List.mem_cons_self
    exact ⟨List.mem_cons_self, List.mem_cons_of_mem _ hTaken⟩
  | axes =>
    obtain ⟨t, hMem, -, rfl⟩ := exists_of_firstWithout h
    exact List.mem_cons_of_mem _ (layout_holds_value hHolds hMem).1

theorem layout_refuses_blames {layout : Layout} (h : layout.Refuses keyword ts next fault)
    (hNext : next ≠ none) : Blames taken next fault := by
  cases h with
  | missing | tooFew => contradiction
  | unexpected | stray => rfl

theorem field_refuses_blames (h : f.Refuses defs keyword ts next fault) (hNext : next ≠ none) :
    Blames (keyword :: ts) next fault := by
  obtain h | ⟨vs, hHolds, hMeaningless⟩ := h
  · exact layout_refuses_blames h hNext
  · exact meaningless_blames hHolds hMeaningless

theorem Body.Refuses.blames (h : Body.Refuses defs table opener ts next fault)
    (hNext : next ≠ none) : Blames ts next fault := by
  induction h with
  | unclosed => contradiction
  | unexpected => rfl
  | value _ _ hRefuses => exact field_refuses_blames hRefuses hNext
  | field _ _ _ _ ih =>
    exact (ih hNext).mono fun t hMem => List.mem_cons_of_mem _ (List.mem_append_right _ hMem)

/-- A block that refuses its tokens blames one of them or the next one, unless there is none and
the block has been opened and not ended. -/
theorem Block.Refuses.blames (h : Block.Refuses defs gridGiven ts next fault) :
    Blames ts next fault ∨ next = none ∧ ∃ opener after, ts = opener :: after ∧
      opener.opensBlock ∧ ∀ t ∈ after, ¬t.isEnd := by
  cases h with
  | stray => exact .inl rfl
  | unknownDeclaration | unknownShape | repeatedGrid => exact .inl List.mem_cons_self
  | @nameless marker next fault hKind hNameless =>
    cases next with
    | none => exact .inr ⟨rfl, marker, [], rfl, by simp [Token.opensBlock, hKind], nofun⟩
    | some t =>
      obtain ⟨-, rfl⟩ := hNameless
      exact .inl rfl
  | @body form opener opening ts next fault hOpens _ hBody =>
    cases next with
    | none =>
      obtain ⟨hOpener, -, names, rfl, hNames⟩ := hOpens.shape
      refine .inr ⟨rfl, opener, names ++ ts, by simp, hOpener, ?_⟩
      refine List.forall_mem_append.mpr ⟨fun t hMem => ?_, fun t hMem => ?_⟩
      · exact (quiet_of_kind (List.mem_cons.mpr (.inl (hNames t hMem)))).2
      · exact not_isEnd_of_kind (hBody.kinds t hMem)
    | some t =>
      exact .inl ((hBody.blames (Option.some_ne_none t)).mono (List.subset_append_right _ _))
  | incomplete hOpens =>
    obtain ⟨-, -, names, rfl, -⟩ := hOpens.shape
    exact .inl (by simp [Blames])

/-- Where the builder stops after the check has passed. -/
theorem blames_of_check (hCheck : Structure.check tokens = .ok ()) {grown : Draft} {c : Cursor}
    (hCollect : collect tokens = ⟨grown, c, some fault⟩) :
    ∃ taken, (Cursor.start tokens).After taken c ∧ Blames taken c.rest.head? fault := by
  obtain ⟨hEnds, hRoot⟩ := check_eq_ok_iff.mp hCheck
  obtain hWalk | ⟨hWalk, hNoRoot, -⟩ := collect_fault_iff.mp hCollect
  · obtain ⟨before, inside, items, hAfter, hItems, hRefuses⟩ := walk_start_fault_iff.mp hWalk
    refine ⟨before ++ inside, hAfter, ?_⟩
    obtain hBlames | ⟨hNone, opener, after, rfl, hOpener, hNoEnd⟩ := hRefuses.blames
    · exact hBlames.mono (List.subset_append_right _ _)
    -- The opener of the block that is still open has no end after it.
    · have hTokens : tokens = before ++ opener :: after ++ c.rest := hAfter.1
      rw [List.head?_eq_none_iff.mp hNone, List.append_nil] at hTokens
      obtain ⟨close, hMem, hEnd⟩ := hEnds _ _ _ hTokens hOpener
      exact absurd hEnd (hNoEnd close hMem)
  · obtain ⟨-, items, hItems⟩ := walk_start_done_iff.mp hWalk
    have hLast := congrArg Draft.root hItems.grown_eq
    rw [foldl_add, hNoRoot] at hLast
    rw [hItems.blocks.countP_isRoot] at hRoot
    simp only [Option.or_none, List.getLast?_eq_none_iff] at hLast
    rw [hLast] at hRoot
    cases hRoot

theorem stops_of_check (hCheck : Structure.check tokens = .ok ()) :
    ∃ taken, (Cursor.start tokens).After taken (collect tokens).cursor ∧
      ∀ fault, build tokens = .error fault →
        Blames taken (collect tokens).cursor.rest.head? fault := by
  cases hCollect : collect tokens with
  | mk grown c result =>
    cases result with
    | none =>
      refine ⟨tokens, ?_, fun fault hBuild => ?_⟩
      · obtain ⟨hHere, -⟩ := walk_start_done_iff.mp (collect_done_iff.mp hCollect).1
        exact (after_all_iff.mpr ⟨rfl, hHere⟩).1
      · obtain ⟨grown', c', hFault⟩ := build_eq_error_iff.mp hBuild
        rw [hCollect] at hFault
        cases hFault
    | some cause =>
      obtain ⟨taken, hAfter, hBlames⟩ := blames_of_check hCheck hCollect
      refine ⟨taken, hAfter, fun fault hBuild => ?_⟩
      obtain ⟨grown', c', hFault⟩ := build_eq_error_iff.mp hBuild
      rw [hCollect] at hFault
      cases hFault
      exact hBlames

theorem number?_ne_none_of_emitted (h : Lexer.Emitted tokens) (hMem : t ∈ tokens)
    (hKind : t.kind ∈ Kind.numbers) : number? t ≠ none := by
  obtain ⟨before, after, hTokens⟩ := List.append_of_mem hMem
  obtain ⟨ds, hReal⟩ := Literal.real?_of_spelt (h.follows hTokens).spelt hKind
  rw [number?, hReal]
  exact Option.some_ne_none _

/-- After the check has passed the builder never runs out of tokens: it stands behind the tokens it
has taken, and what it blames is the token it met or one of those, never their end. The numbers of
a scanned source are not among it. No token is taken behind the last one: the strict builder, which
lapses where that is done, ends as the builder does. -/
theorem build_blames_of_check (tokens : List Token) (hCheck : Structure.check tokens = .ok ()) :
    (∃ taken, (Cursor.start tokens).After taken (collect tokens).cursor ∧
      ∀ fault, build tokens = .error fault →
        Blames taken (collect tokens).cursor.rest.head? fault) ∧
    (∀ source, Lexer.tokenize source = .ok tokens → ∀ text,
      build tokens ≠ .error (.unreadableNumber text)) ∧
    Strict.EndAlike (Strict.build tokens) (build tokens) := by
  refine ⟨stops_of_check hCheck, fun source hSource text hBuild => ?_,
    Strict.build_endAlike tokens⟩
  obtain ⟨taken, ⟨hTokens, -⟩, hBlames⟩ := stops_of_check hCheck
  obtain ⟨t, hMem, hKind, -, hNone⟩ := hBlames _ hBuild
  have hTaken : t ∈ tokens := by
    have hTokens : tokens = taken ++ (collect tokens).cursor.rest := hTokens
    rw [hTokens]
    exact List.mem_append_left _ hMem
  exact number?_ne_none_of_emitted (Lexer.tokenize_emitted hSource).1 hTaken hKind hNone

/-- A root whose box is a word. -/
def wordForBox : List Token :=
  [⟨1, .declaration, "root"⟩, ⟨1, .keyword, "box"⟩, ⟨1, .string, "wide"⟩, ⟨1, .declaration, "end"⟩]

theorem build_blames_wordForBox :
    (∃ taken, (Cursor.start wordForBox).After taken (collect wordForBox).cursor ∧
      Blames taken (collect wordForBox).cursor.rest.head?
        (.read (.unexpected ⟨1, .string, "wide"⟩ (.kinds Kind.numbers)))) ∧
    (∀ text, build wordForBox ≠ .error (.unreadableNumber text)) ∧
    Strict.build wordForBox ≠ .error (.lapse .pastEnd) := by
  have hSource : Lexer.tokenize "#root box \"wide\" #end" = .ok wordForBox := by
    cbv
  obtain ⟨⟨taken, hAfter, hBlames⟩, hNumbers, hAlike⟩ := build_blames_of_check wordForBox rfl
  refine ⟨⟨taken, hAfter, hBlames _ rfl⟩, hNumbers _ hSource, fun hPast => ?_⟩
  rw [hPast] at hAlike
  cases hAlike

end PlotLang.Grammar

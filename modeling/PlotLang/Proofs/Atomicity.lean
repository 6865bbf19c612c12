import PlotLang.Proofs.Walk

/-! # Builds that fail

The builder once more, now as a program that changes one state in place and keeps it when it fails.
The two agree, so a failing build has collected what the complete blocks before the failure amount
to, and it has looked at no token beyond the one it stopped before.
-/

namespace PlotLang.Builder

/-! ## The builder in place -/

namespace InPlace

structure State where
  draft : Draft
  cursor : Cursor

/-- A part of the builder. When it fails, the state stays as it was at that point. -/
abbrev Work := ExceptT Fault (StateM State)

/-- Reading looks at the draft and moves the cursor, also up to a fault. -/
def read (r : Draft → Reader α) : Work α := fun s =>
  let (result, next) := r s.draft s.cursor
  (result, { s with cursor := next })

/-- Reads all of a block, and only then changes the draft. -/
def readInto (r : Draft → Reader α) (grow : Draft → α → Draft) : Work Unit := do
  let a ← read r
  modify fun s => { s with draft := grow s.draft a }

def block (opener : Token) : Work Unit :=
  match opener.kind with
  | .define =>
    readInto (fun _ => readDefinition opener)
      fun draft d => { draft with definitions := draft.definitions ++ [d] }
  | .declaration =>
    match opener.text with
    | "root" =>
      readInto (fun draft => readRoot draft.definitions opener)
        fun draft root => { draft with root := some root }
    | "grid" =>
      readInto (fun draft => readGrid draft.grid.isSome opener)
        fun draft grid => { draft with grid := some grid }
    | _ => throw (.unknownDeclaration opener)
  | .shapeFunction =>
    readInto (fun _ => readShape opener)
      fun draft shape => { draft with shapes := draft.shapes ++ [shape] }
  | _ => throw (.read (.unexpected opener .block))

def blocks : Nat → Work Unit
  | 0 => pure ()
  | fuel + 1 => do
    match (← get).cursor.next? with
    | none => pure ()
    | some (t, next) =>
      modify fun s => { s with cursor := if beginsBlock t then next else s.cursor }
      block t
      blocks fuel

def finish : Work Program := do
  let draft := (← get).draft
  match draft.root with
  | some root => return ⟨draft.definitions, root, draft.grid, draft.shapes⟩
  | none => throw (.malformed .missingRoot)

/-- Each block takes at least its opening token, so as many blocks as tokens are enough. -/
def program (tokens : List Token) : Work Program := do
  blocks tokens.length
  finish

def run (tokens : List Token) : Except Fault Program × State :=
  program tokens ⟨{}, Cursor.start tokens⟩

/-! ## It does what the walk does -/

/-- The state after a block: a fault changes the cursor alone. -/
def State.after (s : State) : Except Fault Draft × Cursor → Except Fault Unit × State
  | (.ok grown, next) => (.ok (), ⟨grown, next⟩)
  | (.error fault, stopped) => (.error fault, { s with cursor := stopped })

theorem bind_apply (w : Work α) (f : α → Work β) (s : State) : (w >>= f) s =
    match w s with
    | (.ok a, s') => f a s'
    | (.error fault, s') => (.error fault, s') := by
  simp only [Bind.bind, ExceptT.bind, ExceptT.mk, StateT.bind, ExceptT.bindCont]
  rcases w s with ⟨_ | a, s'⟩ <;> rfl

theorem readInto_eq (r : Draft → Reader α) (grow : Draft → α → Draft) (s : State) :
    readInto r grow s =
      s.after (Reader.bind (r s.draft) (fun a => pure (grow s.draft a)) s.cursor) := by
  rw [readInto, bind_apply, read, Reader.bind]
  rcases r s.draft s.cursor with ⟨_ | a, next⟩ <;> rfl

/-- A block that fails has changed nothing but the cursor. -/
theorem block_eq (t : Token) (s : State) :
    block t s = s.after (readBlockInto s.draft t s.cursor) := by
  unfold block readBlockInto
  cases t.kind with
  | define | shapeFunction => exact readInto_eq ..
  | declaration =>
    by_cases hRoot : t.text = "root"
    · rw [hRoot]
      exact readInto_eq ..
    · by_cases hGrid : t.text = "grid"
      · rw [hGrid]
        exact readInto_eq ..
      · -- both matches on the text fall through
        simp only
        rfl
  | _ => rfl

def ofOutcome (outcome : Outcome) : Except Fault Unit × State :=
  (match outcome.fault with
    | some fault => .error fault
    | none => .ok (),
    ⟨outcome.draft, outcome.cursor⟩)

theorem blocks_cons (fuel : Nat) (draft : Draft) (t : Token) (rest : List Token)
    (position : Nat) : blocks (fuel + 1) ⟨draft, ⟨t :: rest, position⟩⟩ =
      (block t >>= fun _ => blocks fuel)
        ⟨draft, if beginsBlock t then ⟨rest, position + 1⟩ else ⟨t :: rest, position⟩⟩ := by rfl

theorem blocks_eq (fuel : Nat) (s : State) :
    blocks fuel s = ofOutcome (walk fuel s.draft s.cursor) := by
  -- both loops take one block for a unit of fuel, from any state
  induction fuel generalizing s with
  | zero => rfl
  | succ fuel ih =>
    obtain ⟨draft, rest, position⟩ := s
    cases rest with
    | nil => rfl
    | cons t rest =>
      rw [blocks_cons, bind_apply, block_eq, walk]
      dsimp only
      rcases readBlockInto draft t _ with ⟨_ | grown, next⟩
      · rfl
      · exact ih _

/-- Both builders answer the same, and stop at the same token with the same draft. -/
theorem run_eq (tokens : List Token) :
    run tokens = (build tokens, ⟨(collect tokens).draft, (collect tokens).cursor⟩) := by
  rw [run, program, bind_apply, blocks_eq, build, Grammar.collect_eq]
  rcases walk tokens.length {} (Cursor.start tokens) with
    ⟨⟨definitions, _ | root, grid, shapes⟩, c, _ | fault⟩ <;> rfl

end InPlace

end PlotLang.Builder

namespace PlotLang.Grammar

open Builder

variable {defs : List Definition} {draft : Draft} {us vs us' vs' before inside rest : List Token}
  {item item' : Item} {items items' : List Item} {fault : Fault}

/-! ## Complete blocks are prefix-free -/

theorem add_inj (h : add ⟨defs, none, none, []⟩ item = add ⟨defs, none, none, []⟩ item') :
    item = item' := by
  cases item <;> cases item' <;> simp_all [add]

/-- No more than one complete block is a beginning of the same tokens. -/
theorem Block.append_inj (h : Block defs us item) (h' : Block defs us' item')
    (hEq : us ++ vs = us' ++ vs') : us = us' ∧ vs = vs' ∧ item = item' := by
  -- Both are what the reader of blocks takes from the same tokens when nothing is collected yet.
  have hNext := nextBlock_of_block ⟨defs, none, none, []⟩ h (fun _ => rfl) vs
  have hNext' := nextBlock_of_block ⟨defs, none, none, []⟩ h' (fun _ => rfl) vs'
  rw [hEq, hNext', Prod.mk.injEq, Except.ok.injEq, Cursor.mk.injEq] at hNext
  obtain ⟨hItem, rfl, -⟩ := hNext
  exact ⟨List.append_cancel_right hEq, rfl, (add_inj hItem).symm⟩

/-- Of two lists of complete blocks that begin the same tokens, the shorter one ends where a block
of the longer one begins. -/
theorem Blocks.prefix_or_block (h : Blocks defs us items) (h' : Blocks defs us' items')
    (hEq : us ++ vs = us' ++ vs') : us' <+: us ∨ ∃ ts item,
      Block (defs ++ items.filterMap Item.definition?) ts item ∧ us ++ ts <+: us' := by
  induction h generalizing us' items' with
  | nil =>
    cases h' with
    | nil => exact .inl List.prefix_rfl
    | cons hBlock hBlocks => exact .inr ⟨_, _, by simpa using hBlock, List.prefix_append ..⟩
  | @cons defs ts rest item items hBlock hBlocks ih =>
    cases h' with
    | nil => exact .inl List.nil_prefix
    | @cons _ ts' rest' item' items' hBlock' hBlocks' =>
      rw [List.append_assoc, List.append_assoc] at hEq
      obtain ⟨rfl, hEq, rfl⟩ := hBlock.append_inj hBlock' hEq
      obtain hPrefix | ⟨next, item'', hNext, hPrefix⟩ := ih hBlocks' hEq
      · exact .inl ((List.prefix_append_right_inj ts).mpr hPrefix)
      · refine .inr ⟨next, item'', ?_, ?_⟩
        · cases item <;> simpa [List.filterMap_cons, Item.definition?] using hNext
        · rw [List.append_assoc]
          exact (List.prefix_append_right_inj ts).mpr hPrefix

/-- A block that refuses tokens has not taken a complete block first. -/
theorem Block.Refuses.not_block {next : Option Token}
    (h : Block.Refuses draft.definitions draft.grid.isSome inside next fault)
    (hPrefix : us <+: inside) : ¬Block draft.definitions us item := by
  intro hBlock
  obtain ⟨vs, rfl⟩ := hPrefix
  by_cases hAbsent : item.grid?.isSome → draft.grid = none
  · -- The reader would both take the block and refuse it.
    have hOk := nextBlock_of_block draft hBlock hAbsent (vs ++ next.toList)
    cases us with
    | nil => exact not_block_nil hBlock
    | cons t us =>
      have hError := ((nextBlock_exactAt draft t (us ++ vs ++ next.toList) 0).error_iff fault
        ⟨next.toList, (t :: us ++ vs).length⟩).mpr ⟨t :: us ++ vs, ⟨rfl, by simp⟩, by simpa using h⟩
      rw [Cursor.start, List.cons_append, ← List.append_assoc, hError] at hOk
      cases hOk
  · -- A second grid is refused at its opening token, and no block ends there.
    obtain ⟨hSome, hGrid⟩ := Classical.not_imp.mp hAbsent
    obtain ⟨form, opener, opening, body, entries, rfl, hOpens, hBody, hItem⟩ := hBlock
    obtain rfl := (makes_of_item? hItem).grid?_isSome_iff.mp hSome
    have hOpener : opening = [opener] := by
      cases hOpens
      rfl
    subst hOpener
    rw [Option.isSome_iff_ne_none.mpr hGrid] at h
    obtain ⟨hNil, -⟩ := (block_refuses_iff_of_repeatedGrid hOpens).mp h
    obtain ⟨rfl, -⟩ := List.append_eq_nil_iff.mp hNil
    cases hBody

/-! ## What a failing build has collected -/

/-- As many complete blocks as begin the tokens `ts`, and what they stand for. -/
structure Completed (ts before : List Token) (items : List Item) : Prop where
  begins : before <+: ts
  blocks : Blocks [] before items
  longest : ∀ {other items'}, other <+: ts → Blocks [] other items' → other <+: before

/-- What complete blocks amount to: all definitions and shapes in order, the last root and the
grid. -/
def amount (items : List Item) : Draft :=
  ⟨items.filterMap Item.definition?, (items.filterMap Item.root?).getLast?,
    (items.filterMap Item.grid?).getLast?, items.filterMap Item.shape?⟩

theorem Collects.eq_amount (h : Collects {} before items draft) : draft = amount items := by
  rw [← h.grown_eq, foldl_add]
  simp [amount]

theorem Collects.completed {next : Option Token} (h : Collects {} before items draft)
    (hRefuses : Block.Refuses draft.definitions draft.grid.isSome inside next fault) :
    Completed (before ++ inside) before items where
  begins := List.prefix_append ..
  blocks := h.blocks
  longest := by
    rintro other items' ⟨vs, hEq⟩ hOther
    refine (h.blocks.prefix_or_block hOther hEq.symm).resolve_right ?_
    rintro ⟨ts, item, hBlock, hPrefix⟩
    have hInside : ts <+: inside :=
      (List.prefix_append_right_inj before).mp (hPrefix.trans ⟨vs, hEq⟩)
    have hNot : ¬Block draft.definitions ts item := hRefuses.not_block hInside
    exact hNot (by rwa [h.eq_amount])

theorem Collects.run_eq (h : Collects {} before items draft) :
    (InPlace.run before).2 = ⟨draft, ⟨[], before.length⟩⟩ := by
  have hWalk := walk_start_done_iff.mpr ⟨rfl, items, h⟩
  rw [InPlace.run_eq, collect_eq, hWalk]
  -- the root may be missing, which is found out last and changes nothing
  rcases draft with ⟨definitions, _ | root, grid, shapes⟩ <;> rfl

/-- The tokens taken and the one after them decide the failure. -/
theorem Collects.run_eq_of_refuses (h : Collects {} before items draft)
    (hRefuses : Block.Refuses draft.definitions draft.grid.isSome inside rest.head? fault) :
    build (before ++ inside ++ rest) = .error fault ∧ InPlace.run (before ++ inside ++ rest) =
      (.error fault, ⟨draft, ⟨rest, (before ++ inside).length⟩⟩) := by
  have hCollect : collect (before ++ inside ++ rest) =
      ⟨draft, ⟨rest, (before ++ inside).length⟩, some fault⟩ :=
    collect_fault_iff.mpr (.inl (walk_start_fault_iff.mpr
      ⟨before, inside, items, ⟨rfl, (Nat.zero_add _).symm⟩, h, hRefuses⟩))
  have hBuild : build (before ++ inside ++ rest) = .error fault :=
    build_eq_error_iff.mpr ⟨_, _, hCollect⟩
  exact ⟨hBuild, by rw [InPlace.run_eq, hBuild, hCollect]⟩

theorem exists_append_of_take_eq {pre rest other : List α}
    (h : other.take (pre.length + 1) = (pre ++ rest).take (pre.length + 1)) :
    ∃ rest', other = pre ++ rest' ∧ rest'.head? = rest.head? := by
  have hPre : other.take pre.length = pre := by
    simpa [List.take_take] using congrArg (List.take pre.length) h
  have hNext : other[pre.length]? = (pre ++ rest)[pre.length]? := by
    simpa [List.getElem?_take] using congrArg (fun l => l[pre.length]?) h
  refine ⟨other.drop pre.length, ?_, ?_⟩
  · calc
      other = other.take pre.length ++ other.drop pre.length := (List.take_append_drop ..).symm
      _ = pre ++ other.drop pre.length := by rw [hPre]
  · rw [List.head?_drop, hNext, List.getElem?_append_right (Nat.le_refl _), Nat.sub_self,
      List.head?_eq_getElem?]

/-- A failing build has collected what the complete blocks before the failure amount to and nothing
of the block it failed in. If it stopped before a token, then no token after that one matters. -/
theorem build_fails_after_complete_blocks {tokens : List Token} {fault : Fault}
    (h : build tokens = .error fault) : ∃ draft k before items, k ≤ tokens.length ∧
      InPlace.run tokens = (.error fault, ⟨draft, ⟨tokens.drop k, k⟩⟩) ∧
      Completed (tokens.take k) before items ∧ draft = amount items ∧
      (InPlace.run before).2 = ⟨draft, ⟨[], before.length⟩⟩ ∧
      (k < tokens.length → ∀ other, other.take (k + 1) = tokens.take (k + 1) →
        build other = .error fault ∧
          InPlace.run other = (.error fault, ⟨draft, ⟨other.drop k, k⟩⟩)) := by
  obtain ⟨draft, c, hCollect⟩ := build_eq_error_iff.mp h
  obtain hWalk | ⟨hWalk, -, -⟩ := collect_fault_iff.mp hCollect
  · obtain ⟨before, inside, items, ⟨hTokens, hPosition⟩, hCollects, hRefuses⟩ :=
      walk_start_fault_iff.mp hWalk
    obtain ⟨rest, k⟩ := c
    obtain rfl : k = (before ++ inside).length := hPosition.trans (Nat.zero_add _)
    obtain rfl : tokens = before ++ inside ++ rest := hTokens
    refine ⟨draft, (before ++ inside).length, before, items, by simp, ?_, ?_,
      hCollects.eq_amount, hCollects.run_eq, ?_⟩
    · rw [(hCollects.run_eq_of_refuses hRefuses).2, List.drop_left]
    · rw [List.take_left]
      exact hCollects.completed hRefuses
    · intro _ other hOther
      obtain ⟨rest', rfl, hHead⟩ := exists_append_of_take_eq hOther
      rw [List.drop_left]
      exact hCollects.run_eq_of_refuses (hHead ▸ hRefuses)
  · -- All the tokens are complete blocks, and none of them is a root.
    obtain ⟨rfl, items, hCollects⟩ := walk_start_done_iff.mp hWalk
    refine ⟨draft, tokens.length, tokens, items, Nat.le_refl _, ?_, ?_, hCollects.eq_amount,
      hCollects.run_eq, fun hLess => absurd hLess (Nat.lt_irrefl _)⟩
    · rw [InPlace.run_eq, h, hCollect, List.drop_length]
    · rw [List.take_length]
      exact ⟨List.prefix_rfl, hCollects.blocks, fun hPrefix _ => hPrefix⟩

def forgottenMaximum : List Token :=
  [⟨1, .shapeFunction, "graph"⟩, ⟨1, .keyword, "function"⟩, ⟨1, .string, "x"⟩,
    ⟨1, .declaration, "end"⟩, ⟨2, .define, "define"⟩, ⟨2, .newIdentifier, "a"⟩,
    ⟨3, .declaration, "end"⟩, ⟨4, .comma, ","⟩]

/-- The graph has been collected, and nothing after the comma changes that. -/
theorem build_fails_after_complete_blocks_forgottenMaximum :
    build forgottenMaximum = .error (.missingField "max"
        "Need to specify a maximum value for the variable 'a'" ⟨2, .define, "define"⟩) ∧
      ∀ rest, (InPlace.run (forgottenMaximum ++ rest)).2 =
        ⟨⟨[], none, none, [.graph "x" none none none]⟩, ⟨⟨4, .comma, ","⟩ :: rest, 7⟩⟩ := by
  have hFails : build forgottenMaximum = .error (.missingField "max"
      "Need to specify a maximum value for the variable 'a'" ⟨2, .define, "define"⟩) := rfl
  obtain ⟨draft, k, before, items, -, hRun, -, -, -, hOther⟩ :=
    build_fails_after_complete_blocks hFails
  have hState : ⟨⟨[], none, none, [.graph "x" none none none]⟩, ⟨[⟨4, .comma, ","⟩], 7⟩⟩ =
      InPlace.State.mk draft ⟨forgottenMaximum.drop k, k⟩ := congrArg Prod.snd hRun
  rw [InPlace.State.mk.injEq, Cursor.mk.injEq] at hState
  obtain ⟨rfl, -, rfl⟩ := hState
  refine ⟨hFails, fun rest => ?_⟩
  obtain ⟨-, hRest⟩ := hOther (by decide) (forgottenMaximum ++ rest) rfl
  exact congrArg Prod.snd hRest

end PlotLang.Grammar

import PlotLang.Proofs.Blocks

/-! # Walking over the blocks

The walk ends without a fault just when the tokens are complete blocks one after another, and with
one just when a block refuses the tokens after some complete blocks. The draft holds what the
complete blocks amount to in either case, so the builder accepts the grammar and nothing else.
-/

namespace PlotLang.Grammar

open Builder

variable {defs : List Definition} {draft grown : Draft} {ts : List Token} {item : Item}
  {items : List Item} {fault : Fault}

/-! ## What complete blocks amount to -/

theorem add_definitions (draft : Draft) (item : Item) :
    (add draft item).definitions = draft.definitions ++ item.definition?.toList := by
  cases item <;> simp [add, Item.definition?]

theorem foldl_add (draft : Draft) (items : List Item) : items.foldl add draft =
    ⟨draft.definitions ++ items.filterMap Item.definition?,
      (items.filterMap Item.root?).getLast?.or draft.root,
      (items.filterMap Item.grid?).getLast?.or draft.grid,
      draft.shapes ++ items.filterMap Item.shape?⟩ := by
  induction items generalizing draft with
  | nil => simp
  | cons item items ih =>
    rw [List.foldl_cons, ih]
    cases item <;>
      simp [add, List.filterMap_cons, Item.definition?, Item.root?, Item.grid?, Item.shape?,
        List.getLast?_cons]

/-- The tokens are complete blocks, no more than one grid is given, and `grown` is what the blocks
add to `draft`. -/
structure Collects (draft : Draft) (ts : List Token) (items : List Item) (grown : Draft) :
    Prop where
  blocks : Blocks draft.definitions ts items
  oneGrid : (draft.grid.toList ++ items.filterMap Item.grid?).length ≤ 1
  grown_eq : items.foldl add draft = grown

theorem blocks_nil_iff : Blocks defs ts [] ↔ ts = [] := by
  constructor
  · intro h
    cases h
    rfl
  · rintro rfl
    exact .nil

theorem blocks_cons_iff : Blocks defs ts (item :: items) ↔
    ∃ us vs, ts = us ++ vs ∧ Block defs us item ∧
      Blocks (defs ++ item.definition?.toList) vs items := by
  constructor
  · intro h
    cases h with
    | cons hBlock hBlocks => exact ⟨_, _, rfl, hBlock, hBlocks⟩
  · rintro ⟨us, vs, rfl, hBlock, hBlocks⟩
    exact .cons hBlock hBlocks

theorem blocks_of_nil (h : Blocks defs [] items) : items = [] := by
  cases items with
  | nil => rfl
  | cons item items =>
    obtain ⟨us, vs, hEq, hBlock, -⟩ := blocks_cons_iff.mp h
    obtain ⟨rfl, -⟩ := List.append_eq_nil_iff.mp hEq.symm
    exact absurd hBlock not_block_nil

theorem collects_nil_iff : Collects draft ts [] grown ↔ ts = [] ∧ grown = draft := by
  constructor
  · rintro ⟨hBlocks, -, rfl⟩
    exact ⟨blocks_nil_iff.mp hBlocks, rfl⟩
  · rintro ⟨rfl, rfl⟩
    exact ⟨.nil, by cases grown.grid <;> simp, rfl⟩

theorem oneGrid_cons_iff :
    (draft.grid.toList ++ (item :: items).filterMap Item.grid?).length ≤ 1 ↔
      (item.grid?.isSome → draft.grid = none) ∧
        ((add draft item).grid.toList ++ items.filterMap Item.grid?).length ≤ 1 := by
  cases item with
  | grid g => cases hGrid : draft.grid <;> simp [Item.grid?, add]
  | _ => simp [List.filterMap_cons, Item.grid?, add]

theorem collects_cons_iff : Collects draft ts (item :: items) grown ↔
    ∃ us vs, ts = us ++ vs ∧ Block draft.definitions us item ∧
      (item.grid?.isSome → draft.grid = none) ∧ Collects (add draft item) vs items grown := by
  constructor
  · rintro ⟨hBlocks, hGrid, hGrown⟩
    obtain ⟨us, vs, rfl, hBlock, hBlocks⟩ := blocks_cons_iff.mp hBlocks
    obtain ⟨hAbsent, hGrid⟩ := oneGrid_cons_iff.mp hGrid
    exact ⟨us, vs, rfl, hBlock, hAbsent, by rwa [add_definitions], hGrid, hGrown⟩
  · rintro ⟨us, vs, rfl, hBlock, hAbsent, hBlocks, hGrid, hGrown⟩
    rw [add_definitions] at hBlocks
    exact ⟨.cons hBlock hBlocks, oneGrid_cons_iff.mpr ⟨hAbsent, hGrid⟩, hGrown⟩

/-! ## The walk -/

variable {t : Token} {rest : List Token} {position fuel : Nat} {c c' : Cursor}

theorem walk_cons : walk (fuel + 1) draft ⟨t :: rest, position⟩ =
    match nextBlock draft ⟨t :: rest, position⟩ with
    | (.ok next, m) => walk fuel next m
    | (.error fault, stopped) => ⟨draft, stopped, some fault⟩ := rfl

theorem walk_cons_done_iff :
    walk (fuel + 1) draft ⟨t :: rest, position⟩ = ⟨grown, c', none⟩ ↔
      ∃ next m, nextBlock draft ⟨t :: rest, position⟩ = (.ok next, m) ∧
        walk fuel next m = ⟨grown, c', none⟩ := by
  rw [walk_cons]
  cases nextBlock draft ⟨t :: rest, position⟩ with
  | mk result m => cases result <;> simp [and_assoc]

theorem walk_cons_fault_iff :
    walk (fuel + 1) draft ⟨t :: rest, position⟩ = ⟨grown, c', some fault⟩ ↔
      (nextBlock draft ⟨t :: rest, position⟩ = (.error fault, c') ∧ grown = draft) ∨
      ∃ next m, nextBlock draft ⟨t :: rest, position⟩ = (.ok next, m) ∧
        walk fuel next m = ⟨grown, c', some fault⟩ := by
  rw [walk_cons]
  cases nextBlock draft ⟨t :: rest, position⟩ with
  | mk result m =>
    cases result with
    | ok next => simp [and_assoc]
    | error cause =>
      simp only [Outcome.mk.injEq, Option.some.injEq, Prod.mk.injEq, Except.error.injEq,
        reduceCtorEq, false_and, exists_false, or_false]
      constructor
      · rintro ⟨rfl, rfl, rfl⟩
        exact ⟨⟨rfl, rfl⟩, rfl⟩
      · rintro ⟨⟨rfl, rfl⟩, rfl⟩
        exact ⟨rfl, rfl, rfl⟩

theorem walk_nil_done_iff : walk fuel draft ⟨[], position⟩ = ⟨grown, c', none⟩ ↔
    ∃ ts items, Cursor.After ⟨[], position⟩ ts c' ∧ Collects draft ts items grown ∧
      c'.rest = [] := by
  have hWalk : walk fuel draft ⟨[], position⟩ = ⟨draft, ⟨[], position⟩, none⟩ := by
    cases fuel <;> rfl
  rw [hWalk, Outcome.mk.injEq]
  constructor
  · rintro ⟨rfl, rfl, -⟩
    exact ⟨[], [], Cursor.after_nil_iff.mpr rfl, collects_nil_iff.mpr ⟨rfl, rfl⟩, rfl⟩
  · rintro ⟨ts, items, hTs, hItems, -⟩
    obtain ⟨rfl, -⟩ := List.append_eq_nil_iff.mp hTs.1.symm
    obtain rfl := blocks_of_nil hItems.blocks
    exact ⟨(collects_nil_iff.mp hItems).2.symm, (Cursor.after_nil_iff.mp hTs).symm, rfl⟩

theorem walk_nil_fault_iff : walk fuel draft ⟨[], position⟩ = ⟨grown, c', some fault⟩ ↔
    ∃ before inside items, Cursor.After ⟨[], position⟩ (before ++ inside) c' ∧
      Collects draft before items grown ∧
        Block.Refuses grown.definitions grown.grid.isSome inside c'.rest.head? fault := by
  have hWalk : walk fuel draft ⟨[], position⟩ = ⟨draft, ⟨[], position⟩, none⟩ := by
    cases fuel <;> rfl
  rw [hWalk, Outcome.mk.injEq]
  constructor
  · rintro ⟨-, -, hFault⟩
    cases hFault
  · rintro ⟨before, inside, items, hTs, -, hRefuses⟩
    obtain ⟨hTaken, hRest⟩ := List.append_eq_nil_iff.mp hTs.1.symm
    obtain ⟨-, rfl⟩ := List.append_eq_nil_iff.mp hTaken
    rw [hRest] at hRefuses
    obtain ⟨t, hNext, -⟩ := block_refuses_nil_iff.mp hRefuses
    cases hNext

/-- A block takes at least its first token, so there is fuel for the blocks after it. -/
theorem length_le_of_block {m : Cursor} (hAfter : Cursor.After ⟨t :: rest, position⟩ ts m)
    (hBlock : Block defs ts item) (hFuel : (t :: rest).length ≤ fuel + 1) :
    m.rest.length ≤ fuel := by
  cases ts with
  | nil => exact absurd hBlock not_block_nil
  | cons u us =>
    have hLength := hAfter.length_le
    simp only [List.length_cons] at hFuel hLength
    omega

theorem walk_done_iff (hFuel : c.rest.length ≤ fuel) :
    walk fuel draft c = ⟨grown, c', none⟩ ↔
      ∃ ts items, c.After ts c' ∧ Collects draft ts items grown ∧ c'.rest = [] := by
  induction fuel generalizing draft c with
  | zero =>
    obtain ⟨rest, position⟩ := c
    obtain rfl := List.length_eq_zero_iff.mp (Nat.le_zero.mp hFuel)
    exact walk_nil_done_iff
  | succ fuel ih =>
    obtain ⟨rest, position⟩ := c
    cases rest with
    | nil => exact walk_nil_done_iff
    | cons t rest =>
      rw [walk_cons_done_iff]
      constructor
      · rintro ⟨next, m, hNext, hWalk⟩
        obtain ⟨us, hUs, item, hBlock, hAbsent, rfl⟩ :=
          ((nextBlock_exactAt draft t rest position).ok_iff ..).mp hNext
        obtain ⟨vs, items, hVs, hItems, hEnd⟩ := (ih (length_le_of_block hUs hBlock hFuel)).mp hWalk
        exact ⟨us ++ vs, item :: items, Cursor.after_append_iff.mpr ⟨m, hUs, hVs⟩,
          collects_cons_iff.mpr ⟨us, vs, rfl, hBlock, hAbsent, hItems⟩, hEnd⟩
      · rintro ⟨ts, items, hTs, hItems, hEnd⟩
        -- The first of the given blocks is the one the reader takes, since it is exact.
        cases items with
        | nil =>
          obtain ⟨rfl, -⟩ := collects_nil_iff.mp hItems
          rw [Cursor.after_nil_iff.mp hTs] at hEnd
          cases hEnd
        | cons item items =>
          obtain ⟨us, vs, rfl, hBlock, hAbsent, hItems⟩ := collects_cons_iff.mp hItems
          obtain ⟨m, hUs, hVs⟩ := Cursor.after_append_iff.mp hTs
          exact ⟨add draft item, m,
            ((nextBlock_exactAt draft t rest position).ok_iff ..).mpr
              ⟨us, hUs, item, hBlock, hAbsent, rfl⟩,
            (ih (length_le_of_block hUs hBlock hFuel)).mpr ⟨vs, items, hVs, hItems, hEnd⟩⟩

theorem walk_fault_iff (hFuel : c.rest.length ≤ fuel) :
    walk fuel draft c = ⟨grown, c', some fault⟩ ↔
      ∃ before inside items, c.After (before ++ inside) c' ∧ Collects draft before items grown ∧
        Block.Refuses grown.definitions grown.grid.isSome inside c'.rest.head? fault := by
  induction fuel generalizing draft c with
  | zero =>
    obtain ⟨rest, position⟩ := c
    obtain rfl := List.length_eq_zero_iff.mp (Nat.le_zero.mp hFuel)
    exact walk_nil_fault_iff
  | succ fuel ih =>
    obtain ⟨rest, position⟩ := c
    cases rest with
    | nil => exact walk_nil_fault_iff
    | cons t rest =>
      rw [walk_cons_fault_iff]
      constructor
      · rintro (⟨hNext, rfl⟩ | ⟨next, m, hNext, hWalk⟩)
        · obtain ⟨inside, hInside, hRefuses⟩ :=
            ((nextBlock_exactAt grown t rest position).error_iff ..).mp hNext
          exact ⟨[], inside, [], hInside, collects_nil_iff.mpr ⟨rfl, rfl⟩, hRefuses⟩
        · obtain ⟨us, hUs, item, hBlock, hAbsent, rfl⟩ :=
            ((nextBlock_exactAt draft t rest position).ok_iff ..).mp hNext
          obtain ⟨before, inside, items, hVs, hItems, hRefuses⟩ :=
            (ih (length_le_of_block hUs hBlock hFuel)).mp hWalk
          refine ⟨us ++ before, inside, item :: items, ?_,
            collects_cons_iff.mpr ⟨us, before, rfl, hBlock, hAbsent, hItems⟩, hRefuses⟩
          rw [List.append_assoc]
          exact Cursor.after_append_iff.mpr ⟨m, hUs, hVs⟩
      · rintro ⟨before, inside, items, hTs, hItems, hRefuses⟩
        cases items with
        | nil =>
          obtain ⟨rfl, rfl⟩ := collects_nil_iff.mp hItems
          exact .inl ⟨((nextBlock_exactAt grown t rest position).error_iff ..).mpr
            ⟨inside, hTs, hRefuses⟩, rfl⟩
        | cons item items =>
          obtain ⟨us, vs, rfl, hBlock, hAbsent, hItems⟩ := collects_cons_iff.mp hItems
          rw [List.append_assoc] at hTs
          obtain ⟨m, hUs, hVs⟩ := Cursor.after_append_iff.mp hTs
          exact .inr ⟨add draft item, m,
            ((nextBlock_exactAt draft t rest position).ok_iff ..).mpr
              ⟨us, hUs, item, hBlock, hAbsent, rfl⟩,
            (ih (length_le_of_block hUs hBlock hFuel)).mpr
              ⟨vs, inside, items, hVs, hItems, hRefuses⟩⟩

/-- More fuel than tokens changes nothing. -/
theorem walk_eq_of_length_le (draft : Draft) (hFuel : c.rest.length ≤ fuel) :
    walk fuel draft c = walk c.rest.length draft c := by
  cases hWalk : walk c.rest.length draft c with
  | mk grown c' fault? =>
    cases fault? with
    | none => exact (walk_done_iff hFuel).mpr ((walk_done_iff (Nat.le_refl _)).mp hWalk)
    | some fault => exact (walk_fault_iff hFuel).mpr ((walk_fault_iff (Nat.le_refl _)).mp hWalk)

/-- After a complete block the walk goes on with what follows it. -/
theorem walk_of_block {us : List Token} (draft : Draft) (h : Block draft.definitions us item)
    (hAbsent : item.grid?.isSome → draft.grid = none) (vs : List Token) :
    walk (us ++ vs).length draft (Cursor.start (us ++ vs)) =
      walk vs.length (add draft item) ⟨vs, us.length⟩ := by
  have hNext := nextBlock_of_block draft h hAbsent vs
  cases us with
  | nil => exact absurd h not_block_nil
  | cons t us =>
    have hFuel : vs.length ≤ (us ++ vs).length := by simp
    rw [List.cons_append, Cursor.start] at hNext ⊢
    rw [List.length_cons, walk_cons, hNext]
    exact walk_eq_of_length_le _ hFuel

/-! ## The builder -/

variable {tokens : List Token} {p : Program}

theorem after_all_iff : (Cursor.start tokens).After ts c' ∧ c'.rest = [] ↔
    ts = tokens ∧ c' = ⟨[], tokens.length⟩ := by
  obtain ⟨rest, position⟩ := c'
  simp only [Cursor.After, Cursor.start, Nat.zero_add, Cursor.mk.injEq]
  constructor
  · rintro ⟨⟨hTokens, rfl⟩, rfl⟩
    rw [List.append_nil] at hTokens
    exact ⟨hTokens.symm, rfl, by rw [hTokens]⟩
  · rintro ⟨rfl, rfl, rfl⟩
    exact ⟨⟨by simp, rfl⟩, rfl⟩

theorem walk_start_done_iff : walk tokens.length {} (Cursor.start tokens) = ⟨grown, c', none⟩ ↔
    c' = ⟨[], tokens.length⟩ ∧ ∃ items, Collects {} tokens items grown := by
  have hFuel : (Cursor.start tokens).rest.length ≤ tokens.length := Nat.le_refl _
  rw [walk_done_iff hFuel]
  constructor
  · rintro ⟨ts, items, hTs, hItems, hEnd⟩
    obtain ⟨rfl, hHere⟩ := after_all_iff.mp ⟨hTs, hEnd⟩
    exact ⟨hHere, items, hItems⟩
  · rintro ⟨hHere, items, hItems⟩
    obtain ⟨hTs, hEnd⟩ := after_all_iff.mpr ⟨rfl, hHere⟩
    exact ⟨tokens, items, hTs, hItems, hEnd⟩

theorem walk_start_fault_iff :
    walk tokens.length {} (Cursor.start tokens) = ⟨grown, c', some fault⟩ ↔
      ∃ before inside items, (Cursor.start tokens).After (before ++ inside) c' ∧
        Collects {} before items grown ∧
          Block.Refuses grown.definitions grown.grid.isSome inside c'.rest.head? fault :=
  walk_fault_iff (Nat.le_refl _)

/-- A walk that meets no fault still fails if it meets no root. -/
theorem collect_eq : collect tokens =
    match walk tokens.length {} (Cursor.start tokens) with
    | ⟨⟨definitions, none, grid, shapes⟩, c, none⟩ =>
      ⟨⟨definitions, none, grid, shapes⟩, c, some (.malformed .missingRoot)⟩
    | outcome => outcome := by
  unfold collect
  rcases walk tokens.length {} (Cursor.start tokens) with
    ⟨⟨definitions, _ | root, grid, shapes⟩, c, _ | fault⟩ <;> rfl

theorem collect_done_iff : collect tokens = ⟨grown, c', none⟩ ↔
    walk tokens.length {} (Cursor.start tokens) = ⟨grown, c', none⟩ ∧ grown.root ≠ none := by
  rw [collect_eq]
  rcases walk tokens.length {} (Cursor.start tokens) with
    ⟨⟨definitions, _ | root, grid, shapes⟩, c, _ | cause⟩
  · simp only [Outcome.mk.injEq, reduceCtorEq, and_false, and_true, false_iff]
    rintro ⟨⟨rfl, -⟩, hRoot⟩
    exact hRoot rfl
  · simp
  · simp only [Outcome.mk.injEq, and_true, iff_self_and]
    rintro ⟨rfl, -⟩
    exact Option.some_ne_none root
  · simp

theorem collect_fault_iff : collect tokens = ⟨grown, c', some fault⟩ ↔
    walk tokens.length {} (Cursor.start tokens) = ⟨grown, c', some fault⟩ ∨
    (walk tokens.length {} (Cursor.start tokens) = ⟨grown, c', none⟩ ∧ grown.root = none ∧
      fault = .malformed .missingRoot) := by
  rw [collect_eq]
  rcases walk tokens.length {} (Cursor.start tokens) with
    ⟨⟨definitions, _ | root, grid, shapes⟩, c, _ | cause⟩
  · simp only [Outcome.mk.injEq, Option.some.injEq, reduceCtorEq, and_false, false_or, and_true]
    constructor
    · rintro ⟨rfl, rfl, rfl⟩
      exact ⟨⟨rfl, rfl⟩, rfl, rfl⟩
    · rintro ⟨⟨rfl, rfl⟩, -, rfl⟩
      exact ⟨rfl, rfl, rfl⟩
  · simp
  · simp only [Outcome.mk.injEq, reduceCtorEq, and_false, false_or, and_true, false_iff]
    rintro ⟨⟨rfl, -⟩, hRoot, -⟩
    cases hRoot
  · simp

theorem build_eq_program :
    build tokens = (walk tokens.length {} (Cursor.start tokens)).program := by
  rw [build, collect_eq]
  rcases walk tokens.length {} (Cursor.start tokens) with
    ⟨⟨definitions, _ | root, grid, shapes⟩, c, _ | cause⟩ <;> rfl

theorem build_eq_error_iff :
    build tokens = .error fault ↔ ∃ grown c, collect tokens = ⟨grown, c, some fault⟩ := by
  rw [build, Outcome.program, collect_eq]
  rcases walk tokens.length {} (Cursor.start tokens) with
    ⟨⟨definitions, _ | root, grid, shapes⟩, c, _ | cause⟩ <;> simp

theorem build_eq_ok_iff_walk : build tokens = .ok p ↔
    ∃ c, walk tokens.length {} (Cursor.start tokens) =
      ⟨⟨p.definitions, some p.root, p.grid, p.shapes⟩, c, none⟩ := by
  rw [build, Outcome.program, collect_eq]
  rcases walk tokens.length {} (Cursor.start tokens) with
    ⟨⟨definitions, _ | root, grid, shapes⟩, c, _ | cause⟩
  · simp
  · simp
  · simp only [Except.ok.injEq, Outcome.mk.injEq, Draft.mk.injEq, Option.some.injEq, and_true,
      exists_and_left, exists_eq']
    constructor
    · rintro rfl
      exact ⟨rfl, rfl, rfl, rfl⟩
    · rintro ⟨rfl, rfl, rfl, rfl⟩
      rfl
  · simp

theorem build_eq_ok_iff : build tokens = .ok p ↔
    ∃ items, Collects {} tokens items ⟨p.definitions, some p.root, p.grid, p.shapes⟩ := by
  simp only [build_eq_ok_iff_walk, walk_start_done_iff, exists_eq_left]

theorem getLast?_eq_iff_of_length_le_one {l : List α} {a : Option α} (h : l.length ≤ 1) :
    l.getLast? = a ↔ l = a.toList := by
  match l, h with
  | [], _ => cases a <;> simp
  | [b], _ => cases a <;> simp

theorem collects_iff_amounts :
    Collects {} tokens items ⟨p.definitions, some p.root, p.grid, p.shapes⟩ ↔
      Blocks [] tokens items ∧ Amounts items p := by
  constructor
  · rintro ⟨hBlocks, hGrid, hGrown⟩
    simp only [foldl_add, Draft.mk.injEq, List.nil_append, Option.or_none] at hGrown
    obtain ⟨hDefinitions, hRoot, hGrids, hShapes⟩ := hGrown
    have hOne := (getLast?_eq_iff_of_length_le_one hGrid).mp hGrids
    exact ⟨hBlocks, hDefinitions, hRoot, hOne, hShapes⟩
  · rintro ⟨hBlocks, hDefinitions, hRoot, hGrid, hShapes⟩
    have hOne : (items.filterMap Item.grid?).length ≤ 1 := by
      rw [hGrid]
      cases p.grid <;> simp
    refine ⟨hBlocks, hOne, ?_⟩
    simp only [foldl_add, List.nil_append, Option.or_none, hDefinitions, hRoot, hShapes,
      (getLast?_eq_iff_of_length_le_one hOne).mpr hGrid]

/-- The builder accepts exactly the grammar, and builds the program the tokens stand for. -/
theorem build_eq_ok_iff_denotes (tokens : List Token) (p : Program) :
    build tokens = .ok p ↔ Denotes tokens p := by
  rw [build_eq_ok_iff]
  exact exists_congr fun items => collects_iff_amounts

end PlotLang.Grammar

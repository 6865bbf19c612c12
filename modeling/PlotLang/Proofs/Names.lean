import PlotLang.Proofs.Emission
import PlotLang.Proofs.StructureCheck

/-! # Names resolve on scanned sources

A scan makes a word a variable as soon as its definition has begun, and the builder looks it up
among the definitions it has completed. The two agree where it matters: a new identifier is only
taken as the name of a block, so once a root block is open every identifier introduced before is
that of a completed definition.
-/

namespace PlotLang.Grammar

open Builder
open Lexer (names)
open Token (Kind)

variable {defs : List Definition} {table : List (String × Field)} {form : Form} {f : Field}
  {opener axis t : Token} {tokens ts vs : List Token} {entries : List Entry} {item : Item}
  {items : List Item} {next : Option Token} {fault : Fault} {draft : Draft}

/-! ## The names of blocks -/

theorem names_cons_of_not_name (h : t.kind ≠ .newIdentifier) : names (t :: ts) = names ts := by
  simp [names, h]

theorem names_eq_nil (h : ∀ t ∈ ts, t.kind ∈ fieldKinds) : names ts = [] := by
  have hNone : ts.filter (·.kind = .newIdentifier) = [] := by
    refine List.filter_eq_nil_iff.mpr fun t hMem hName => ?_
    have hKind := h t hMem
    rw [decide_eq_true_eq.mp hName] at hKind
    revert hKind
    decide
  rw [names, hNone, List.map_nil]

theorem not_name_of_isEnd (h : t.isEnd) : t.kind ≠ .newIdentifier := by
  simp [(isEnd_iff.mp h).1]

theorem Body.names_eq_nil (h : Body defs table ts entries) : names ts = [] := by
  obtain ⟨inner, close, rfl, hEnd, hInner⟩ := h.kinds
  rw [Lexer.names_snoc_of_not_name (not_name_of_isEnd hEnd), Grammar.names_eq_nil hInner]

/-- A block introduces an identifier just when it completes the definition of it. -/
theorem Block.names_eq (h : Block defs ts item) :
    names ts = (item.definition?.toList).map Definition.identifier := by
  obtain ⟨form, opener, opening, body, entries, rfl, hOpens, hBody, hItem⟩ := h
  rw [Lexer.names_append, hBody.names_eq_nil, List.append_nil]
  have hMakes := makes_of_item? hItem
  cases hOpens with
  | definition hMarker hName =>
    obtain ⟨d, rfl, hIdentifier⟩ := hMakes
    simp [names, hMarker, hName, Item.definition?, hIdentifier]
  | root hKind | grid hKind | line hKind | graph hKind | point hKind =>
    obtain ⟨_, rfl⟩ := hMakes
    simp [names, hKind, Item.definition?]

theorem Blocks.names_eq (h : Blocks defs ts items) :
    names ts = (items.filterMap Item.definition?).map Definition.identifier := by
  induction h with
  | nil => rfl
  | @cons defs ts rest item items hBlock _ ih =>
    rw [Lexer.names_append, hBlock.names_eq, ih, List.filterMap_cons]
    cases item.definition? <;> simp

theorem Collects.names_eq (h : Collects {} ts items draft) :
    names ts = draft.definitions.map Definition.identifier := by
  have hDefinitions := congrArg Draft.definitions h.grown_eq
  rw [foldl_add] at hDefinitions
  rw [h.blocks.names_eq, ← hDefinitions, List.nil_append]

/-! ## The definitions at a variable -/

theorem filter_eq_singleton {name : String} (hNodup : (defs.map Definition.identifier).Nodup)
    (hMem : name ∈ defs.map Definition.identifier) :
    ∃ d, defs.filter (fun d => d.identifier == name) = [d] := by
  induction defs with
  | nil => cases hMem
  | cons d defs ih =>
    obtain ⟨hNew, hNodup⟩ := List.nodup_cons.mp hNodup
    by_cases hEq : d.identifier = name
    · have hNone : defs.filter (fun d => d.identifier == name) = [] := by
        refine List.filter_eq_nil_iff.mpr fun e hE hName => hNew ?_
        rw [hEq, ← eq_of_beq hName]
        exact List.mem_map_of_mem hE
      exact ⟨d, by rw [List.filter_cons_of_pos (by simp [hEq]), hNone]⟩
    · rw [List.filter_cons_of_neg (by simp [hEq])]
      refine ih hNodup ?_
      simpa [Ne.symm hEq] using hMem

/-- Inside an open block other than a definition, the variables of a scanned source are names of
completed definitions. -/
theorem definition_unique {before inside rest : List Token} (hEmitted : Lexer.Emitted tokens)
    (hTokens : tokens = before ++ opener :: (inside ++ axis :: rest))
    (hItems : Collects {} before items draft) (hOpener : opener.kind ≠ .newIdentifier)
    (hInside : ∀ t ∈ inside, t.kind ∈ fieldKinds) (hAxis : axis.kind = .variable) :
    ∃ d, draft.definitions.filter (fun d => d.identifier == axis.text) = [d] := by
  have hSplit : tokens = (before ++ opener :: inside) ++ axis :: rest := by simp [hTokens]
  -- Since the last complete block no identifier has been introduced.
  have hNames : names (before ++ opener :: inside) =
      draft.definitions.map Definition.identifier := by
    rw [Lexer.names_append, names_cons_of_not_name hOpener, names_eq_nil hInside, List.append_nil,
      hItems.names_eq]
  have hSpelt := (hEmitted.follows hSplit).spelt
  rw [Lexer.Spelt, hAxis, hNames] at hSpelt
  have hNodup := hEmitted.nodup
  rw [hSplit, Lexer.names_append, hNames] at hNodup
  exact filter_eq_singleton (List.nodup_append.mp hNodup).1 hSpelt

/-! ## What the fields of a block fail for -/

/-- Only the values of axes are looked up, and no field asks for a name. -/
def Field.Faults (defs : List Definition) (keyword : Token) (f : Field) (ts : List Token) :
    Fault → Prop
  | .undefinedVariable axis => f = .axes ∧ axis ∈ ts ∧ axis.kind = .variable ∧
      definition? defs axis = none
  | .read (.missingValues t _) => t = keyword
  | .missingName _ => False
  | _ => True

theorem Layout.Refuses.faults {keyword : Token} {layout : Layout}
    (h : layout.Refuses keyword ts next fault) : f.Faults defs keyword ts fault := by
  cases h with
  | tooFew => rfl
  | missing | unexpected | stray => trivial

theorem Field.Refuses.faults {keyword : Token} (h : f.Refuses defs keyword ts next fault) :
    f.Faults defs keyword ts fault := by
  obtain h | ⟨vs, hHolds, hMeaningless⟩ := h
  · exact h.faults
  · cases f with
    | minimum | maximum | thickness | start | finish | location | box =>
      obtain ⟨u, -, -, rfl⟩ := exists_of_firstWithout hMeaningless
      trivial
    | alpha | step =>
      obtain hUnreadable | ⟨x, -, -, rfl⟩ := hMeaningless
      · obtain ⟨u, -, -, rfl⟩ := exists_of_firstWithout hUnreadable
        trivial
      · trivial
    | color | background =>
      obtain ⟨u, -, -, -, rfl⟩ := hMeaningless
      trivial
    | name | function => cases hMeaningless
    | axes =>
      obtain ⟨axis, hMem, hNone, rfl⟩ := exists_of_firstWithout hMeaningless
      obtain ⟨hTaken, hKind⟩ := layout_holds_value hHolds hMem
      exact ⟨rfl, hTaken, List.mem_singleton.mp hKind, hNone⟩

def Body.Faults (defs : List Definition) (table : List (String × Field)) (ts : List Token) :
    Fault → Prop
  | .undefinedVariable axis => (∃ keyword, table.lookup keyword = some .axes) ∧ axis ∈ ts ∧
      axis.kind = .variable ∧ definition? defs axis = none
  | .read (.missingValues t _) => (table.lookup t.text).isSome
  | .missingName _ => False
  | _ => True

theorem Body.Faults.mono {us : List Token} (h : Body.Faults defs table ts fault) (hSub : ts ⊆ us) :
    Body.Faults defs table us fault := by
  cases fault with
  | undefinedVariable axis => exact ⟨h.1, hSub h.2.1, h.2.2⟩
  | read cause => cases cause <;> exact h
  | _ => exact h

theorem Body.Refuses.faults (h : Body.Refuses defs table opener ts next fault) :
    Body.Faults defs table ts fault := by
  induction h with
  | unclosed | unexpected => trivial
  | @value k f ts next fault _ hField hRefuses =>
    have hFaults := Field.Refuses.faults hRefuses
    cases fault with
    | undefinedVariable axis =>
      obtain ⟨rfl, hMem, hAxis, hNone⟩ := hFaults
      exact ⟨⟨_, hField⟩, List.mem_cons_of_mem _ hMem, hAxis, hNone⟩
    | read cause =>
      cases cause with
      | missingValues t count =>
        cases hFaults
        simp [Body.Faults, hField]
      | _ => trivial
    | missingName => exact hFaults
    | _ => trivial
  | field _ _ _ _ ih =>
    exact ih.mono fun t hMem => List.mem_cons_of_mem _ (List.mem_append_right _ hMem)

/-- Of the blocks only a root has axes. -/
theorem root_of_lookup_axes {keyword : String} (h : form.table.lookup keyword = some .axes) :
    form = .root := by
  have hMem : (keyword, Field.axes) ∈ form.table := by
    obtain ⟨_, _, hTable, -⟩ := List.lookup_eq_some_iff.mp h
    simp [hTable]
  cases form <;> simp [Form.table] at hMem ⊢

theorem root_of_keyword {keyword : String} (h : (form.table.lookup keyword).isSome)
    (hAxes : keyword = "axes" ∨ keyword = "axis") : form = .root := by
  obtain rfl | rfl := hAxes <;> cases form <;> first | rfl | cases h

/-! ## Where the builder stands -/

/-- The builder comes to the variable `axis` with `draft` collected: if the tokens ended before
`axis`, the builder would end there too, asking for a value of a root's axes. -/
def ReachesAxis (tokens : List Token) (draft : Draft) (axis : Token) : Prop :=
  ∃ before rest keyword, tokens = before ++ axis :: rest ∧ axis.kind = .variable ∧
    (keyword.text = "axes" ∨ keyword.text = "axis") ∧
    collect before = ⟨draft, ⟨[], before.length⟩, some (.read (.missingValues keyword 2))⟩

/-- The faults that arise only while a value is read. -/
def OfValue : Fault → Prop
  | .undefinedVariable _ | .read (.missingValues _ _) => True
  | _ => False

/-- A fault in a value leaves a block open behind the complete ones. -/
theorem open_of_value {c : Cursor} (h : collect tokens = ⟨draft, c, some fault⟩)
    (hValue : OfValue fault) : ∃ before items form opener opening inside,
      tokens = before ++ (opening ++ inside) ++ c.rest ∧ Collects {} before items draft ∧
      Form.Opens form opener opening ∧ (∀ t ∈ inside, t.kind ∈ fieldKinds) ∧
      Body.Faults draft.definitions form.table inside fault := by
  obtain hWalk | ⟨-, -, rfl⟩ := collect_fault_iff.mp h
  · obtain ⟨before, taken, items, ⟨hTokens, -⟩, hItems, hRefuses⟩ := walk_start_fault_iff.mp hWalk
    generalize c.rest.head? = next at hRefuses
    cases hRefuses with
    | stray | unknownDeclaration | unknownShape | repeatedGrid | incomplete => cases hValue
    | nameless _ hNameless =>
      cases next with
      | none => cases hNameless; cases hValue
      | some t => cases hNameless.2; cases hValue
    | body hOpens _ hBody =>
      exact ⟨before, items, _, _, _, _, hTokens, hItems, hOpens, hBody.kinds, hBody.faults⟩
  · cases hValue

theorem Form.Opens.eq_of_root {opening : List Token} (h : Form.root.Opens opener opening) :
    opening = [opener] ∧ opener.kind ≠ .newIdentifier := by
  cases h
  simp [*]

theorem ReachesAxis.definition_unique (h : ReachesAxis tokens draft axis)
    (hEmitted : Lexer.Emitted tokens) :
    ∃ d, draft.definitions.filter (fun d => d.identifier == axis.text) = [d] := by
  obtain ⟨taken, rest, keyword, rfl, hAxis, hKeyword, hCollect⟩ := h
  obtain ⟨before, items, form, opener, opening, inside, hTaken, hItems, hOpens, hKinds, hFaults⟩ :=
    open_of_value hCollect trivial
  obtain rfl := root_of_keyword hFaults hKeyword
  obtain ⟨rfl, hOpener⟩ := hOpens.eq_of_root
  have hTokens : taken ++ axis :: rest = before ++ opener :: (inside ++ axis :: rest) := by
    simp [hTaken]
  exact Grammar.definition_unique hEmitted hTokens hItems hOpener hKinds hAxis

/-! ## Scanned sources -/

theorem build_ne_undefinedVariable (hEmitted : Lexer.Emitted tokens) (axis : Token) :
    build tokens ≠ .error (.undefinedVariable axis) := by
  intro hBuild
  obtain ⟨draft, c, hCollect⟩ := build_eq_error_iff.mp hBuild
  obtain ⟨before, items, form, opener, opening, inside, hTokens, hItems, hOpens, hKinds, hFaults⟩ :=
    open_of_value hCollect trivial
  obtain ⟨⟨keyword, hField⟩, hMem, hAxis, hNone⟩ := hFaults
  obtain rfl := root_of_lookup_axes hField
  obtain ⟨rfl, hOpener⟩ := hOpens.eq_of_root
  obtain ⟨values, after, rfl⟩ := List.append_of_mem hMem
  have hSplit : tokens = before ++ opener :: (values ++ axis :: (after ++ c.rest)) := by
    simp [hTokens]
  obtain ⟨d, hOnly⟩ := definition_unique hEmitted hSplit hItems hOpener
    (List.forall_mem_append.mp hKinds).1 hAxis
  have hD : d ∈ draft.definitions.filter fun d => d.identifier == axis.text := by simp [hOnly]
  obtain ⟨hDefined, hName⟩ := List.mem_filter.mp hD
  exact List.find?_eq_none.mp hNone d hDefined hName

/-- A name is missing behind a `define`, at the end or before another token. -/
theorem define_of_missingName {c : Cursor}
    (h : collect tokens = ⟨draft, c, some (.missingName t)⟩) :
    ∃ before marker, tokens = before ++ marker :: c.rest ∧ marker.kind = .define ∧
      (c.rest = [] ∨ c.rest.head? = some t ∧ t.kind ≠ .newIdentifier) := by
  obtain hWalk | ⟨-, -, hFault⟩ := collect_fault_iff.mp h
  · obtain ⟨before, taken, items, ⟨hTokens, -⟩, hItems, hRefuses⟩ := walk_start_fault_iff.mp hWalk
    generalize hFault : Fault.missingName t = fault at hRefuses
    generalize hNext : c.rest.head? = next at hRefuses
    cases hRefuses with
    | stray | unknownDeclaration | unknownShape | repeatedGrid | incomplete => cases hFault
    | @nameless marker _ _ hMarker hNameless =>
      refine ⟨before, marker, by simpa [Cursor.start] using hTokens, hMarker, ?_⟩
      cases next with
      | none => exact .inl (List.head?_eq_none_iff.mp hNext)
      | some u =>
        obtain ⟨hKind, hName⟩ := hNameless
        cases hFault.trans hName
        exact .inr ⟨rfl, hKind⟩
    | body _ _ hBody =>
      have hFaults := Body.Refuses.faults hBody
      rw [← hFault] at hFaults
      cases hFaults
  · cases hFault

theorem build_ne_missingName (hEmitted : Lexer.Emitted tokens) (hLast : ¬Lexer.AwaitsName tokens)
    (after : Token) : build tokens ≠ .error (.missingName after) := by
  intro hBuild
  obtain ⟨draft, c, hCollect⟩ := build_eq_error_iff.mp hBuild
  obtain ⟨before, marker, hTokens, hMarker, hNext⟩ := define_of_missingName hCollect
  obtain hNil | ⟨hHead, hKind⟩ := hNext
  · rw [hTokens, hNil] at hLast
    exact hLast (Lexer.awaitsName_snoc_iff.mpr hMarker)
  · obtain ⟨rest, hRest⟩ := List.head?_eq_some_iff.mp hHead
    have hSplit : tokens = (before ++ [marker]) ++ after :: rest := by simp [hTokens, hRest]
    exact hKind ((hEmitted.follows hSplit).named.mpr (Lexer.awaitsName_snoc_iff.mpr hMarker))

theorem build_eq_error_of_buildChecked (h : buildChecked tokens = .error fault) :
    (∃ error, fault = .malformed error) ∨ build tokens = .error fault := by
  obtain ⟨error, -, hFault⟩ | ⟨-, hBuild⟩ := buildChecked_eq_error_iff.mp h
  · exact .inl ⟨error, hFault⟩
  · exact .inr hBuild

/-- On the tokens of a source no name is undefined and none is missing, with the structure check
and without it. The variable of an axis has one definition, completed before it is reached. -/
theorem tokenize_names_resolve {source : String} {tokens : List Token}
    (hSource : Lexer.tokenize source = .ok tokens) :
    (∀ fault, build tokens = .error fault ∨ buildChecked tokens = .error fault →
      (∀ axis, fault ≠ .undefinedVariable axis) ∧ ∀ after, fault ≠ .missingName after) ∧
    ∀ draft axis, ReachesAxis tokens draft axis →
      ∃ d, draft.definitions.filter (fun d => d.identifier == axis.text) = [d] := by
  obtain ⟨hEmitted, hLast⟩ := Lexer.tokenize_emitted hSource
  refine ⟨fun fault hFault => ?_, fun draft axis hReach => hReach.definition_unique hEmitted⟩
  have hBuild : (∃ error, fault = .malformed error) ∨ build tokens = .error fault := by
    obtain hBuild | hChecked := hFault
    · exact .inr hBuild
    · exact build_eq_error_of_buildChecked hChecked
  obtain ⟨error, rfl⟩ | hBuild := hBuild
  · exact ⟨nofun, nofun⟩
  · constructor
    · rintro axis rfl
      exact build_ne_undefinedVariable hEmitted axis hBuild
    · rintro after rfl
      exact build_ne_missingName hEmitted hLast after hBuild

/-- A definition and a root without a box. -/
def rootWithoutBox : List Token :=
  [⟨1, .define, "define"⟩, ⟨1, .newIdentifier, "x"⟩, ⟨1, .keyword, "max"⟩, ⟨1, .integer, "1"⟩,
    ⟨1, .declaration, "end"⟩, ⟨1, .declaration, "root"⟩, ⟨1, .keyword, "axes"⟩,
    ⟨1, .variable, "x"⟩, ⟨1, .comma, ","⟩, ⟨1, .variable, "x"⟩, ⟨1, .declaration, "end"⟩]

theorem names_resolve_rootWithoutBox :
    ∃ fault draft, build rootWithoutBox = .error fault ∧ (∀ axis, fault ≠ .undefinedVariable axis) ∧
      ReachesAxis rootWithoutBox draft ⟨1, .variable, "x"⟩ ∧
        ∃ d, draft.definitions.filter (fun d => d.identifier == "x") = [d] := by
  have hSource : Lexer.tokenize "#define x max 1 #end #root axes x, x #end" =
      .ok rootWithoutBox := by
    cbv
  have hBuild : build rootWithoutBox = .error (.missingField "box"
      "Need to specify a box for the root" ⟨1, .declaration, "root"⟩) := by
    with_unfolding_all rfl
  have hReach : ReachesAxis rootWithoutBox { definitions := [⟨"x", none, 0, 1⟩] }
      ⟨1, .variable, "x"⟩ := by
    have hDraft : (collect (rootWithoutBox.take 7)).draft =
        { definitions := [⟨"x", none, 0, 1⟩] } := by decide +kernel
    have hStop : (collect (rootWithoutBox.take 7)).cursor = ⟨[], 7⟩ := by decide +kernel
    have hFault : (collect (rootWithoutBox.take 7)).fault =
        some (.read (.missingValues ⟨1, .keyword, "axes"⟩ 2)) := by decide +kernel
    refine ⟨rootWithoutBox.take 7, rootWithoutBox.drop 8, ⟨1, .keyword, "axes"⟩, rfl, rfl, .inl rfl,
      ?_⟩
    rw [← hDraft, ← hFault]
    exact hStop ▸ rfl
  obtain ⟨hFaults, hAxes⟩ := tokenize_names_resolve hSource
  exact ⟨_, _, hBuild, (hFaults _ (.inl hBuild)).1, hReach, hAxes _ _ hReach⟩

end PlotLang.Grammar

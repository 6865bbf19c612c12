import PlotLang.Markup

/-! # Reading a document back

A reader of tags knows nothing of lines, indentation or trees: between tags it skips blanks, and in
a tag it takes a name and values between quotes. Reading a document back gives its tags in the order
of its tree, if no value holds a quote or an angle bracket that opens a tag. An escaped text never
does, and undoing the entities in one pass gives the text.
-/

namespace PlotLang.Markup

inductive Tag.Kind where
  | declaration
  | opening
  | empty
  | closing
  deriving DecidableEq, Repr

structure Tag where
  kind : Tag.Kind
  name : String
  attributes : List Attribute
  deriving DecidableEq, Repr

/-- The values of an attribute as they stand between the quotes. -/
def Tag.values (t : Tag) (name : String) : List (List Char) :=
  (t.attributes.filter (·.name = name)).map Attribute.value

namespace Reader

def isBlank (c : Char) : Bool := c = ' ' || c = '\n'

def isNameChar (c : Char) : Bool := c.isAlphanum || c = '-'

def isValueChar (c : Char) : Bool := c ≠ '"' && c ≠ '<'

/-- Where a reader is; in a tag, with what it has read of it. -/
inductive Place where
  | outside
  | name (tag : Tag)
  | between (tag : Tag)
  | attribute (tag : Tag) (name : String)
  | equals (tag : Tag) (name : String)
  | value (tag : Tag) (name : String) (text : List Char)
  | last (tag : Tag)
  deriving DecidableEq, Repr

/-- Between the attributes of a tag, where it may also end. -/
def stepBetween (tag : Tag) (c : Char) : Option (Place × List Tag) :=
  if isBlank c then some (.between tag, [])
  else if isNameChar c then some (.attribute tag (String.singleton c), [])
  else match tag.kind, c with
    | .opening, '>' | .closing, '>' => some (.outside, [tag])
    | .opening, '/' => some (.last { tag with kind := .empty }, [])
    | .declaration, '?' => some (.last tag, [])
    | _, _ => none

def step : Place → Char → Option (Place × List Tag)
  | .outside, c =>
    if isBlank c then some (.outside, [])
    else if c = '<' then some (.name ⟨.opening, "", []⟩, [])
    else none
  | .name tag, c =>
    if isNameChar c then some (.name { tag with name := tag.name.push c }, [])
    else if tag.name ≠ "" then stepBetween tag c
    else if c = '/' then some (.name { tag with kind := .closing }, [])
    else if c = '?' then some (.name { tag with kind := .declaration }, [])
    else none
  | .between tag, c => stepBetween tag c
  | .attribute tag name, c =>
    if isNameChar c then some (.attribute tag (name.push c), [])
    else if c = '=' then some (.equals tag name, [])
    else none
  | .equals tag name, c => if c = '"' then some (.value tag name [], []) else none
  | .value tag name text, c =>
    if isValueChar c then some (.value tag name (text ++ [c]), [])
    else if c = '"' then
      some (.between { tag with attributes := tag.attributes ++ [⟨name, text⟩] }, [])
    else none
  | .last tag, c => if c = '>' then some (.outside, [tag]) else none

def run : Place → List Char → Option (Place × List Tag)
  | place, [] => some (place, [])
  | place, c :: cs => do
    let (next, found) ← step place c
    let (final, more) ← run next cs
    return (final, found ++ more)

/-- The tags of a text, none of which is left open. -/
def read (cs : List Char) : Option (List Tag) :=
  match run .outside cs with
  | some (.outside, tags) => some tags
  | _ => none

/-- What stands after the ampersand of an entity, and the character it stands for. -/
def entities : List (List Char × Char) :=
  [("amp;".toList, '&'), ("lt;".toList, '<'), ("gt;".toList, '>'), ("quot;".toList, '"')]

/-- A text without its first `skipped` characters, with the entities in it undone. -/
def decodeAfter (skipped : Nat) : List Char → List Char
  | [] => []
  | c :: cs =>
    match skipped with
    | k + 1 => decodeAfter k cs
    | 0 =>
      match entities.find? fun entity => c = '&' && entity.1.isPrefixOf cs with
      | some (name, d) => d :: decodeAfter name.length cs
      | none => c :: decodeAfter 0 cs

def decode (cs : List Char) : List Char := decodeAfter 0 cs

end Reader

/-! ## Escaped texts -/

/-- What stands for a character in an escaped text. -/
def escapeChar (c : Char) : List Char :=
  if c = '&' then "&amp;".toList
  else if c = '<' then "&lt;".toList
  else if c = '>' then "&gt;".toList
  else if c = '"' then "&quot;".toList
  else [c]

/-- A character has an entity or is written as it is. -/
theorem escapeChar_cases (c : Char) :
    (∃ name, (name, c) ∈ Reader.entities ∧ escapeChar c = '&' :: name) ∨
      (c ≠ '&' ∧ c ≠ '<' ∧ c ≠ '>' ∧ c ≠ '"') ∧ escapeChar c = [c] := by
  by_cases hAmp : c = '&'
  · subst c
    exact .inl ⟨"amp;".toList, by decide, rfl⟩
  by_cases hLt : c = '<'
  · subst c
    exact .inl ⟨"lt;".toList, by decide, rfl⟩
  by_cases hGt : c = '>'
  · subst c
    exact .inl ⟨"gt;".toList, by decide, rfl⟩
  by_cases hQuote : c = '"'
  · subst c
    exact .inl ⟨"quot;".toList, by decide, rfl⟩
  · exact .inr ⟨⟨hAmp, hLt, hGt, hQuote⟩, by simp [escapeChar, hAmp, hLt, hGt, hQuote]⟩

theorem replaceChar_append (c : Char) (entity : String) (cs ds : List Char) :
    replaceChar c entity (cs ++ ds) = replaceChar c entity cs ++ replaceChar c entity ds :=
  List.flatMap_append

theorem replaceChar_of_ne {c d : Char} (h : d ≠ c) (entity : String) :
    replaceChar c entity [d] = [d] := by
  rw [replaceChar, List.flatMap_singleton, if_neg h]

theorem escape_append (cs ds : List Char) : escape (cs ++ ds) = escape cs ++ escape ds := by
  simp only [escape, replaceChar_append]

theorem escape_singleton (c : Char) : escape [c] = escapeChar c := by
  have hEntities : ∀ entity ∈ Reader.entities, escape [entity.2] = '&' :: entity.1 := by decide
  obtain ⟨name, hName, hEntity⟩ | ⟨⟨hAmp, hLt, hGt, hQuote⟩, hSame⟩ := escapeChar_cases c
  · rw [hEntity]
    exact hEntities (name, c) hName
  · rw [hSame]
    simp only [escape]
    rw [replaceChar_of_ne hAmp, replaceChar_of_ne hLt, replaceChar_of_ne hGt,
      replaceChar_of_ne hQuote]

/-- Replacing one kind of character after another replaces each character once: an entity holds
none of those that are replaced after its own. -/
theorem escape_eq_flatMap (cs : List Char) : escape cs = cs.flatMap escapeChar := by
  induction cs with
  | nil => rfl
  | cons c cs ih =>
    rw [List.flatMap_cons, ← escape_singleton, ← ih, ← escape_append, List.singleton_append]

theorem special_notMem_entity {name : List Char} {c : Char} (h : (name, c) ∈ Reader.entities) :
    '&' ∉ name ∧ '<' ∉ name ∧ '>' ∉ name ∧ '"' ∉ name := by
  have hAll : ∀ entity ∈ Reader.entities,
      '&' ∉ entity.1 ∧ '<' ∉ entity.1 ∧ '>' ∉ entity.1 ∧ '"' ∉ entity.1 := by
    decide
  exact hAll (name, c) h

theorem delimiter_notMem_escape {d : Char} {cs : List Char} (h : d ∈ escape cs) :
    d ≠ '<' ∧ d ≠ '>' ∧ d ≠ '"' := by
  rw [escape_eq_flatMap] at h
  obtain ⟨c, -, hD⟩ := List.mem_flatMap.mp h
  obtain ⟨name, hName, hEntity⟩ | ⟨⟨-, hPlain⟩, hSame⟩ := escapeChar_cases c
  · obtain ⟨-, hLt, hGt, hQuote⟩ := special_notMem_entity hName
    rw [hEntity] at hD
    obtain rfl | hD := List.mem_cons.mp hD
    · decide
    · exact ⟨ne_of_mem_of_not_mem hD hLt, ne_of_mem_of_not_mem hD hGt,
        ne_of_mem_of_not_mem hD hQuote⟩
  · rw [hSame] at hD
    obtain rfl := List.mem_singleton.mp hD
    exact hPlain

/-- A text that may stand between the quotes of an attribute. -/
def IsValue (cs : List Char) : Prop := ∀ c ∈ cs, Reader.isValueChar c

instance (cs : List Char) : Decidable (IsValue cs) :=
  decidable_of_iff (cs.all Reader.isValueChar) List.all_eq_true

theorem isValue_escape (cs : List Char) : IsValue (escape cs) := by
  intro c h
  obtain ⟨hLt, -, hQuote⟩ := delimiter_notMem_escape h
  simp [Reader.isValueChar, hLt, hQuote]

namespace Reader

theorem decode_cons {c : Char} (h : c ≠ '&') (cs : List Char) :
    decode (c :: cs) = c :: decode cs := by
  simp [decode, decodeAfter, entities, h]

theorem decode_escapeChar (c : Char) (cs : List Char) :
    decode (escapeChar c ++ cs) = c :: decode cs := by
  have hEntities : ∀ entity ∈ entities, decode ('&' :: entity.1 ++ cs) = entity.2 :: decode cs := by
    simp only [entities, List.forall_mem_cons]
    exact ⟨rfl, rfl, rfl, rfl, nofun⟩
  obtain ⟨name, hName, hEntity⟩ | ⟨⟨hAmp, -⟩, hSame⟩ := escapeChar_cases c
  · rw [hEntity]
    exact hEntities (name, c) hName
  · rw [hSame]
    exact decode_cons hAmp cs

theorem decode_escape (cs : List Char) : decode (escape cs) = cs := by
  rw [escape_eq_flatMap]
  induction cs with
  | nil => rfl
  | cons c cs ih => rw [List.flatMap_cons, decode_escapeChar, ih]

/-! ## Runs of the reader -/

variable {place next final : Place} {tag : Tag} {found more : List Tag} {c : Char}
  {cs ds : List Char} {name : String}

theorem run_cons_eq_some_iff : run place (c :: cs) = some (final, found) ↔
    ∃ next early more, step place c = some (next, early) ∧ run next cs = some (final, more) ∧
      early ++ more = found := by
  simp only [run, Option.bind_eq_bind, Option.bind_eq_some_iff, Option.pure_def,
    Option.some.injEq, Prod.mk.injEq, Prod.exists]
  constructor
  · rintro ⟨next, early, hStep, final, more, hRun, rfl, rfl⟩
    exact ⟨next, early, more, hStep, hRun, rfl⟩
  · rintro ⟨next, early, more, hStep, hRun, rfl⟩
    exact ⟨next, early, hStep, final, more, hRun, rfl, rfl⟩

theorem run_cons (hStep : step place c = some (next, found))
    (hRun : run next cs = some (final, more)) :
    run place (c :: cs) = some (final, found ++ more) :=
  run_cons_eq_some_iff.mpr ⟨next, found, more, hStep, hRun, rfl⟩

theorem run_append (hFirst : run place cs = some (next, found))
    (hSecond : run next ds = some (final, more)) :
    run place (cs ++ ds) = some (final, found ++ more) := by
  induction cs generalizing place found with
  | nil =>
    cases hFirst
    exact hSecond
  | cons c cs ih =>
    obtain ⟨middle, early, late, hStep, hRest, rfl⟩ := run_cons_eq_some_iff.mp hFirst
    rw [List.cons_append, List.append_assoc]
    exact run_cons hStep (ih hRest)

/-- What the reader meets after a name or a value does not depend on which of them it was. -/
theorem run_name_eq_run_between (hName : tag.name ≠ "") (h : isNameChar c = false) :
    run (.name tag) (c :: cs) = run (.between tag) (c :: cs) := by
  simp [run, step, h, hName]

theorem run_name (hName : cs.all isNameChar) :
    run (.name tag) cs = some (.name { tag with name := tag.name ++ String.ofList cs }, []) := by
  induction cs generalizing tag with
  | nil => simp [run]
  | cons c cs ih =>
    obtain ⟨hFirst, hRest⟩ := Bool.and_eq_true_iff.mp (List.all_cons.symm.trans hName)
    have hStep : step (.name tag) c = some (.name { tag with name := tag.name.push c }, []) := by
      simp [step, hFirst]
    rw [run_cons hStep (ih hRest)]
    simp [String.ext_iff]

theorem run_attribute (hName : cs.all isNameChar) :
    run (.attribute tag name) cs = some (.attribute tag (name ++ String.ofList cs), []) := by
  induction cs generalizing name with
  | nil => simp [run]
  | cons c cs ih =>
    obtain ⟨hFirst, hRest⟩ := Bool.and_eq_true_iff.mp (List.all_cons.symm.trans hName)
    have hStep : step (.attribute tag name) c = some (.attribute tag (name.push c), []) := by
      simp [step, hFirst]
    rw [run_cons hStep (ih hRest)]
    simp [String.ext_iff]

theorem run_value {text : List Char} (hValue : IsValue cs) :
    run (.value tag name text) cs = some (.value tag name (text ++ cs), []) := by
  induction cs generalizing text with
  | nil => simp [run]
  | cons c cs ih =>
    obtain ⟨hFirst, hRest⟩ := List.forall_mem_cons.mp hValue
    have hStep : step (.value tag name text) c = some (.value tag name (text ++ [c]), []) := by
      simp [step, hFirst]
    rw [run_cons hStep (ih hRest)]
    simp

theorem run_append_of_silent (h : run place cs = some (next, [])) (ds : List Char) :
    run place (cs ++ ds) = run next ds := by
  cases hRest : run next ds with
  | some result => exact run_append h hRest
  | none =>
    induction cs generalizing place with
    | nil =>
      cases h
      exact hRest
    | cons c cs ih =>
      obtain ⟨middle, early, late, hStep, hEnd, hNone⟩ := run_cons_eq_some_iff.mp h
      obtain ⟨rfl, rfl⟩ := List.append_eq_nil_iff.mp hNone
      simp [run, hStep, ih hEnd]

end Reader

open Reader

def IsName (name : String) : Prop := name ≠ "" ∧ name.toList.all isNameChar

instance (name : String) : Decidable (IsName name) := inferInstanceAs (Decidable (_ ∧ _))

structure Attribute.Plain (a : Attribute) : Prop where
  name : IsName a.name
  value : IsValue a.value

structure Tag.Plain (t : Tag) : Prop where
  name : IsName t.name
  attributes : ∀ a ∈ t.attributes, a.Plain

mutual

/-- The tags of an element, in the order they are written in. -/
def Element.tags : Element → List Tag
  | .empty name attributes => [⟨.empty, name, attributes⟩]
  | .parent name attributes children =>
    ⟨.opening, name, attributes⟩ :: (Element.tagsAll children ++ [⟨.closing, name, []⟩])

def Element.tagsAll : List Element → List Tag
  | [] => []
  | e :: es => e.tags ++ Element.tagsAll es

end

def declarationTag : Tag :=
  ⟨.declaration, "xml", [.plain "version" "1.0", .plain "encoding" "UTF-8"]⟩

def Document.tags (d : Document) : List Tag :=
  (if d.declared then [declarationTag] else []) ++ d.root.tags

namespace Reader

variable {tag : Tag} {tags more : List Tag} {attributes : List Attribute} {a : Attribute} {c : Char}
  {cs ds : List Char} {name : String} {e : Element} {es : List Element}

/-! ## Attributes and openings -/

theorem isBlank_eq_false_of_isNameChar (h : isNameChar c) : isBlank c = false := by
  refine Bool.eq_false_iff.mpr fun hBlank => ?_
  simp only [isBlank, Bool.or_eq_true, decide_eq_true_eq] at hBlank
  obtain rfl | rfl := hBlank <;> exact absurd h (by decide)

theorem run_write (h : a.Plain) :
    run (.between tag) a.write =
      some (.between { tag with attributes := tag.attributes ++ [a] }, []) := by
  obtain ⟨hNonempty, hName⟩ := h.name
  have hBlank : run (.between tag) [' '] = some (.between tag, []) := rfl
  have hSign : run (.attribute tag a.name) ['=', '"'] = some (.value tag a.name [], []) := rfl
  have hQuote : run (.value tag a.name a.value) ['"'] =
      some (.between { tag with attributes := tag.attributes ++ [a] }, []) := rfl
  have hRead : run (.between tag) a.name.toList = some (.attribute tag a.name, []) := by
    cases hText : a.name.toList with
    | nil => exact absurd (String.toList_eq_nil_iff.mp hText) hNonempty
    | cons c cs =>
      rw [hText] at hName
      obtain ⟨hFirst, hRest⟩ := Bool.and_eq_true_iff.mp (List.all_cons.symm.trans hName)
      have hStep : step (.between tag) c = some (.attribute tag (String.singleton c), []) := by
        simp [step, stepBetween, isBlank_eq_false_of_isNameChar hFirst, hFirst]
      rw [run_cons hStep (run_attribute hRest)]
      have hSame : String.singleton c ++ String.ofList cs = a.name := by
        simp [String.ext_iff, hText]
      rw [hSame, List.append_nil]
  have hWrite : a.write = [' '] ++ (a.name.toList ++ (['=', '"'] ++ (a.value ++ ['"']))) := by
    simp [Attribute.write]
  rw [hWrite, run_append_of_silent hBlank, run_append_of_silent hRead,
    run_append_of_silent hSign, run_append_of_silent (run_value h.value)]
  exact hQuote

theorem run_writes (h : ∀ a ∈ attributes, a.Plain) :
    run (.between tag) (attributes.flatMap Attribute.write) =
      some (.between { tag with attributes := tag.attributes ++ attributes }, []) := by
  induction attributes generalizing tag with
  | nil => simp [run]
  | cons a attributes ih =>
    obtain ⟨hFirst, hRest⟩ := List.forall_mem_cons.mp h
    rw [List.flatMap_cons, run_append_of_silent (run_write hFirst), ih hRest]
    simp

/-- Up to the first character after its attributes a tag is read as one that opens an element. -/
theorem run_opening (hName : IsName name) (hPlain : ∀ a ∈ attributes, a.Plain)
    (hEnd : isNameChar c = false) :
    run .outside (Element.opening name attributes ++ c :: cs) =
      run (.between ⟨.opening, name, attributes⟩) (c :: cs) := by
  have hSign : run .outside ['<'] = some (.name ⟨.opening, "", []⟩, []) := rfl
  have hTag : run (.name ⟨.opening, "", []⟩) name.toList =
      some (.name ⟨.opening, name, []⟩, []) := by
    rw [run_name hName.2]
    simp
  -- the character after the name is the blank before an attribute or, without any, `c`
  have hAfter : ∃ d ds, attributes.flatMap Attribute.write ++ c :: cs = d :: ds ∧
      isNameChar d = false := by
    cases attributes with
    | nil => exact ⟨c, cs, rfl, hEnd⟩
    | cons a attributes => exact ⟨' ', _, rfl, rfl⟩
  obtain ⟨d, ds, hEq, hBreak⟩ := hAfter
  have hText : Element.opening name attributes ++ c :: cs =
      ['<'] ++ (name.toList ++ (attributes.flatMap Attribute.write ++ c :: cs)) := by
    simp [Element.opening]
  rw [hText, run_append_of_silent hSign, run_append_of_silent hTag, hEq,
    run_name_eq_run_between hName.1 hBreak, ← hEq, run_append_of_silent (run_writes hPlain)]
  rfl

/-! ## Lines -/

/-- Read from outside a tag to outside a tag. -/
def Reads (cs : List Char) (tags : List Tag) : Prop := run .outside cs = some (.outside, tags)

theorem Reads.append (hFirst : Reads cs tags) (hSecond : Reads ds more) :
    Reads (cs ++ ds) (tags ++ more) :=
  run_append hFirst hSecond

theorem Reads.line (h : Reads cs tags) : Reads (cs ++ ['\n']) tags := by
  have hBreak : Reads ['\n'] [] := rfl
  have hAll := h.append hBreak
  rwa [List.append_nil] at hAll

theorem Reads.lines {ls : List (List Char)} (h : Reads cs tags)
    (hRest : Reads (ls.flatMap (· ++ ['\n'])) more) :
    Reads ((cs :: ls).flatMap (· ++ ['\n'])) (tags ++ more) :=
  h.line.append hRest

theorem reads_indent (depth : Nat) : Reads (Element.indent depth) [] := by
  unfold Element.indent
  induction 2 * depth with
  | zero => rfl
  | succ n ih =>
    have hBlank : Reads [' '] [] := rfl
    exact hBlank.append ih

theorem reads_indented (depth : Nat) (h : Reads cs tags) :
    Reads (Element.indent depth ++ cs) tags :=
  (reads_indent depth).append h

theorem reads_empty (hName : IsName name) (hPlain : ∀ a ∈ attributes, a.Plain) :
    Reads (Element.opening name attributes ++ " />".toList) [⟨.empty, name, attributes⟩] := by
  have hEnd : run (.between ⟨.opening, name, attributes⟩) " />".toList =
      some (.outside, [⟨.empty, name, attributes⟩]) := rfl
  exact (run_opening hName hPlain rfl).trans hEnd

theorem reads_opening (hName : IsName name) (hPlain : ∀ a ∈ attributes, a.Plain) :
    Reads (Element.opening name attributes ++ ['>']) [⟨.opening, name, attributes⟩] := by
  have hEnd : run (.between ⟨.opening, name, attributes⟩) ['>'] =
      some (.outside, [⟨.opening, name, attributes⟩]) := rfl
  exact (run_opening hName hPlain rfl).trans hEnd

theorem reads_closing (hName : IsName name) :
    Reads ("</".toList ++ name.toList ++ ['>']) [⟨.closing, name, []⟩] := by
  have hSign : run .outside "</".toList = some (.name ⟨.closing, "", []⟩, []) := rfl
  have hTag : run (.name ⟨.closing, "", []⟩) name.toList =
      some (.name ⟨.closing, name, []⟩, []) := by
    rw [run_name hName.2]
    simp
  have hEnd : run (.between ⟨.closing, name, []⟩) ['>'] =
      some (.outside, [⟨.closing, name, []⟩]) := rfl
  unfold Reads
  rw [List.append_assoc, run_append_of_silent hSign, run_append_of_silent hTag,
    run_name_eq_run_between hName.1 rfl, hEnd]

mutual

theorem reads_lines (depth : Nat) (e : Element) (h : ∀ t ∈ e.tags, t.Plain) :
    Reads ((e.lines depth).flatMap (· ++ ['\n'])) e.tags := by
  cases e with
  | empty name attributes =>
    rw [Element.tags, List.forall_mem_singleton] at h
    rw [Element.lines, Element.tags, List.append_assoc]
    exact (reads_indented depth (reads_empty h.name h.attributes)).lines rfl
  | parent name attributes children =>
    rw [Element.tags, List.forall_mem_cons, List.forall_mem_append] at h
    obtain ⟨hOpening, hChildren, -⟩ := h
    have hName : IsName name := hOpening.name
    have hFirst := reads_indented depth (reads_opening hName hOpening.attributes)
    have hLast := reads_indented depth (reads_closing hName)
    rw [Element.lines, Element.tags, List.append_assoc]
    refine hFirst.lines ?_
    rw [List.flatMap_append]
    refine (reads_linesAll (depth + 1) children hChildren).append ?_
    rw [List.append_assoc, List.append_assoc, ← List.append_assoc "</".toList]
    exact hLast.lines rfl

theorem reads_linesAll (depth : Nat) (es : List Element)
    (h : ∀ t ∈ Element.tagsAll es, t.Plain) :
    Reads ((Element.linesAll depth es).flatMap (· ++ ['\n'])) (Element.tagsAll es) := by
  cases es with
  | nil => rfl
  | cons e es =>
    obtain ⟨hFirst, hRest⟩ := List.forall_mem_append.mp h
    rw [Element.linesAll, Element.tagsAll, List.flatMap_append]
    exact (reads_lines depth e hFirst).append (reads_linesAll depth es hRest)

end

theorem reads_declaration : Reads declaration [declarationTag] := by
  unfold Reads
  decide

theorem read_eq_of_reads (h : Reads cs tags) : read cs = some tags := by
  unfold Reads at h
  rw [read, h]

theorem read_text (d : Document) (h : ∀ t ∈ d.root.tags, t.Plain) :
    read d.text = some d.tags := by
  have hRoot := reads_lines 0 d.root h
  refine read_eq_of_reads ?_
  rw [Document.text, Document.lines, Document.tags]
  cases d.declared with
  | false => exact hRoot
  | true => exact reads_declaration.lines hRoot

end Reader

end PlotLang.Markup

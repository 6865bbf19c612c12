import PlotLang.Proofs.Grammar

/-! # Where a token list stops being a program

The counterpart of the grammar: the ways in which a value, a block's fields or a block can fail,
each with the tokens taken before the failure, the token that follows them if there is one, and
the fault that is reported. What follows that one token has no part in it.
-/

namespace PlotLang.Grammar

open Token (Kind)
open Builder (Fault)

/-! ## Values -/

/-- Fewer than `count` values of allowed kinds, with commas before, between and after them. -/
def Short (kinds : List Kind) (count : Nat) (ts : List Token) : Prop :=
  (∀ t ∈ ts, t.kind = .comma ∨ t.kind ∈ kinds) ∧ ts.countP (·.kind ≠ .comma) < count

inductive Layout.Refuses (keyword : Token) : Layout → List Token → Option Token → Fault → Prop
  | missing {kinds : List Kind} {expected : Expectation} :
      Refuses keyword (.one kinds expected) [] none (.read (.missingValue keyword))
  | unexpected {kinds : List Kind} {expected : Expectation} {t : Token} : t.kind ∉ kinds →
      Refuses keyword (.one kinds expected) [] (some t) (.read (.unexpected t expected))
  | tooFew {kinds : List Kind} {count : Nat} {ts : List Token} : Short kinds count ts →
      Refuses keyword (.many kinds count) ts none (.read (.missingValues keyword count))
  | stray {kinds : List Kind} {count : Nat} {ts : List Token} {t : Token} : Short kinds count ts →
      t.kind ≠ .comma → t.kind ∉ kinds →
      Refuses keyword (.many kinds count) ts (some t) (.read (.unexpected t (.kinds kinds)))

/-- The first token without an answer is the one to blame. -/
def FirstWithout (answer? : Token → Option α) (blame : Token → Fault) (vs : List Token)
    (fault : Fault) : Prop :=
  ∃ t, vs.find? (fun t => (answer? t).isNone) = some t ∧ fault = blame t

def Unreadable : List Token → Fault → Prop :=
  FirstWithout number? fun t => .unreadableNumber t.text

/-- The tokens of a value are all there and stand for nothing. -/
def Field.Meaningless (defs : List Definition) (keyword : Token) (f : Field) (vs : List Token)
    (fault : Fault) : Prop :=
  match f with
  | .minimum | .maximum | .thickness | .start | .finish | .location | .box => Unreadable vs fault
  | .alpha => Unreadable vs fault ∨ ∃ x, vs.map number? = [some x] ∧
      ¬(Binary64.le 0 x ∧ Binary64.le x 1) ∧ fault = .alphaOutOfRange keyword
  | .step => Unreadable vs fault ∨ ∃ x, vs.map number? = [some x] ∧
      ¬(Binary64.lt 0 x) ∧ fault = .stepNotPositive keyword
  | .name | .function => False
  | .color | .background =>
    ∃ t, vs = [t] ∧ t.text.length ≠ 3 ∧ t.text.length ≠ 6 ∧ fault = .invalidColor keyword t
  | .axes => FirstWithout (definition? defs) .undefinedVariable vs fault

def Field.Refuses (defs : List Definition) (keyword : Token) (f : Field) (ts : List Token)
    (next : Option Token) (fault : Fault) : Prop :=
  f.layout.Refuses keyword ts next fault ∨
    ∃ vs, f.layout.Holds ts vs ∧ f.Meaningless defs keyword vs fault

/-! ## Blocks -/

inductive Body.Refuses (defs : List Definition) (table : List (String × Field)) (opener : Token) :
    List Token → Option Token → Fault → Prop
  | unclosed : Refuses defs table opener [] none (.malformed (.unclosed opener))
  | unexpected {t : Token} : ¬t.isEnd → (t.kind = .keyword → table.lookup t.text = none) →
      Refuses defs table opener [] (some t) (.read (.unexpected t (.field (table.map (·.1)))))
  | value {k : Token} {f : Field} {ts : List Token} {next : Option Token} {fault : Fault} :
      k.kind = .keyword → table.lookup k.text = some f → f.Refuses defs k ts next fault →
      Refuses defs table opener (k :: ts) next fault
  | field {k : Token} {f : Field} {ts rest : List Token} {x : f.Value} {next : Option Token}
      {fault : Fault} :
      k.kind = .keyword → table.lookup k.text = some f → f.Denotes defs ts x →
      Refuses defs table opener rest next fault →
      Refuses defs table opener (k :: (ts ++ rest)) next fault

/-- The fields a block must have, each with the keyword and the hint that ask for it. -/
def Form.mandatory (opener : Token) : Form → List (Field × String × String)
  | .definition name =>
    [(.maximum, "max", "Need to specify a maximum value for the variable '" ++ name ++ "'")]
  | .root =>
    [(.box, "box", "Need to specify a box for the root"),
      (.axes, "axis", "Need to specify axes for the root")]
  | .grid => []
  | .line => [(.start, "from", hint "from"), (.finish, "to", hint "to")]
  | .graph => [(.function, "function", hint "function")]
  | .point => [(.location, "at", hint "at")]
where
  hint (keyword : String) : String :=
    "Need to specify '" ++ keyword ++ "' for '@" ++ opener.text ++ "'"

/-- The keyword and the hint of the first mandatory field that no entry gives. -/
def Form.missing? (opener : Token) (entries : List Entry) (form : Form) :
    Option (String × String) :=
  ((form.mandatory opener).find? fun field => (last? field.1 entries).isNone).map (·.2)

/-- The token that names a new definition is absent, or another stands in its place. -/
def Nameless (marker : Token) : Option Token → Fault → Prop
  | none, fault => fault = .missingName marker
  | some t, fault => t.kind ≠ .newIdentifier ∧ fault = .missingName t

inductive Block.Refuses (defs : List Definition) (gridGiven : Bool) :
    List Token → Option Token → Fault → Prop
  | stray {t : Token} : ¬Builder.beginsBlock t →
      Refuses defs gridGiven [] (some t) (.read (.unexpected t .block))
  | unknownDeclaration {t : Token} {next : Option Token} :
      t.kind = .declaration → t.text ≠ "root" → t.text ≠ "grid" →
      Refuses defs gridGiven [t] next (.unknownDeclaration t)
  | unknownShape {t : Token} {next : Option Token} :
      t.kind = .shapeFunction → t.text ∉ Vocabulary.shapes →
      Refuses defs gridGiven [t] next (.unknownShape t)
  | nameless {marker : Token} {next : Option Token} {fault : Fault} :
      marker.kind = .define → Nameless marker next fault →
      Refuses defs gridGiven [marker] next fault
  | repeatedGrid {t : Token} {next : Option Token} : Form.Opens .grid t [t] → gridGiven →
      Refuses defs gridGiven [t] next (.repeatedGrid t)
  | body {form : Form} {opener : Token} {opening ts : List Token} {next : Option Token}
      {fault : Fault} : form.Opens opener opening → (form = .grid → gridGiven = false) →
      Body.Refuses defs form.table opener ts next fault →
      Refuses defs gridGiven (opening ++ ts) next fault
  | incomplete {form : Form} {opener : Token} {opening ts : List Token} {entries : List Entry}
      {next : Option Token} {missing : String × String} :
      form.Opens opener opening → Body defs form.table ts entries →
      form.missing? opener entries = some missing →
      Refuses defs gridGiven (opening ++ ts) next (.missingField missing.1 missing.2 opener)

end PlotLang.Grammar

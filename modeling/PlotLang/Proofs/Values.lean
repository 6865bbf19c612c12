import PlotLang.Proofs.Layouts

/-! # Reading the value of a field

Each field has one reader, whichever block the field stands in. It is exact for the values the
grammar gives the field, so it takes the tokens of the value and none after them.
-/

namespace PlotLang.Grammar

open Builder
open Token (Kind)

/-- An answer, or a fault in its absence. -/
def orFault (answer : Option α) (fault : Fault) : Except Fault α :=
  answer.elim (.error fault) .ok

@[simp] theorem orFault_eq_ok_iff {answer : Option α} {fault : Fault} {a : α} :
    orFault answer fault = .ok a ↔ answer = some a := by
  cases answer <;> simp [orFault]

@[simp] theorem orFault_eq_error_iff {answer : Option α} {fault cause : Fault} :
    orFault answer fault = .error cause ↔ answer = none ∧ cause = fault := by
  cases answer <;> simp [orFault, eq_comm]

def unlessFault (condition : Bool) (fault : Fault) : Except Fault Unit :=
  if condition then .ok () else .error fault

@[simp] theorem unlessFault_eq_ok_iff {condition : Bool} {fault : Fault} {u : Unit} :
    unlessFault condition fault = .ok u ↔ condition := by
  cases condition <;> simp [unlessFault]

@[simp] theorem unlessFault_eq_error_iff {condition : Bool} {fault cause : Fault} :
    unlessFault condition fault = .error cause ↔ condition = false ∧ cause = fault := by
  cases condition <;> simp [unlessFault, eq_comm]

@[simp] theorem except_bind_eq_ok_iff {x : Except ε α} {f : α → Except ε β} {b : β} :
    (x >>= f) = .ok b ↔ ∃ a, x = .ok a ∧ f a = .ok b := by
  cases x <;> simp [bind, Except.bind]

@[simp] theorem except_bind_eq_error_iff {x : Except ε α} {f : α → Except ε β} {fault : ε} :
    (x >>= f) = .error fault ↔ x = .error fault ∨ ∃ a, x = .ok a ∧ f a = .error fault := by
  cases x <;> simp [bind, Except.bind]

theorem mapError_eq_ok_iff {x : Except ε α} {f : ε → δ} {a : α} :
    x.mapError f = .ok a ↔ x = .ok a := by
  cases x with
  | error cause => exact iff_of_false nofun nofun
  | ok b =>
    change Except.ok b = .ok a ↔ _
    rw [Except.ok.injEq, Except.ok.injEq]

theorem mapError_eq_error_iff {x : Except ε α} {f : ε → δ} {fault : δ} :
    x.mapError f = .error fault ↔ ∃ cause, x = .error cause ∧ f cause = fault := by
  cases x with
  | error cause =>
    change Except.error (f cause) = .error fault ↔ _
    simp
  | ok b => exact iff_of_false nofun nofun

/-- What is seen of a value shows that there is one. -/
theorem exists_ok_of_toOption {x : Except ε α} {f : α → β} {b : β}
    (h : x.toOption.map f = some b) : ∃ a, x = .ok a ∧ f a = b := by
  cases x with
  | error fault => cases h
  | ok a => exact ⟨a, rfl, Option.some.inj h⟩

theorem eq_ok_of_toOption {x : Except ε α} {a : α} (h : x.toOption = some a) : x = .ok a := by
  cases x with
  | error fault => cases h
  | ok b => exact congrArg _ (Option.some.inj h)

theorem get_still (answer : Option α) (fault : Fault) :
    (Reader.get answer fault).Still (orFault answer fault) := by
  intro c
  cases answer <;> rfl

theorem numeral_still (t : Token) :
    (numeral t).Still (orFault (number? t) (.unreadableNumber t.text)) := by
  intro c
  unfold numeral number?
  cases Literal.real? t.text <;> rfl

theorem lookup_still (defs : List Definition) (t : Token) :
    (lookup defs t).Still (orFault (definition? defs t) (.undefinedVariable t)) :=
  get_still (definition? defs t) (.undefinedVariable t)

theorem require_still (condition : Bool) (fault : Fault) :
    (Reader.require condition fault).Still (unlessFault condition fault) := by
  intro c
  cases condition <;> rfl

/-! ## Readers of a layout -/

/-- The reader takes no token, and answers what `means` and `meaningless` say. -/
def Answers (r : Reader α) (means : α → Prop) (meaningless : Fault → Prop) : Prop :=
  ∃ result, r.Still result ∧ (∀ a, result = .ok a ↔ means a) ∧
    ∀ fault, result = .error fault ↔ meaningless fault

/-- The reader takes the tokens of a layout, and answers for the values they hold what `means` and
`meaningless` say. -/
def Reads (layout : Layout) (keyword : Token) (r : Reader α) (means : List Token → α → Prop)
    (meaningless : List Token → Fault → Prop) : Prop :=
  r.Exact (fun ts a => ∃ vs, layout.Holds ts vs ∧ means vs a)
    (fun ts next fault => layout.Refuses keyword ts next fault ∨
      ∃ vs, layout.Holds ts vs ∧ meaningless vs fault)

variable {α β : Type} {layout : Layout} {keyword : Token} {r : Reader β} {f : β → Reader α}
  {means : List Token → α → Prop} {meaningless : List Token → Fault → Prop}

/-- A reader of a layout's tokens, followed by a judgement of the values among them. -/
theorem Reads.ofAnswers (values : β → List Token)
    (hr : r.Exact (fun ts b => layout.Holds ts (values b)) (layout.Refuses keyword))
    (hValues : ∀ ts vs, layout.Holds ts vs → ∃ b, values b = vs)
    (hf : ∀ ts b, layout.Holds ts (values b) →
      Answers (f b) (means (values b)) (meaningless (values b))) :
    Reads layout keyword (r >>= f) means meaningless := fun c => {
  ok_iff a c' := by
    rw [Reader.bind_eq_ok_iff]
    constructor
    · rintro ⟨b, m, hRead, hAnswer⟩
      obtain ⟨ts, hTs, hHolds⟩ := ((hr c).ok_iff ..).mp hRead
      obtain ⟨result, hStill, hMeans, -⟩ := hf ts b hHolds
      cases (hStill m).symm.trans hAnswer
      exact ⟨ts, hTs, values b, hHolds, (hMeans a).mp rfl⟩
    · rintro ⟨ts, hTs, vs, hHolds, hMeaning⟩
      obtain ⟨b, rfl⟩ := hValues ts vs hHolds
      obtain ⟨result, hStill, hMeans, -⟩ := hf ts b hHolds
      exact ⟨b, c', ((hr c).ok_iff ..).mpr ⟨ts, hTs, hHolds⟩,
        (hStill c').trans (by rw [(hMeans a).mpr hMeaning])⟩
  error_iff fault c' := by
    rw [Reader.bind_eq_error_iff]
    constructor
    · rintro (hRead | ⟨b, m, hRead, hAnswer⟩)
      · obtain ⟨ts, hTs, hRefuses⟩ := ((hr c).error_iff ..).mp hRead
        exact ⟨ts, hTs, .inl hRefuses⟩
      · obtain ⟨ts, hTs, hHolds⟩ := ((hr c).ok_iff ..).mp hRead
        obtain ⟨result, hStill, -, hMeaningless⟩ := hf ts b hHolds
        cases (hStill m).symm.trans hAnswer
        exact ⟨ts, hTs, .inr ⟨values b, hHolds, (hMeaningless fault).mp rfl⟩⟩
    · rintro ⟨ts, hTs, hRefuses | ⟨vs, hHolds, hMeaning⟩⟩
      · exact .inl (((hr c).error_iff ..).mpr ⟨ts, hTs, hRefuses⟩)
      · obtain ⟨b, rfl⟩ := hValues ts vs hHolds
        obtain ⟨result, hStill, -, hMeaningless⟩ := hf ts b hHolds
        exact .inr ⟨b, c', ((hr c).ok_iff ..).mpr ⟨ts, hTs, hHolds⟩,
          (hStill c').trans (by rw [(hMeaningless fault).mpr hMeaning])⟩ }

theorem Reads.one {kinds : List Kind} {expected : Expectation} {f : Token → Reader α}
    (hf : ∀ t, Answers (f t) (means [t]) (meaningless [t])) :
    Reads (.one kinds expected) keyword
      (Reader.ofRead (Cursor.readOne keyword kinds expected) >>= f) means meaningless := by
  refine Reads.ofAnswers (fun t => [t]) (Reader.readOne_exact keyword kinds expected) ?_
    fun _ t _ => hf t
  rintro _ _ ⟨t, -, -, rfl⟩
  exact ⟨t, rfl⟩

theorem Reads.many {kinds : List Kind} {count : Nat} {f : List Token → Reader α}
    (hf : ∀ vs, vs.length = count → Answers (f vs) (means vs) (meaningless vs)) :
    Reads (.many kinds count) keyword
      (Reader.ofRead (Cursor.readTuple keyword kinds count) >>= f) means meaningless :=
  Reads.ofAnswers id (Reader.readTuple_exact keyword kinds count)
    (fun _ vs _ => ⟨vs, rfl⟩) fun _ vs h => hf vs h.2

/-! ## The readers -/

@[simp] theorem firstWithout_nil {answer? : Token → Option α} {blame : Token → Fault}
    {fault : Fault} : ¬FirstWithout answer? blame [] fault := by
  simp [FirstWithout]

@[simp] theorem firstWithout_cons_iff {answer? : Token → Option α} {blame : Token → Fault}
    {t : Token} {vs : List Token} {fault : Fault} :
    FirstWithout answer? blame (t :: vs) fault ↔ (answer? t = none ∧ fault = blame t) ∨
      ((∃ a, answer? t = some a) ∧ FirstWithout answer? blame vs fault) := by
  cases h : answer? t <;> simp [FirstWithout, h]

theorem number_reads (keyword : Token) :
    Reads (.one Kind.numbers .number) keyword (number keyword)
      (fun vs x => vs.map number? = [some x]) Unreadable :=
  Reads.one fun t => ⟨_, numeral_still t, fun x => by simp, fun fault => by simp [Unreadable]⟩

theorem alpha_reads (keyword : Token) :
    Reads (.one Kind.numbers .number) keyword (alpha keyword) (Field.Means [] .alpha)
      (Field.Meaningless [] keyword .alpha) := by
  unfold alpha number
  rw [Reader.bind_assoc]
  exact Reads.one fun t => ⟨_, (numeral_still t).bind fun x =>
    (require_still _ _).bind fun _ => .pure x, fun x => by simp [Field.Means],
    fun fault => by simp [Field.Meaningless, Unreadable]⟩

theorem step_reads (keyword : Token) :
    Reads (.one Kind.numbers .number) keyword (step keyword) (Field.Means [] .step)
      (Field.Meaningless [] keyword .step) := by
  unfold step number
  rw [Reader.bind_assoc]
  exact Reads.one fun t => ⟨_, (numeral_still t).bind fun x =>
    (require_still _ _).bind fun _ => .pure x, fun x => by simp [Field.Means],
    fun fault => by simp [Field.Meaningless, Unreadable]⟩

theorem string_reads (keyword : Token) :
    Reads (.one [.string] .string) keyword (string keyword) (Field.Means [] .name)
      (Field.Meaningless [] keyword .name) :=
  Reads.one fun t => ⟨_, .pure t.text, fun text => by simp [Field.Means],
    fun fault => by simp [Field.Meaningless]⟩

theorem color_reads (keyword : Token) :
    Reads (.one [.hexColor] .color) keyword (color keyword) (Field.Means [] .color)
      (Field.Meaningless [] keyword .color) :=
  Reads.one fun t => ⟨_, (require_still _ _).bind fun _ => .pure (Text.lowerCase t.text),
    fun text => by simpa [Field.Means] using fun _ => eq_comm,
    fun fault => by simp [Field.Meaningless, and_assoc]⟩

theorem pair_reads (keyword : Token) :
    Reads (.many Kind.numbers 2) keyword (pair keyword) (Field.Means [] .start)
      (Field.Meaningless [] keyword .start) := by
  refine Reads.many fun vs hLength => ?_
  match vs, hLength with
  | [x, y], _ =>
    refine ⟨_, (numeral_still x).bind fun a => (numeral_still y).bind fun b =>
      Reader.Still.pure (Point.mk a b), fun p => ?_, fun fault => ?_⟩
    · simp only [Field.Means, List.map_cons, List.map_nil, List.cons.injEq, and_true,
        except_bind_eq_ok_iff, orFault_eq_ok_iff, Except.ok.injEq]
      constructor
      · rintro ⟨a, hX, b, hY, rfl⟩
        exact ⟨hX, hY⟩
      · rintro ⟨hX, hY⟩
        exact ⟨p.x, hX, p.y, hY, rfl⟩
    · simp [Field.Meaningless, Unreadable]

theorem axes_reads (defs : List Definition) (keyword : Token) :
    Reads (.many [.variable] 2) keyword (axes defs keyword) (Field.Means defs .axes)
      (Field.Meaningless defs keyword .axes) := by
  refine Reads.many fun vs hLength => ?_
  match vs, hLength with
  | [x, y], _ =>
    refine ⟨_, (lookup_still defs x).bind fun a => (lookup_still defs y).bind fun b =>
      Reader.Still.pure (a, b), fun p => ?_, fun fault => ?_⟩
    · simp only [Field.Means, List.map_cons, List.map_nil, List.cons.injEq, and_true,
        except_bind_eq_ok_iff, orFault_eq_ok_iff, Except.ok.injEq]
      constructor
      · rintro ⟨a, hX, b, hY, rfl⟩
        exact ⟨hX, hY⟩
      · rintro ⟨hX, hY⟩
        exact ⟨p.1, hX, p.2, hY, rfl⟩
    · simp [Field.Meaningless]

theorem box_reads (keyword : Token) :
    Reads (.many Kind.numbers 4) keyword (box keyword) (Field.Means [] .box)
      (Field.Meaningless [] keyword .box) := by
  refine Reads.many fun vs hLength => ?_
  match vs, hLength with
  | [x, y, width, height], _ =>
    refine ⟨_, (numeral_still x).bind fun a => (numeral_still y).bind fun b =>
      (numeral_still width).bind fun c => (numeral_still height).bind fun d =>
        Reader.Still.pure (Box.mk a b c d), fun p => ?_, fun fault => ?_⟩
    · simp only [Field.Means, List.map_cons, List.map_nil, List.cons.injEq, and_true,
        except_bind_eq_ok_iff, orFault_eq_ok_iff, Except.ok.injEq]
      constructor
      · rintro ⟨a, hX, b, hY, c, hWidth, d, hHeight, rfl⟩
        exact ⟨hX, hY, hWidth, hHeight⟩
      · rintro ⟨hX, hY, hWidth, hHeight⟩
        exact ⟨p.x, hX, p.y, hY, p.width, hWidth, p.height, hHeight, rfl⟩
    · simp [Field.Meaningless, Unreadable]

/-- The reader of a field's value, the same in every block. -/
def Field.read (defs : List Definition) (keyword : Token) : (f : Field) → Reader f.Value
  | .minimum | .maximum | .thickness => Builder.number keyword
  | .alpha => Builder.alpha keyword
  | .step => Builder.step keyword
  | .name | .function => Builder.string keyword
  | .color | .background => Builder.color keyword
  | .start | .finish | .location => Builder.pair keyword
  | .axes => Builder.axes defs keyword
  | .box => Builder.box keyword

theorem Field.read_exact (defs : List Definition) (keyword : Token) (f : Field) :
    (f.read defs keyword).Exact (f.Denotes defs) (f.Refuses defs keyword) := by
  cases f with
  | minimum | maximum | thickness => exact number_reads keyword
  | alpha => exact alpha_reads keyword
  | step => exact step_reads keyword
  | name | function => exact string_reads keyword
  | color | background => exact color_reads keyword
  | start | finish | location => exact pair_reads keyword
  | axes => exact axes_reads defs keyword
  | box => exact box_reads keyword

end PlotLang.Grammar

import Mathlib.Data.List.Sort
import Mathlib.Data.List.SplitBy
import PlotLang.Drawing.Curve
import PlotLang.Proofs.FixedPoint

/-! # The strokes of a curve

The text of a path, read back word by word, has one command for each position of the axis with a
finite value, in their order. A command moves if no value is drawn just before it, so the strokes
are the longest runs of neighbouring positions with finite values.
-/

namespace PlotLang

/-- The words of a text, between its blanks. -/
def Text.words (cs : List Char) : List (List Char) := (cs.splitOn ' ').filter (· ≠ [])

namespace Text

variable {cs : List Char}

theorem words_blank (cs ds : List Char) : words (cs ++ ' ' :: ds) = words cs ++ words ds := by
  rw [words, List.splitOn_append_cons_self, List.filter_append]
  rfl

theorem words_eq_singleton (hSome : cs ≠ []) (hBlank : ' ' ∉ cs) : words cs = [cs] := by
  rw [words, List.splitOn_eq_singleton hBlank]
  simp [hSome]

end Text

namespace Curve

open Text (words)

/-! ## Reading a path -/

structure Command where
  letter : List Char
  x : List Char
  y : List Char
  deriving DecidableEq

def commands? : List (List Char) → Option (List Command)
  | [] => some []
  | letter :: x :: y :: rest => (commands? rest).map (⟨letter, x, y⟩ :: ·)
  | _ => none

/-- The commands of a path, each a word and two coordinates. -/
def read? (cs : List Char) : Option (List Command) := commands? (words cs)

/-- The strokes of a path: one begins at each command that moves. -/
def strokes (cs : List Command) : List (List Command) :=
  cs.splitBy fun _ c => c.letter ≠ ['M']

def letter (begins : Bool) : List Char := if begins then ['M'] else ['L']

/-- The command that a vertex is read back as. -/
def Vertex.toCommand (height : Binary64) (places : ℕ) (v : Vertex) : Command :=
  ⟨letter v.begins, Decimal.fixed (.ofNat v.x) places, Decimal.fixed (height - v.y) places⟩

variable {height : Binary64} {places : ℕ}

theorem words_letter (begins : Bool) : words (letter begins) = [letter begins] := by
  revert begins
  decide

theorem words_fixed (x : Binary64) (places : ℕ) :
    words (Decimal.fixed x places) = [Decimal.fixed x places] :=
  Text.words_eq_singleton (Decimal.fixed_ne_nil x places) (Decimal.blank_notMem_fixed x places)

theorem words_command (v : Vertex) : words (v.command height places) =
    [letter v.begins, Decimal.fixed (.ofNat v.x) places, Decimal.fixed (height - v.y) places] := by
  have hWords : ∀ (begins : Bool) (xs ys : List Char),
      words ((if begins then 'M' else 'L') :: ' ' :: xs ++ ' ' :: ys) =
        letter begins :: (words xs ++ words ys) := by
    intro begins xs ys
    have hLetter : (if begins then 'M' else 'L') :: ' ' :: xs = letter begins ++ ' ' :: xs := by
      cases begins <;> rfl
    rw [hLetter, List.append_assoc, List.cons_append, Text.words_blank, Text.words_blank,
      words_letter, List.singleton_append]
  rw [Vertex.command, hWords, words_fixed, words_fixed, List.singleton_append]

theorem spaced_cons_cons (cs ds : List Char) (css : List (List Char)) :
    spaced (cs :: ds :: css) = cs ++ ' ' :: spaced (ds :: css) := rfl

theorem words_spaced (css : List (List Char)) : words (spaced css) = css.flatMap words := by
  induction css with
  | nil => decide
  | cons cs css ih =>
    cases css with
    | nil => simp [spaced]
    | cons ds css =>
      rw [spaced_cons_cons, Text.words_blank, ih]
      rfl

theorem words_path (vs : List Vertex) : words (path height places vs) =
    vs.flatMap fun v => words (v.command height places) := by
  rw [path, words_spaced, List.flatMap_map]

theorem read?_path (vs : List Vertex) :
    read? (path height places vs) = some (vs.map (Vertex.toCommand height places)) := by
  rw [read?, words_path]
  induction vs with
  | nil => rfl
  | cons v vs ih =>
    rw [List.flatMap_cons, words_command]
    simp only [List.cons_append, List.nil_append, commands?, ih, Option.map_some, List.map_cons,
      Vertex.toCommand]

theorem head?_command (v : Vertex) :
    (v.command height places).head? = some (if v.begins then 'M' else 'L') := rfl

theorem command_ne_nil (v : Vertex) : v.command height places ≠ [] := List.cons_ne_nil _ _

theorem spaced_eq_nil_iff {css : List (List Char)} (h : ∀ cs ∈ css, cs ≠ []) :
    spaced css = [] ↔ css = [] := by
  match css with
  | [] => exact iff_of_true rfl rfl
  | [cs] => exact iff_of_false (h cs (List.mem_singleton_self cs)) (List.cons_ne_nil _ _)
  | cs :: ds :: css =>
    rw [spaced_cons_cons]
    exact iff_of_false (List.append_ne_nil_of_right_ne_nil _ (List.cons_ne_nil _ _))
      (List.cons_ne_nil _ _)

theorem head?_spaced (cs : List Char) (css : List (List Char)) (hSome : cs ≠ []) :
    (spaced (cs :: css)).head? = cs.head? := by
  cases css with
  | nil => rfl
  | cons ds css => rw [spaced_cons_cons, List.head?_append_of_ne_nil _ hSome]

theorem path_eq_nil_iff {vs : List Vertex} : path height places vs = [] ↔ vs = [] := by
  rw [path, spaced_eq_nil_iff, List.map_eq_nil_iff]
  intro cs hMem
  obtain ⟨v, -, rfl⟩ := List.mem_map.mp hMem
  exact command_ne_nil v

/-! ## Positions and vertices -/

variable {evaluate : ℕ → Except Fault Binary64} {sample : ℕ → Binary64} {width : Binary64}

/-- A width takes up the positions below it, whole or not. -/
theorem positions_of_isFinite (h : width.isFinite) :
    ∃ count : ℕ, positions width = .ok count ∧ ∀ x : ℕ, x < count ↔ (x : ℚ) < width.value := by
  cases width with
  | nan => cases h
  | infinite negative => cases h
  | finite negative units fits =>
    refine ⟨_, rfl, fun x => ?_⟩
    generalize Binary64.finite negative units fits = width
    have hUnits : (0 : ℤ) < Binary64.unitsInOne := Int.natCast_pos.mpr Binary64.unitsInOne_pos
    calc x < (-(-width.signedUnits / (Binary64.unitsInOne : ℤ))).toNat
      _ ↔ -width.signedUnits / (Binary64.unitsInOne : ℤ) < -(x : ℤ) := by omega
      _ ↔ -width.signedUnits < -(x : ℤ) * Binary64.unitsInOne := Int.ediv_lt_iff_lt_mul hUnits
      _ ↔ (x : ℤ) * Binary64.unitsInOne < width.signedUnits := by
        rw [neg_mul]
        exact neg_lt_neg_iff
      _ ↔ (x : ℚ) < width.value := by
        rw [Binary64.value, lt_div_iff₀ Binary64.cast_unitsInOne_pos]
        exact_mod_cast Iff.rfl

theorem valuesFrom_eq {x count : ℕ}
    (h : ∀ y, x ≤ y → y < x + count → evaluate y = .ok (sample y)) :
    valuesFrom evaluate x count = .ok ((List.range' x count).map sample) := by
  induction count generalizing x with
  | zero => rfl
  | succ count ih =>
    have hFirst := h x le_rfl (by omega)
    have hRest : valuesFrom evaluate (x + 1) count = .ok ((List.range' (x + 1) count).map sample) :=
      ih fun y hLow hHigh => h y (by omega) (by omega)
    rw [valuesFrom, hFirst, hRest]
    rfl

/-- No value is drawn just before a position. -/
def begins (sample : ℕ → Binary64) (x : ℕ) : Bool := x = 0 || !(sample (x - 1)).isFinite

def vertexAt (sample : ℕ → Binary64) (x : ℕ) : Vertex := ⟨begins sample x, x, sample x⟩

theorem begins_succ (x : ℕ) : begins sample (x + 1) = !(sample x).isFinite := by
  simp [begins]

/-- Where no value is drawn before, the first vertex begins a stroke. -/
theorem begins_of_head? {x : ℕ} {values : List Binary64} :
    ∀ v ∈ (vertices false x values).head?, v.begins := by
  induction values generalizing x with
  | nil => exact nofun
  | cons y ys ih =>
    rw [vertices]
    split
    · rintro v ⟨⟩
      rfl
    · exact ih

theorem head?_path (values : List Binary64) :
    (path height places (ofValues values)).head? ≠ some 'L' := by
  have hBegins : ∀ v ∈ (vertices false 0 values).head?, v.begins := begins_of_head?
  rw [path, ofValues]
  cases hVertices : vertices false 0 values with
  | nil => exact nofun
  | cons v vs =>
    rw [hVertices] at hBegins
    rw [List.map_cons, head?_spaced _ _ (command_ne_nil v), head?_command, hBegins v rfl]
    decide

/-- `joined` tells whether the value before a position has been drawn. -/
theorem vertices_eq {joined : Bool} {x count : ℕ} (hJoined : (!joined) = begins sample x) :
    vertices joined x ((List.range' x count).map sample) =
      ((List.range' x count).filter fun x => (sample x).isFinite).map (vertexAt sample) := by
  induction count generalizing joined x with
  | zero => rfl
  | succ count ih =>
    have hNext : begins sample (x + 1) = !(sample x).isFinite := begins_succ x
    rw [List.range'_succ, List.map_cons, vertices]
    split
    · rename_i hFinite
      rw [hFinite] at hNext
      rw [List.filter_cons, if_pos hFinite, List.map_cons, ih hNext.symm, vertexAt, hJoined]
    · rename_i hInfinite
      rw [Bool.not_eq_true] at hInfinite
      rw [hInfinite] at hNext
      rw [List.filter_cons, if_neg (by simp [hInfinite]), ih hNext.symm]

/-! ## Runs -/

/-- A longest run of numbers with a property, by its first one and its length. -/
structure IsRun (p : ℕ → Prop) (first length : ℕ) : Prop where
  nonempty : 0 < length
  holds : ∀ i < length, p (first + i)
  before : first = 0 ∨ ¬p (first - 1)
  after : ¬p (first + length)

variable {p : ℕ → Prop} {first length : ℕ}

theorem IsRun.unique {other : ℕ} (h : IsRun p first length) (hOther : IsRun p first other) :
    length = other := by
  obtain hLess | hEq | hLess := Nat.lt_trichotomy length other
  · exact absurd (hOther.holds length hLess) h.after
  · exact hEq
  · exact absurd (h.holds other hLess) hOther.after

theorem IsRun.separated {next other : ℕ} (h : IsRun p first length) (hNext : IsRun p next other)
    (hLess : first < next) : first + length < next := by
  by_contra hNear
  have hBefore : p (next - 1) := by
    have hHolds := h.holds (next - 1 - first) (by omega)
    rwa [show first + (next - 1 - first) = next - 1 by omega] at hHolds
  exact hNext.before.elim (by omega) (absurd hBefore)

theorem exists_isRun {bound x : ℕ} (hBound : ∀ y, p y → y < bound) (hx : p x)
    (hBefore : x = 0 ∨ ¬p (x - 1)) : ∃ length, IsRun p x length := by
  classical
  have hEnds : ∃ length, ¬p (x + length) := ⟨bound, fun h => by have := hBound _ h; omega⟩
  refine ⟨Nat.find hEnds, ?_, ?_, hBefore, Nat.find_spec hEnds⟩
  · rw [Nat.find_pos]
    exact not_not_intro hx
  · intro i hLess
    exact not_not.mp (Nat.find_min hEnds hLess)

theorem exists_isRun_of_holds {bound x : ℕ} (hBound : ∀ y, p y → y < bound) (hx : p x) :
    ∃ first length, IsRun p first length ∧ first ≤ x ∧ x < first + length := by
  induction x with
  | zero =>
    obtain ⟨length, hRun⟩ := exists_isRun hBound hx (.inl rfl)
    exact ⟨0, length, hRun, le_rfl, by simpa using hRun.nonempty⟩
  | succ x ih =>
    by_cases hBefore : p x
    · obtain ⟨first, length, hRun, hLow, hHigh⟩ := ih hBefore
      refine ⟨first, length, hRun, by omega, ?_⟩
      by_contra hEnd
      exact hRun.after ((show x + 1 = first + length by omega) ▸ hx)
    · obtain ⟨length, hRun⟩ := exists_isRun hBound hx (.inr hBefore)
      exact ⟨x + 1, length, hRun, le_rfl, by have := hRun.nonempty; omega⟩

/-- Numbers in their order are made up of the runs among them. -/
theorem exists_runs {xs : List ℕ} (hSorted : xs.Pairwise (· < ·)) :
    ∃ runs : List (ℕ × ℕ), runs.Pairwise (fun r s => r.1 + r.2 < s.1) ∧
      (∀ first length, (first, length) ∈ runs ↔ IsRun (· ∈ xs) first length) ∧
      xs = runs.flatMap fun r => List.range' r.1 r.2 := by
  have hBound : ∀ y ∈ xs, y < xs.sum + 1 := fun y hMem =>
    Nat.lt_succ_of_le (List.single_le_sum (fun _ _ => Nat.zero_le _) y hMem)
  choose! length hLength using fun first (h : first ∈ xs ∧ (first = 0 ∨ first - 1 ∉ xs)) =>
    exists_isRun hBound h.1 h.2
  let starts := xs.filter fun first => first = 0 ∨ first - 1 ∉ xs
  have hStarts : ∀ first ∈ starts, IsRun (· ∈ xs) first (length first) := by
    intro first hMem
    obtain ⟨hIn, hBegins⟩ := List.mem_filter.mp hMem
    exact hLength first ⟨hIn, of_decide_eq_true hBegins⟩
  have hRuns : ∀ first size, (first, size) ∈ starts.map (fun s => (s, length s)) ↔
      IsRun (· ∈ xs) first size := by
    intro first size
    rw [List.mem_map]
    constructor
    · rintro ⟨start, hMem, hEq⟩
      obtain ⟨rfl, rfl⟩ := Prod.mk.inj hEq
      exact hStarts start hMem
    · intro hRun
      have hFirst : first ∈ xs := hRun.holds 0 hRun.nonempty
      have hMem : first ∈ starts :=
        List.mem_filter.mpr ⟨hFirst, decide_eq_true hRun.before⟩
      exact ⟨first, hMem, by rw [(hStarts first hMem).unique hRun]⟩
  have hSeparated : (starts.map fun s => (s, length s)).Pairwise
      fun r s => r.1 + r.2 < s.1 := by
    rw [List.pairwise_map]
    refine (hSorted.filter _).imp_of_mem fun hFirst hNext hLess => ?_
    exact (hStarts _ hFirst).separated (hStarts _ hNext) hLess
  refine ⟨_, hSeparated, hRuns, ?_⟩
  refine hSorted.eq_of_mem_iff ?_ fun x => ?_
  · refine List.pairwise_flatMap.mpr ⟨fun _ _ => List.pairwise_lt_range' 1, ?_⟩
    refine hSeparated.imp fun hLess x hx y hy => ?_
    rw [List.mem_range'_1] at hx hy
    omega
  · rw [List.mem_flatMap]
    constructor
    · intro hx
      obtain ⟨first, size, hRun, hLow, hHigh⟩ := exists_isRun_of_holds hBound hx
      exact ⟨(first, size), (hRuns first size).mpr hRun, List.mem_range'_1.mpr ⟨hLow, hHigh⟩⟩
    · rintro ⟨⟨first, size⟩, hMem, hx⟩
      obtain ⟨hLow, hHigh⟩ := List.mem_range'_1.mp hx
      have hHolds := ((hRuns first size).mp hMem).holds (x - first) (by omega)
      rwa [show first + (x - first) = x by omega] at hHolds

/-! ## Strokes -/

/-- Commands that move at the first position of each run are cut into the runs. -/
theorem strokes_flatMap {command : ℕ → Command} {runs : List (ℕ × ℕ)}
    (hSome : ∀ r ∈ runs, 0 < r.2)
    (hMoves : ∀ r ∈ runs, ∀ i < r.2, (command (r.1 + i)).letter = ['M'] ↔ i = 0) :
    strokes ((runs.flatMap fun r => List.range' r.1 r.2).map command) =
      runs.map fun r => (List.range' r.1 r.2).map command := by
  have hStroke : ∀ r ∈ runs, (List.range' r.1 r.2).map command ≠ [] := by
    intro r hR hNil
    rw [List.map_eq_nil_iff, List.range'_eq_nil_iff] at hNil
    exact (hSome r hR).ne' hNil
  rw [strokes, List.map_flatMap, List.flatMap_def]
  refine List.splitBy_flatten ?_ ?_ ?_
  · intro hMem
    obtain ⟨r, hR, hNil⟩ := List.mem_map.mp hMem
    exact hStroke r hR hNil
  · intro stroke hMem
    obtain ⟨r, hR, rfl⟩ := List.mem_map.mp hMem
    rw [List.isChain_iff_getElem]
    intro i hLess
    rw [List.length_map, List.length_range'] at hLess
    have hLater := (hMoves r hR (i + 1) hLess).not.mpr (Nat.succ_ne_zero i)
    simpa using hLater
  · refine (List.pairwise_map.mpr ?_).isChain
    refine List.pairwise_of_forall_mem_list fun r hR s hS => ?_
    have hMove := (hMoves s hS 0 (hSome s hS)).mpr rfl
    refine ⟨hStroke r hR, hStroke s hS, ?_⟩
    simpa [List.head_map, List.head_range'] using hMove

/-- The command at a position with a finite value: it moves unless the value before is finite. -/
def commandAt (sample : ℕ → Binary64) (height : Binary64) (places x : ℕ) : Command :=
  ⟨if x = 0 ∨ ¬(sample (x - 1)).isFinite then ['M'] else ['L'], Decimal.fixed (.ofNat x) places,
    Decimal.fixed (height - sample x) places⟩

theorem toCommand_vertexAt (x : ℕ) :
    (vertexAt sample x).toCommand height places = commandAt sample height places x := by
  have hBegins : begins sample x ↔ x = 0 ∨ ¬(sample (x - 1)).isFinite := by
    rw [begins, Bool.or_eq_true, decide_eq_true_eq, Bool.not_eq_true', Bool.not_eq_true]
  rw [Vertex.toCommand, vertexAt, letter, commandAt]
  simp only [hBegins]

/-- In a run only the command at the first position moves. -/
theorem IsRun.moves_iff {i : ℕ}
    (h : IsRun (fun x : ℕ => (x : ℚ) < width.value ∧ (sample x).isFinite) first length)
    (hLess : i < length) :
    (commandAt sample height places (first + i)).letter = ['M'] ↔ i = 0 := by
  have hLetter : (commandAt sample height places (first + i)).letter = ['M'] ↔
      first + i = 0 ∨ ¬(sample (first + i - 1)).isFinite := by
    rw [commandAt]
    split
    · rename_i hMoves
      exact iff_of_true rfl hMoves
    · rename_i hStays
      exact iff_of_false (by simp) hStays
  rw [hLetter]
  constructor
  · rintro (hZero | hGap)
    · omega
    · by_contra hLater
      have hBefore := h.holds (i - 1) (by omega)
      rw [show first + (i - 1) = first + i - 1 by omega] at hBefore
      exact hGap hBefore.2
  · rintro rfl
    refine h.before.imp id fun hBefore hFinite => hBefore ⟨?_, hFinite⟩
    have hFirst : ((first : ℕ) : ℚ) < width.value := (h.holds 0 hLess).1
    exact lt_of_le_of_lt (Nat.cast_le.mpr (Nat.sub_le first 1)) hFirst

/-- The positions of an axis with finite values, in their order. -/
theorem exists_positions (hWidth : width.isFinite)
    (hEvaluate : ∀ x : ℕ, (x : ℚ) < width.value → evaluate x = .ok (sample x)) :
    ∃ (values : List Binary64) (xs : List ℕ), sampled evaluate width = .ok values ∧
      xs.Pairwise (· < ·) ∧ (∀ x, x ∈ xs ↔ (x : ℚ) < width.value ∧ (sample x).isFinite) ∧
      ofValues values = xs.map (vertexAt sample) := by
  obtain ⟨count, hPositions, hCount⟩ := positions_of_isFinite hWidth
  have hValues : valuesFrom evaluate 0 count = .ok ((List.range' 0 count).map sample) :=
    valuesFrom_eq fun x _ hLess => hEvaluate x ((hCount x).mp (by omega))
  refine ⟨(List.range' 0 count).map sample,
    (List.range' 0 count).filter fun x => (sample x).isFinite, ?_, ?_, ?_, vertices_eq rfl⟩
  · rw [sampled, hPositions]
    exact hValues
  · exact (List.pairwise_lt_range' 1).filter _
  · intro x
    rw [List.mem_filter, List.mem_range'_1, ← hCount]
    simp

/-- The commands of a path stand for the positions with finite values, and its strokes for the
longest runs of such positions. -/
theorem path_reads_runs (hWidth : width.isFinite)
    (hEvaluate : ∀ x : ℕ, (x : ℚ) < width.value → evaluate x = .ok (sample x))
    (height : Binary64) (places : ℕ) :
    ∃ (values : List Binary64) (xs : List ℕ) (runs : List (ℕ × ℕ)),
      sampled evaluate width = .ok values ∧
      xs.Pairwise (· < ·) ∧ (∀ x, x ∈ xs ↔ (x : ℚ) < width.value ∧ (sample x).isFinite) ∧
      read? (path height places (ofValues values)) =
        some (xs.map (commandAt sample height places)) ∧
      runs.Pairwise (fun r s => r.1 + r.2 < s.1) ∧
      (∀ first length, (first, length) ∈ runs ↔
        IsRun (fun x : ℕ => (x : ℚ) < width.value ∧ (sample x).isFinite) first length) ∧
      strokes (xs.map (commandAt sample height places)) =
        runs.map (fun r => (List.range' r.1 r.2).map (commandAt sample height places)) ∧
      (path height places (ofValues values) = [] ↔
        ∀ x : ℕ, (x : ℚ) < width.value → ¬(sample x).isFinite) ∧
      (path height places (ofValues values)).head? ≠ some 'L' := by
  obtain ⟨values, xs, hValues, hSorted, hMem, hVertices⟩ := exists_positions hWidth hEvaluate
  obtain ⟨runs, hSeparated, hRuns, hFlat⟩ := exists_runs hSorted
  have hHolds : (· ∈ xs) = fun x : ℕ => (x : ℚ) < width.value ∧ (sample x).isFinite :=
    funext fun x => propext (hMem x)
  refine ⟨values, xs, runs, hValues, hSorted, hMem, ?_, hSeparated, hHolds ▸ hRuns, ?_, ?_, ?_⟩
  · rw [read?_path, hVertices, List.map_map]
    exact congrArg some (List.map_congr_left fun x _ => toCommand_vertexAt x)
  · rw [hFlat]
    refine strokes_flatMap (fun r hR => ((hRuns r.1 r.2).mp hR).nonempty) fun r hR i hLess => ?_
    exact IsRun.moves_iff (hHolds ▸ (hRuns r.1 r.2).mp hR) hLess
  · rw [path_eq_nil_iff, hVertices, List.map_eq_nil_iff, List.eq_nil_iff_forall_not_mem]
    exact forall_congr' fun x => (hMem x).not.trans not_and
  · exact head?_path _

/-- No number at 0 and an infinite one at 3. -/
def gapped : ℕ → Binary64
  | 0 => .nan
  | 3 => .infinite false
  | x => .ofNat x

/-- On an axis of width 4.5 there are two runs, from 1 and from 4. -/
theorem path_reads_runs_gapped :
    (Binary64.ofRatio false 9 2).isFinite = true ∧ ∃ (values : List Binary64) (xs : List ℕ)
      (runs : List (ℕ × ℕ)), sampled (fun x => .ok (gapped x)) (.ofRatio false 9 2) = .ok values ∧
      path 10 0 (ofValues values) = "M 1 9 L 2 8 M 4 6".toList ∧
      read? (path 10 0 (ofValues values)) = some (xs.map (commandAt gapped 10 0)) ∧
      strokes (xs.map (commandAt gapped 10 0)) =
        runs.map fun r => (List.range' r.1 r.2).map (commandAt gapped 10 0) := by
  have hFinite : (Binary64.ofRatio false 9 2).isFinite = true := by decide +kernel
  obtain ⟨values, xs, runs, hValues, -, -, hRead, -, -, hStrokes, -⟩ :=
    @path_reads_runs (fun x => .ok (gapped x)) gapped _ hFinite (fun _ _ => rfl) 10 0
  have hText : (sampled (fun x => .ok (gapped x)) (.ofRatio false 9 2)).toOption.map
      (fun values => path 10 0 (ofValues values)) = some "M 1 9 L 2 8 M 4 6".toList := by
    decide +kernel
  rw [hValues] at hText
  exact ⟨hFinite, values, xs, runs, hValues, Option.some.inj hText, hRead, hStrokes⟩

end Curve

end PlotLang

import Mathlib.Algebra.Order.Ring.Rat
import Mathlib.Data.Int.Cast.Lemmas
import Mathlib.Tactic.Linarith
import Mathlib.Tactic.Positivity
import Mathlib.Tactic.Ring
import PlotLang.Number.Binary64

/-! # Rounding is to the nearest

A finite double has an exact value, a rational number. The quotient of naturals that every rounding
goes through is the whole number nearest to the exact quotient, the even one where two are equally
near. There is only one such number, so two ways to round cannot differ.
-/

namespace PlotLang

/-- The value of a finite double; any other has none, and zero stands for it. -/
def Binary64.value (x : Binary64) : ℚ := x.signedUnits / (unitsInOne : ℚ)

structure IsNearest (q : ℚ) (n : ℤ) : Prop where
  near : |q - n| ≤ 1 / 2
  even_of_tie : |q - n| = 1 / 2 → Even n

/-- A number of decimal places nearest to `q`, a tie going to the even last digit. -/
def IsRounded (places : ℕ) (q r : ℚ) : Prop :=
  ∃ n : ℤ, IsNearest (q * 10 ^ places) n ∧ r = n / 10 ^ places

namespace IsNearest

variable {q q' : ℚ} {m n : ℤ}

theorem of_lt (h : |q - n| < 1 / 2) : IsNearest q n :=
  ⟨h.le, fun hTie => absurd hTie h.ne⟩

theorem mono (hLe : q ≤ q') (hm : IsNearest q m) (hn : IsNearest q' n) : m ≤ n := by
  by_contra hLt
  have hStep : n + 1 ≤ m := by omega
  have hCast : (n : ℚ) + 1 ≤ m := by exact_mod_cast hStep
  have hUpper := abs_le.mp hm.near
  have hLower := abs_le.mp hn.near
  -- both lie half a unit away from one number, so they are neighbours and cannot both be even
  have hTieM : |q - m| = 1 / 2 := by
    rw [abs_sub_comm, abs_of_nonneg] <;> linarith
  have hTieN : |q' - n| = 1 / 2 := by
    rw [abs_of_nonneg] <;> linarith
  have hNext : (m : ℚ) = n + 1 := by linarith
  have hNext : m = n + 1 := by exact_mod_cast hNext
  have hEvenM := hm.even_of_tie hTieM
  have hEvenN := hn.even_of_tie hTieN
  rw [Int.even_iff] at hEvenM hEvenN
  omega

theorem unique (hm : IsNearest q m) (hn : IsNearest q n) : m = n :=
  le_antisymm (mono le_rfl hm hn) (mono le_rfl hn hm)

theorem zero : IsNearest 0 0 := of_lt (by simp)

/-- A half is a tie, which goes to zero. -/
theorem pos_iff (h : IsNearest q n) : 0 < n ↔ 1 / 2 < q := by
  obtain ⟨hLower, hUpper⟩ := abs_le.mp h.near
  constructor
  · intro hPositive
    have hOne : (1 : ℚ) ≤ n := by exact_mod_cast hPositive
    by_contra hSmall
    have hHalf : q = 1 / 2 := by linarith
    have hNext : (n : ℚ) = 1 := by linarith
    have hTie : |q - n| = 1 / 2 := by
      rw [hHalf, hNext]
      norm_num
    have hEven := h.even_of_tie hTie
    have hNext : n = 1 := by exact_mod_cast hNext
    rw [hNext] at hEven
    exact absurd hEven (by decide)
  · intro hLarge
    have hPositive : (0 : ℚ) < n := by linarith
    exact_mod_cast hPositive

theorem neg (h : IsNearest q n) : IsNearest (-q) (-n) := by
  have hDistance : |-q - ((-n : ℤ) : ℚ)| = |q - n| := by
    rw [Int.cast_neg, ← neg_sub', abs_neg]
  constructor
  · rw [hDistance]
    exact h.near
  · intro hTie
    rw [hDistance] at hTie
    exact (h.even_of_tie hTie).neg

end IsNearest

theorem isNearest_roundDiv (num : ℕ) {den : ℕ} (hDen : 0 < den) :
    IsNearest ((num : ℚ) / den) (roundDiv num den) := by
  have hPositive : (0 : ℚ) < den := by exact_mod_cast hDen
  have hSplit : (num : ℚ) / den = (num / den : ℕ) + ((num % den : ℕ) : ℚ) / den := by
    rw [div_eq_iff hPositive.ne', add_mul, div_mul_cancel₀ _ hPositive.ne']
    exact_mod_cast (Nat.div_add_mod' num den).symm
  have hRem : num % den < den := Nat.mod_lt _ hDen
  rw [hSplit]
  unfold roundDiv
  simp only
  generalize num / den = whole
  generalize num % den = rem at hRem
  have hNonneg : (0 : ℚ) ≤ (rem : ℚ) / den := by positivity
  split
  · rename_i hBelow
    have hBelow : (2 : ℚ) * rem < den := by exact_mod_cast hBelow
    have hHalf : (rem : ℚ) / den < 1 / 2 := by
      rw [div_lt_div_iff₀ hPositive two_pos]
      linarith
    refine .of_lt ?_
    rw [Int.cast_natCast, add_sub_cancel_left, abs_of_nonneg hNonneg]
    exact hHalf
  split
  · rename_i hAbove
    have hAbove : (den : ℚ) < 2 * rem := by exact_mod_cast hAbove
    have hRem : (rem : ℚ) < den := by exact_mod_cast hRem
    have hHalf : 1 / 2 < (rem : ℚ) / den := by
      rw [div_lt_div_iff₀ two_pos hPositive]
      linarith
    have hOne : (rem : ℚ) / den < 1 := (div_lt_one hPositive).mpr hRem
    refine .of_lt (abs_lt.mpr ?_)
    push_cast
    constructor <;> linarith
  · rename_i hBelow hAbove
    have hTie : 2 * rem = den := by omega
    have hHalf : (rem : ℚ) / den = 1 / 2 := by
      rw [div_eq_div_iff hPositive.ne' two_ne_zero, ← hTie]
      push_cast
      ring
    have hEven : Even (whole + whole % 2) := by
      rw [Nat.even_iff]
      omega
    refine ⟨?_, fun _ => by exact_mod_cast hEven⟩
    rw [hHalf]
    obtain hZero | hOne := Nat.mod_two_eq_zero_or_one whole
    · rw [hZero, abs_le]
      push_cast
      constructor <;> linarith
    · rw [hOne, abs_le]
      push_cast
      constructor <;> linarith

theorem natAbs_num_div_den (q : ℚ) : (q.num.natAbs : ℚ) / q.den = |q| := by
  rw [Rat.abs_def, Rat.divInt_eq_div]
  rfl

theorem exists_isNearest (q : ℚ) : ∃ n, IsNearest q n := by
  have hSize := isNearest_roundDiv q.num.natAbs q.den_pos
  rw [natAbs_num_div_den] at hSize
  obtain hNonneg | hNegative := le_or_gt 0 q
  · rw [abs_of_nonneg hNonneg] at hSize
    exact ⟨_, hSize⟩
  · rw [abs_of_neg hNegative] at hSize
    exact ⟨_, neg_neg q ▸ hSize.neg⟩

theorem exists_isRounded (places : ℕ) (q : ℚ) : ∃ r, IsRounded places q r := by
  obtain ⟨n, hNearest⟩ := exists_isNearest (q * 10 ^ places)
  exact ⟨_, n, hNearest, rfl⟩

namespace IsRounded

variable {places : ℕ} {q r s : ℚ}

theorem unique (hr : IsRounded places q r) (hs : IsRounded places q s) : r = s := by
  obtain ⟨m, hm, rfl⟩ := hr
  obtain ⟨n, hn, rfl⟩ := hs
  rw [hm.unique hn]

theorem mono {q' : ℚ} (hLe : q ≤ q') (hr : IsRounded places q r) (hs : IsRounded places q' s) :
    r ≤ s := by
  obtain ⟨m, hm, rfl⟩ := hr
  obtain ⟨n, hn, rfl⟩ := hs
  have hScaled : q * 10 ^ places ≤ q' * 10 ^ places :=
    mul_le_mul_of_nonneg_right hLe (by positivity)
  have hCounts : (m : ℚ) ≤ n := by exact_mod_cast IsNearest.mono hScaled hm hn
  exact div_le_div_of_nonneg_right hCounts (by positivity)

theorem zero (places : ℕ) : IsRounded places 0 0 :=
  ⟨0, by rw [zero_mul]; exact .zero, by rw [Int.cast_zero, zero_div]⟩

theorem pos_iff (h : IsRounded places q r) : 0 < r ↔ 1 / 2 < q * 10 ^ places := by
  obtain ⟨n, hn, rfl⟩ := h
  rw [← hn.pos_iff, div_pos_iff_of_pos_right (by positivity), Int.cast_pos]

theorem neg (h : IsRounded places q r) : IsRounded places (-q) (-r) := by
  obtain ⟨n, hn, rfl⟩ := h
  refine ⟨-n, ?_, ?_⟩
  · rw [neg_mul]
    exact hn.neg
  · rw [Int.cast_neg, neg_div]

end IsRounded

end PlotLang

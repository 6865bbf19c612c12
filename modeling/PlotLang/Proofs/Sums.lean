import Mathlib.Data.Nat.Log
import PlotLang.Proofs.FixedPoint

/-! # Sums of doubles

The sum of two doubles is the exact sum rounded to 53 significant bits. Rounding is monotone: within
a range of one spacing because every quotient goes to the nearest natural, and across ranges because
the power of two between them is a number of both. It leaves a number alone that already has 53
bits.
-/

namespace PlotLang

theorem IsNearest.whole (n : ℤ) : IsNearest n n := of_lt (by simp)

namespace Binary64

variable {a b c d n : ℕ} {x y z : Binary64} {q : ℚ}

/-! ## Rounding to 53 bits -/

theorem spacing_pos (units : ℕ) : 0 < spacing units := Nat.two_pow_pos _

theorem log2_mono {m n : ℕ} (h : m ≤ n) : m.log2 ≤ n.log2 := by
  rw [Nat.log2_eq_log_two, Nat.log2_eq_log_two]
  exact Nat.log_mono_right h

theorem exists_roundUnits (a : ℕ) (hb : 0 < b) : ∃ m : ℕ,
    roundUnits a b = m * spacing (a / b) ∧ IsNearest ((a : ℚ) / b / spacing (a / b)) m := by
  refine ⟨_, rfl, ?_⟩
  have hNearest := isNearest_roundDiv a (Nat.mul_pos hb (spacing_pos (a / b)))
  rwa [Nat.cast_mul, ← div_div] at hNearest

/-- A whole number of gaps above the quotient is not exceeded. -/
theorem roundUnits_le (hb : 0 < b) (hGap : spacing (a / b) ∣ n) (hLe : (a : ℚ) / b ≤ n) :
    roundUnits a b ≤ n := by
  obtain ⟨m, hRound, hNearest⟩ := exists_roundUnits a hb
  obtain ⟨k, rfl⟩ := hGap
  have hPositive : (0 : ℚ) < spacing (a / b) := Nat.cast_pos.mpr (spacing_pos _)
  have hQuotient : (a : ℚ) / b / spacing (a / b) ≤ (k : ℤ) := by
    rw [div_le_iff₀' hPositive]
    exact_mod_cast hLe
  have hCounts : m ≤ k := by exact_mod_cast hNearest.mono hQuotient (.whole k)
  rw [hRound, mul_comm]
  exact Nat.mul_le_mul_left _ hCounts

/-- Nor is one below it missed. -/
theorem le_roundUnits (hb : 0 < b) (hGap : spacing (a / b) ∣ n) (hLe : (n : ℚ) ≤ (a : ℚ) / b) :
    n ≤ roundUnits a b := by
  obtain ⟨m, hRound, hNearest⟩ := exists_roundUnits a hb
  obtain ⟨k, rfl⟩ := hGap
  have hPositive : (0 : ℚ) < spacing (a / b) := Nat.cast_pos.mpr (spacing_pos _)
  have hQuotient : ((k : ℤ) : ℚ) ≤ (a : ℚ) / b / spacing (a / b) := by
    rw [le_div_iff₀' hPositive]
    exact_mod_cast hLe
  have hCounts : k ≤ m := by exact_mod_cast (IsNearest.whole k).mono hQuotient hNearest
  rw [hRound, mul_comm m]
  exact Nat.mul_le_mul_left _ hCounts

theorem cast_le_div_iff (hb : 0 < b) : (n : ℚ) ≤ (a : ℚ) / b ↔ n ≤ a / b := by
  rw [le_div_iff₀ (Nat.cast_pos.mpr hb), Nat.le_div_iff_mul_le hb]
  exact_mod_cast Iff.rfl

theorem spacing_dvd_two_pow {units k : ℕ} (h : units.log2 ≤ k) : spacing units ∣ 2 ^ k :=
  Nat.pow_dvd_pow 2 (by omega)

theorem roundUnits_mono_of_log2_eq (hb : 0 < b) (hd : 0 < d)
    (hSame : (a / b).log2 = (c / d).log2) (hLe : (a : ℚ) / b ≤ (c : ℚ) / d) :
    roundUnits a b ≤ roundUnits c d := by
  obtain ⟨m, hRoundA, hNearestA⟩ := exists_roundUnits a hb
  obtain ⟨k, hRoundC, hNearestC⟩ := exists_roundUnits c hd
  have hSpacing : spacing (a / b) = spacing (c / d) := by rw [spacing, spacing, hSame]
  rw [hSpacing] at hRoundA hNearestA
  have hGap : (0 : ℚ) ≤ spacing (c / d) := Nat.cast_nonneg _
  have hQuotient := div_le_div_of_nonneg_right hLe hGap
  have hCounts : m ≤ k := by exact_mod_cast hNearestA.mono hQuotient hNearestC
  rw [hRoundA, hRoundC]
  exact Nat.mul_le_mul_right _ hCounts

/-- The leading bit of the greater quotient alone is a number between the two. -/
theorem roundUnits_mono_of_log2_lt (hb : 0 < b) (hd : 0 < d)
    (hLess : (a / b).log2 < (c / d).log2) : roundUnits a b ≤ roundUnits c d := by
  have hSome : c / d ≠ 0 := by
    intro hZero
    simp [hZero] at hLess
  have hBelow : a / b < 2 ^ (c / d).log2 :=
    Nat.lt_log2_self.trans_le (Nat.pow_le_pow_right two_pos hLess)
  have hAbove : 2 ^ (c / d).log2 ≤ c / d := Nat.log2_self_le hSome
  generalize hPower : 2 ^ (c / d).log2 = n at hBelow hAbove
  have hUpper : (a : ℚ) / b ≤ n := (not_le.mp fun h =>
    absurd ((cast_le_div_iff hb).mp h) hBelow.not_ge).le
  calc roundUnits a b ≤ n := roundUnits_le hb (hPower ▸ spacing_dvd_two_pow hLess.le) hUpper
    _ ≤ roundUnits c d :=
      le_roundUnits hd (hPower ▸ spacing_dvd_two_pow le_rfl) ((cast_le_div_iff hd).mpr hAbove)

theorem roundUnits_mono (hb : 0 < b) (hd : 0 < d) (hLe : (a : ℚ) / b ≤ (c : ℚ) / d) :
    roundUnits a b ≤ roundUnits c d := by
  have hWhole : a / b ≤ c / d :=
    (cast_le_div_iff hd).mp (((cast_le_div_iff hb).mpr le_rfl).trans hLe)
  obtain hSame | hLess := (log2_mono hWhole).eq_or_lt
  · exact roundUnits_mono_of_log2_eq hb hd hSame hLe
  · exact roundUnits_mono_of_log2_lt hb hd hLess

/-- A quotient that is a number of 53 bits is left alone. -/
theorem roundUnits_eq (hb : 0 < b) (hGap : spacing n ∣ n) (hEq : (a : ℚ) / b = n) :
    roundUnits a b = n := by
  have hWhole : a / b = n := by
    rw [div_eq_iff (Nat.cast_pos.mpr hb).ne'] at hEq
    exact Nat.div_eq_of_eq_mul_left hb (by exact_mod_cast hEq)
  have hGap : spacing (a / b) ∣ n := by rwa [hWhole]
  exact le_antisymm (roundUnits_le hb hGap hEq.le) (le_roundUnits hb hGap hEq.ge)

theorem roundUnits_congr (hb : 0 < b) (hd : 0 < d) (hEq : (a : ℚ) / b = (c : ℚ) / d) :
    roundUnits a b = roundUnits c d :=
  le_antisymm (roundUnits_mono hb hd hEq.le) (roundUnits_mono hd hb hEq.ge)

/-! ## The nearest number of 53 bits -/

def nearestUnits (q : ℚ) : ℕ := roundUnits (q.num.natAbs * unitsInOne) q.den

/-- The number of 53 bits nearest to a rational number, however great it is. -/
def nearest (q : ℚ) : ℚ := Decimal.signed (q < 0) (nearestUnits q / unitsInOne)

theorem num_div_den_units (q : ℚ) :
    ((q.num.natAbs * unitsInOne : ℕ) : ℚ) / q.den = |q| * unitsInOne := by
  rw [Nat.cast_mul, mul_div_right_comm, natAbs_num_div_den]

theorem nearestUnits_mono {r : ℚ} (h : |q| ≤ |r|) : nearestUnits q ≤ nearestUnits r := by
  refine roundUnits_mono q.den_pos r.den_pos ?_
  rw [num_div_den_units, num_div_den_units]
  exact mul_le_mul_of_nonneg_right h cast_unitsInOne_pos.le

theorem nearestUnits_eq (hCount : |q| = (n : ℚ) / unitsInOne) :
    nearestUnits q = roundUnits n 1 := by
  refine roundUnits_congr q.den_pos one_pos ?_
  rw [num_div_den_units, hCount, div_mul_cancel₀ _ cast_unitsInOne_pos.ne', Nat.cast_one, div_one]

theorem signed_abs (q : ℚ) : Decimal.signed (q < 0) |q| = q := by
  by_cases hNegative : q < 0
  · simp [Decimal.signed, hNegative, abs_of_neg]
  · simp [Decimal.signed, hNegative, abs_of_nonneg (not_lt.mp hNegative)]

theorem nearest_eq (hGap : spacing n ∣ n) (hCount : |q| = (n : ℚ) / unitsInOne) :
    nearest q = q := by
  have hUnits : nearestUnits q = n := by
    rw [nearestUnits_eq hCount]
    exact roundUnits_eq one_pos hGap (by rw [Nat.cast_one, div_one])
  rw [nearest, hUnits, ← hCount, signed_abs]

theorem nearestUnits_div_nonneg (q : ℚ) : (0 : ℚ) ≤ (nearestUnits q : ℚ) / unitsInOne :=
  div_nonneg (Nat.cast_nonneg _) cast_unitsInOne_pos.le

theorem monotone_nearest : Monotone nearest := by
  intro q r hLe
  have hMono {q r : ℚ} (h : |q| ≤ |r|) :
      (nearestUnits q : ℚ) / unitsInOne ≤ (nearestUnits r : ℚ) / unitsInOne :=
    div_le_div_of_nonneg_right (Nat.cast_le.mpr (nearestUnits_mono h)) cast_unitsInOne_pos.le
  rw [nearest, nearest]
  by_cases hq : q < 0
  · by_cases hr : r < 0
    · simp only [hq, hr, decide_true, Decimal.signed]
      refine neg_le_neg (hMono ?_)
      rw [abs_of_neg hq, abs_of_neg hr]
      exact neg_le_neg hLe
    · simp only [hq, hr, decide_true, decide_false, Decimal.signed]
      exact (neg_nonpos.mpr (nearestUnits_div_nonneg q)).trans (nearestUnits_div_nonneg r)
  · have hr : ¬r < 0 := fun hr => hq (hLe.trans_lt hr)
    simp only [hq, hr, decide_false, Decimal.signed]
    refine hMono ?_
    rwa [abs_of_nonneg (not_lt.mp hq), abs_of_nonneg (not_lt.mp hr)]

theorem abs_nearest (q : ℚ) : |nearest q| = (nearestUnits q : ℚ) / unitsInOne := by
  rw [nearest, Decimal.signed]
  split
  · rw [abs_neg, abs_of_nonneg (nearestUnits_div_nonneg q)]
  · exact abs_of_nonneg (nearestUnits_div_nonneg q)

theorem nearest_nearest (q : ℚ) : nearest (nearest q) = nearest q :=
  nearest_eq (spacing_dvd_roundUnits _ _) (abs_nearest q)

theorem nearest_zero : nearest 0 = 0 :=
  nearest_eq (n := 0) (dvd_zero _) (by rw [abs_zero, Nat.cast_zero, zero_div])

/-! ## Sums -/

theorem abs_div_units (units : ℤ) :
    |(units : ℚ) / unitsInOne| = (units.natAbs : ℚ) / unitsInOne := by
  rw [abs_div, abs_of_pos cast_unitsInOne_pos, Nat.cast_natAbs, Int.cast_abs]

theorem abs_value : |x.value| = (x.signedUnits.natAbs : ℚ) / unitsInOne :=
  abs_div_units x.signedUnits

theorem value_add_value : x.value + y.value =
    ((x.signedUnits + y.signedUnits : ℤ) : ℚ) / unitsInOne := by
  rw [value, value, ← add_div, Int.cast_add]

theorem fits_natAbs_signedUnits (x : Binary64) : Fits x.signedUnits.natAbs := by
  cases x with
  | nan => exact fits_zero
  | infinite negative => exact fits_zero
  | finite negative units fits => cases negative <;> simpa [signedUnits] using fits

theorem nearest_value (x : Binary64) : nearest x.value = x.value :=
  nearest_eq (fits_natAbs_signedUnits x).1 abs_value

theorem isFinite_ofUnits_iff {negative : Bool} :
    (ofUnits negative n).isFinite ↔ (roundUnits n 1).log2 < 2098 := by
  simp only [ofUnits]
  split
  · exact iff_of_true rfl ‹_›
  · exact iff_of_false Bool.false_ne_true ‹_›

theorem value_ofUnits {negative : Bool} (h : (ofUnits negative n).isFinite) :
    (ofUnits negative n).value = Decimal.signed negative (roundUnits n 1 / unitsInOne) := by
  have hBits := isFinite_ofUnits_iff.mp h
  simp only [ofUnits, dif_pos hBits]
  exact value_finite

theorem add_cases (hx : x.isFinite) (hy : y.isFinite) :
    (x.signedUnits + y.signedUnits = 0 ∧ ∃ negative, x + y = finite negative 0 fits_zero) ∨
      x + y = ofUnits (x.signedUnits + y.signedUnits < 0)
        (x.signedUnits + y.signedUnits).natAbs := by
  match x, y with
  | finite a m hm, finite b n hn =>
    change _ ∨ add _ _ = _
    rw [add]
    by_cases hZero : (finite a m hm).signedUnits + (finite b n hn).signedUnits = 0
    · exact .inl ⟨hZero, a && b, if_pos hZero⟩
    · exact .inr (if_neg hZero)

theorem roundUnits_zero : roundUnits 0 1 = 0 :=
  roundUnits_eq one_pos (dvd_zero _) (by simp)

/-- A sum of finite numbers is infinite only if its rounding has one bit too many. -/
theorem isFinite_add_iff (hx : x.isFinite) (hy : y.isFinite) : (x + y).isFinite ↔
    (roundUnits (x.signedUnits + y.signedUnits).natAbs 1).log2 < 2098 := by
  obtain ⟨hZero, negative, hSum⟩ | hSum := add_cases hx hy
  · rw [hSum, hZero, Int.natAbs_zero, roundUnits_zero]
    exact iff_of_true rfl (by decide)
  · rw [hSum, isFinite_ofUnits_iff]

theorem value_add (hx : x.isFinite) (hy : y.isFinite) (hSum : (x + y).isFinite) :
    (x + y).value = nearest (x.value + y.value) := by
  rw [value_add_value]
  obtain ⟨hZero, negative, hEq⟩ | hEq := add_cases hx hy
  · rw [hEq, hZero, Int.cast_zero, zero_div, nearest_zero, value_finite,
      Nat.cast_zero, zero_div]
    cases negative <;> simp [Decimal.signed]
  · rw [hEq] at hSum ⊢
    generalize x.signedUnits + y.signedUnits = sum at hSum ⊢
    have hSign : ((sum : ℚ) / unitsInOne < 0) ↔ sum < 0 := by
      rw [div_lt_iff₀ cast_unitsInOne_pos, zero_mul, Int.cast_lt_zero]
    rw [value_ofUnits hSum, nearest, nearestUnits_eq (abs_div_units sum),
      decide_eq_decide.mpr hSign]

theorem isFinite_add_of_le (hx : x.isFinite) (hy : y.isFinite)
    (hLe : |x.value + y.value| ≤ (n : ℚ) / unitsInOne) (hBits : (roundUnits n 1).log2 < 2098) :
    (x + y).isFinite := by
  rw [value_add_value, abs_div_units, div_le_div_iff_of_pos_right cast_unitsInOne_pos] at hLe
  have hCount : ((x.signedUnits + y.signedUnits).natAbs : ℚ) / (1 : ℕ) ≤ (n : ℚ) / (1 : ℕ) := by
    rwa [Nat.cast_one, div_one, div_one]
  have hRounded := roundUnits_mono one_pos one_pos hCount
  rw [isFinite_add_iff hx hy]
  exact (log2_mono hRounded).trans_lt hBits

/-- A sum that is no greater in size than a double is finite. -/
theorem isFinite_add_of_abs_le (hx : x.isFinite) (hy : y.isFinite)
    (hLe : |x.value + y.value| ≤ |z.value|) : (x + y).isFinite := by
  obtain ⟨hGap, hBits⟩ := fits_natAbs_signedUnits z
  have hRounded : roundUnits z.signedUnits.natAbs 1 = z.signedUnits.natAbs :=
    roundUnits_eq one_pos hGap (by rw [Nat.cast_one, div_one])
  exact isFinite_add_of_le hx hy (hLe.trans_eq abs_value) (by rwa [hRounded])

/-- The number of 53 ones before `k` zeros. -/
def full (k : ℕ) : ℕ := (Nat.pow 2 53 - 1) * Nat.pow 2 k

theorem le_full {k : ℕ} (hGap : spacing n ∣ n) (hBits : n.log2 < k + 53) : n ≤ full k := by
  obtain ⟨m, hCount⟩ := hGap
  have hScale : n.log2 + 1 - 53 ≤ k := by omega
  have hLess : n < Nat.pow 2 (n.log2 + 1 - 53) * Nat.pow 2 53 := by
    rw [Nat.pow_eq, Nat.pow_eq, ← Nat.pow_add]
    exact Nat.lt_log2_self.trans_le (Nat.pow_le_pow_right two_pos (by omega))
  have hDigits : m < Nat.pow 2 53 := by
    rw [spacing] at hCount
    generalize Nat.pow 2 (n.log2 + 1 - 53) = gap at hCount hLess
    rw [hCount] at hLess
    exact Nat.lt_of_mul_lt_mul_left hLess
  calc n = spacing n * m := hCount
    _ ≤ Nat.pow 2 k * (Nat.pow 2 53 - 1) :=
      Nat.mul_le_mul (Nat.pow_le_pow_right two_pos hScale) (Nat.le_sub_one_of_lt hDigits)
    _ = (Nat.pow 2 53 - 1) * Nat.pow 2 k := Nat.mul_comm _ _

theorem natAbs_signedUnits_le (x : Binary64) : x.signedUnits.natAbs ≤ full 2045 :=
  have hFits := fits_natAbs_signedUnits x
  le_full hFits.1 hFits.2

theorem isFinite_neg : (-x).isFinite = x.isFinite := by
  cases x <;> rfl

theorem value_neg : (-x).value = -x.value := by
  have hUnits : (-x).signedUnits = -x.signedUnits := by
    match x with
    | nan => rfl
    | infinite _ => rfl
    | finite true _ _ => exact (neg_neg _).symm
    | finite false _ _ => rfl
  rw [value, value, hUnits, Int.cast_neg, neg_div]

theorem value_sub (hx : x.isFinite) (hy : y.isFinite) (hDifference : (x - y).isFinite) :
    (x - y).value = nearest (x.value - y.value) := by
  rw [sub_eq_add_neg, ← value_neg]
  exact value_add hx (isFinite_neg.trans hy) hDifference

theorem isFinite_sub_of_abs_le (hx : x.isFinite) (hy : y.isFinite)
    (hLe : |x.value - y.value| ≤ |z.value|) : (x - y).isFinite := by
  rw [sub_eq_add_neg, ← value_neg] at hLe
  exact isFinite_add_of_abs_le hx (isFinite_neg.trans hy) hLe

/-! ## Comparisons -/

theorem isFinite_zero : (0 : Binary64).isFinite := by decide +kernel

theorem value_zero : (0 : Binary64).value = 0 := by
  have hUnits : (0 : Binary64).signedUnits = 0 := by decide +kernel
  rw [value, hUnits, Int.cast_zero, zero_div]

theorem le_iff (hx : x.isFinite) (hy : y.isFinite) : x.le y ↔ x.value ≤ y.value := by
  match x, y with
  | finite .., finite .. =>
    rw [value, value, div_le_div_iff_of_pos_right cast_unitsInOne_pos, Int.cast_le]
    exact decide_eq_true_iff

theorem isFinite_of_le_of_le (hx : x.isFinite) (hz : z.isFinite) (hLower : x.le y)
    (hUpper : y.le z) : y.isFinite := by
  match x, y, z with
  | finite .., finite .., finite .. => rfl
  | finite .., infinite true, finite .. => cases hLower
  | finite .., infinite false, finite .. => cases hUpper

end Binary64

end PlotLang

import PlotLang.Text.Ranges

/-! # Decimal digits

`isDigit` is true of the ten digits a number is written with. `isDecimalDigit` is true of the
decimal digits of every script, each script having ten consecutive ones.
-/

namespace PlotLang.Text

def isDigit (c : Char) : Bool :=
  '0' ≤ c && c ≤ '9'

def digitValue (c : Char) : Nat :=
  c.toNat - '0'.toNat

def isHexDigit (c : Char) : Bool :=
  isDigit c || ('a' ≤ c && c ≤ 'f') || ('A' ≤ c && c ≤ 'F')

def hexDigits : List Char := "0123456789abcdefABCDEF".toList

/-- What holds of the characters with the first 128 numbers holds of a character among them. -/
theorem forall_ascii {p : Char → Prop} (h : ∀ n < 128, p (Char.ofNat n)) {c : Char}
    (hAscii : c.toNat < 128) : p c := by
  have hC := h c.toNat hAscii
  rwa [Char.ofNat_toNat] at hC

theorem mem_hexDigits {c : Char} (h : isHexDigit c) : c ∈ hexDigits := by
  have hAscii : c.toNat < 128 := by
    simp only [isHexDigit, isDigit, Bool.or_eq_true, Bool.and_eq_true, decide_eq_true_eq] at h
    obtain (⟨-, hHigh⟩ | ⟨-, hHigh⟩) | ⟨-, hHigh⟩ := h <;>
      exact Nat.lt_of_le_of_lt hHigh (by decide)
  have hAll : ∀ n < 128, isHexDigit (Char.ofNat n) → Char.ofNat n ∈ hexDigits := by decide
  exact forall_ascii (p := fun c => isHexDigit c → c ∈ hexDigits) hAll hAscii h

def decimalDigitRanges : List (Nat × Nat) :=
  [(48, 57), (1632, 1641), (1776, 1785), (1984, 1993), (2406, 2415), (2534, 2543), (2662, 2671),
   (2790, 2799), (2918, 2927), (3046, 3055), (3174, 3183), (3302, 3311), (3430, 3439),
   (3558, 3567), (3664, 3673), (3792, 3801), (3872, 3881), (4160, 4169), (4240, 4249),
   (6112, 6121), (6160, 6169), (6470, 6479), (6608, 6617), (6784, 6793), (6800, 6809),
   (6992, 7001), (7088, 7097), (7232, 7241), (7248, 7257), (42528, 42537), (43216, 43225),
   (43264, 43273), (43472, 43481), (43504, 43513), (43600, 43609), (44016, 44025), (65296, 65305),
   (66720, 66729), (68912, 68921), (69734, 69743), (69872, 69881), (69942, 69951), (70096, 70105),
   (70384, 70393), (70736, 70745), (70864, 70873), (71248, 71257), (71360, 71369), (71472, 71481),
   (71904, 71913), (72016, 72025), (72784, 72793), (73040, 73049), (73120, 73129), (92768, 92777),
   (92864, 92873), (93008, 93017), (120782, 120831), (123200, 123209), (123632, 123641),
   (125264, 125273), (130032, 130041)]

def isDecimalDigit (c : Char) : Bool :=
  inRanges decimalDigitRanges c.toNat

/-- The value of a decimal digit of any script: a range starts at the script's zero, and the one
range that holds several scripts holds whole tens. -/
def decimalDigitValue? (c : Char) : Option Nat :=
  (decimalDigitRanges.find? fun (first, last) => first ≤ c.toNat && c.toNat ≤ last).map
    fun (first, _) => (c.toNat - first) % 10

end PlotLang.Text

/-! # UTF-8

The octets of a text. A lead octet says how many octets follow it and which values the first of
them may have; the later ones are between 0x80 and 0xBF. So no character has two forms, and no
surrogate and nothing above U+10FFFF has one. Reading stops at the first octets that are no
character, and says which they are.
-/

namespace PlotLang.Text.Utf8

def encode (cs : List Char) : List UInt8 := cs.flatMap String.utf8EncodeChar

inductive Reason where
  | start
  | continuation
  | ended
  deriving DecidableEq, Repr

/-- Octets that are no character: the first of them, its place and the number of octets. -/
structure Fault where
  first : UInt8
  position : Nat
  count : Nat
  reason : Reason
  deriving DecidableEq, Repr

def Reason.text : Reason → String
  | .start => "invalid start byte"
  | .continuation => "invalid continuation byte"
  | .ended => "unexpected end of data"

def Fault.text (f : Fault) : String :=
  let place :=
    if f.count = 1 then
      let ds := Nat.toDigits 16 f.first.toNat
      let hex := String.ofList (List.replicate (2 - ds.length) '0' ++ ds)
      "byte 0x" ++ hex ++ " in position " ++ toString f.position
    else
      "bytes in position " ++ toString f.position ++ "-" ++ toString (f.position + f.count - 1)
  "'utf-8' codec can't decode " ++ place ++ ": " ++ f.reason.text

/-- What a lead octet promises: its own bits, the number of octets to follow and the bounds of the
first of these. -/
structure Lead where
  bits : Nat
  following : Nat
  low : Nat
  high : Nat

def lead? (b : Nat) : Option Lead :=
  if b < 0x80 then some ⟨b, 0, 0x80, 0xBF⟩
  else if b < 0xC2 then none
  else if b < 0xE0 then some ⟨b - 0xC0, 1, 0x80, 0xBF⟩
  else if b < 0xF0 then
    some ⟨b - 0xE0, 2, if b = 0xE0 then 0xA0 else 0x80, if b = 0xED then 0x9F else 0xBF⟩
  else if b < 0xF5 then
    some ⟨b - 0xF0, 3, if b = 0xF0 then 0x90 else 0x80, if b = 0xF4 then 0x8F else 0xBF⟩
  else none

/-- Reads the octets that must follow, the first of them within its bounds; `seen` octets of the
character are read already. On a fault, the number of octets it concerns if the text goes on. -/
def follow (low high bits seen : Nat) : Nat → List UInt8 → Except (Option Nat) (Nat × List UInt8)
  | 0, rest => .ok (bits, rest)
  | _ + 1, [] => .error none
  | more + 1, b :: rest =>
    if low ≤ b.toNat ∧ b.toNat ≤ high then
      follow 0x80 0xBF (bits * 64 + (b.toNat - 0x80)) (seen + 1) more rest
    else .error (some seen)

/-- The octets that follow are a part of those that were there. -/
theorem length_le_of_follow {low high bits seen more : Nat} {bytes rest : List UInt8} {n : Nat}
    (h : follow low high bits seen more bytes = .ok (n, rest)) : rest.length ≤ bytes.length := by
  fun_induction follow low high bits seen more bytes with
  | case1 => simp_all
  | case2 => simp at h
  | case3 _ _ _ _ _ _ _ _ ih => exact Nat.le_trans (ih h) (by simp)
  | case4 => simp at h

/-- The text of octets of which the first is at `position`. -/
def decodeFrom (position : Nat) : List UInt8 → Except Fault (List Char)
  | [] => .ok []
  | b :: tail =>
    match lead? b.toNat with
    | none => .error ⟨b, position, 1, .start⟩
    | some lead =>
      match h : follow lead.low lead.high lead.bits 1 lead.following tail with
      | .error none => .error ⟨b, position, tail.length + 1, .ended⟩
      | .error (some seen) => .error ⟨b, position, seen, .continuation⟩
      | .ok (code, rest) =>
        (decodeFrom (position + lead.following + 1) rest).map (Char.ofNat code :: ·)
termination_by bytes => bytes.length
decreasing_by exact Nat.lt_succ_of_le (length_le_of_follow h)

def decode (bytes : List UInt8) : Except Fault (List Char) := decodeFrom 0 bytes

theorem utf8EncodeChar_of_ascii {c : Char} (h : c.toNat < 128) :
    String.utf8EncodeChar c = [UInt8.ofNat c.toNat] := by
  have hLess : c.val.toNat ≤ 127 := Nat.le_of_lt_succ h
  rw [String.utf8EncodeChar]
  simp only [hLess, if_true]
  rfl

/-- ASCII text is read back from its octets. -/
theorem decodeFrom_encode {cs : List Char} (hAscii : ∀ c ∈ cs, c.toNat < 128) (position : Nat) :
    decodeFrom position (encode cs) = .ok cs := by
  induction cs generalizing position with
  | nil => simp [encode, decodeFrom]
  | cons c cs ih =>
    have hFirst : c.toNat < 128 := hAscii c List.mem_cons_self
    have hRest : ∀ c ∈ cs, c.toNat < 128 := fun c hMem => hAscii c (List.mem_cons_of_mem _ hMem)
    have hLead : lead? (UInt8.ofNat c.toNat).toNat = some ⟨c.toNat, 0, 0x80, 0xBF⟩ := by
      have hOctet : (UInt8.ofNat c.toNat).toNat = c.toNat := by
        rw [UInt8.toNat_ofNat']
        omega
      rw [hOctet, lead?, if_pos hFirst]
    have hCons : encode (c :: cs) = UInt8.ofNat c.toNat :: encode cs := by
      rw [encode, List.flatMap_cons, utf8EncodeChar_of_ascii hFirst]
      rfl
    rw [hCons, decodeFrom, hLead]
    dsimp only
    -- no octet follows, so the rest is where it was
    split
    · rename_i hFollow
      cases hFollow
    · rename_i hFollow
      cases hFollow
    · rename_i code rest hFollow
      cases hFollow
      rw [ih hRest, Except.map, Char.ofNat_toNat]

end PlotLang.Text.Utf8

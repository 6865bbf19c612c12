import PlotLang.Text.Printable

/-! # Quoted text in diagnostics

A text is shown between quotes: single ones, or double ones if it holds single quotes and no double
ones. The quote and the backslash are preceded by a backslash; a line break, carriage return and
tab are shown by letter, and any other character that is not printable by its code point.
-/

namespace PlotLang.Text.Quoted

def hex (width n : Nat) : List Char :=
  let ds := Nat.toDigits 16 n
  List.replicate (width - ds.length) '0' ++ ds

def codePoint (n : Nat) : List Char :=
  if n < 0x100 then 'x' :: hex 2 n
  else if n < 0x10000 then 'u' :: hex 4 n
  else 'U' :: hex 8 n

def encodeChar (quote c : Char) : List Char :=
  if c = quote || c = '\\' then ['\\', c]
  else if c = '\n' then ['\\', 'n']
  else if c = '\r' then ['\\', 'r']
  else if c = '\t' then ['\\', 't']
  else if isPrintable c then [c]
  else '\\' :: codePoint c.toNat

def quoteFor (cs : List Char) : Char :=
  if '\'' ∈ cs && '"' ∉ cs then '"' else '\''

def encode (cs : List Char) : List Char :=
  let quote := quoteFor cs
  quote :: cs.flatMap (encodeChar quote) ++ [quote]

def quote (text : String) : String := String.ofList (encode text.toList)

end PlotLang.Text.Quoted

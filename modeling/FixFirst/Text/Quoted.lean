import FixFirst.Text.Printable

/-!
# Quoted text

A quoted text stands between single quotes, or between double quotes if it holds
a single quote and no double one.  The quote and the backslash are escaped, and a
character that is not printable is shown by its code point.
-/

namespace FixFirst.Text

/-- The hexadecimal digits of `n`, filled up with zeros to `width`. -/
def hexText (width n : Nat) : List Char :=
  let digits := Nat.toDigits 16 n
  List.replicate (width - digits.length) '0' ++ digits

/-- The quote put around `text`. -/
def quoteFor (text : List Char) : Char :=
  if text.contains '\'' && !text.contains '"' then '"' else '\''

/-- One character of a text quoted with `quote`. -/
def quotedChar (quote c : Char) : List Char :=
  if c = quote || c = '\\' then ['\\', c]
  else if c = '\n' then ['\\', 'n']
  else if c = '\r' then ['\\', 'r']
  else if c = '\t' then ['\\', 't']
  else if isPrintable c then [c]
  else if c.toNat < 0x100 then '\\' :: 'x' :: hexText 2 c.toNat
  else if c.toNat < 0x10000 then '\\' :: 'u' :: hexText 4 c.toNat
  else '\\' :: 'U' :: hexText 8 c.toNat

/-- The quoted form of a text. -/
def quoted (text : List Char) : List Char :=
  let quote := quoteFor text
  quote :: text.flatMap (quotedChar quote) ++ [quote]

end FixFirst.Text

import TxLoad.Text.Hidden

/-!
# Quoted texts

`quoted s` is `s` between double quotes: a double quote, a backslash, a tab and the line ends are written with a
backslash, and every character that does not show by itself as `\u{…}` with its number in hexadecimal;
`quotedMark c` is one character between single quotes.
-/

namespace TxLoad.Text

/-- A natural number in lower-case hexadecimal, without leading zeros. -/
def hexNat (n : Nat) : String := .ofList (Nat.toDigits 16 n)

/-- One character of a quoted text, or of a quoted character, inside the given quotation mark. -/
def quotedChar (mark c : Char) : String :=
  if c = mark then .ofList ['\\', c]
  else if c = '\\' then "\\\\"
  else if c = '\t' then "\\t"
  else if c = '\n' then "\\n"
  else if c = '\r' then "\\r"
  else if c.toNat = 0 then "\\0"
  else if c.toNat < 0x20 || c.toNat = 0x7f || (0x80 ≤ c.toNat && isHidden c) then
    "\\u\x7b" ++ hexNat c.toNat ++ "\x7d"
  else c.toString

/-- The text between double quotes, with what does not show written out. -/
def quoted (s : String) : String :=
  "\"" ++ String.join (s.toList.map (quotedChar '"')) ++ "\""

/-- A character between single quotes, written out if it does not show. -/
def quotedMark (c : Char) : String := "'" ++ quotedChar '\'' c ++ "'"

end TxLoad.Text

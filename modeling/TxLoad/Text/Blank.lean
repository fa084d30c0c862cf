/-!
# Blank characters

- `isBlank`: the characters with the White_Space property;
- `trimStart`, `trimEnd`, `trim` on character lists, and `strip` on strings;
- `splitOnAny`: the pieces of a text between separator characters, empty pieces included.
-/

namespace TxLoad.Text

/-- The characters with the Unicode property White_Space. -/
def isBlank (c : Char) : Bool :=
  let n := c.toNat
  (9 ≤ n && n ≤ 13) || n == 0x20 || n == 0x85 || n == 0xA0 || n == 0x1680 || (0x2000 ≤ n && n ≤ 0x200A) ||
    n == 0x2028 || n == 0x2029 || n == 0x202F || n == 0x205F || n == 0x3000

/-- The text without its leading blanks. -/
def trimStart (cs : List Char) : List Char := cs.dropWhile isBlank

/-- The list without its longest final run of elements satisfying `p`. -/
def dropWhileEnd {α : Type} (p : α → Bool) : List α → List α
  | [] => []
  | a :: as =>
    match dropWhileEnd p as with
    | [] => if p a then [] else [a]
    | b :: bs => a :: b :: bs

/-- The text without its trailing blanks. -/
def trimEnd (cs : List Char) : List Char := dropWhileEnd isBlank cs

/-- The text without its leading and trailing blanks. -/
def trim (cs : List Char) : List Char := trimEnd (trimStart cs)

/-- `trim` on strings. -/
def strip (s : String) : String := .ofList (trim s.toList)

/-- The pieces of a list between elements satisfying `p`; there is one more piece than separators. -/
def splitOnAny {α : Type} (p : α → Bool) : List α → List (List α)
  | [] => [[]]
  | a :: as =>
    if p a then [] :: splitOnAny p as
    else match splitOnAny p as with
      | [] => [[a]]
      | piece :: rest => (a :: piece) :: rest

/-- The text in front of a suffix, if the text ends in it. -/
def dropSuffix? (suffix cs : List Char) : Option (List Char) :=
  if suffix.isSuffixOf cs then some (cs.take (cs.length - suffix.length)) else none

/-- The text behind a leading part, if the text starts with it. -/
def dropLeading? : List Char → List Char → Option (List Char)
  | [], cs => some cs
  | _ :: _, [] => none
  | p :: ps, c :: cs => if p = c then dropLeading? ps cs else none

/-- Whether the first list occurs in the second as a contiguous part. -/
def contains (part : List Char) : List Char → Bool
  | [] => part.isEmpty
  | c :: cs => part.isPrefixOf (c :: cs) || contains part cs

/-- ASCII letters in lower case; every other character unchanged. -/
def lower (s : String) : String := s.map Char.toLower

end TxLoad.Text

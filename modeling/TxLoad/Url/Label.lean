import TxLoad.Text.Mark
import TxLoad.Url.Ip
import TxLoad.Url.Label.Direction
import TxLoad.Url.Label.Joining
import TxLoad.Url.Label.Mapping
import TxLoad.Url.Punycode

/-!
# Names of hosts

A name is a row of labels with points between. Its characters stand for others (`Label.mapped?`), the text that they
stand for is composed, and what comes of it has to be a name: `Label.nameForm?` is the name in ASCII, in which a label
with other characters is written behind the mark of its ASCII form.

- `Label.isFit`: whether a label with other characters can stand in a name;
- `Label.read?`: a label with its ASCII form resolved;
- all labels of a name with a letter from right to left have to keep their direction.
-/

namespace TxLoad.Url.Label

/-- Whether an ASCII character cannot stand in a name. -/
def isForbidden (c : Char) : Bool :=
  c.toNat ≤ 0x20 || c.toNat = 0x7f || "%#/:<>?@[\\]^|".toList.contains c

/-- Whether a character is one of ASCII. -/
def isAscii (c : Char) : Bool := c.toNat < 0x80

/-- The mark in front of an ASCII form. -/
def formMark : List Char := "xn--".toList

/-- The most characters of a label that is written in ASCII. -/
def longestLabel : Nat := 1000

/-- The most characters of an ASCII form behind its mark. -/
def longestForm : Nat := 2000

/-- Whether a label with characters outside ASCII can stand in a name: it does not start with a mark, joiners stand
where they can, and it is not too long. -/
def isFit (label : List Char) : Bool :=
  !(label.head?.any Text.isMark) && joinersFit label && label.length ≤ longestLabel

/-- The label of an ASCII form behind its mark: it has to be canonical, and all of its characters valid. -/
def ofForm? (form : List Char) : Option (List Char) := do
  if form.isEmpty || !form.all isAscii || form.getLast? = some '-' || longestForm < form.length then none
  let label ← Punycode.decode? form
  if label.all isValid && Text.compose label = label && isFit label && !formMark.isPrefixOf label then some label
  else none

/-- A label as it is read and as it is written in ASCII. -/
structure Written where
  label : List Char
  ascii : List Char
deriving DecidableEq, Repr

/-- Reads a label of mapped and composed characters. -/
def read? (label : List Char) : Option Written :=
  match Text.dropLeading? formMark label with
  | some form => (ofForm? form).map (⟨·, label⟩)
  | none =>
    if label.all isAscii then some ⟨label, label⟩
    else if isFit label then some ⟨label, formMark ++ Punycode.encode label⟩
    else none

/-- A name in ASCII. -/
def nameForm? (cs : List Char) : Option (List Char) := do
  let name := Text.compose (← cs.mapM mapped?).flatten
  if name.any isForbidden then none
  let labels ← (Ip.pieces name).mapM read?
  if labels.any (·.label.any isRightward) && !(labels.all fun l => keepsDirection l.label) then none
  return ['.'].intercalate (labels.map (·.ascii))

end TxLoad.Url.Label

import TxLoad.Bytes

/-!
# Text without control sequences

What a terminal takes for commands is left out of texts that others have written: control characters, and sequences that
begin with an escape character.

- `isShown` holds of the characters that are shown outside of sequences;
- `Sequence.next` follows a sequence to its end;
- `shown` is the text without them.
-/

namespace TxLoad.Text

/-- Tabs, line ends and page ends. -/
def isLayout (c : Char) : Bool := c = '\t' || c = '\n' || c = '\x0c' || c = '\r'

/-- Layout, and all but the control characters of ASCII. -/
def isShown (c : Char) : Bool := isLayout c || (0x20 ≤ c.toNat && c.toNat ≠ 0x7f)

/-- A sequence that has begun: behind the escape character, behind a mark that takes one more character, in the
parameters of a command, in the text of an operating system command, or in the text of another command. -/
inductive Sequence where
  | none
  | escape
  | mark
  | parameters
  | title
  | message
deriving DecidableEq, Repr

/-- Whether a byte of a character in UTF-8 ends the text of a command. -/
def endsMessage (c : Char) : Bool := (Bytes.ofText (.singleton c)).contains 0x9c

/-- The sequence behind a character that is not shown. An escape character begins another sequence, and two control
characters end any. -/
def Sequence.next (q : Sequence) (c : Char) : Sequence :=
  let n := c.toNat
  if n = 0x1b then .escape
  else if n = 0x18 || n = 0x1a then .none
  else match q with
    | .none => .none
    | .escape =>
      if c = '[' then .parameters
      else if c = ']' then .title
      else if "PX^_".contains c then .message
      else if 0x20 ≤ n && n < 0x30 then .mark
      else if 0x30 ≤ n && n < 0x7f then .none
      else .escape
    | .mark => if 0x30 ≤ n && n < 0x7f then .none else .mark
    | .parameters => if 0x40 ≤ n && n < 0x7f then .none else .parameters
    | .title => if n = 0x07 then .none else .title
    | .message => if endsMessage c then .none else .message

/-- Whether layout is shown within a sequence; it is not in the text of a command. -/
def Sequence.showsLayout : Sequence → Bool
  | .title | .message => false
  | _ => true

/-- What is shown of a text within a sequence. Once layout is shown there, so is all that follows, up to a character
that is never shown; a character beyond ASCII ends the sequence then. -/
def shownFrom : Sequence → Bool → List Char → List Char
  | _, _, [] => []
  | q, showing, c :: cs =>
    if (showing || q = .none) && isShown c then c :: shownFrom (if 0x80 ≤ c.toNat then .none else q) true cs
    else if isLayout c && q.showsLayout then c :: shownFrom q true cs
    else shownFrom (q.next c) false cs

/-- The text without control characters and sequences. -/
def shown (s : String) : String := .ofList (shownFrom .none false s.toList)

end TxLoad.Text

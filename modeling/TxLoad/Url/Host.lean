import TxLoad.Url.Label

/-!
# Hosts of addresses

- `Fault`: why an address cannot be read, with its wording;
- `Host.read`: the canonical text of a host in the schemes that the standard calls special: percent escapes are
  resolved, letters lowered, labels with other characters written in ASCII, numeric hosts normalised;
- `Host.readOpaque`: the host in any other scheme.
-/

namespace TxLoad.Url

/-- Why an address cannot be read. -/
inductive Fault where
  | relative
  | emptyHost
  | badName
  | badCharacter
  | badV4
  | badV6
  | badPort
deriving DecidableEq, Repr

/-- What the fault says. -/
def Fault.message : Fault → String
  | .relative => "relative URL without a base"
  | .emptyHost => "empty host"
  | .badName => "invalid international domain name"
  | .badCharacter => "invalid domain character"
  | .badV4 => "invalid IPv4 address"
  | .badV6 => "invalid IPv6 address"
  | .badPort => "invalid port number"

namespace Host

/-- Resolves the percent escapes in a row of bytes; a percent sign without two digits stands for itself. -/
def unescape : Bytes → Bytes
  | [] => []
  | [a] => [a]
  | [a, b] => [a, b]
  | a :: b :: c :: rest =>
    if a = 0x25 then
      match Bytes.hexDigit? (Char.ofNat b.toNat), Bytes.hexDigit? (Char.ofNat c.toNat) with
      | some h, some l => UInt8.ofNat (16 * h + l) :: unescape rest
      | _, _ => a :: unescape (b :: c :: rest)
    else a :: unescape (b :: c :: rest)
termination_by bs => bs.length

/-- The text between a pair of brackets, if it starts with the first of them. -/
def bracketed? : List Char → Option (Option (List Char))
  | '[' :: cs => if cs.getLast? = some ']' then some (some cs.dropLast) else some none
  | _ => none

/-- Reads a host between brackets. -/
def readV6 (inner : Option (List Char)) : Except Fault String :=
  match inner.bind Ip.v6? with
  | some groups => .ok (Ip.showV6 groups)
  | none => .error .badV6

/-- Reads the host of an address in a special scheme. -/
def read (cs : List Char) : Except Fault String :=
  match bracketed? cs with
  | some inner => readV6 inner
  | none =>
    match (String.fromUTF8? ⟨(unescape (Bytes.ofText (.ofList cs))).toArray⟩).bind (Label.nameForm? ·.toList) with
    | none => .error .badName
    | some [] => .error .emptyHost
    | some name =>
      if Ip.endsInNumber name then
        match Ip.v4? name with
        | some n => .ok (Ip.showV4 n)
        | none => .error .badV4
      else .ok (.ofList name)

/-- Whether a character cannot stand in the host of a scheme that is not special. -/
def isForbiddenOpaque (c : Char) : Bool :=
  c.toNat = 0 || "\t\n\r #/:<>?@[\\]^|".toList.contains c

/-- A byte as a percent escape. -/
def escape (b : UInt8) : List Char :=
  ['%', (Nat.digitChar (b.toNat / 16)).toUpper, (Nat.digitChar (b.toNat % 16)).toUpper]

/-- A character of an opaque host: control characters and what is not ASCII are escaped. -/
def escapeChar (c : Char) : List Char :=
  if 0x20 ≤ c.toNat && c.toNat < 0x7f then [c] else (Bytes.ofText c.toString).flatMap escape

/-- Reads the host of an address in a scheme that is not special; it may be empty. -/
def readOpaque (cs : List Char) : Except Fault String :=
  match bracketed? cs with
  | some inner => readV6 inner
  | none => if cs.any isForbiddenOpaque then .error .badCharacter else .ok (.ofList (cs.flatMap escapeChar))

end Host

end TxLoad.Url

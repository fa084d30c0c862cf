import TxLoad.Url.Host

/-!
# Absolute addresses

`Url.host` reads an address far enough to tell its host, or why it is no absolute address. Control characters and
spaces around the address do not count, nor do tabs and line ends inside it.
-/

namespace TxLoad.Url

/-- The kinds of schemes that are read differently. -/
inductive Kind where
  | special
  | file
  | other
deriving DecidableEq, Repr

/-- The kind of a scheme in lower case. -/
def Kind.ofScheme (scheme : String) : Kind :=
  if ["http", "https", "ws", "wss", "ftp"].contains scheme then .special
  else if scheme = "file" then .file
  else .other

/-- Whether a character ends the part of an address that names the host. -/
def endsAuthority (kind : Kind) (c : Char) : Bool :=
  c = '/' || c = '?' || c = '#' || (kind ≠ .other && c = '\\')

/-- What counts of the text: nothing around it up to the space, and no tabs or line ends. -/
def significant (s : String) : List Char :=
  let isEdge (c : Char) : Bool := c.toNat ≤ 0x20
  (Text.dropWhileEnd isEdge (s.toList.dropWhile isEdge)).filter fun c => c ≠ '\t' && c ≠ '\n' && c ≠ '\r'

/-- The scheme, in lower case, and the text behind its colon. -/
def scheme? (cs : List Char) : Option (String × List Char) :=
  match cs.span fun c => c.isAlphanum || c = '+' || c = '-' || c = '.' with
  | (c :: scheme, ':' :: rest) =>
    if c.isAlpha then some (.ofList ((c :: scheme).map Char.toLower), rest) else none
  | _ => none

/-- Reads an optional port; anything but digits up to the end of the authority is refused. -/
def checkPort : List Char → Nat → Except Fault Unit
  | [], _ => .ok ()
  | c :: cs, n =>
    if c.isDigit then
      let n := 10 * n + (c.toNat - 48)
      if 65535 < n then .error .badPort else checkPort cs n
    else if c = '/' || c = '\\' || c = '?' || c = '#' then .ok ()
    else .error .badPort

/-- The host's text up to a colon outside brackets, and the rest. -/
def spanHost : Bool → List Char → List Char × List Char
  | _, [] => ([], [])
  | inside, c :: cs =>
    if c = ':' && !inside then ([], c :: cs)
    else
      let (host, rest) := spanHost (if c = '[' then true else if c = ']' then false else inside) cs
      (c :: host, rest)

/-- The text in front of the last `@`, and the text behind it; an empty user in front of nothing is refused. -/
def splitUser (authority rest : List Char) : Except Fault (List Char × List Char) :=
  match authority.reverse.span (· ≠ '@') with
  | (_, []) => .ok ([], authority)
  | (host, _ :: user) =>
    if user.isEmpty && host.isEmpty && !rest.isEmpty then .error .emptyHost else .ok (user.reverse, host.reverse)

/-- Reads what stands behind the double slash; the result is the host, if there is one. -/
def readAuthority (kind : Kind) (cs : List Char) : Except Fault (Option String) := do
  let (authority, rest) := cs.span fun c => !endsAuthority kind c
  let (user, hostAndPort) ← splitUser authority rest
  let (text, port) := spanHost false hostAndPort
  if kind = .special && text.isEmpty then throw .emptyHost
  let host ← if kind = .special then Host.read text else Host.readOpaque text
  if host.isEmpty && !port.isEmpty then throw .emptyHost
  checkPort port.tail 0
  if host.isEmpty && user ≠ [] && user ≠ [':'] then throw .emptyHost
  return if host.isEmpty then none else some host

/-- Whether the text is the letter of a drive. -/
def isDrive : List Char → Bool
  | [letter, mark] => letter.isAlpha && (mark = ':' || mark = '|')
  | _ => false

/-- Reads the address of a file, whose host may be missing; a path that starts with a drive has none. -/
def readFile : List Char → Except Fault (Option String)
  | a :: b :: cs =>
    if (a = '/' || a = '\\') && (b = '/' || b = '\\') then do
      let (text, path) := cs.span fun c => !endsAuthority .file c
      if text.isEmpty || isDrive text then return none
      let host ← Host.read text
      let onDrive := match path with
        | c :: segment => (c = '/' || c = '\\') && isDrive (segment.takeWhile fun c => !endsAuthority .file c)
        | [] => false
      return if host = "localhost" || onDrive then none else some host
    else .ok none
  | _ => .ok none

/-- The host of an absolute address; `none` where the address has none. -/
def host (s : String) : Except Fault (Option String) :=
  match scheme? (significant s) with
  | none => .error .relative
  | some (scheme, rest) =>
    match Kind.ofScheme scheme with
    | .special => readAuthority .special (rest.dropWhile fun c => c = '/' || c = '\\')
    | .file => readFile rest
    | .other =>
      match rest with
      | '/' :: '/' :: cs => readAuthority .other cs
      | _ => .ok none

/-! ## Addresses as they are configured -/

/-- Without blanks around it and slashes behind it, and with `http://` in front of an address that names no
scheme. -/
def normalizeChars (cs : List Char) : List Char :=
  let cs := Text.dropWhileEnd (· = '/') (Text.trim cs)
  if Text.contains "://".toList cs then cs else "http://".toList ++ cs

/-- `normalizeChars` on strings. -/
def normalize (s : String) : String := .ofList (normalizeChars s.toList)

/-- What separates the entries of a list of addresses. -/
def isSeparator (c : Char) : Bool := c = ',' || c = ' ' || c = '\n' || c = '\t'

/-- The addresses of a list, normalised and in order; entries of blanks alone are left out. -/
def parseList (s : String) : List String :=
  (Text.splitOnAny isSeparator s.toList).filterMap fun piece =>
    match Text.trim piece with
    | [] => none
    | entry => some (normalize (.ofList entry))

end TxLoad.Url

import TxLoad.Crypto.Sha256

/-!
# Signatures on the curve secp256k1

- points in Jacobian coordinates, `Point.double`, `Point.add`, `Point.scale`, and `Point.affine?`;
- `publicKey`: the 64 bytes of a public key;
- `nonceStream`: the deterministic one-time numbers of a key and a digest;
- `sign`: the signature of a digest with the smaller of the two possible `s`, and the parity of its point.
-/

namespace TxLoad.Crypto.Secp256k1

/-- The prime of the coordinate field. -/
def fieldPrime : Nat := 0xfffffffffffffffffffffffffffffffffffffffffffffffffffffffefffffc2f

/-- The number of points that the base point generates. -/
def order : Nat := 0xfffffffffffffffffffffffffffffffebaaedce6af48a03bbfd25e8cd0364141

/-- A power modulo `m`, by squaring. -/
def powMod (m base exponent : Nat) : Nat :=
  if exponent = 0 then 1 % m
  else
    let half := powMod m (base * base % m) (exponent / 2)
    if exponent % 2 = 1 then half * base % m else half
termination_by exponent

/-- The inverse modulo a prime. -/
def inverseMod (m a : Nat) : Nat := powMod m (a % m) (m - 2)

/-- The difference modulo the field prime, of numbers below it. -/
def sub (a b : Nat) : Nat := (a + fieldPrime - b) % fieldPrime

/-- The product modulo the field prime. -/
def mul (a b : Nat) : Nat := a * b % fieldPrime

/-- A point with coordinates `x / z ^ 2` and `y / z ^ 3`; the neutral point has `z = 0`. -/
structure Point where
  x : Nat
  y : Nat
  z : Nat

namespace Point

/-- The neutral point. -/
def neutral : Point := ⟨1, 1, 0⟩

/-- The base point. -/
def base : Point where
  x := 0x79be667ef9dcbbac55a06295ce870b07029bfcdb2dce28d959f2815b16f81798
  y := 0x483ada7726a3c4655da4fbfc0e1108a8fd17b448a68554199c47d08ffb10d4b8
  z := 1

/-- The sum of a point with itself. -/
def double (p : Point) : Point :=
  if p.z = 0 ∨ p.y = 0 then neutral
  else
    let ySquared := mul p.y p.y
    let s := mul 4 (mul p.x ySquared)
    let m := mul 3 (mul p.x p.x)
    let x := sub (mul m m) (mul 2 s)
    ⟨x, sub (mul m (sub s x)) (mul 8 (mul ySquared ySquared)), mul 2 (mul p.y p.z)⟩

/-- The sum of two points. -/
def add (p q : Point) : Point :=
  if p.z = 0 then q
  else if q.z = 0 then p
  else
    let pz := mul p.z p.z
    let qz := mul q.z q.z
    let u := mul p.x qz
    let v := mul q.x pz
    let s := mul p.y (mul qz q.z)
    let t := mul q.y (mul pz p.z)
    if u = v then if s = t then double p else neutral
    else
      let h := sub v u
      let r := sub t s
      let hSquared := mul h h
      let hCubed := mul hSquared h
      let w := mul u hSquared
      let x := sub (sub (mul r r) hCubed) (mul 2 w)
      ⟨x, sub (mul r (sub w x)) (mul s hCubed), mul h (mul p.z q.z)⟩

/-- The `k`-fold sum of a point. -/
def scale (k : Nat) (p : Point) : Point :=
  if k = 0 then neutral
  else
    let half := scale (k / 2) p
    if k % 2 = 1 then add (double half) p else double half
termination_by k

/-- The two coordinates of a point other than the neutral one. -/
def affine? (p : Point) : Option (Nat × Nat) :=
  if p.z = 0 then none
  else
    let i := inverseMod fieldPrime p.z
    let iSquared := mul i i
    some (mul p.x iSquared, mul p.y (mul iSquared i))

end Point

/-- The coordinates of the public key of a secret, 32 bytes each; secrets are between one and the order. -/
def publicKey (secret : Nat) : Bytes :=
  match (Point.scale secret .base).affine? with
  | some (x, y) => Bytes.ofNat 32 x ++ Bytes.ofNat 32 y
  | none => []

/-- A signature: the two numbers, and whether the point they come from has an odd second coordinate. -/
structure Signature where
  r : Nat
  s : Nat
  odd : Bool
deriving DecidableEq, Repr

/-- The state of the generator of one-time numbers: a key and the last output. -/
structure NonceSource where
  key : Bytes
  value : Bytes

namespace NonceSource

/-- The generator fed with some bytes behind its last output. -/
def feed (g : NonceSource) (bs : Bytes) : NonceSource :=
  let key := Sha256.keyed g.key (g.value ++ bs)
  ⟨key, Sha256.keyed key g.value⟩

/-- The generator that starts from a secret and a digest. -/
def start (secret digest : Nat) : NonceSource :=
  let material := Bytes.ofNat 32 secret ++ Bytes.ofNat 32 (digest % order)
  let blank : NonceSource := ⟨List.replicate 32 0, List.replicate 32 1⟩
  (blank.feed (0x00 :: material)).feed (0x01 :: material)

/-- The generator after one more output. -/
def advance (g : NonceSource) : NonceSource := { g with value := Sha256.keyed g.key g.value }

end NonceSource

/-- The signature of a digest with a given one-time number, if that number can be used. -/
def signWith? (secret digest nonce : Nat) : Option Signature := do
  if nonce = 0 ∨ order ≤ nonce then none
  let (x, y) ← (Point.scale nonce .base).affine?
  let r := x % order
  let s := inverseMod order nonce * (digest + r * secret) % order
  if r = 0 ∨ s = 0 then none
  if order / 2 < s then return ⟨r, order - s, y % 2 = 0⟩
  return ⟨r, s, y % 2 = 1⟩

/-- The signature with the first usable number among the next `tries` of the generator. -/
def signFrom? (secret digest : Nat) : Nat → NonceSource → Option Signature
  | 0, _ => none
  | tries + 1, g =>
    let g := g.advance
    signWith? secret digest (Bytes.toNat g.value) <|> signFrom? secret digest tries (g.feed [0x00])

/-- The deterministic signature of a digest of 32 bytes. -/
def sign? (secret : Nat) (digest : Bytes) : Option Signature :=
  let d := Bytes.toNat digest
  signFrom? secret d 64 (.start secret d)

end TxLoad.Crypto.Secp256k1

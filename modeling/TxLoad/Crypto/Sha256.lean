import TxLoad.Bytes

/-!
# The SHA-256 digest and its keyed form

- `Sha256.digest`: 64-byte blocks, a schedule of sixty-four words, eight chaining words;
- `Sha256.keyed`: the digest of a message under a key (HMAC).
-/

namespace TxLoad.Crypto.Sha256

/-- The eight chaining words. -/
abbrev State := Vector UInt32 8

/-- The first chaining words. -/
def start : State := #v[
  0x6a09e667, 0xbb67ae85, 0x3c6ef372, 0xa54ff53a, 0x510e527f, 0x9b05688c, 0x1f83d9ab, 0x5be0cd19]

/-- The constants of the sixty-four rounds. -/
def roundConstants : List UInt32 := [
  0x428a2f98, 0x71374491, 0xb5c0fbcf, 0xe9b5dba5, 0x3956c25b, 0x59f111f1, 0x923f82a4, 0xab1c5ed5,
  0xd807aa98, 0x12835b01, 0x243185be, 0x550c7dc3, 0x72be5d74, 0x80deb1fe, 0x9bdc06a7, 0xc19bf174,
  0xe49b69c1, 0xefbe4786, 0x0fc19dc6, 0x240ca1cc, 0x2de92c6f, 0x4a7484aa, 0x5cb0a9dc, 0x76f988da,
  0x983e5152, 0xa831c66d, 0xb00327c8, 0xbf597fc7, 0xc6e00bf3, 0xd5a79147, 0x06ca6351, 0x14292967,
  0x27b70a85, 0x2e1b2138, 0x4d2c6dfc, 0x53380d13, 0x650a7354, 0x766a0abb, 0x81c2c92e, 0x92722c85,
  0xa2bfe8a1, 0xa81a664b, 0xc24b8b70, 0xc76c51a3, 0xd192e819, 0xd6990624, 0xf40e3585, 0x106aa070,
  0x19a4c116, 0x1e376c08, 0x2748774c, 0x34b0bcb5, 0x391c0cb3, 0x4ed8aa4a, 0x5b9cca4f, 0x682e6ff3,
  0x748f82ee, 0x78a5636f, 0x84c87814, 0x8cc70208, 0x90befffa, 0xa4506ceb, 0xbef9a3f7, 0xc67178f2]

/-- The word with its bits turned to the right. -/
def rotate (word : UInt32) (bits : UInt32) : UInt32 := (word >>> bits) ||| (word <<< (32 - bits))

/-- The word that four big-endian bytes denote. -/
def wordOfBytes (bs : Bytes) : UInt32 := bs.foldl (fun n b => n <<< 8 ||| b.toUInt32) 0

/-- The four big-endian bytes of a word. -/
def bytesOfWord (word : UInt32) : Bytes := [(24 : UInt32), 16, 8, 0].map fun bits => (word >>> bits).toUInt8

/-- The next word of the schedule from the sixteen before it, oldest first. -/
def nextWord (w : List UInt32) : UInt32 :=
  let old := w.getD 1 0
  let recent := w.getD 14 0
  w.getD 0 0 + (rotate old 7 ^^^ rotate old 18 ^^^ (old >>> 3)) + w.getD 9 0 +
    (rotate recent 17 ^^^ rotate recent 19 ^^^ (recent >>> 10))

/-- One round with its constant and schedule word. -/
def round (s : State) (constant word : UInt32) : State :=
  let a := s[0]; let b := s[1]; let c := s[2]; let d := s[3]
  let e := s[4]; let f := s[5]; let g := s[6]; let h := s[7]
  let t := h + (rotate e 6 ^^^ rotate e 11 ^^^ rotate e 25) + ((e &&& f) ^^^ (~~~ e &&& g)) + constant + word
  let u := (rotate a 2 ^^^ rotate a 13 ^^^ rotate a 22) + ((a &&& b) ^^^ (a &&& c) ^^^ (b &&& c))
  #v[t + u, a, b, c, d + t, e, f, g]

/-- The rounds over the remaining constants; `w` holds the schedule's next sixteen words. -/
def rounds (s : State) (w : List UInt32) : List UInt32 → State
  | [] => s
  | constant :: constants => rounds (round s constant (w.headD 0)) (w.tail ++ [nextWord w]) constants

/-- One block is compressed into the chaining words. -/
def compress (s : State) (block : Bytes) : State :=
  let t := rounds s ((Bytes.blocks 4 block).map wordOfBytes) roundConstants
  .ofFn fun i => s[i] + t[i]

/-- The bytes that complete a message of the given length to whole blocks. -/
def padding (length : Nat) : Bytes :=
  0x80 :: List.replicate ((119 - length % 64) % 64) 0 ++ Bytes.ofNat 8 (8 * length)

/-- The digest of a message: 32 bytes. -/
def digest (message : Bytes) : Bytes :=
  ((Bytes.blocks 64 (message ++ padding message.length)).foldl compress start).toList.flatMap bytesOfWord

/-- The key as one block: a long key by its digest, filled up with zeros. -/
def keyBlock (key : Bytes) : Bytes :=
  let short := if key.length ≤ 64 then key else digest key
  short ++ List.replicate (64 - short.length) 0

/-- The digest of a message under a key. -/
def keyed (key message : Bytes) : Bytes :=
  let block := keyBlock key
  let inner := digest (block.map (· ^^^ 0x36) ++ message)
  digest (block.map (· ^^^ 0x5c) ++ inner)

end TxLoad.Crypto.Sha256

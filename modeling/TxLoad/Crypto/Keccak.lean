import TxLoad.Bytes

/-!
# The Keccak-256 digest

The sponge of Keccak with a rate of 136 bytes, the padding that starts with `0x01`, and a digest of 32 bytes.
The state holds twenty-five lanes of 64 bits; lane `x + 5 * y` stands in column `x` and row `y`.
-/

namespace TxLoad.Crypto.Keccak

/-- Twenty-five lanes of 64 bits. -/
abbrev State := Vector UInt64 25

/-- The bytes a block contributes to the state. -/
def rate : Nat := 136

/-- The lane with its bits turned to the left. -/
def rotate (lane : UInt64) (bits : UInt64) : UInt64 := (lane <<< bits) ||| (lane >>> (64 - bits))

/-- The lane in column `x` and row `y`, both counted modulo five. -/
def State.lane (s : State) (x y : Nat) : UInt64 := Vector.get s ⟨x % 5 + 5 * (y % 5), by omega⟩

/-- The lanes computed from their columns and rows. -/
def State.build (f : Nat → Nat → UInt64) : State := .ofFn fun i => f (i.val % 5) (i.val / 5)

/-- How far each lane is turned. -/
def turns : Vector UInt64 25 := #v[
  0, 1, 62, 28, 27,
  36, 44, 6, 55, 20,
  3, 10, 43, 25, 39,
  41, 45, 15, 21, 8,
  18, 2, 61, 56, 14]

/-- The constants of the twenty-four rounds. -/
def roundConstants : List UInt64 := [
  0x0000000000000001, 0x0000000000008082, 0x800000000000808a, 0x8000000080008000,
  0x000000000000808b, 0x0000000080000001, 0x8000000080008081, 0x8000000000008009,
  0x000000000000008a, 0x0000000000000088, 0x0000000080008009, 0x000000008000000a,
  0x000000008000808b, 0x800000000000008b, 0x8000000000008089, 0x8000000000008003,
  0x8000000000008002, 0x8000000000000080, 0x000000000000800a, 0x800000008000000a,
  0x8000000080008081, 0x8000000000008080, 0x0000000080000001, 0x8000000080008008]

/-- The parity of each column. -/
def parities (s : State) : Vector UInt64 5 :=
  .ofFn fun x => s.lane x 0 ^^^ s.lane x 1 ^^^ s.lane x 2 ^^^ s.lane x 3 ^^^ s.lane x 4

/-- One round: mix the columns, turn and move the lanes, combine the rows, add the constant. -/
def round (s : State) (constant : UInt64) : State :=
  let p := parities s
  let mixed := State.build fun x y =>
    s.lane x y ^^^ p.get ⟨(x + 4) % 5, by omega⟩ ^^^ rotate (p.get ⟨(x + 1) % 5, by omega⟩) 1
  let moved := State.build fun x y =>
    rotate (mixed.lane (x + 3 * y) x) (State.lane turns (x + 3 * y) x)
  let combined := State.build fun x y =>
    moved.lane x y ^^^ (~~~ moved.lane (x + 1) y &&& moved.lane (x + 2) y)
  combined.set 0 (combined[0] ^^^ constant)

/-- The permutation of the state. -/
def permute (s : State) : State := roundConstants.foldl round s

/-- The lane that up to eight little-endian bytes denote. -/
def laneOfBytes (bs : Bytes) : UInt64 := bs.foldr (fun b n => n <<< 8 ||| b.toUInt64) 0

/-- The eight little-endian bytes of a lane. -/
def bytesOfLane (lane : UInt64) : Bytes :=
  [(0 : UInt64), 8, 16, 24, 32, 40, 48, 56].map fun bits => (lane >>> bits).toUInt8

/-- One block is added to the leading lanes, and the state is permuted. -/
def absorb (s : State) (block : Bytes) : State :=
  let lanes := (Bytes.blocks 8 block).map laneOfBytes
  permute (.ofFn fun i => s[i] ^^^ lanes.getD i 0)

/-- The bytes that complete a message of the given length to whole blocks. -/
def padding (length : Nat) : Bytes :=
  match rate - length % rate with
  | 0 | 1 => [0x81]
  | n + 2 => 0x01 :: List.replicate n 0 ++ [0x80]

/-- The digest of a message: 32 bytes. -/
def digest (message : Bytes) : Bytes :=
  let s := (Bytes.blocks rate (message ++ padding message.length)).foldl absorb (.replicate 25 0)
  [s[0], s[1], s[2], s[3]].flatMap bytesOfLane

@[simp] theorem length_digest (message : Bytes) : (digest message).length = 32 := by
  simp [digest, bytesOfLane]

end TxLoad.Crypto.Keccak

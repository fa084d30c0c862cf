import TxLoad.Crypto.Secp256k1
import TxLoad.Failure

/-!
# Signing keys

- `SigningKey` is a secret number between zero and the order of the curve, both excluded;
- `SigningKey.read` reads one from hexadecimal text;
- `SigningKey.worker?` derives the key of a worker from a root key, a seed and the worker's index. The material that
  is hashed determines all three (`material_injective`).
-/

namespace TxLoad

/-- A secret that can sign. -/
structure SigningKey where
  secret : Nat
  pos : 0 < secret
  lt_order : secret < Crypto.Secp256k1.order
deriving DecidableEq

namespace SigningKey

/-- The key with the given secret, if it is in range. -/
def ofNat? (n : Nat) : Option SigningKey :=
  if h : 0 < n ∧ n < Crypto.Secp256k1.order then some ⟨n, h.1, h.2⟩ else none

/-- The secret in 32 bytes. -/
def toBytes (k : SigningKey) : Bytes := Bytes.ofNat 32 k.secret

/-- The address of the key's account. -/
def address (k : SigningKey) : Address := .ofPublicKey (Crypto.Secp256k1.publicKey k.secret)

/-- Reads a key of 32 bytes in hexadecimal. -/
def read (s : String) : Except KeyFault SigningKey :=
  match Address.readHex 32 s with
  | .error fault => .error (.hex fault)
  | .ok bs =>
    match ofNat? (Bytes.toNat bs) with
    | some k => .ok k
    | none => .error .outOfRange

/-! ## Keys of workers -/

/-- What is hashed for the key of a worker: the root key, the seed, and the index in eight bytes. -/
def material (root : SigningKey) (seed : Bytes) (index : Nat) : Bytes :=
  root.toBytes ++ seed ++ Bytes.ofNat 8 index

/-- The key of the worker with the given index. -/
def worker (root : SigningKey) (seed : String) (index : Nat) : Except Failure SigningKey :=
  match ofNat? (Bytes.toNat (Crypto.Keccak.digest (root.material (Bytes.ofText seed) index))) with
  | some k => .ok k
  | none =>
    .error (.signing ("Worker key " ++ toString index ++ " derivation failed: " ++ KeyFault.outOfRange.message))

theorem toNat_toBytes (k : SigningKey) : Bytes.toNat k.toBytes = k.secret :=
  Bytes.toNat_ofNat 32 k.secret (Nat.lt_trans k.lt_order (by decide))

/-- **The hashed material determines the root key, the seed and the index.** -/
theorem material_injective {root root' : SigningKey} {seed seed' : Bytes} {index index' : Nat}
    (hi : index < 0x10000000000000000) (hi' : index' < 0x10000000000000000)
    (h : root.material seed index = root'.material seed' index') :
    root = root' ∧ seed = seed' ∧ index = index' := by
  unfold material at h
  have hsplit := List.append_inj_right' h (by simp)
  have hfront := List.append_inj_left' h (by simp)
  obtain ⟨hroot, hseed⟩ := List.append_inj hfront (by simp [toBytes])
  have hsecret : root.secret = root'.secret := by rw [← toNat_toBytes, hroot, toNat_toBytes]
  refine ⟨?_, hseed, ?_⟩
  · cases root; cases root'; simp_all
  · rw [← Bytes.toNat_ofNat 8 index hi, hsplit, Bytes.toNat_ofNat 8 index' hi']

end SigningKey

end TxLoad

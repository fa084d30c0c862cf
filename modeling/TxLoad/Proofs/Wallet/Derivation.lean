import TxLoad.Wallet.Registry
import Mathlib.Data.List.Forall2
import Mathlib.Data.List.Induction
import Mathlib.Data.List.Nodup

/-!
# Keys of workers

The key of a worker is the digest of the root key, the seed and the worker's index, one behind the other. The seed is of
any length, and may itself end in what looks like an index.

- Bytes of one length denote different numbers (`Bytes.eq_of_toNat`), texts have different bytes (`Bytes.eq_of_ofText`);
- so the material tells root, seed and index (`SigningKey.material_inj`), and the key does, too, where the digest
  `Separates` the materials (`SigningKey.worker_inj`);
- a worker's position is its index (`Registry.worker_of_getElem?`), and fewer workers are the first ones of more
  (`Registry.derive_take`);
- **workers have keys of their own, and keep them in larger registries** (`Registry.workers_apart_and_stable`).
-/

namespace TxLoad

/-! ## Bytes -/

namespace Bytes

/-- Bytes are the digits of the number that they denote. -/
theorem ofNat_toNat (bs : Bytes) : ofNat bs.length (toNat bs) = bs := by
  induction bs using List.reverseRecOn with
  | nil => rfl
  | append_singleton bs b ih =>
    have high : (toNat bs * 256 + b.toNat) / 256 = toNat bs := by
      have := b.toNat_lt
      omega
    have low : UInt8.ofNat (toNat bs * 256 + b.toNat) = b := by
      apply UInt8.toNat_inj.1
      have := b.toNat_lt
      rw [UInt8.toNat_ofNat']
      omega
    rw [toNat_append_singleton, List.length_append, List.length_singleton, ofNat, high, low, ih]

/-- **Bytes of one length that denote one number are the same.** -/
theorem eq_of_toNat {bs bs' : Bytes} (length : bs.length = bs'.length) (same : toNat bs = toNat bs') : bs = bs' := by
  rw [← ofNat_toNat bs, length, same, ofNat_toNat]

/-- What is left to be listed of an array of bytes, behind what is listed. -/
theorem toList_loop (bs : ByteArray) (i : Nat) (listed : Bytes) :
    ByteArray.toList.loop bs i listed = listed.reverse ++ bs.data.toList.drop i := by
  induction i, listed using ByteArray.toList.loop.induct bs with
  | case1 i listed inside ih =>
    have next : i < bs.data.toList.length := by simpa using inside
    rw [ByteArray.toList.loop, if_pos inside, ih, List.drop_eq_getElem_cons next, List.reverse_cons,
      List.append_assoc, List.singleton_append]
    congr 2
    exact getElem!_pos bs.data i inside
  | case2 i listed outside =>
    have past : bs.data.toList.length ≤ i := by simpa using outside
    rw [ByteArray.toList.loop, if_neg outside, List.drop_eq_nil_of_le past, List.append_nil]

/-- **Texts with the same bytes are the same.** -/
theorem eq_of_ofText {s t : String} (same : ofText s = ofText t) : s = t := by
  have listed : ∀ u : String, ofText u = u.toByteArray.data.toList := fun u => by
    rw [ofText, ByteArray.toList, toList_loop]
    rfl
  rw [listed, listed] at same
  exact String.toByteArray_inj.1 (ByteArray.ext (Array.toList_inj.1 same))

end Bytes

/-! ## Material and keys -/

/-- The digest tells messages apart: no two of them have one digest. -/
def Crypto.Keccak.Separates (messages : List Bytes) : Prop :=
  ∀ a ∈ messages, ∀ b ∈ messages, digest a = digest b → a = b

open Crypto.Keccak (digest Separates)

namespace SigningKey

variable {root root' key : SigningKey} {seed seed' : String} {i j : Nat}

/-- **The material tells root, seed and index.** -/
theorem material_inj (hi : i ≤ word64Max) (hj : j ≤ word64Max) :
    root.material (.ofText seed) i = root'.material (.ofText seed') j ↔ root = root' ∧ seed = seed' ∧ i = j := by
  constructor
  · intro same
    obtain ⟨roots, seeds, indices⟩ := material_injective (Nat.lt_succ_of_le hi) (Nat.lt_succ_of_le hj) same
    exact ⟨roots, Bytes.eq_of_ofText seeds, indices⟩
  · rintro ⟨rfl, rfl, rfl⟩
    rfl

/-- The key of a worker is the digest of its material. -/
theorem secret_of_worker (derived : root.worker seed i = .ok key) :
    key.secret = Bytes.toNat (digest (root.material (.ofText seed) i)) := by
  unfold worker ofNat? at derived
  split at derived
  · next found =>
    split at found
    · cases derived
      cases found
      rfl
    · cases found
  · cases derived

theorem worker_of_digest {secret : Nat} (same : Bytes.toNat (digest (root.material (.ofText seed) i)) = secret)
    (pos : 0 < secret) (lt : secret < Crypto.Secp256k1.order) : root.worker seed i = .ok ⟨secret, pos, lt⟩ := by
  unfold worker ofNat?
  rw [same, dif_pos ⟨pos, lt⟩]

/-- **One key is the key of one worker**, where the digest tells the materials apart. -/
theorem worker_inj {materials : List Bytes} (separates : Separates materials)
    (mem : root.material (.ofText seed) i ∈ materials) (mem' : root'.material (.ofText seed') j ∈ materials)
    (hi : i ≤ word64Max) (hj : j ≤ word64Max) (derived : root.worker seed i = .ok key)
    (derived' : root'.worker seed' j = .ok key) : root = root' ∧ seed = seed' ∧ i = j := by
  have digests : digest (root.material (.ofText seed) i) = digest (root'.material (.ofText seed') j) :=
    Bytes.eq_of_toNat (by simp) ((secret_of_worker derived).symm.trans (secret_of_worker derived'))
  exact (material_inj hi hj).1 (separates _ mem _ mem' digests)

end SigningKey

/-! ## Registries -/

/-- A list is worked off if each of its elements is. -/
theorem mapM_eq_ok_iff {ε α β : Type} {f : α → Except ε β} {xs : List α} {ys : List β} :
    xs.mapM f = .ok ys ↔ List.Forall₂ (fun x y => f x = .ok y) xs ys := by
  induction xs generalizing ys with
  | nil =>
    rw [List.forall₂_nil_left_iff]
    exact ⟨fun h => by cases h; rfl, fun h => by cases h; rfl⟩
  | cons x xs ih =>
    rw [List.mapM_cons, List.forall₂_cons_left_iff]
    cases first : f x with
    | error e =>
      constructor
      · intro h
        cases h
      · rintro ⟨y, ys, h, -⟩
        cases h
    | ok y =>
      cases rest : xs.mapM f with
      | error e =>
        constructor
        · intro h
          cases h
        · rintro ⟨y, ys, -, others, -⟩
          cases rest.symm.trans (ih.2 others)
      | ok others =>
        constructor
        · intro h
          cases h
          exact ⟨y, others, rfl, ih.1 rest, rfl⟩
        · rintro ⟨y', ys, same, found, rfl⟩
          cases same
          cases rest.symm.trans (ih.2 found)
          rfl

namespace Registry

variable {root root' : SigningKey} {seed seed' : String} {chainId chainId' count count' : Nat} {keys : List SigningKey}
  {r r' : Registry}

/-- What is hashed for the keys of the first `count` workers. -/
def materials (root : SigningKey) (seed : String) (count : Nat) : List Bytes :=
  (List.range count).map (root.material (.ofText seed))

/-- **A worker's position is its index.** -/
theorem worker_of_getElem? (derived : workerKeys root seed count = .ok keys) {i : Nat} {key : SigningKey}
    (here : keys[i]? = some key) : i < count ∧ root.worker seed i = .ok key := by
  obtain ⟨length, each⟩ := List.forall₂_iff_get.1 (mapM_eq_ok_iff.1 derived)
  obtain ⟨inside, rfl⟩ := List.getElem?_eq_some_iff.1 here
  rw [List.length_range] at length
  have found := each i (by rwa [List.length_range, length]) inside
  simp only [List.get_eq_getElem, List.getElem_range] at found
  exact ⟨length ▸ inside, found⟩

theorem workerKeys_take {n : Nat} (le : n ≤ count) (derived : workerKeys root seed count = .ok keys) :
    workerKeys root seed n = .ok (keys.take n) := by
  have first := List.forall₂_take n (mapM_eq_ok_iff.1 derived)
  rw [List.take_range, Nat.min_eq_left le] at first
  exact mapM_eq_ok_iff.2 first

/-- A registry has as many workers as are asked for, at least one, with their keys in order. -/
theorem derive_eq_ok_iff : derive root chainId seed count = .ok r ↔ 1 ≤ count ∧ ∃ keys,
    workerKeys root seed count = .ok keys ∧
      r = ⟨.ofKey root chainId, (keys.map (Account.ofKey · chainId)).toArray, 0⟩ := by
  unfold derive
  cases derived : workerKeys root seed count with
  | error e => simp [bind, Except.bind]
  | ok keys =>
    have length := (mapM_eq_ok_iff.1 derived).length_eq
    rw [List.length_range] at length
    cases keys with
    | nil =>
      have none : ¬ 1 ≤ count := by simp [length]
      simp [bind, Except.bind, none, throw, throwThe, MonadExceptOf.throw]
    | cons key keys =>
      have some : 1 ≤ count := by simp [length]
      simp [bind, Except.bind, some, pure, Except.pure, eq_comm]

theorem keys_of_derive (derived : derive root chainId seed count = .ok r) :
    workerKeys root seed count = .ok (r.workers.toList.map (·.key)) := by
  obtain ⟨-, keys, found, rfl⟩ := derive_eq_ok_iff.1 derived
  rw [found, List.map_map]
  exact congrArg _ (List.map_id keys).symm

theorem material_mem {i : Nat} (inside : i < count) : root.material (.ofText seed) i ∈ materials root seed count :=
  List.mem_map.2 ⟨i, List.mem_range.2 inside, rfl⟩

/-- **Workers have keys of their own**, where the digest tells their materials apart. -/
theorem nodup_keys (small : count ≤ word64Max) (derived : workerKeys root seed count = .ok keys)
    (separates : Separates (materials root seed count)) : keys.Nodup := by
  refine List.nodup_iff_getElem?_ne_getElem?.2 fun i j before inside same => ?_
  have there := List.getElem?_eq_getElem inside
  obtain ⟨hi, first⟩ := worker_of_getElem? derived (same.trans there)
  obtain ⟨hj, second⟩ := worker_of_getElem? derived there
  obtain ⟨-, -, one⟩ := SigningKey.worker_inj separates (material_mem hi) (material_mem hj)
    (Nat.le_trans (Nat.le_of_lt hi) small) (Nat.le_trans (Nat.le_of_lt hj) small) first second
  exact Nat.ne_of_lt before one

/-- **Keys of different seeds differ**, where the digest tells their materials apart. -/
theorem key_ne_of_seed (small : count ≤ word64Max) (small' : count' ≤ word64Max) (other : seed ≠ seed')
    (derived : workerKeys root seed count = .ok keys) {keys' : List SigningKey}
    (derived' : workerKeys root' seed' count' = .ok keys')
    (separates : Separates (materials root seed count ++ materials root' seed' count')) {key key' : SigningKey}
    (mem : key ∈ keys) (mem' : key' ∈ keys') : key ≠ key' := by
  rintro rfl
  obtain ⟨i, here⟩ := List.mem_iff_getElem?.1 mem
  obtain ⟨j, there⟩ := List.mem_iff_getElem?.1 mem'
  obtain ⟨hi, first⟩ := worker_of_getElem? derived here
  obtain ⟨hj, second⟩ := worker_of_getElem? derived' there
  obtain ⟨-, same, -⟩ := SigningKey.worker_inj separates (List.mem_append_left _ (material_mem hi))
    (List.mem_append_right _ (material_mem hj)) (Nat.le_trans (Nat.le_of_lt hi) small)
    (Nat.le_trans (Nat.le_of_lt hj) small') first second
  exact other same

/-- **The workers of a smaller registry are the first ones of a larger one.** -/
theorem derive_take {n : Nat} (some : 1 ≤ n) (le : n ≤ count) (derived : derive root chainId seed count = .ok r) :
    derive root chainId seed n = .ok { r with workers := r.workers.take n } := by
  obtain ⟨-, keys, found, rfl⟩ := derive_eq_ok_iff.1 derived
  refine derive_eq_ok_iff.2 ⟨some, keys.take n, workerKeys_take le found, ?_⟩
  simp

/-- A worker is the account of the key of its index, of which nothing is known yet. -/
theorem worker_of_derive (derived : derive root chainId seed count = .ok r) {i : Nat} {w : Account}
    (here : r.workers[i]? = some w) : root.worker seed i = .ok w.key ∧ w = .ofKey w.key chainId := by
  obtain ⟨-, keys, found, rfl⟩ := derive_eq_ok_iff.1 derived
  rw [List.getElem?_toArray, List.getElem?_map] at here
  obtain ⟨key, at_i, rfl⟩ := Option.map_eq_some_iff.1 here
  exact ⟨(worker_of_getElem? found at_i).2, rfl⟩

theorem size_of_derive (derived : derive root chainId seed count = .ok r) : r.workers.size = count := by
  have length := (mapM_eq_ok_iff.1 (keys_of_derive derived)).length_eq
  simpa using length.symm

/-! ## Workers apart, and the same in larger registries -/

/-- **Workers have keys of their own, and keep them in larger registries.**

- The material tells the root key, the seed and the index, whatever bytes the seed holds.
- Where the digest tells the materials apart, the workers of a registry have different keys, and so have those of two
  registries with different seeds.
- A registry has as many workers as are asked for, each the account of the key of its index, on the chain of the
  registry; and with fewer workers it is the same, but for its workers, which are the first ones, in order. -/
theorem workers_apart_and_stable :
    (∀ (root root' : SigningKey) (seed seed' : String) (i j : Nat), i ≤ word64Max → j ≤ word64Max →
      (root.material (.ofText seed) i = root'.material (.ofText seed') j ↔ root = root' ∧ seed = seed' ∧ i = j)) ∧
    (∀ (root : SigningKey) (seed : String) (chainId count : Nat) (r : Registry), count ≤ word64Max →
      derive root chainId seed count = .ok r → Separates (materials root seed count) →
        (r.workers.toList.map (·.key)).Nodup) ∧
    (∀ (root root' : SigningKey) (seed seed' : String) (chainId chainId' count count' : Nat) (r r' : Registry),
      count ≤ word64Max → count' ≤ word64Max → seed ≠ seed' → derive root chainId seed count = .ok r →
        derive root' chainId' seed' count' = .ok r' →
          Separates (materials root seed count ++ materials root' seed' count') →
            ∀ w ∈ r.workers, ∀ w' ∈ r'.workers, w.key ≠ w'.key) ∧
    ∀ (root : SigningKey) (seed : String) (chainId n m : Nat) (r : Registry), 1 ≤ n → n ≤ m →
      derive root chainId seed m = .ok r → r.workers.size = m ∧
        (∀ (i : Nat) (w : Account), r.workers[i]? = some w →
          root.worker seed i = .ok w.key ∧ w = .ofKey w.key chainId) ∧
        derive root chainId seed n = .ok { r with workers := r.workers.take n } := by
  refine ⟨fun root root' seed seed' i j => SigningKey.material_inj, ?own, ?seeds, ?stable⟩
  case own =>
    intro root seed chainId count r small derived separates
    exact nodup_keys small (keys_of_derive derived) separates
  case seeds =>
    intro root root' seed seed' chainId chainId' count count' r r' small small' other derived derived' separates w mem
      w' mem'
    refine key_ne_of_seed small small' other (keys_of_derive derived) (keys_of_derive derived') separates ?_ ?_
    · exact List.mem_map.2 ⟨w, Array.mem_toList_iff.2 mem, rfl⟩
    · exact List.mem_map.2 ⟨w', Array.mem_toList_iff.2 mem', rfl⟩
  case stable =>
    intro root seed chainId n m r some le derived
    exact ⟨size_of_derive derived, fun i w => worker_of_derive derived, derive_take some le derived⟩

theorem separates_of_nodup {messages : List Bytes}
    (distinct : (messages.map fun m => Bytes.toNat (digest m)).Nodup) : Separates messages := by
  intro a mem b mem' same
  exact List.inj_on_of_nodup_map distinct mem mem' (congrArg Bytes.toNat same)

theorem one_lt_order : 1 < Crypto.Secp256k1.order := by decide

/-- The least key. -/
def least : SigningKey := ⟨1, Nat.one_pos, one_lt_order⟩

/-- A seed that looks like the index zero. -/
def zeros : String := "\x00\x00\x00\x00\x00\x00\x00\x00"

theorem digest_first : Bytes.toNat (digest (least.material (.ofText "") 0)) =
    0xcfa35e2921c9f000623187e323e5d528a05b83783c71ac60bb9f358b3766f67c := by
  decide +kernel

theorem digest_second : Bytes.toNat (digest (least.material (.ofText "") 1)) =
    0xe8674e527b1c89ae5cad0c2f71923a72ec6b02059932909ca3e4945484a3730e := by
  decide +kernel

theorem digest_zeros : Bytes.toNat (digest (least.material (.ofText zeros) 0)) =
    0x3d46a9421581907c1a41f7cf4def04718ae95b2aa16ec3675416517537cadeb4 := by
  decide +kernel

/-- Two workers without a seed, one of them in a smaller registry, and one with a seed that looks like an index. -/
theorem workers_apart_and_stable_zeros : ∃ r r', derive least 1337 "" 2 = .ok r ∧ derive least 1337 zeros 1 = .ok r' ∧
    Separates (materials least "" 2 ++ materials least zeros 1) ∧
    least.material (.ofText "") 0 ≠ least.material (.ofText zeros) 0 ∧ (r.workers.toList.map (·.key)).Nodup ∧
    (∀ w ∈ r.workers, ∀ w' ∈ r'.workers, w.key ≠ w'.key) ∧
    derive least 1337 "" 1 = .ok { r with workers := r.workers.take 1 } := by
  obtain ⟨tells, own, seeds, stable⟩ := workers_apart_and_stable
  have first := SigningKey.worker_of_digest digest_first (by decide) (by decide)
  have second := SigningKey.worker_of_digest digest_second (by decide) (by decide)
  have third := SigningKey.worker_of_digest digest_zeros (by decide) (by decide)
  have two : workerKeys least "" 2 = .ok _ := mapM_eq_ok_iff.2 (.cons first (.cons second .nil))
  have one : workerKeys least zeros 1 = .ok _ := mapM_eq_ok_iff.2 (.cons third .nil)
  have derived : derive least 1337 "" 2 = .ok _ := derive_eq_ok_iff.2 ⟨by decide, _, two, rfl⟩
  have derived' : derive least 1337 zeros 1 = .ok _ := derive_eq_ok_iff.2 ⟨by decide, _, one, rfl⟩
  have separates : Separates (materials least "" 2 ++ materials least zeros 1) := separates_of_nodup (by
    show [Bytes.toNat (digest (least.material (.ofText "") 0)), Bytes.toNat (digest (least.material (.ofText "") 1)),
      Bytes.toNat (digest (least.material (.ofText zeros) 0))].Nodup
    rw [digest_first, digest_second, digest_zeros]
    decide)
  have separates' : Separates (materials least "" 2) := fun a mem b mem' =>
    separates a (List.mem_append_left _ mem) b (List.mem_append_left _ mem')
  have other : "" ≠ zeros := by decide
  obtain ⟨-, -, smaller⟩ := stable least "" 1337 1 2 _ (by decide) (by decide) derived
  refine ⟨_, _, derived, derived', separates, fun same => ?_, own _ _ _ _ _ (by decide) derived separates',
    seeds _ _ _ _ _ _ _ _ _ _ (by decide) (by decide) other derived derived' separates, smaller⟩
  obtain ⟨-, seed, -⟩ := (tells least least "" zeros 0 0 (by decide) (by decide)).1 same
  exact other seed

end Registry

end TxLoad

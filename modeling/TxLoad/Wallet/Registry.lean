import TxLoad.Selection
import TxLoad.Wallet.Account

/-!
# The accounts of a run

- `Registry` holds the funding account and the workers that send the load, and whose turn it is;
- `Registry.derive` derives the workers from the funding key; there has to be one;
- `Registry.pick` picks a worker.
-/

namespace TxLoad

/-- The funding account and the workers. -/
structure Registry where
  funding : Account
  workers : Array Account
  cursor : Nat

namespace Registry

/-- The keys of the first `count` workers, or the first failure to derive one. -/
def workerKeys (root : SigningKey) (seed : String) (count : Nat) : Except Failure (List SigningKey) :=
  (List.range count).mapM (root.worker seed)

/-- The registry of a funding key with `count` workers. -/
def derive (root : SigningKey) (chainId : Nat) (seed : String) (count : Nat) : Except Failure Registry := do
  let keys ← workerKeys root seed count
  if keys.isEmpty then throw .noAccounts
  return ⟨.ofKey root chainId, (keys.map (Account.ofKey · chainId)).toArray, 0⟩

/-- Picks a worker: its position, and the registry with the next one's turn. -/
def pick (r : Registry) (s : Selection) (key draw : Nat) : Nat × Registry :=
  let (i, cursor) := s.pick key draw r.workers.size r.cursor
  (i, { r with cursor := cursor })

/-- The registry with one worker changed. -/
def modifyWorker (r : Registry) (i : Nat) (f : Account → Account) : Registry :=
  { r with workers := r.workers.modify i f }

/-- The registry with the funding account changed. -/
def modifyFunding (r : Registry) (f : Account → Account) : Registry := { r with funding := f r.funding }

end Registry

end TxLoad

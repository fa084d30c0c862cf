import TxLoad.Amount
import TxLoad.Log.Entry
import TxLoad.Wait

/-!
# Trying again

`Retry.attempts` repeats an operation until it succeeds or has failed often enough, with delays that double up to the
greatest one there is; a delay that is longer than any wait is waited for as long as that. Delays are in nanoseconds,
times in milliseconds. It is for reading only: a submission that is repeated may be carried out twice.
-/

namespace TxLoad.Retry

/-- An attempt: its number, counted from one, and when it began. -/
structure Attempt where
  number : Nat
  start : Nat
deriving DecidableEq, Repr

/-- What all attempts came to: the attempts, the time at the end, and the last result. -/
structure Outcome (ε α : Type) where
  attempts : List Attempt
  finish : Nat
  result : Except ε α
  log : List Log.Entry

/-- The greatest delay: one nanosecond less than it takes a 64-bit word to run over that counts seconds. -/
def greatestDelay : Nat := (word64Max + 1) * Wait.second - 1

/-- The delay after a delay. -/
def nextDelay (delay : Nat) : Nat := min (2 * delay) greatestDelay

/-- What is said before the next attempt; of the delay in whole milliseconds, the lowest 64 bits. -/
def retryLog (label : String) (attempt : Nat) (error : String) (delay : Nat) : Log.Entry :=
  ⟨"retry", .debug, "Retrying after error", [
    ("op", .text label),
    ("attempt", .number attempt),
    ("error", .text error),
    ("delay_ms", .number (delay / Wait.millisecond % (word64Max + 1)))]⟩

/-- The attempts from number `n` on, of which at most `left + 1` are made; `op` is how long an attempt takes and what
comes of it. -/
def run {ε α : Type} (label : String) (describe : ε → String) (op : Nat → Nat × Except ε α) :
    Nat → Nat → Nat → Nat → Outcome ε α
  | 0, n, time, _ => let (took, result) := op n; ⟨[⟨n, time⟩], time + took, result, []⟩
  | left + 1, n, time, delay =>
    match op n with
    | (took, .ok a) => ⟨[⟨n, time⟩], time + took, .ok a, []⟩
    | (took, .error e) =>
      let rest := run label describe op left (n + 1) (time + took + Wait.span delay) (nextDelay delay)
      { rest with
        attempts := ⟨n, time⟩ :: rest.attempts
        log := retryLog label n (describe e) delay :: rest.log }

/-- Makes at most `attempts` attempts, but at least one, from time zero. -/
def attempts {ε α : Type} (label : String) (describe : ε → String) (attempts delay : Nat)
    (op : Nat → Nat × Except ε α) : Outcome ε α :=
  run label describe op (attempts - 1) 1 0 delay

end TxLoad.Retry

import TxLoad.Retry
import Mathlib.Algebra.BigOperators.Group.List.Basic
import Mathlib.Algebra.GroupWithZero.Nat
import Mathlib.Logic.Function.Iterate

/-!
# How often and when something is tried again

- `misses` counts the failures in a row that are followed by another attempt; `run_eq` is all that comes of attempts in
  terms of it: when they begin, what is said, the last result, and when it is there;
- the delay that is asked for doubles with every failure, up to the greatest one (`iterate_nextDelay`);
- **the attempts are numbered from one on, up to the first success or as many as are allowed, and lie as far apart as
  the doubling delays, as long as no delay is longer than any wait** (`attempts_exact`).
-/

namespace TxLoad.Retry

variable {ε α : Type}

/-- The attempts from number `n` on that fail in a row, at most `left` of them. -/
def misses (op : Nat → Nat × Except ε α) : Nat → Nat → Nat
  | 0, _ => 0
  | left + 1, n =>
    match (op n).2 with
    | .ok _ => 0
    | .error _ => misses op left (n + 1) + 1

/-- The time from the beginning of attempt `n` to that of the attempt that is `j` later, if those in between fail. -/
def lapse (op : Nat → Nat × Except ε α) (n delay j : Nat) : Nat :=
  ((List.range j).map fun i => (op (n + i)).1 + Wait.span (nextDelay^[i] delay)).sum

/-- What is said after attempt `n` if it fails. -/
def said (label : String) (describe : ε → String) (op : Nat → Nat × Except ε α) (n delay : Nat) : List Log.Entry :=
  match (op n).2 with
  | .ok _ => []
  | .error e => [retryLog label n (describe e) delay]

/-! ## Failures in a row -/

section Misses

variable (op : Nat → Nat × Except ε α)

/-- No more attempts fail and are followed by another than there may be. -/
theorem misses_le (left n : Nat) : misses op left n ≤ left := by
  induction left generalizing n with
  | zero => exact Nat.le_refl 0
  | succ left ih =>
    rw [misses]
    split
    · exact Nat.zero_le _
    · exact Nat.succ_le_succ (ih (n + 1))

/-- An attempt that is followed by another failed. -/
theorem fails_of_lt_misses {left n j : Nat} (h : j < misses op left n) : (op (n + j)).2.isOk = false := by
  induction left generalizing n j with
  | zero => cases h
  | succ left ih =>
    rw [misses] at h
    split at h
    · cases h
    · next e failed =>
      cases j with
      | zero =>
        rw [Nat.add_zero, failed]
        rfl
      | succ j =>
        have later := ih (Nat.lt_of_succ_lt_succ h)
        rwa [Nat.add_right_comm] at later

/-- The last attempt succeeded if there could have been another. -/
theorem succeeds_of_misses_lt {left n : Nat} (h : misses op left n < left) :
    (op (n + misses op left n)).2.isOk = true := by
  induction left generalizing n with
  | zero => cases h
  | succ left ih =>
    cases outcome : (op n).2 with
    | ok a =>
      have none : misses op (left + 1) n = 0 := by simp [misses, outcome]
      rw [none, Nat.add_zero, outcome]
      rfl
    | error e =>
      have more : misses op (left + 1) n = misses op left (n + 1) + 1 := by simp [misses, outcome]
      have later := ih (n := n + 1) (by omega)
      rwa [more, ← Nat.add_assoc, Nat.add_right_comm]

end Misses

/-! ## All that comes of the attempts -/

/-- With a failure in front, everything begins later and with the doubled delay. -/
theorem lapse_succ (op : Nat → Nat × Except ε α) (n delay j : Nat) :
    lapse op n delay (j + 1) = (op n).1 + Wait.span delay + lapse op (n + 1) (nextDelay delay) j := by
  unfold lapse
  rw [List.range_succ_eq_map, List.map_cons, List.sum_cons, List.map_map]
  congr 2
  refine List.map_congr_left fun i _ => ?_
  rw [Function.comp_apply, Function.iterate_succ_apply, Nat.succ_eq_add_one, Nat.add_right_comm, ← Nat.add_assoc]

/-- **All that comes of the attempts**, in terms of the failures that are followed by another attempt. -/
theorem run_eq (label : String) (describe : ε → String) (op : Nat → Nat × Except ε α) (left n time delay : Nat) :
    run label describe op left n time delay =
      let missed := misses op left n
      { attempts := (List.range (missed + 1)).map fun j => ⟨n + j, time + lapse op n delay j⟩
        finish := time + lapse op n delay missed + (op (n + missed)).1
        result := (op (n + missed)).2
        log := (List.range missed).flatMap fun j => said label describe op (n + j) (nextDelay^[j] delay) } := by
  induction left generalizing n time delay with
  | zero => simp [run, misses, lapse]
  | succ left ih =>
    rw [run, misses]
    generalize outcome : op n = o
    obtain ⟨took, _ | a⟩ := o
    case ok => simp [lapse, outcome]
    case error e =>
      have attempts (k : Nat) : (List.range (k + 1)).map (fun j => (⟨n + j, time + lapse op n delay j⟩ : Attempt)) =
          ⟨n, time⟩ :: (List.range k).map fun j =>
            ⟨n + 1 + j, time + took + Wait.span delay + lapse op (n + 1) (nextDelay delay) j⟩ := by
        rw [List.range_succ_eq_map, List.map_cons, List.map_map]
        refine congrArg₂ List.cons rfl (List.map_congr_left fun j _ => ?_)
        rw [Function.comp_apply, lapse_succ, outcome, Nat.succ_eq_add_one, Nat.add_right_comm n, ← Nat.add_assoc,
          ← Nat.add_assoc, ← Nat.add_assoc]
      have entries (k : Nat) :
          (List.range (k + 1)).flatMap (fun j => said label describe op (n + j) (nextDelay^[j] delay)) =
          retryLog label n (describe e) delay ::
            (List.range k).flatMap fun j => said label describe op (n + 1 + j) (nextDelay^[j] (nextDelay delay)) := by
        rw [List.range_succ_eq_map, List.flatMap_cons, List.flatMap_map]
        simp [said, outcome, Nat.add_right_comm n, ← Nat.add_assoc]
      simp only [ih]
      rw [attempts, entries, lapse_succ, outcome, Nat.add_right_comm n, ← Nat.add_assoc, ← Nat.add_assoc,
        ← Nat.add_assoc]

/-! ## Delays -/

/-- The delay that is asked for after the failure of attempt `n`. -/
def delayAfter (initial n : Nat) : Nat := min (initial * 2 ^ (n - 1)) greatestDelay

/-- The delay doubles with every failure, up to the greatest one. -/
theorem iterate_nextDelay {initial : Nat} (h : initial ≤ greatestDelay) (j : Nat) :
    nextDelay^[j] initial = min (initial * 2 ^ j) greatestDelay := by
  induction j with
  | zero => simp [Nat.min_eq_left h]
  | succ j ih =>
    rw [Function.iterate_succ_apply', ih, nextDelay, Nat.pow_succ, ← Nat.mul_assoc]
    omega

/-- When attempt `n` begins, if those before it fail. -/
def startOf (op : Nat → Nat × Except ε α) (initial n : Nat) : Nat :=
  ((List.range' 1 (n - 1)).map fun i => (op i).1 + Wait.span (delayAfter initial i)).sum

/-- The delays on the way to a later attempt are the doubled ones. -/
theorem lapse_eq_startOf (op : Nat → Nat × Except ε α) {initial : Nat} (h : initial ≤ greatestDelay) (j : Nat) :
    lapse op 1 initial j = startOf op initial (1 + j) := by
  unfold lapse startOf
  rw [Nat.add_sub_cancel_left, List.range'_eq_map_range, List.map_map]
  congr 1
  apply List.map_congr_left
  intro i _
  rw [Function.comp_apply, iterate_nextDelay h, delayAfter, Nat.add_sub_cancel_left]

/-- Delays of whole milliseconds that are no longer than any wait add up to one less than the next power of two. -/
theorem startOf_of_prompt {op : Nat → Nat × Except ε α} {initial : Nat} {n : Nat}
    (prompt : ∀ j, 1 ≤ j → j < n → (op j).1 = 0)
    (short : ∀ j, 1 ≤ j → j < n → initial * 2 ^ (j - 1) ≤ Wait.longest) :
    startOf op (initial * Wait.millisecond) n = initial * (2 ^ (n - 1) - 1) := by
  cases n with
  | zero => simp [startOf]
  | succ n =>
    rw [startOf, Nat.add_sub_cancel]
    induction n with
    | zero => simp
    | succ n ih =>
      have before := ih (fun j pos lt => prompt j pos (by omega)) fun j pos lt => short j pos (by omega)
      have last : initial * 2 ^ n ≤ Wait.longest := short (n + 1) (by omega) (by omega)
      have asked : delayAfter (initial * Wait.millisecond) (1 + n) = initial * 2 ^ n * Wait.millisecond := by
        rw [delayAfter, Nat.add_sub_cancel_left, Nat.mul_right_comm]
        apply Nat.min_eq_left
        calc initial * 2 ^ n * Wait.millisecond
          _ ≤ Wait.longest * Wait.millisecond := Nat.mul_le_mul_right _ last
          _ ≤ greatestDelay := by decide
      rw [List.range'_1_concat, List.map_append, List.sum_append, before, List.map_singleton, List.sum_singleton, asked,
        prompt (1 + n) (by omega) (by omega), Wait.span_whole, Wait.bounded_of_le last, Nat.pow_succ]
      have one : 1 ≤ 2 ^ n := Nat.one_le_two_pow
      rw [Nat.mul_sub, Nat.mul_sub, ← Nat.mul_assoc]
      have small : initial * 1 ≤ initial * 2 ^ n := Nat.mul_le_mul_left initial one
      omega

/-! ## The attempts -/

/-- Attempt `k` succeeds, and none before it does. -/
structure FirstSuccess (op : Nat → Nat × Except ε α) (k : Nat) : Prop where
  counted : 1 ≤ k
  succeeds : (op k).2.isOk = true
  first : ∀ j, 1 ≤ j → j < k → (op j).2.isOk = false

/-- The attempts end at the first success, or when no more are allowed. -/
theorem made_of_firstSuccess {op : Nat → Nat × Except ε α} {k : Nat} (h : FirstSuccess op k) (allowed : Nat) :
    misses op (allowed - 1) 1 + 1 = min k (max allowed 1) := by
  have bound := misses_le op (allowed - 1) 1
  have beyond : misses op (allowed - 1) 1 < k := by
    by_contra early
    have counted := h.counted
    have failed := fails_of_lt_misses op (show k - 1 < misses op (allowed - 1) 1 by omega)
    rw [Nat.add_sub_cancel' counted, h.succeeds] at failed
    cases failed
  by_cases last : misses op (allowed - 1) 1 < allowed - 1
  · have succeeded := succeeds_of_misses_lt op last
    have within : k ≤ 1 + misses op (allowed - 1) 1 := by
      by_contra late
      rw [h.first _ (by omega) (by omega)] at succeeded
      cases succeeded
    omega
  · omega

/-- Without a success there are as many attempts as are allowed. -/
theorem made_of_no_success {op : Nat → Nat × Except ε α} (none : ∀ k, 1 ≤ k → (op k).2.isOk = false) (allowed : Nat) :
    misses op (allowed - 1) 1 + 1 = max allowed 1 := by
  have bound := misses_le op (allowed - 1) 1
  by_cases last : misses op (allowed - 1) 1 < allowed - 1
  · have succeeded := succeeds_of_misses_lt op last
    rw [none _ (by omega)] at succeeded
    cases succeeded
  · omega

/-- **What is tried again is tried up to the first success, or as often as is allowed, but at least once.** The
attempts are numbered from one on; every attempt but the last one fails, and the result is that of the last one. After
attempt `j` fails and before the next one begins, `initial * 2 ^ (j - 1)` nanoseconds are asked to be waited, up to the
greatest delay; the wait is as long as a wait of so much lasts. After the last attempt there is none. So, if attempts
take no time and no delay is longer than any wait, `made` attempts take `2 ^ (made - 1) - 1` times the first delay. -/
theorem attempts_exact (label : String) (describe : ε → String) (op : Nat → Nat × Except ε α) (allowed : Nat)
    {initial : Nat} (delay : initial ≤ greatestDelay) :
    let out := attempts label describe allowed initial op
    let made := out.attempts.length
    (∀ k, FirstSuccess op k → made = min k (max allowed 1)) ∧
      ((∀ k, 1 ≤ k → (op k).2.isOk = false) → made = max allowed 1) ∧
      (∀ j, 1 ≤ j → j < made → (op j).2.isOk = false) ∧
      out.attempts = (List.range' 1 made).map (fun j => ⟨j, startOf op initial j⟩) ∧
      out.result = (op made).2 ∧ out.finish = startOf op initial made + (op made).1 ∧
      out.log = (List.range' 1 (made - 1)).flatMap (fun j => said label describe op j (delayAfter initial j)) ∧
      (∀ first, initial = first * Wait.millisecond → (∀ j, 1 ≤ j → j ≤ made → (op j).1 = 0) →
        (∀ j, 1 ≤ j → j < made → first * 2 ^ (j - 1) ≤ Wait.longest) → out.finish = first * (2 ^ (made - 1) - 1)) := by
  intro out made
  have closed : out = _ := run_eq label describe op (allowed - 1) 1 0 initial
  have count : made = misses op (allowed - 1) 1 + 1 := by
    show out.attempts.length = _
    rw [closed]
    simp
  have last : made = 1 + misses op (allowed - 1) 1 := by omega
  have finish : out.finish = startOf op initial made + (op made).1 := by
    rw [closed, last, ← lapse_eq_startOf op delay]
    simp
  refine ⟨fun k first => ?_, fun none => ?_, fun j pos lt => ?_, ?_, ?_, finish, ?_, ?_⟩
  · rw [count]
    exact made_of_firstSuccess first allowed
  · rw [count]
    exact made_of_no_success none allowed
  · have failed := fails_of_lt_misses op (show j - 1 < misses op (allowed - 1) 1 by omega)
    rwa [Nat.add_sub_cancel' pos] at failed
  · rw [count, closed, List.range'_eq_map_range, List.map_map]
    apply List.map_congr_left
    intro j _
    rw [Function.comp_apply, lapse_eq_startOf op delay, Nat.zero_add]
  · rw [last, closed]
  · rw [count, closed, List.range'_eq_map_range, List.flatMap_map, Nat.add_sub_cancel]
    apply List.flatMap_congr
    intro j _
    rw [iterate_nextDelay delay, delayAfter, Nat.add_sub_cancel_left]
  · intro first whole prompt short
    rw [finish, prompt made (by omega) (Nat.le_refl _), whole]
    exact startOf_of_prompt (fun j pos lt => prompt j pos (Nat.le_of_lt lt)) short

/-- An operation that succeeds the third time takes three of four attempts, and 700 milliseconds at a first delay of
100: 100 and 200 of waiting, and the operation itself. -/
theorem attempts_exact_third :
    let op := fun n => (if n = 3 then (400, .ok n) else (0, .error "busy") : Nat × Except String Nat)
    100 * Wait.millisecond ≤ greatestDelay ∧ FirstSuccess op 3 ∧
      (attempts "read" id 4 (100 * Wait.millisecond) op).attempts.length = 3 ∧
      (attempts "read" id 4 (100 * Wait.millisecond) op).finish = 700 := by
  intro op
  have delay : 100 * Wait.millisecond ≤ greatestDelay := by decide
  have third : FirstSuccess op 3 := by
    refine ⟨by decide, rfl, fun j _ early => ?_⟩
    have failed : op j = (0, .error "busy") := if_neg (Nat.ne_of_lt early)
    rw [failed]
    rfl
  obtain ⟨made, -, -, -, -, finish, -⟩ := attempts_exact "read" id op 4 delay
  refine ⟨delay, third, made 3 third, ?_⟩
  rw [finish, made 3 third]
  decide

/-- A wait that is asked for may be longer than any wait, though the delay is far from the greatest one: three attempts
at a first delay of 10^12 milliseconds do not take three times as long, but sixty years. -/
theorem attempts_cut_short :
    let first := 1000000000000
    let out := attempts "read" id 3 (first * Wait.millisecond) fun _ => ((0, .error "busy") : Nat × Except String Unit)
    first * Wait.millisecond * 2 ^ (3 - 1) ≤ greatestDelay ∧ out.attempts.length = 3 ∧ out.finish = 1892160000000 ∧
      out.finish ≠ first * (2 ^ (out.attempts.length - 1) - 1) := by
  decide

end TxLoad.Retry

/-!
# Waiting

Time goes by in milliseconds, and moments are counted from the zero of the clock. A wait may be asked for to the
nanosecond, and no wait lasts longer than thirty years.

- `Wait.bounded` is how long a wait lasts that was asked for in milliseconds, and `Wait.till` when it ends;
- `Wait.span` is how long one lasts that was asked for in nanoseconds;
- `Wait.horizon` is how far the clock can count.
-/

namespace TxLoad.Wait

/-- The nanoseconds of a millisecond. -/
def millisecond : Nat := 1000000

/-- The nanoseconds of a second. -/
def second : Nat := 1000 * millisecond

/-- The longest wait, in milliseconds: thirty years of 365 days. -/
def longest : Nat := 30 * 365 * 24 * 60 * 60 * 1000

/-- How long a wait lasts that was asked for. -/
def bounded (asked : Nat) : Nat := min asked longest

/-- When a wait ends that begins at a moment. -/
def till (start asked : Nat) : Nat := start + bounded asked

/-- The first moment that the clock cannot tell: it counts the seconds with 63 bits. -/
def horizon : Nat := 9223372036854775808 * 1000

/-- How long a wait lasts that was asked for in nanoseconds; a millisecond that has begun is waited out. -/
def span (asked : Nat) : Nat := bounded ((asked + (millisecond - 1)) / millisecond)

theorem bounded_le_longest (asked : Nat) : bounded asked ≤ longest := Nat.min_le_right _ _

/-- A wait lasts as long as was asked for, unless that is too long. -/
theorem bounded_of_le {asked : Nat} (h : asked ≤ longest) : bounded asked = asked := Nat.min_eq_left h

theorem span_whole (asked : Nat) : span (asked * millisecond) = bounded asked := by
  unfold span millisecond
  congr 1
  omega

theorem span_pos {asked : Nat} (h : 0 < asked) : 0 < span asked := by
  unfold span bounded millisecond longest
  omega

end TxLoad.Wait

import Mathlib.Algebra.Group.Nat.Defs

/-! Monotonic instants, wall-clock times and durations, counted in nanoseconds. -/

namespace StorageBallast

abbrev Duration := Nat

abbrev Instant := Nat

namespace Duration

def fromSecs (secs : Nat) : Duration := secs * 1000000000

def fromMins (mins : Nat) : Duration := fromSecs (mins * 60)

def fromHours (hours : Nat) : Duration := fromSecs (hours * 3600)

def asSecs (duration : Duration) : Nat := duration / 1000000000

/-- The longest duration: a 64-bit number of seconds and a full fraction. -/
def max : Duration := (2 ^ 64 - 1) * 1000000000 + 999999999

/-- `Duration::saturating_mul`. -/
def saturatingMul (duration : Duration) (factor : Nat) : Duration :=
  Min.min (duration * factor) max

end Duration

abbrev SystemTime := Int

def systemTimeNanos (time : SystemTime) : Nat := time.toNat

/-- Time since `earlier` as read at `now`; zero when the reading precedes it. -/
def elapsed (now earlier : Instant) : Duration := now - earlier

/-- A positive span has passed exactly if the reading is that much later. -/
theorem le_elapsed_iff {now earlier span : Nat} (positive : 0 < span)
    : span ≤ elapsed now earlier ↔ earlier + span ≤ now := by
  unfold elapsed
  omega

end StorageBallast

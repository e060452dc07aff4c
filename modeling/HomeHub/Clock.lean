/-!
Time in whole milliseconds from an arbitrary origin. Clocks may step back; an interval then counts
as empty.
-/

namespace HomeHub

abbrev Time := Int

/-- The milliseconds from `since` to `now`, none if `now` is earlier. -/
def elapsed (since now : Time) : Nat := (now - since).toNat

theorem le_elapsed_iff {since now : Int} {interval : Nat} (h : 0 < interval) :
    interval ≤ elapsed since now ↔ since + interval ≤ now := by
  unfold elapsed
  omega

end HomeHub

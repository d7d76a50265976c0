/-!
# Runs of characters

Large classes of characters are listed as runs in ascending order, in which a character is looked up by
halves.
-/

set_option autoImplicit false

namespace Beans.Text

/-- Runs of characters, each from its first to its last. -/
abbrev CharRuns := Array (Nat × Nat)

/-- Whether a number is in one of the runs from position `low` up to before `high`, which are in ascending
order. Each step halves the runs, so as many steps as the number of runs has digits are enough. -/
def CharRuns.containsFrom (runs : CharRuns) (n : Nat) : Nat → Nat → Nat → Bool
  | 0, _, _ => false
  | steps + 1, low, high =>
    if low < high then
      let middle := (low + high) / 2
      let (first, last) := runs[middle]?.getD (0, 0)
      if n < first then runs.containsFrom n steps low middle
      else if last < n then runs.containsFrom n steps (middle + 1) high
      else true
    else false

def CharRuns.contains (runs : CharRuns) (c : Char) : Bool :=
  runs.containsFrom c.toNat (runs.size.log2 + 2) 0 runs.size

end Beans.Text

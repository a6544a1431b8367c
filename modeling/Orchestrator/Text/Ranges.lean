/-!
Sets of characters as inversion lists: the increasing code points at which membership changes.
-/

namespace Orchestrator.Text

/-- A set of code points. Membership starts at `bounds[0]`, ends before `bounds[1]`, starts again
at `bounds[2]`, and so on. -/
structure CodeSet where
  bounds : Array Nat

namespace CodeSet

/-- How many bounds are at most `n`, knowing that those below `lo` are and those from `hi` on are
not. The fuel is the number of halvings left. -/
def countUpTo (bounds : Array Nat) (n : Nat) : Nat → Nat → Nat → Nat
  | 0, lo, _ => lo
  | fuel + 1, lo, hi =>
    if lo < hi then
      let mid := (lo + hi) / 2
      if bounds.getD mid 0 ≤ n then countUpTo bounds n fuel (mid + 1) hi
      else countUpTo bounds n fuel lo mid
    else lo

/-- Whether a code point belongs to the set. -/
def contains (s : CodeSet) (n : Nat) : Bool :=
  countUpTo s.bounds n (s.bounds.size + 1) 0 s.bounds.size % 2 == 1

end CodeSet

end Orchestrator.Text

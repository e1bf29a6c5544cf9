/-!
# Sets of code points as sorted ranges
-/
namespace AwaitCalls.Text

/-- Code points as inclusive ranges in increasing order. -/
abbrev Ranges := Array (Nat × Nat)

/-- Binary search between two indices; `fuel` bounds the number of halvings. -/
def Ranges.searchFrom (r : Ranges) (n : Nat) : Nat → Nat → Nat → Bool
  | 0, _, _ => false
  | fuel + 1, lo, hi =>
    if lo < hi then
      let mid := (lo + hi) / 2
      match r[mid]? with
      | none => false
      | some (a, b) =>
        if n < a then r.searchFrom n fuel lo mid
        else if b < n then r.searchFrom n fuel (mid + 1) hi
        else true
    else false

/-- Whether a code point lies in one of the ranges. -/
def Ranges.has (r : Ranges) (n : Nat) : Bool := r.searchFrom n 64 0 r.size

end AwaitCalls.Text

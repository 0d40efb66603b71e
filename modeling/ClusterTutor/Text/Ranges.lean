/-!
# Tables of code points

Character classes are written down as ranges of code points, both ends included.
-/

namespace ClusterTutor.Text

/-- Whether a code point lies in one of the ranges. -/
def inRanges (table : Array (Nat × Nat)) (n : Nat) : Bool :=
  table.any fun r => decide (r.1 ≤ n) && decide (n ≤ r.2)

end ClusterTutor.Text

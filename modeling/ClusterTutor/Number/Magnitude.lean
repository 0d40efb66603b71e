import ClusterTutor.Number.Binary64

/-!
# Numbers of either kind

Content may give a number as a whole one or as a binary one, and a clock may show
either. They are compared exactly across the two kinds. A sum of whole numbers is
whole, and any other sum is binary.
-/

namespace ClusterTutor

/-- A number of either kind. -/
inductive Magnitude where
  /-- A whole number. -/
  | whole (n : Int)
  /-- A binary number. -/
  | binary (x : Binary64)
deriving DecidableEq, Repr, Inhabited

namespace Magnitude

/-- The order of numbers, exact across the two kinds. -/
def le : Magnitude → Magnitude → Bool
  | .whole a, .whole b => decide (a ≤ b)
  | .whole a, .binary y => Binary64.intLe a y
  | .binary x, .whole b => Binary64.leInt x b
  | .binary x, .binary y => x.le y

/-- Equality of numbers. -/
def same (a b : Magnitude) : Bool := a.le b && b.le a

/-- A number as a binary one. -/
def toBinary : Magnitude → Binary64
  | .whole n => .ofInt n
  | .binary x => x

/-- The sum of two numbers. -/
def add : Magnitude → Magnitude → Magnitude
  | .whole a, .whole b => .whole (a + b)
  | a, b => .binary (a.toBinary.add b.toBinary)

/-- The difference of two numbers. -/
def sub : Magnitude → Magnitude → Magnitude
  | .whole a, .whole b => .whole (a - b)
  | a, b => .binary (a.toBinary.sub b.toBinary)

end Magnitude

end ClusterTutor

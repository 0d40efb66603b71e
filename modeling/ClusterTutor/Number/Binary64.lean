/-!
# Binary numbers of 64 bits

Scores and clock readings are binary numbers of 64 bits. Each finite one is a whole
multiple of `2^-1074`, the smallest of them, so it is kept as that multiple: order
and equality of finite numbers are those of integers, and sums are exact until they
are rounded.

Not every multiple is such a number: only 53 binary digits are kept, from the first
one that is not zero. `ClusterTutor.Binary64.nearest` takes a fraction to the
nearest multiple that is, and of two nearest ones to the one with an even last digit.
-/

namespace ClusterTutor

/-- A binary number of 64 bits. -/
inductive Binary64 where
  /-- The number `units · 2^-1074`. -/
  | finite (units : Int)
  /-- Zero with a minus sign. -/
  | negativeZero
  /-- One of the two infinities. -/
  | infinite (negative : Bool)
  /-- The outcome of an undefined computation. -/
  | undefined
deriving DecidableEq, Repr, Inhabited

/-- A quotient rounded to the nearest whole number, a half to the even neighbour. -/
def roundedQuotient (num den : Nat) : Nat :=
  let q := num / den
  let twice := 2 * (num % den)
  if twice < den then q
  else if den < twice then q + 1
  else if q % 2 == 0 then q else q + 1

namespace Binary64

/-- How many units make the number one. -/
def unitsPerOne : Nat := Nat.pow 2 1074

/-- The first multiple that is too large to be a number. -/
def overflowUnits : Nat := Nat.pow 2 2098

/-- The distance between neighbouring numbers, in units, from `units` on upward. -/
def spacing (units : Nat) : Nat :=
  Nat.pow 2 (Nat.log2 units - 52)

/-- The number nearest to `num / den` units. -/
def nearest (negative : Bool) (num den : Nat) : Binary64 :=
  let step := spacing (num / den)
  let units := roundedQuotient num (den * step) * step
  if overflowUnits ≤ units then .infinite negative
  else if negative then
    if units == 0 then .negativeZero else .finite (-(units : Int))
  else .finite units

/-! ### Conversions -/

/-- The number nearest to an integer. -/
def ofInt (n : Int) : Binary64 :=
  if n = 0 then .finite 0 else nearest (decide (n < 0)) (n.natAbs * unitsPerOne) 1

/-- The number nearest to `± mantissa · 10^exponent`. Exponents far outside the range
of the type are answered without raising ten to them. -/
def ofDecimal (negative : Bool) (mantissa : Nat) (exponent : Int) : Binary64 :=
  let zero : Binary64 := if negative then .negativeZero else .finite 0
  if mantissa == 0 then zero
  else
    let magnitude : Int := (Nat.toDigits 10 mantissa).length + exponent
    if 400 < magnitude then .infinite negative
    else if magnitude < -400 then zero
    else if 0 ≤ exponent then
      nearest negative (mantissa * Nat.pow 10 exponent.toNat * unitsPerOne) 1
    else nearest negative (mantissa * unitsPerOne) (Nat.pow 10 exponent.natAbs)

/-- The multiple of the unit that a finite number is. -/
def units? : Binary64 → Option Int
  | .finite u => some u
  | .negativeZero => some 0
  | _ => none

/-- The whole part of a finite number, found by dropping the places after the point. -/
def wholePart? (x : Binary64) : Option Int :=
  x.units?.map fun u => u.tdiv unitsPerOne

/-- Whether a number has a minus sign. -/
def isNegative : Binary64 → Bool
  | .finite u => decide (u < 0)
  | .negativeZero => true
  | .infinite negative => negative
  | .undefined => false

/-! ### Order -/

/-- The order of numbers; an undefined one is not comparable, not even with itself. -/
def le : Binary64 → Binary64 → Bool
  | .undefined, _ => false
  | _, .undefined => false
  | .infinite true, _ => true
  | _, .infinite false => true
  | .infinite false, _ => false
  | _, .infinite true => false
  | x, y => decide (x.units?.getD 0 ≤ y.units?.getD 0)

/-- The strict order of numbers. -/
def lt (x y : Binary64) : Bool :=
  x.le y && !y.le x

/-- Equality as numbers: the two zeros are equal, an undefined number equals nothing. -/
def same (x y : Binary64) : Bool :=
  x.le y && y.le x

/-- The larger of two numbers: the first, unless the second is strictly above it. -/
def max (x y : Binary64) : Binary64 :=
  if x.lt y then y else x

/-- Whether an integer is at most a number. -/
def intLe (n : Int) : Binary64 → Bool
  | .undefined => false
  | .infinite negative => !negative
  | x => decide (n * unitsPerOne ≤ x.units?.getD 0)

/-- Whether a number is at most an integer. -/
def leInt : Binary64 → Int → Bool
  | .undefined, _ => false
  | .infinite negative, _ => negative
  | x, n => decide (x.units?.getD 0 ≤ n * unitsPerOne)

variable {x y : Binary64}

/-- What is at most a number is at most every larger one. -/
theorem intLe_of_le {n : Int} (h : x.le y = true) (hx : intLe n x = true) : intLe n y = true := by
  have hunits : ∀ u v : Int, decide (u ≤ v) = true → decide (n * unitsPerOne ≤ u) = true →
      decide (n * unitsPerOne ≤ v) = true := fun u v huv hu =>
    decide_eq_true (Int.le_trans (of_decide_eq_true hu) (of_decide_eq_true huv))
  rcases x with u | _ | (_ | _) | _ <;> rcases y with v | _ | (_ | _) | _ <;>
    first
    | exact hunits _ _ h hx
    | exact hx
    | exact absurd h Bool.false_ne_true
    | exact absurd hx Bool.false_ne_true
    | rfl

/-- What is at least an integer is at least every smaller one. -/
theorem intLe_of_intLe {m n : Int} (h : m ≤ n) (hx : intLe n x = true) : intLe m x = true := by
  have hunits : ∀ u : Int, decide (n * unitsPerOne ≤ u) = true →
      decide (m * unitsPerOne ≤ u) = true := fun u hu =>
    decide_eq_true (Int.le_trans (Int.mul_le_mul_of_nonneg_right h (Int.natCast_nonneg _))
      (of_decide_eq_true hu))
  cases x with
  | finite u => exact hunits u hx
  | negativeZero => exact hunits 0 hx
  | infinite negative => exact hx
  | undefined => exact hx

theorem intLe_zero {n : Int} (h : 0 < n) : intLe n (.finite 0) = false := by
  have hone : 0 < unitsPerOne := by
    unfold unitsPerOne
    -- The power is too large to be computed.
    generalize 1074 = k
    exact Nat.two_pow_pos k
  exact decide_eq_false (Int.not_le.2 (Int.mul_pos h (Int.natCast_pos.2 hone)))

/-- Of two defined numbers one is at most the other. -/
theorem le_total (hx : x ≠ .undefined) (hy : y ≠ .undefined) : x.le y = true ∨ y.le x = true := by
  rcases x with u | _ | (_ | _) | _ <;> rcases y with v | _ | (_ | _) | _ <;>
    simp [le] at hx hy ⊢ <;> omega

theorem ne_undefined_of_intLe {n : Int} (h : intLe n x = true) : x ≠ .undefined := by
  rintro rfl
  exact absurd h Bool.false_ne_true

/-- An integer is at most the larger of two numbers, of which the first is defined, if it
is at most one of them. -/
theorem intLe_max (hx : x ≠ .undefined) (y : Binary64) (n : Int) :
    intLe n (x.max y) = (intLe n x || intLe n y) := by
  rw [Bool.eq_iff_iff, Bool.or_eq_true, Binary64.max]
  split
  · rename_i hlt
    simp only [lt, Bool.and_eq_true] at hlt
    exact ⟨Or.inr, fun h => h.elim (intLe_of_le hlt.1) id⟩
  · rename_i hlt
    refine ⟨Or.inl, fun h => h.elim id fun hy => ?_⟩
    rcases le_total hx (ne_undefined_of_intLe hy) with hle | hle
    · exact intLe_of_le (by simpa [lt, hle] using hlt) hy
    · exact intLe_of_le hle hy

/-! ### Arithmetic -/

/-- The number with the other sign. -/
def neg : Binary64 → Binary64
  | .finite u => if u = 0 then .negativeZero else .finite (-u)
  | .negativeZero => .finite 0
  | .infinite negative => .infinite !negative
  | .undefined => .undefined

/-- The number with its zero unsigned. -/
def unsignedZero : Binary64 → Binary64
  | .negativeZero => .finite 0
  | x => x

@[simp] theorem intLe_unsignedZero (n : Int) (x : Binary64) :
    intLe n x.unsignedZero = intLe n x := by
  cases x <;> rfl

/-- The number nearest to a sum. -/
def add : Binary64 → Binary64 → Binary64
  | .undefined, _ => .undefined
  | _, .undefined => .undefined
  | .infinite a, .infinite b => if a == b then .infinite a else .undefined
  | .infinite a, _ => .infinite a
  | _, .infinite b => .infinite b
  | .negativeZero, .negativeZero => .negativeZero
  | x, y =>
    let sum := x.units?.getD 0 + y.units?.getD 0
    if sum = 0 then .finite 0 else nearest (decide (sum < 0)) sum.natAbs 1

/-- The number nearest to a difference. -/
def sub (x y : Binary64) : Binary64 :=
  x.add y.neg

end Binary64

end ClusterTutor

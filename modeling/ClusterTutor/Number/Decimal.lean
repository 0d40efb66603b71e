import ClusterTutor.Number.Binary64

/-!
# Decimal texts of binary numbers

A number is written in one of two ways.

* *In full*: with the fewest decimal digits that are read back as the same number, and
  of those decimals the nearest one. The digits are found on the grids of 1, 2, …,
  17 digits: on each, only the two neighbours of the number can be nearest, and the
  first grid of which a neighbour reads back wins.
* *To a number of places*, rounded from the exact value, a half to the even digit.

`ClusterTutor.Binary64.text` puts the point among the digits as long as the number is
below `10^16` and not below `10^-4`, and otherwise writes a power of ten.
-/

namespace ClusterTutor.Binary64

/-! ### The fewest digits -/

/-- Decimal digits and the power of ten of the last one. -/
structure Digits where
  /-- The digits, read as a number. -/
  digits : Nat
  /-- The number is `digits · 10^exponent`. -/
  exponent : Int

/-- The value `digits · 10^exponent` as a fraction of units. -/
def Digits.fraction (d : Digits) : Nat × Nat :=
  if 0 ≤ d.exponent then (d.digits * Nat.pow 10 d.exponent.toNat * unitsPerOne, 1)
  else (d.digits * unitsPerOne, Nat.pow 10 d.exponent.natAbs)

/-- Whether decimal digits are read back as the number with `units` units. -/
def Digits.readBack (d : Digits) (units : Nat) : Bool :=
  let f := d.fraction
  nearest false f.1 f.2 == .finite units

/-- The distance of decimal digits from `units` units, as a fraction. -/
def Digits.distance (d : Digits) (units : Nat) : Nat × Nat :=
  let f := d.fraction
  ((f.1 - units * f.2) + (units * f.2 - f.1), f.2)

/-- The power of ten of the first digit of `units` units, searched downward from
`10^308`. -/
def leadingExponent (units : Nat) : Nat → Int
  | 0 => -324
  | n + 1 =>
    let exponent : Int := n - 324
    let f := Digits.fraction ⟨1, exponent⟩
    if f.1 ≤ units * f.2 then exponent else leadingExponent units n

/-- The neighbour of a number on the grid of `count` digits that is read back as it, if
there is one; of two, the nearer, and of two equally near the one whose last digit is
even. -/
def onGrid? (units : Nat) (leading : Int) (count : Nat) : Option Digits :=
  let exponent := leading - (count - 1)
  let floor :=
    if 0 ≤ exponent then units / (Nat.pow 10 exponent.toNat * unitsPerOne)
    else units * Nat.pow 10 exponent.natAbs / unitsPerOne
  let low : Digits := ⟨floor, exponent⟩
  let high : Digits := ⟨floor + 1, exponent⟩
  match low.readBack units, high.readBack units with
  | false, false => none
  | true, false => some low
  | false, true => some high
  | true, true =>
    let dl := low.distance units
    let dh := high.distance units
    if dl.1 * dh.2 < dh.1 * dl.2 then some low
    else if dh.1 * dl.2 < dl.1 * dh.2 then some high
    else if floor % 2 == 0 then some low else some high

/-- The fewest digits that are read back as `units` units, which must not be zero. -/
def fewestDigits (units : Nat) : Digits :=
  let leading := leadingExponent units 633
  ((List.range 17).findSome? fun i => onGrid? units leading (i + 1)).getD ⟨units, 0⟩

/-- The digits without the zeros at the end. -/
def dropZeros (ds : List Char) : List Char :=
  (ds.reverse.dropWhile (· == '0')).reverse

/-- The exponent of ten in a text: signed, with two digits at least. -/
def exponentText (e : Int) : List Char :=
  let ds := Nat.toDigits 10 e.natAbs
  (if e < 0 then '-' else '+') :: (List.replicate (2 - ds.length) '0' ++ ds)

/-- A positive number in full, from its digits and the power of ten of the first one. -/
def positional (ds : List Char) (leading : Int) : List Char :=
  if -4 ≤ leading && leading < 16 then
    if leading < 0 then
      '0' :: '.' :: (List.replicate (leading.natAbs - 1) '0' ++ ds)
    else
      let whole := leading.toNat + 1
      let rest := ds.drop whole
      ds.take whole ++ List.replicate (whole - ds.length) '0' ++
        '.' :: (if rest.isEmpty then ['0'] else rest)
  else
    let rest := ds.drop 1
    ds.take 1 ++ (if rest.isEmpty then [] else '.' :: rest) ++ 'e' :: exponentText leading

/-- A number in full. -/
def text : Binary64 → String
  | .undefined => "nan"
  | .infinite negative => if negative then "-inf" else "inf"
  | .negativeZero => "-0.0"
  | .finite u =>
    if u = 0 then "0.0"
    else
      let d := fewestDigits u.natAbs
      let all := Nat.toDigits 10 d.digits
      let leading : Int := d.exponent + (all.length - 1)
      let body := positional (dropZeros all) leading
      String.ofList (if u < 0 then '-' :: body else body)

/-! ### A number of places -/

/-- A number rounded to a number of places after the point. -/
def toPlaces (places : Nat) : Binary64 → String
  | .undefined => "nan"
  | .infinite negative => if negative then "-inf" else "inf"
  | x =>
    let u := (x.units?.getD 0).natAbs
    let scaled := roundedQuotient (u * Nat.pow 10 places) unitsPerOne
    let ds := Nat.toDigits 10 scaled
    let ds := List.replicate (places + 1 - ds.length) '0' ++ ds
    let whole := ds.take (ds.length - places)
    let rest := ds.drop (ds.length - places)
    let body := whole ++ (if rest.isEmpty then [] else '.' :: rest)
    String.ofList (if x.isNegative then '-' :: body else body)

end ClusterTutor.Binary64

import ClusterTutor.Number.Binary64
import ClusterTutor.Text.Blank
import ClusterTutor.Text.Digit

/-!
# Reading numerals

Numbers are typed in many ways: with blanks around them, with a sign, with the decimal
digits of any script, and with single underscores between digits. Both kinds of
numeral, whole and binary, are read in three steps: the blanks at the ends go, digits
of any script become ASCII ones, and underscores that stand between two digits go.
-/

namespace ClusterTutor.Numeral

/-- More digits than this are refused in a whole number. -/
def digitLimit : Nat := 4300

/-- Why a text is no whole number. -/
inductive Fault where
  /-- The text has not the form of a numeral. -/
  | malformed
  /-- The numeral has more than `digitLimit` digits. -/
  | tooLong
deriving DecidableEq, Repr

/-- A character of a numeral in ASCII: digits of other scripts become digits, other
blanks become spaces. -/
def toAscii (c : Char) : Char :=
  if c.toNat < 0x80 then c
  else if Text.isBlank c then ' '
  else match Text.digitValue? c with
    | some d => Char.ofNat (0x30 + d)
    | none => c

/-- Whether a character may surround a numeral of ASCII characters. -/
def isAsciiBlank (c : Char) : Bool :=
  c == ' ' || (0x09 ≤ c.toNat && c.toNat ≤ 0x0D)

/-- A numeral in ASCII without the blanks at its ends. The four separators U+001C to
U+001F are no blanks here. -/
def normalized (s : String) : List Char :=
  let ascii := s.toList.map toAscii
  ((ascii.dropWhile isAsciiBlank).reverse.dropWhile isAsciiBlank).reverse

/-- A sign taken off the front, and whether it was a minus. -/
def splitSign : List Char → Bool × List Char
  | '-' :: cs => (true, cs)
  | '+' :: cs => (false, cs)
  | cs => (false, cs)

/-- The value of ASCII digits, the first one foremost. -/
def value (ds : List Char) : Nat :=
  ds.foldl (fun n c => 10 * n + (c.toNat - 0x30)) 0

/-- A text without its underscores, each of which has to stand between two digits;
`afterDigit` says whether a digit stands before the text. -/
def dropUnderscores (afterDigit : Bool) : List Char → Option (List Char)
  | [] => some []
  | '_' :: cs =>
    match cs with
    | c :: _ => if afterDigit && c.isDigit then dropUnderscores false cs else none
    | [] => none
  | c :: cs => (dropUnderscores c.isDigit cs).map (c :: ·)

/-! ### Whole numbers -/

/-- The whole number that a text spells. -/
def readInt (s : String) : Except Fault Int :=
  let (negative, body) := splitSign (normalized s)
  match dropUnderscores false body with
  | none => .error .malformed
  | some ds =>
    if ds.isEmpty || !ds.all Char.isDigit then .error .malformed
    else if digitLimit < ds.length then .error .tooLong
    else .ok (if negative then -(value ds : Int) else value ds)

/-- Whether a text is an optional minus sign and decimal digits of any script, possibly
followed by one line end. -/
def isInteger (s : String) : Bool :=
  let body := match s.toList with
    | '-' :: cs => cs
    | cs => cs
  let digits := body.takeWhile Text.isDecimalDigit
  let rest := body.dropWhile Text.isDecimalDigit
  !digits.isEmpty && (rest.isEmpty || rest == ['\n'])

/-! ### Binary numbers -/

/-- The lower-case spelling of an ASCII text. -/
def lowered (cs : List Char) : String :=
  String.ofList (cs.map Char.toLower)

/-- A decimal numeral without a sign: digits with an optional point among them, and an
optional power of ten. -/
def readUnsigned (negative : Bool) (cs : List Char) : Option Binary64 :=
  let whole := cs.takeWhile Char.isDigit
  let rest := cs.dropWhile Char.isDigit
  let (places, rest) := match rest with
    | '.' :: r => (r.takeWhile Char.isDigit, r.dropWhile Char.isDigit)
    | r => ([], r)
  if whole.isEmpty && places.isEmpty then none
  else
    let mantissa := value (whole ++ places)
    match rest with
    | [] => some (.ofDecimal negative mantissa (-(places.length : Int)))
    | c :: r =>
      if c == 'e' || c == 'E' then
        let (down, ds) := splitSign r
        if ds.isEmpty || !ds.all Char.isDigit then none
        else
          let e : Int := if down then -(value ds : Int) else value ds
          some (.ofDecimal negative mantissa (e - places.length))
      else none

/-- The binary number that a text spells. -/
def readBinary? (s : String) : Option Binary64 := do
  let cs ← dropUnderscores false (normalized s)
  let (negative, body) := splitSign cs
  match lowered body with
  | "inf" => some (.infinite negative)
  | "infinity" => some (.infinite negative)
  | "nan" => some .undefined
  | _ => readUnsigned negative body

end ClusterTutor.Numeral

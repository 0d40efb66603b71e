import ClusterTutor.Data.OrderedMap
import ClusterTutor.Data.Value
import ClusterTutor.Number.Numeral

/-!
# Reading documents

A document is one JSON value with nothing but white space around it. Two liberties are
taken with the format: `NaN` and `Infinity`, possibly with a minus sign, stand for
numbers, and a name may occur twice in an object, where the first occurrence fixes the
place of the field and the last one its value. Numbers without a point or a power of
ten are whole numbers, of any size up to `ClusterTutor.Numeral.digitLimit` digits.

The reader descends along the text with a counter that starts above twice its length;
every second step consumes a character, so the counter never runs out.
-/

namespace ClusterTutor.Document

/-- Why a text is no document. -/
inductive Fault where
  /-- The text does not have the form of a document. -/
  | malformed
  /-- A whole number has too many digits. -/
  | numeralTooLong
deriving DecidableEq, Repr

/-- What is read from a text, and the rest of it. -/
abbrev Step (α : Type) := Except Fault (α × List Char)

/-- Whether a character may stand between the parts of a document. -/
def isSpace (c : Char) : Bool :=
  c == ' ' || c == '\t' || c == '\n' || c == '\r'

/-- A text without the space at its front. -/
def skipSpace (cs : List Char) : List Char :=
  cs.dropWhile isSpace

/-! ### Texts -/

/-- The value of a hexadecimal digit. -/
def hexValue? (c : Char) : Option Nat :=
  if c.isDigit then some (c.toNat - 0x30)
  else if 'a' ≤ c ∧ c ≤ 'f' then some (c.toNat - 0x61 + 10)
  else if 'A' ≤ c ∧ c ≤ 'F' then some (c.toNat - 0x41 + 10)
  else none

/-- Four hexadecimal digits at the front of a text. -/
def readUnit? : List Char → Option (Nat × List Char)
  | a :: b :: c :: d :: rest => do
    let a ← hexValue? a
    let b ← hexValue? b
    let c ← hexValue? c
    let d ← hexValue? d
    some (4096 * a + 256 * b + 16 * c + d, rest)
  | _ => none

/-- Whether a unit is the first half of a character outside the basic plane. -/
def isHighHalf (n : Nat) : Bool := decide (0xD800 ≤ n) && decide (n < 0xDC00)

/-- Whether a unit is the second half of a character outside the basic plane. -/
def isLowHalf (n : Nat) : Bool := decide (0xDC00 ≤ n) && decide (n < 0xE000)

/-- The character of a unit; a half without its other half is no character. -/
def unitCharacter (n : Nat) : Char :=
  if isHighHalf n || isLowHalf n then Char.ofNat 0xFFFD else Char.ofNat n

/-- The character of a unit that has been read, or of it and the unit after it. -/
def joinUnits (n : Nat) (rest : List Char) : Char × List Char :=
  match rest with
  | '\\' :: 'u' :: after =>
    match readUnit? after with
    | some (m, after) =>
      if isHighHalf n && isLowHalf m then
        (Char.ofNat (0x10000 + (n - 0xD800) * 0x400 + (m - 0xDC00)), after)
      else (unitCharacter n, rest)
    | none => (unitCharacter n, rest)
  | _ => (unitCharacter n, rest)

/-- The character that a letter stands for after a backslash. -/
def escaped? : Char → Option Char
  | '"' => some '"'
  | '\\' => some '\\'
  | '/' => some '/'
  | 'b' => some '\x08'
  | 'f' => some '\x0c'
  | 'n' => some '\n'
  | 'r' => some '\r'
  | 't' => some '\t'
  | _ => none

/-- The rest of a text after its opening quote; `seen` holds what was read of it, the
last character first. -/
def readText : Nat → List Char → List Char → Step String
  | 0, _, _ => .error .malformed
  | _ + 1, _, [] => .error .malformed
  | _ + 1, seen, '"' :: rest => .ok (String.ofList seen.reverse, rest)
  | n + 1, seen, '\\' :: 'u' :: rest =>
    match readUnit? rest with
    | none => .error .malformed
    | some (u, rest) =>
      let (c, rest) := joinUnits u rest
      readText n (c :: seen) rest
  | _ + 1, _, ['\\'] => .error .malformed
  | n + 1, seen, '\\' :: c :: rest =>
    match escaped? c with
    | none => .error .malformed
    | some c => readText n (c :: seen) rest
  | n + 1, seen, c :: rest =>
    if c.toNat < 0x20 then .error .malformed else readText n (c :: seen) rest

/-! ### Numbers -/

/-- The whole part of a number: one zero, or digits that start with another one. -/
def splitWhole (cs : List Char) : Option (List Char × List Char) :=
  match cs with
  | '0' :: rest => some (['0'], rest)
  | _ =>
    let ds := cs.takeWhile Char.isDigit
    if ds.isEmpty then none else some (ds, cs.dropWhile Char.isDigit)

/-- The places after the point, if a point with a digit after it comes next. -/
def splitPlaces (cs : List Char) : Option (List Char × List Char) :=
  match cs with
  | '.' :: rest =>
    let ds := rest.takeWhile Char.isDigit
    if ds.isEmpty then none else some (ds, rest.dropWhile Char.isDigit)
  | _ => none

/-- The power of ten, if one comes next. -/
def splitPower (cs : List Char) : Option (Int × List Char) :=
  match cs with
  | c :: rest =>
    if c == 'e' || c == 'E' then
      let (down, rest) := Numeral.splitSign rest
      let ds := rest.takeWhile Char.isDigit
      if ds.isEmpty then none
      else
        let e : Int := Numeral.value ds
        some (if down then -e else e, rest.dropWhile Char.isDigit)
    else none
  | [] => none

/-- A number at the front of a text. -/
def readNumber (cs : List Char) : Step Value :=
  let (negative, body) := match cs with
    | '-' :: rest => (true, rest)
    | rest => (false, rest)
  match splitWhole body with
  | none => .error .malformed
  | some (whole, rest) =>
    match splitPlaces rest, splitPower ((splitPlaces rest).elim rest Prod.snd) with
    | none, none =>
      if Numeral.digitLimit < whole.length then .error .numeralTooLong
      else
        let n : Int := Numeral.value whole
        .ok (.int (if negative then -n else n), rest)
    | places, power =>
      let fraction := places.elim [] Prod.fst
      let exponent := power.elim 0 Prod.fst
      let after := power.elim (places.elim rest Prod.snd) Prod.snd
      .ok (.float (.ofDecimal negative (Numeral.value (whole ++ fraction))
        (exponent - fraction.length)), after)

/-- The words that stand for values. -/
def literals : List (List Char × Value) :=
  [("null".toList, .null), ("true".toList, .bool true), ("false".toList, .bool false),
    ("NaN".toList, .float .undefined), ("Infinity".toList, .float (.infinite false)),
    ("-Infinity".toList, .float (.infinite true))]

/-- The first of the words that a text starts with, and the rest of the text. -/
def readLiteral? (cs : List Char) : Option (Value × List Char) :=
  literals.findSome? fun e => if e.1.isPrefixOf cs then some (e.2, cs.drop e.1.length) else none

/-! ### Values -/

mutual

/-- A value at the front of a text. -/
def readValue : Nat → List Char → Step Value
  | 0, _ => .error .malformed
  | n + 1, cs =>
    match cs with
    | '"' :: rest =>
      (readText (rest.length + 1) [] rest).map fun (s, rest) => (.string s, rest)
    | '[' :: rest =>
      match skipSpace rest with
      | ']' :: rest => .ok (.array [], rest)
      | rest => (readItems n rest).map fun (vs, rest) => (.array vs, rest)
    | '\x7b' :: rest =>
      match skipSpace rest with
      | '\x7d' :: rest => .ok (.object [], rest)
      | rest => (readFields n rest).map fun (fs, rest) =>
          (.object (OrderedMap.ofList fs).toList, rest)
    | _ =>
      match readLiteral? cs with
      | some r => .ok r
      | none => readNumber cs

/-- The items of a list up to its closing bracket. -/
def readItems : Nat → List Char → Step (List Value)
  | 0, _ => .error .malformed
  | n + 1, cs =>
    match readValue n cs with
    | .error e => .error e
    | .ok (v, rest) =>
      match skipSpace rest with
      | ',' :: rest => (readItems n (skipSpace rest)).map fun (vs, rest) => (v :: vs, rest)
      | ']' :: rest => .ok ([v], rest)
      | _ => .error .malformed

/-- The fields of an object up to its closing brace. -/
def readFields : Nat → List Char → Step (List (String × Value))
  | 0, _ => .error .malformed
  | n + 1, cs =>
    match cs with
    | '"' :: rest =>
      match readText (rest.length + 1) [] rest with
      | .error e => .error e
      | .ok (name, rest) =>
        match skipSpace rest with
        | ':' :: rest =>
          match readValue n (skipSpace rest) with
          | .error e => .error e
          | .ok (v, rest) =>
            match skipSpace rest with
            | ',' :: rest =>
              (readFields n (skipSpace rest)).map fun (fs, rest) => ((name, v) :: fs, rest)
            | '\x7d' :: rest => .ok ([(name, v)], rest)
            | _ => .error .malformed
        | _ => .error .malformed
    | _ => .error .malformed

end

/-- The value of a document. -/
def read (s : String) : Except Fault Value :=
  let cs := skipSpace s.toList
  match readValue (2 * cs.length + 3) cs with
  | .error e => .error e
  | .ok (v, rest) => if (skipSpace rest).isEmpty then .ok v else .error .malformed

/-- A document that may hold one record or a list of them, as a list. -/
def readRecords (s : String) : Except Fault (List Value) :=
  (read s).map fun
    | .array items => items
    | v => [v]

end ClusterTutor.Document

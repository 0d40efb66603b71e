import ClusterTutor.Data.Defect
import ClusterTutor.Data.OrderedMap
import ClusterTutor.Data.Value
import ClusterTutor.Number.Numeral

/-!
# Taking values apart

The readers of content look up fields, walk through parts and turn values into texts
and numbers. Each such step says which defect it meets.

| step | fails on |
|---|---|
| `required` | anything but an object, and an object without the field |
| `optional` | anything but an object |
| `toText` | whole numbers with too many digits, and whatever holds one |
| `parts` | whatever has no parts; a text has its characters, an object its names |
| `toInt` | nothing, lists, objects, texts that spell no number, numbers that are not finite |
| `toFields` | whatever is neither an object nor made of pairs |
-/

namespace ClusterTutor

/-- The name of a field. Nearly always a text; a list of pairs may use any single
value. -/
inductive FieldName where
  /-- A text. -/
  | text (s : String)
  /-- No value. -/
  | null
  /-- A truth value. -/
  | bool (b : Bool)
  /-- A whole number. -/
  | int (n : Int)
  /-- A binary number. -/
  | float (x : Binary64)
deriving DecidableEq, Repr

namespace FieldName

instance : Coe String FieldName := ⟨.text⟩

/-- A field name as a value. -/
def toValue : FieldName → Value
  | .text s => .string s
  | .null => .null
  | .bool b => .bool b
  | .int n => .int n
  | .float x => .float x

/-- The field name that a value is. -/
def ofValue? : Value → Option FieldName
  | .string s => some (.text s)
  | .null => some .null
  | .bool b => some (.bool b)
  | .int n => some (.int n)
  | .float x => some (.float x)
  | _ => none

/-- A field name as it is shown to the learner. -/
def shown (n : FieldName) : String := n.toValue.text

end FieldName

/-- Named values, the oldest name first. -/
abbrev Fields := OrderedMap FieldName Value

namespace Value

/-! ### Fields -/

/-- The field of an object that is always needed. -/
def required (v : Value) (name : String) : Except Defect Value :=
  match v with
  | .object fields =>
    match fields.lookup name with
    | some w => .ok w
    | none => .error (.missingField name)
  | _ => .error .requiredFieldOfNonObject

/-- The field of an object that may be left out. -/
def optional (v : Value) (name : String) : Except Defect (Option Value) :=
  match v with
  | .object fields => .ok (fields.lookup name)
  | _ => .error .optionalFieldOfNonObject

/-- The text of a value. -/
def toText (v : Value) : Except Defect String :=
  match v.shown? with
  | some s => .ok s
  | none => .error .numberTooLong

/-- The text of a field, or `default` where the field is left out. -/
def textField (v : Value) (name default : String) : Except Defect String := do
  match ← v.optional name with
  | some w => w.toText
  | none => .ok default

/-! ### Parts -/

/-- The parts of a value, in order. -/
def parts : Value → Except Defect (List Value)
  | .array items => .ok items
  | .string s => .ok (s.toList.map fun c => .string (String.singleton c))
  | .object fields => .ok (fields.map fun f => .string f.1)
  | _ => .error .notIterable

/-- The parts of a field that may be left out. -/
def partsOfField (v : Value) (name : String) : Except Defect (List Value) := do
  match ← v.optional name with
  | some w => w.parts
  | none => .ok []

/-! ### Numbers -/

/-- The whole number that a value stands for. Places after the point are dropped. -/
def toInt : Value → Except Defect Int
  | .int n => .ok n
  | .bool b => .ok (if b then 1 else 0)
  | .float x =>
    match x, x.wholePart? with
    | _, some n => .ok n
    | .undefined, none => .error .undefinedNumber
    | _, none => .error .infiniteNumber
  | .string s =>
    match Numeral.readInt s with
    | .ok n => .ok n
    | .error .malformed => .error .malformedNumeral
    | .error .tooLong => .error .numeralTooLong
  | _ => .error .notNumeric

/-! ### Objects -/

/-- The spelling under which a name is already known: numbers that are equal name the
same field, whatever their kind. -/
def knownName (fields : Fields) (n : FieldName) : FieldName :=
  (fields.keys.find? fun k => n.toValue.same k.toValue).getD n

/-- The field that a part of a list of pairs stands for. -/
def toPair (v : Value) : Except Defect (FieldName × Value) := do
  match ← v.parts with
  | [name, w] =>
    match FieldName.ofValue? name with
    | some n => .ok (n, w)
    | none => .error .unusableName
  | _ => .error .notPair

/-- The fields of an object, or of a list of pairs. -/
def toFields : Value → Except Defect Fields
  | .object fields => .ok (.ofList (fields.map fun f => (.text f.1, f.2)))
  | v => do
    (← v.parts).foldlM (fun fields part => do
      let (n, w) ← part.toPair
      pure (fields.insert (knownName fields n) w)) .empty

end Value

end ClusterTutor

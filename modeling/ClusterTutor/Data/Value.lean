import ClusterTutor.Number.Decimal
import ClusterTutor.Number.Magnitude
import ClusterTutor.Number.Numeral
import ClusterTutor.Text.Quoted

/-!
# Values of content and of simulated state

Content files, the fields of the simulated machines and the values that a command
writes are all values of one kind: what a JSON document can hold, with whole and
binary numbers kept apart and the fields of an object in order.

A value has three readings besides itself: the *text* under which it is shown to the
learner (`ClusterTutor.Value.text`), whether it *counts as true* in a condition
(`ClusterTutor.Value.truthy`), and which values it is *the same* as
(`ClusterTutor.Value.same`): numbers are compared as numbers whatever their kind, with
the truth values standing for one and zero, and objects without regard to the order of
their fields.

Not every value can be shown. A whole number with more digits than can be read
(`ClusterTutor.Numeral.digitLimit`) has no text, and neither has a list or an object
that holds one (`ClusterTutor.Value.shown?`).
-/

namespace ClusterTutor

/-- A value of a content file, or of a field of the simulated state. -/
inductive Value where
  /-- No value. -/
  | null
  /-- A truth value. -/
  | bool (b : Bool)
  /-- A whole number. -/
  | int (n : Int)
  /-- A binary number. -/
  | float (x : Binary64)
  /-- A text. -/
  | string (s : String)
  /-- A list of values. -/
  | array (items : List Value)
  /-- Named values in order, each name once. -/
  | object (fields : List (String × Value))
deriving Repr, Inhabited

namespace Value

/-! ### Text -/

mutual

/-- A value as it is shown inside a list or an object: texts are quoted. -/
def inner : Value → String
  | .null => "None"
  | .bool b => if b then "True" else "False"
  | .int n => toString n
  | .float x => x.text
  | .string s => Text.quoted s
  | .array items => "[" ++ ", ".intercalate (innerItems items) ++ "]"
  | .object fields => "\x7b" ++ ", ".intercalate (innerFields fields) ++ "\x7d"

/-- The texts of the items of a list. -/
def innerItems : List Value → List String
  | [] => []
  | v :: vs => inner v :: innerItems vs

/-- The texts of the fields of an object. -/
def innerFields : List (String × Value) → List String
  | [] => []
  | (name, v) :: fs => (Text.quoted name ++ ": " ++ inner v) :: innerFields fs

end

/-- A value as it is shown on its own: a text as it is, anything else as inside a
list. -/
def text : Value → String
  | .string s => s
  | v => v.inner

mutual

/-- Whether all whole numbers in a value can be shown. -/
def isShowable : Value → Bool
  | .int n => decide (n.natAbs < Nat.pow 10 Numeral.digitLimit)
  | .array items => areShowable items
  | .object fields => haveShowable fields
  | _ => true

/-- Whether all whole numbers in the items of a list can be shown. -/
def areShowable : List Value → Bool
  | [] => true
  | v :: vs => isShowable v && areShowable vs

/-- Whether all whole numbers in the fields of an object can be shown. -/
def haveShowable : List (String × Value) → Bool
  | [] => true
  | (_, v) :: fs => isShowable v && haveShowable fs

end

theorem areShowable_iff {vs : List Value} :
    areShowable vs = true ↔ ∀ v ∈ vs, v.isShowable = true := by
  induction vs with
  | nil => simp [areShowable]
  | cons v vs ih => simp [areShowable, ih]

theorem haveShowable_iff {fs : List (String × Value)} :
    haveShowable fs = true ↔ ∀ f ∈ fs, f.2.isShowable = true := by
  induction fs with
  | nil => simp [haveShowable]
  | cons f fs ih => simp [haveShowable, ih]

/-- The text of a value, if it can be shown. -/
def shown? (v : Value) : Option String :=
  if v.isShowable then some v.text else none

theorem shown?_ne_none_iff {v : Value} : v.shown? ≠ none ↔ v.isShowable = true := by
  simp [shown?]

/-! ### Truth -/

/-- Whether a value counts as true: zero, nothing and whatever is empty do not. -/
def truthy : Value → Bool
  | .null => false
  | .bool b => b
  | .int n => n != 0
  | .float x => !x.same (.finite 0)
  | .string s => !s.isEmpty
  | .array items => !items.isEmpty
  | .object fields => !fields.isEmpty

/-! ### Numbers and equality -/

/-- The number that a value is, where the truth values are one and zero. -/
def magnitude? : Value → Option Magnitude
  | .bool b => some (.whole (if b then 1 else 0))
  | .int n => some (.whole n)
  | .float x => some (.binary x)
  | _ => none

/-- Whether two values are numbers and equal as such. There is one undefined number here,
and it is the same as itself. So it is with all that is read from documents, which share
one; two undefined numbers that were computed apart would differ. -/
def sameNumber (v w : Value) : Bool :=
  match v.magnitude?, w.magnitude? with
  | some a, some b => decide (a = b) || a.same b
  | _, _ => false

mutual

/-- Whether two values are the same. -/
def same : Value → Value → Bool
  | .null, .null => true
  | .string s, .string t => s == t
  | .array xs, .array ys => sameItems xs ys
  | .object fs, .object gs => fs.length == gs.length && sameFields fs gs
  | v, w => sameNumber v w

/-- Whether two lists hold the same values in the same order. -/
def sameItems : List Value → List Value → Bool
  | [], [] => true
  | v :: vs, w :: ws => same v w && sameItems vs ws
  | _, _ => false

/-- Whether each field is found with the same value among `gs`. -/
def sameFields : List (String × Value) → List (String × Value) → Bool
  | [], _ => true
  | (name, v) :: fs, gs => gs.any (fun g => g.1 == name && same v g.2) && sameFields fs gs

end

/-! ### Identity -/

mutual

/-- Whether two values are one value, down to the kinds of their numbers and the order of
their fields. -/
def identical : Value → Value → Bool
  | .null, .null => true
  | .bool a, .bool b => a == b
  | .int m, .int n => m == n
  | .float x, .float y => decide (x = y)
  | .string s, .string t => s == t
  | .array xs, .array ys => identicalItems xs ys
  | .object fs, .object gs => identicalFields fs gs
  | _, _ => false

/-- Whether two lists hold one value at each place. -/
def identicalItems : List Value → List Value → Bool
  | [], [] => true
  | v :: vs, w :: ws => identical v w && identicalItems vs ws
  | _, _ => false

/-- Whether two objects hold one name and one value at each place. -/
def identicalFields : List (String × Value) → List (String × Value) → Bool
  | [], [] => true
  | (name, v) :: fs, (name', w) :: gs => name == name' && identical v w && identicalFields fs gs
  | _, _ => false

end

mutual

theorem identical_iff (v w : Value) : identical v w = true ↔ v = w := by
  cases v with
  | array xs => cases w <;> simp [identical, identicalItems_iff xs]
  | object fs => cases w <;> simp [identical, identicalFields_iff fs]
  | _ => cases w <;> simp [identical]

theorem identicalItems_iff (vs ws : List Value) : identicalItems vs ws = true ↔ vs = ws := by
  cases vs with
  | nil => cases ws <;> simp [identicalItems]
  | cons v vs =>
    cases ws with
    | nil => simp [identicalItems]
    | cons w ws => simp [identicalItems, identical_iff v, identicalItems_iff vs]

theorem identicalFields_iff (fs gs : List (String × Value)) :
    identicalFields fs gs = true ↔ fs = gs := by
  cases fs with
  | nil => cases gs <;> simp [identicalFields]
  | cons f fs =>
    obtain ⟨name, v⟩ := f
    cases gs with
    | nil => simp [identicalFields]
    | cons g gs =>
      obtain ⟨name', w⟩ := g
      simp [identicalFields, identical_iff v, identicalFields_iff fs, and_assoc]

end

instance : DecidableEq Value := fun v w => decidable_of_iff _ (identical_iff v w)

/-! ### Names of kinds -/

/-- The word for a value's kind in messages. -/
def kindName : Value → String
  | .null => "NoneType"
  | .bool _ => "bool"
  | .int _ => "int"
  | .float _ => "float"
  | .string _ => "str"
  | .array _ => "list"
  | .object _ => "dict"

end Value

end ClusterTutor

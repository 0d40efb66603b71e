/-!
# Edit distance

How far apart two spellings are is the least number of insertions, deletions and
substitutions of single characters that turn one into the other. It is computed row by
row: the row of a part `a` of the first text holds the distances from `a` to the
longer and longer parts of the second one, and a row follows from the row before it and
one more character.
-/

namespace ClusterTutor.Text

/-- The rest of a row, where `left` is the cell before it and the old row is given from
the cell above `left` on. -/
def fillRow (c : Char) (left : Nat) : List Char → List Nat → List Nat
  | d :: ds, corner :: above :: row =>
    let substitute := corner + if c = d then 0 else 1
    let cell := min (min (above + 1) (left + 1)) substitute
    cell :: fillRow c cell ds (above :: row)
  | _, _ => []

/-- The row of a text with one more character, the `i`-th. -/
def nextRow (right : List Char) (c : Char) (i : Nat) (row : List Nat) : List Nat :=
  i :: fillRow c i right row

/-- The row of the whole first text, from a given row on. -/
def lastRow (right : List Char) : List Char → Nat → List Nat → List Nat
  | [], _, row => row
  | c :: cs, i, row => lastRow right cs (i + 1) (nextRow right c (i + 1) row)

/-- The distance of two lists of characters, of which the first is not the shorter one. -/
def rowDistance (left right : List Char) : Nat :=
  if right.isEmpty then left.length
  else (lastRow right left 0 (List.range (right.length + 1))).getLastD 0

/-- The edit distance of two texts. -/
def editDistance (a b : String) : Nat :=
  if a = b then 0
  else if a.length < b.length then rowDistance b.toList a.toList
  else rowDistance a.toList b.toList

end ClusterTutor.Text

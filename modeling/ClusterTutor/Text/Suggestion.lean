import ClusterTutor.Text.EditDistance

/-!
# Suggestions for a misspelled word

Of the words that could have been meant, those within a few edits are suggested, the
nearest first. Words at the same distance keep their order, and a word that occurs
several times is suggested once.
-/

namespace ClusterTutor.Text

/-- How far a suggestion may be from what was typed. -/
def suggestionDistance : Int := 2

/-- How many suggestions are made. -/
def suggestionLimit : Int := 3

/-- The first items of a list; a negative number leaves out so many at the end. -/
def takeInt {α : Type} (limit : Int) (xs : List α) : List α :=
  if 0 ≤ limit then xs.take limit.toNat else xs.take (xs.length - limit.natAbs)

/-- The candidates near a word with their distances, the nearest first. -/
def nearest (word : String) (candidates : List String) (maxDistance : Int) : List (Nat × String) :=
  ((candidates.eraseDups.map fun c => (editDistance word c, c)).filter fun p =>
    decide ((p.1 : Int) ≤ maxDistance)).mergeSort fun p q => decide (p.1 ≤ q.1)

/-- The suggestions for a word. -/
def suggestions (word : String) (candidates : List String)
    (maxDistance limit : Int) : List String :=
  (takeInt limit (nearest word candidates maxDistance)).map Prod.snd

/-- The usual suggestions for a word. -/
def usualSuggestions (word : String) (candidates : List String) : List String :=
  suggestions word candidates suggestionDistance suggestionLimit

end ClusterTutor.Text

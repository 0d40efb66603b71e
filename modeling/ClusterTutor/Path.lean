/-!
# Paths

A path is a number of slashes at its root and a list of names. Empty names and single
dots say nothing and are dropped when a path is read; two dots are kept. Exactly two
slashes at the root are kept as well, any other number counts as one.
-/

namespace ClusterTutor

/-- A path. -/
structure Path where
  /-- How many slashes stand at the root. -/
  rootSlashes : Nat := 0
  /-- The names, none of them empty or a single dot. -/
  names : List String := []
deriving DecidableEq, Repr

namespace Path

/-- The pieces of a text between slashes. -/
def pieces : List Char → List (List Char)
  | [] => [[]]
  | c :: cs =>
    if c = '/' then [] :: pieces cs
    else
      match pieces cs with
      | [] => [[c]]
      | p :: ps => (c :: p) :: ps

/-- The number of slashes kept of those at the start of a text. -/
def keptSlashes (count : Nat) : Nat :=
  if count = 0 then 0 else if count = 2 then 2 else 1

/-- Reads a path. -/
def ofText (s : String) : Path where
  rootSlashes := keptSlashes (s.toList.takeWhile (· == '/')).length
  names := ((pieces s.toList).map String.ofList).filter fun n => n ≠ "" && n ≠ "."

/-- A path as text; the path that says nothing is a single dot. -/
def text (p : Path) : String :=
  let root := String.ofList (List.replicate p.rootSlashes '/')
  let whole := root ++ "/".intercalate p.names
  if whole.isEmpty then "." else whole

/-- The path of an entry of a directory. -/
def entry (p : Path) (name : String) : Path :=
  { p with names := p.names ++ [name] }

end Path

end ClusterTutor

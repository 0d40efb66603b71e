/-!
# Columns

Tables are set in columns by padding with spaces, and long descriptions are cut to
the width of their column. Widths count characters.
-/

namespace ClusterTutor.Text

/-- A text filled up with spaces on its right. -/
def padRight (width : Nat) (s : String) : String :=
  s ++ String.ofList (List.replicate (width - s.length) ' ')

/-- A text filled up with spaces on its left. -/
def padLeft (width : Nat) (s : String) : String :=
  String.ofList (List.replicate (width - s.length) ' ') ++ s

/-- A text cut to a width, where three dots stand for what was cut off. -/
def truncate (width : Nat) (s : String) : String :=
  if s.length ≤ width then s
  else String.ofList (s.toList.take (width - 3)) ++ "..."

end ClusterTutor.Text

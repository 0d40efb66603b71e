/-!
# Texts inside texts
-/

namespace ClusterTutor.Text

/-- Whether characters occur next to each other in others. -/
def occursIn (needle : List Char) : List Char → Bool
  | [] => needle.isEmpty
  | c :: cs => needle.isPrefixOf (c :: cs) || occursIn needle cs

end ClusterTutor.Text

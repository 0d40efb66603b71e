/-!
# Blank characters and words

Whatever is typed is first freed of the blanks around it, and is compared word by
word. A blank is any white-space character of Unicode, with the four ASCII
separators U+001C to U+001F among them.

| operation | what it does |
|---|---|
| `ClusterTutor.Text.trim` | drops the blanks at both ends |
| `ClusterTutor.Text.words` | the maximal runs of characters that are not blank |
| `ClusterTutor.Text.squeeze` | the words again, with one space between them |
-/

namespace ClusterTutor.Text

/-- Whether a character is white space. -/
def isBlank (c : Char) : Bool :=
  let n := c.toNat
  (0x09 ≤ n && n ≤ 0x0D) || (0x1C ≤ n && n ≤ 0x20) || n == 0x85 || n == 0xA0 || n == 0x1680 ||
    (0x2000 ≤ n && n ≤ 0x200A) || n == 0x2028 || n == 0x2029 || n == 0x202F || n == 0x205F ||
    n == 0x3000

/-! ### Trimming -/

/-- A text without the blanks at its end. -/
def trimRight (cs : List Char) : List Char :=
  (cs.reverse.dropWhile isBlank).reverse

/-- A text without the blanks at its ends. -/
def trimList (cs : List Char) : List Char :=
  trimRight (cs.dropWhile isBlank)

/-- A text without the blanks at its ends. -/
def trim (s : String) : String :=
  String.ofList (trimList s.toList)

/-- Whether a text is empty or holds blanks only. -/
def isBlankText (s : String) : Bool :=
  s.toList.all isBlank

/-! ### Words -/

/-- The pieces of a text between its blanks, empty pieces included. -/
def pieces : List Char → List (List Char)
  | [] => [[]]
  | c :: cs =>
    if isBlank c then [] :: pieces cs
    else match pieces cs with
      | [] => [[c]]
      | p :: ps => (c :: p) :: ps

/-- The words of a text: its pieces between blanks that are not empty. -/
def words (s : String) : List String :=
  ((pieces s.toList).filter fun p => !p.isEmpty).map String.ofList

/-- A text with one space between its words and none around them. -/
def squeeze (s : String) : String :=
  " ".intercalate (words s)

end ClusterTutor.Text

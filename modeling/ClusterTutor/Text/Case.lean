import ClusterTutor.Text.CaseTable

/-!
# Upper and lower case

The full case maps of Unicode 14: one character may become several, and the one map
that looks at its surroundings is the Greek capital sigma, which is written `ς` at
the end of a word and `σ` elsewhere.

A search without regard to case uses the coarser relation of
`ClusterTutor.Text.caseVariants`: two characters are variants of each other when
their lower cases agree, or are companions in the table.
-/

namespace ClusterTutor.Text

/-- A code point moved by the first run of a case map that covers it. -/
def shiftCase (table : Array CaseShift) (n : Nat) : Nat :=
  match table.find? (·.covers n) with
  | some s => s.target n
  | none => n

/-- The lower case of a character as one character. -/
def simpleLower (c : Char) : Char :=
  if c.toNat < 0x80 then c.toLower
  else if c.toNat == 0x130 then 'i'
  else Char.ofNat (shiftCase lowerShifts c.toNat)

/-- The upper case of a character, in full. -/
def upperCharacter (c : Char) : List Char :=
  if c.toNat < 0x80 then [c.toUpper]
  else match upperExpansions.find? (·.1 == c.toNat) with
    | some e => e.2.map Char.ofNat
    | none => [Char.ofNat (shiftCase upperShifts c.toNat)]

/-- A text in upper case. -/
def upper (s : String) : String :=
  String.ofList (s.toList.flatMap upperCharacter)

/-- Whether the first character of a text that is not passed over has case. -/
def meetsCased (cs : List Char) : Bool :=
  match cs.dropWhile fun c => inRanges caseIgnorableRanges c.toNat with
  | [] => false
  | c :: _ => inRanges casedRanges c.toNat

/-- The characters of a text in lower case, where `before` holds what precedes it, the
nearest character first. -/
def lowerAfter (before : List Char) : List Char → List Char
  | [] => []
  | c :: rest =>
    let image :=
      if c.toNat == 0x130 then ['i', Char.ofNat 0x307]
      else if c.toNat == 0x3A3 then
        [if meetsCased before && !meetsCased rest then Char.ofNat 0x3C2 else Char.ofNat 0x3C3]
      else [simpleLower c]
    image ++ lowerAfter (c :: before) rest

/-- A text in lower case. -/
def lower (s : String) : String :=
  String.ofList (lowerAfter [] s.toList)

/-- The characters that are brought to `n` by the lower-case map, and `n` itself. -/
def sourcesOfLower (n : Nat) : List Nat :=
  n :: (lowerShifts.toList.filterMap fun s =>
    let source := ((n : Int) - s.offset).toNat
    if s.covers source && s.target source == n then some source else none)
    ++ (if n == 0x69 then [0x130] else [])

/-- The characters beyond ASCII that a search without regard to case takes for a
small ASCII letter. -/
def distantVariants : Char → List Nat
  | 'i' => [0x130, 0x131]
  | 'k' => [0x212A]
  | 's' => [0x17F]
  | _ => []

/-- All characters that a search without regard to case takes for `c`. -/
def caseVariants (c : Char) : List Nat :=
  if c.toNat < 0x80 then c.toLower.toNat :: c.toUpper.toNat :: distantVariants c.toLower
  else
    let low := (simpleLower c).toNat
    let companions := match caseCompanions.find? (·.1 == low) with
      | some e => e.2
      | none => []
    (low :: companions).flatMap sourcesOfLower

end ClusterTutor.Text

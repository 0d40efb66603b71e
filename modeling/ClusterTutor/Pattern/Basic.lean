import ClusterTutor.Text.Blank
import ClusterTutor.Text.Case
import ClusterTutor.Text.Digit
import ClusterTutor.Text.WordCharacter

/-!
# Patterns on typed commands

Hints watch for commands by patterns: regular expressions with groups, references to
what a group has matched, assertions about the surroundings, and three ways to repeat.
A pattern is matched anywhere in a command and without regard to case.

This module holds the tree of a pattern and the tests on single characters; reading a
pattern and matching it have modules of their own. What depends on the flags in force
where a part was written – whether case counts, which alphabet the classes know – is
stored in the part itself.
-/

namespace ClusterTutor

/-- A part of a set of characters. -/
inductive ClassItem where
  /-- One character, by its code point. -/
  | char (n : Nat)
  /-- The characters from one code point to another. -/
  | range (first last : Nat)
  /-- The digits, or all other characters. -/
  | digit (negated : Bool)
  /-- The blanks, or all other characters. -/
  | space (negated : Bool)
  /-- The word characters, or all other characters. -/
  | word (negated : Bool)
deriving DecidableEq, Repr

/-- What the surroundings of a character count for. -/
structure Alphabet where
  /-- Whether upper and lower case are taken for each other. -/
  ignoreCase : Bool
  /-- Whether letters, digits and blanks are those of ASCII only. -/
  ascii : Bool
deriving DecidableEq, Repr

/-- A test on one character. -/
structure CharacterSet where
  /-- What belongs to the set. -/
  items : List ClassItem
  /-- Whether the test is for not belonging. -/
  negated : Bool
  /-- How characters are compared. -/
  alphabet : Alphabet
deriving DecidableEq, Repr

/-- A condition on a position in the text. -/
inductive Anchor where
  /-- The start of the text. -/
  | textStart
  /-- The start of a line. -/
  | lineStart
  /-- The end of the text. -/
  | textEnd
  /-- The end of the text, or before a line end that is its last character. -/
  | lastLineEnd
  /-- The end of a line. -/
  | lineEnd
  /-- Between a word character and another one, or the opposite. -/
  | wordEdge (negated ascii : Bool)
deriving DecidableEq, Repr

/-- How a repetition chooses the number of its rounds. -/
inductive Policy where
  /-- As many as possible first. -/
  | greedy
  /-- As few as possible first. -/
  | reluctant
  /-- As many as possible, and no other number. -/
  | possessive
deriving DecidableEq, Repr

/-- A pattern. -/
inductive Pattern where
  /-- The empty text. -/
  | empty
  /-- One character of a set. -/
  | set (s : CharacterSet)
  /-- Any one character; a line end only if `newline`. -/
  | any (newline : Bool)
  /-- One pattern after another. -/
  | seq (p q : Pattern)
  /-- One pattern or, failing that, another. -/
  | alt (p q : Pattern)
  /-- A pattern of which the matched text is remembered under a number. -/
  | group (index : Nat) (p : Pattern)
  /-- A pattern repeated at least `least` and, if given, at most `most` times. -/
  | loop (least : Nat) (most : Option Nat) (policy : Policy) (p : Pattern)
  /-- A condition on the position. -/
  | anchor (a : Anchor)
  /-- A pattern that has to match, or not to match, what comes next. -/
  | ahead (negated : Bool) (p : Pattern)
  /-- A pattern that has to match, or not to match, the `width` characters before. -/
  | behind (negated : Bool) (width : Nat) (p : Pattern)
  /-- The text that a group has matched. -/
  | reference (index : Nat) (alphabet : Alphabet)
  /-- One of two patterns, according to whether a group has matched. -/
  | branch (index : Nat) (present absent : Pattern)
  /-- The first match of a pattern, and no other one. -/
  | atomic (p : Pattern)
deriving DecidableEq, Repr

namespace Pattern

/-- Characters one after the other. -/
def ofChars (a : Alphabet) : List Char → Pattern
  | [] => .empty
  | [c] => .set ⟨[.char c.toNat], false, a⟩
  | c :: cs => .seq (.set ⟨[.char c.toNat], false, a⟩) (ofChars a cs)

/-- A text in either case. -/
def ofText (s : String) : Pattern :=
  ofChars ⟨true, false⟩ s.toList

end Pattern

/-! ### Tests on characters -/

namespace Alphabet

/-- Whether a character is a digit of the alphabet. -/
def isDigit (a : Alphabet) (c : Char) : Bool :=
  if a.ascii then c.isDigit else Text.isDecimalDigit c

/-- Whether a character is a blank of the alphabet. -/
def isSpace (a : Alphabet) (c : Char) : Bool :=
  if a.ascii then c == ' ' || (0x09 ≤ c.toNat && c.toNat ≤ 0x0D) else Text.isBlank c

/-- Whether a character is a word character of the alphabet. -/
def isWord (a : Alphabet) (c : Char) : Bool :=
  if a.ascii then c.isAlphanum || c == '_' else Text.isWordCharacter c

/-- The code points that a character is taken for. -/
def variants (a : Alphabet) (c : Char) : List Nat :=
  if !a.ignoreCase then [c.toNat]
  else if a.ascii then [c.toLower.toNat, c.toUpper.toNat]
  else Text.caseVariants c

/-- Whether two characters are equal in a reference to a group. -/
def sameLetter (a : Alphabet) (c d : Char) : Bool :=
  if !a.ignoreCase then c == d
  else if a.ascii then c.toLower == d.toLower
  else Text.simpleLower c == Text.simpleLower d

end Alphabet

/-- Whether a character, taken for any of `variants`, belongs to an item. -/
def ClassItem.holds (a : Alphabet) (variants : List Nat) (c : Char) : ClassItem → Bool
  | .char n => variants.contains n
  | .range first last => variants.any fun n => decide (first ≤ n) && decide (n ≤ last)
  | .digit negated => a.isDigit c != negated
  | .space negated => a.isSpace c != negated
  | .word negated => a.isWord c != negated

/-- Whether a character passes a test. -/
def CharacterSet.holds (s : CharacterSet) (c : Char) : Bool :=
  let variants := s.alphabet.variants c
  s.items.any (·.holds s.alphabet variants c) != s.negated

end ClusterTutor

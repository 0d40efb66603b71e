import ClusterTutor.Pattern.Basic

/-!
# Matching a pattern

A match is tried in a fixed order: the first of two alternatives first, and more
rounds of a repetition before fewer, or fewer before more, by its policy. The matcher
takes what has to happen *after* a pattern as an argument, so that a later failure
sends it back to the next choice: `ClusterTutor.Pattern.run p k` finds the first way to
match `p` after which `k` succeeds.

A repetition could go round for ever without moving, so beyond its least number of
rounds none is begun where the one before it was begun. This bounds the rounds by the
length of the text, and `ClusterTutor.rounds` counts them down.
-/

namespace ClusterTutor

/-- A position in a text, with what the groups have matched so far. -/
structure Cursor where
  /-- The characters before the position, the nearest first. -/
  before : List Char
  /-- The characters from the position on. -/
  rest : List Char
  /-- How many there are. -/
  left : Nat
  /-- What groups have matched, the latest first. -/
  groups : List (Nat × List Char)
  left_eq : left = rest.length

namespace Cursor

/-- The start of a text. -/
def ofText (s : String) : Cursor := ⟨[], s.toList, s.toList.length, [], rfl⟩

/-- The position one character further, if there is one that passes a test. -/
def step? (c : Cursor) (test : Char → Bool) : Option Cursor :=
  match h : c.rest with
  | [] => none
  | x :: xs =>
    if test x then some ⟨x :: c.before, xs, c.left - 1, c.groups, by simp [c.left_eq, h]⟩ else none

/-- The position one character further, if there is one. -/
def next? (c : Cursor) : Option Cursor := c.step? fun _ => true

/-- The position a number of characters back, if there are so many. -/
def back? (c : Cursor) (width : Nat) : Option Cursor :=
  if h : width ≤ c.before.length then
    some ⟨c.before.drop width, (c.before.take width).reverse ++ c.rest, width + c.left, c.groups,
      by simp [c.left_eq, h]⟩
  else none

/-- The position after a given text, if it comes next. -/
def skip? (same : Char → Char → Bool) : List Char → Cursor → Option Cursor
  | [], c => some c
  | x :: xs, c => (c.step? (same x)).bind (skip? same xs)

/-- Whether a condition on the position holds. -/
def meets (c : Cursor) : Anchor → Bool
  | .textStart => c.before.isEmpty
  | .lineStart => c.before.isEmpty || c.before.head? == some '\n'
  | .textEnd => c.rest.isEmpty
  | .lastLineEnd => c.rest.isEmpty || c.rest == ['\n']
  | .lineEnd => c.rest.isEmpty || c.rest.head? == some '\n'
  | .wordEdge negated ascii =>
    let alphabet : Alphabet := ⟨false, ascii⟩
    let edge := c.before.head?.any alphabet.isWord != c.rest.head?.any alphabet.isWord
    !(c.before.isEmpty && c.rest.isEmpty) && edge != negated

/-- A cursor that remembers the text from `start` to it as what a group has matched. -/
def capture (c : Cursor) (index : Nat) (start : Cursor) : Cursor :=
  { c with groups := (index, start.rest.take (start.left - c.left)) :: c.groups }

end Cursor

/-- What has to happen after a match. -/
abbrev Continuation := Cursor → Option Cursor

/-- The rounds of a repetition of `body`, where `count` rounds are done and `last` is
what was left of the text where the last free round was begun. -/
def rounds (body : Continuation → Continuation) (least : Nat) (most : Option Nat) (lazily : Bool)
    (k : Continuation) : Nat → Nat → Option Nat → Continuation
  | 0, _, _, c => k c
  | fuel + 1, count, last, c =>
    if count < least then body (rounds body least most lazily k fuel (count + 1) last) c
    else
      let another : Unit → Option Cursor := fun _ =>
        if most.any (· ≤ count) || last == some c.left then none
        else body (rounds body least most lazily k fuel (count + 1) (some c.left)) c
      if lazily then
        match k c with
        | some r => some r
        | none => another ()
      else
        match another () with
        | some r => some r
        | none => k c

namespace Pattern

/-- The first way to match a pattern after which a continuation succeeds. -/
def run : Pattern → Continuation → Continuation
  | .empty, k, c => k c
  | .set s, k, c => (c.step? s.holds).bind k
  | .any newline, k, c => (c.step? fun x => newline || x != '\n').bind k
  | .seq p q, k, c => run p (run q k) c
  | .alt p q, k, c =>
    match run p k c with
    | some r => some r
    | none => run q k c
  | .group index p, k, c => run p (fun e => k (e.capture index c)) c
  | .loop least most policy p, k, c =>
    let fuel := least + c.left + 2
    match policy with
    | .greedy => rounds (run p) least most false k fuel 0 none c
    | .reluctant => rounds (run p) least most true k fuel 0 none c
    | .possessive => (rounds (run p) least most false some fuel 0 none c).bind k
  | .anchor a, k, c => if c.meets a then k c else none
  | .ahead negated p, k, c =>
    match run p some c with
    | some e => if negated then none else k { c with groups := e.groups }
    | none => if negated then k c else none
  | .behind negated width p, k, c =>
    match (c.back? width).bind (run p some) with
    | some e => if negated then none else k { c with groups := e.groups }
    | none => if negated then k c else none
  | .reference index alphabet, k, c =>
    match c.groups.lookup index with
    | some text => (Cursor.skip? alphabet.sameLetter text c).bind k
    | none => none
  | .branch index present absent, k, c =>
    if (c.groups.lookup index).isSome then run present k c else run absent k c
  | .atomic p, k, c => (run p some c).bind k

/-- Whether a pattern matches at a position or within the next `count` ones. -/
def searchFrom (p : Pattern) : Nat → Cursor → Bool
  | 0, c => (p.run some c).isSome
  | count + 1, c => (p.run some c).isSome || c.next?.any (searchFrom p count)

/-- Whether a pattern matches anywhere in a text. -/
def search (p : Pattern) (s : String) : Bool :=
  let start := Cursor.ofText s
  p.searchFrom start.left start

end Pattern

end ClusterTutor

import ClusterTutor.Number.Numeral
import ClusterTutor.Pattern.Basic

/-!
# Reading a pattern

A pattern is written as alternatives of sequences of parts. The reader goes along the
text once, and keeps what the rest of the pattern may refer to: the groups opened so
far, their names, and the lengths that the closed ones can match. These lengths are
needed because a pattern that looks back has to match texts of one length only.

Some flags change the meaning of what follows: they are part of the `Mode` under which
a part is read. Flags at the start of the pattern hold for all of it, and flags of a
group hold inside the group.

One form of the language is left out. A character may be written as `\N` with its Unicode
name in braces; the reader has no table of these names, and refuses every such pattern as
invalid, also those that would be accepted with the table.
-/

namespace ClusterTutor.Pattern

/-- Why a text is no pattern. -/
inductive Fault where
  /-- The text does not have the form of a pattern. -/
  | invalid
  /-- The number of a repetition or of a character is too large. -/
  | tooLarge
  /-- A repetition has a number with too many digits. -/
  | numeralTooLong
  /-- The flags ask for the ASCII alphabet and for the full one. -/
  | twoAlphabets
deriving DecidableEq, Repr

/-- What the flags in force say. -/
structure Mode where
  /-- Upper and lower case are taken for each other. -/
  ignoreCase : Bool := true
  /-- Lines have starts and ends of their own. -/
  lines : Bool := false
  /-- Any character may be a line end. -/
  dotAll : Bool := false
  /-- Blanks and comments between parts are passed over. -/
  spaced : Bool := false
  /-- The alphabet is ASCII. -/
  ascii : Bool := false
  /-- The full alphabet is asked for. -/
  full : Bool := false
  /-- Repetitions are refused. -/
  plain : Bool := false

namespace Mode

/-- How characters are compared. -/
def alphabet (m : Mode) : Alphabet := ⟨m.ignoreCase, m.ascii⟩

end Mode

/-! ### Lengths -/

/-- The least and the greatest length of a match; no greatest one if there is none. -/
abbrev Span := Nat × Option Nat

namespace Span

/-- Lengths of two matches together. -/
def add (a b : Span) : Span :=
  (a.1 + b.1, match a.2, b.2 with
    | some x, some y => some (x + y)
    | _, _ => none)

/-- Lengths of one of two matches. -/
def join (a b : Span) : Span :=
  (min a.1 b.1, match a.2, b.2 with
    | some x, some y => some (max x y)
    | _, _ => none)

/-- Lengths of a repeated match. -/
def times (a : Span) (least : Nat) (most : Option Nat) : Span :=
  (a.1 * least, match a.2, most with
    | some x, some n => some (x * n)
    | some 0, none => some 0
    | _, _ => none)

end Span

/-- The lengths that a pattern can match, given those of the groups. -/
def span (groups : List (Nat × Span)) : Pattern → Span
  | .empty | .anchor _ | .ahead _ _ | .behind _ _ _ => (0, some 0)
  | .set _ | .any _ => (1, some 1)
  | .seq p q => (span groups p).add (span groups q)
  | .alt p q => (span groups p).join (span groups q)
  | .group _ p | .atomic p => span groups p
  | .loop least most _ p => (span groups p).times least most
  | .reference index _ => (groups.lookup index).getD (0, some 0)
  | .branch _ p q => (span groups p).join (span groups q)

/-! ### The state of the reader -/

/-- What the reader keeps while it goes along a pattern. -/
structure ReadState where
  /-- The text that has not been read. -/
  rest : List Char
  /-- How many groups have been opened. -/
  opened : Nat := 0
  /-- The names of groups. -/
  names : List (String × Nat) := []
  /-- The lengths of the groups that have been closed. -/
  closed : List (Nat × Span) := []
  /-- Inside a pattern that looks back: how many groups were open before it. -/
  openedBefore : Option Nat := none
  /-- The numbers that conditions refer to. -/
  conditions : List Nat := []
  /-- The flags that hold for the whole pattern. -/
  mode : Mode := {}

/-- A step of the reader. -/
abbrev Reader (α : Type) := StateT ReadState (Except Fault) α

/-- The next character, which stays unread. -/
def peek? : Reader (Option Char) := do
  return (← get).rest.head?

/-- Reads on by one character. -/
def next? : Reader (Option Char) := do
  match (← get).rest with
  | [] => return none
  | c :: cs =>
    modify fun s => { s with rest := cs }
    return some c

/-- Reads a given character if it comes next, and says whether it did. -/
def accept (c : Char) : Reader Bool := do
  if (← peek?) == some c then
    let _ ← next?
    return true
  else return false

/-- Reads a given character. -/
def expect (c : Char) : Reader Unit := do
  unless ← accept c do throw .invalid

/-- Reads up to `count` characters as long as they pass a test. -/
def takeUpTo (count : Nat) (test : Char → Bool) : Reader (List Char) := do
  let cs := ((← get).rest.take count).takeWhile test
  modify fun s => { s with rest := s.rest.drop cs.length }
  return cs

/-- Reads as long as characters pass a test. -/
def takeAll (test : Char → Bool) : Reader (List Char) := do
  takeUpTo (← get).rest.length test

/-- Reads up to a character that ends a name, and past it. -/
def takeName (terminator : Char) : Reader String := do
  let cs ← takeAll (· != terminator)
  expect terminator
  if cs.isEmpty then throw .invalid
  return String.ofList cs

/-- Whether a text may name a group. -/
def isGroupName (s : String) : Bool :=
  match s.toList with
  | [] => false
  | c :: cs => Text.isWordCharacter c && !Text.isDigitLike c && cs.all Text.isWordCharacter

/-! ### Groups -/

/-- Whether a group has been closed. -/
def isClosed (index : Nat) : Reader Bool := do
  return ((← get).closed.lookup index).isSome

/-- A pattern that looks back may only refer to groups closed before it. -/
def checkBehind (index : Nat) : Reader Unit := do
  match (← get).openedBefore with
  | none => return
  | some limit =>
    unless ← isClosed index do throw .invalid
    if limit < index then throw .invalid

/-- A reference to a group by its number. -/
def referTo (mode : Mode) (index : Nat) : Reader Pattern := do
  unless ← isClosed index do throw .invalid
  checkBehind index
  return .reference index mode.alphabet

/-- Opens a group, and answers its number. -/
def openGroup (name : Option String) : Reader Nat := do
  let index := (← get).opened + 1
  modify fun s => { s with opened := index }
  match name with
  | none => return index
  | some name =>
    if ((← get).names.lookup name).isSome then throw .invalid
    modify fun s => { s with names := (name, index) :: s.names }
    return index

/-- Closes a group around what it matches. -/
def closeGroup (index : Nat) (p : Pattern) : Reader Unit :=
  modify fun s => { s with closed := (index, span s.closed p) :: s.closed }

/-! ### Characters after a backslash -/

/-- Whether a character is an octal digit. -/
def isOctal (c : Char) : Bool := '0' ≤ c && c ≤ '7'

/-- Whether a character is a hexadecimal digit. -/
def isHex (c : Char) : Bool := c.isDigit || ('a' ≤ c && c ≤ 'f') || ('A' ≤ c && c ≤ 'F')

/-- The value of hexadecimal digits. -/
def hexValue (ds : List Char) : Nat :=
  ds.foldl (fun n c =>
    16 * n + (if c.isDigit then c.toNat - 0x30 else c.toLower.toNat - 0x61 + 10)) 0

/-- The value of octal digits. -/
def octalValue (ds : List Char) : Nat :=
  ds.foldl (fun n c => 8 * n + (c.toNat - 0x30)) 0

/-- A character given by a number of hexadecimal digits. -/
def readHex (count : Nat) : Reader Nat := do
  let ds ← takeUpTo count isHex
  if ds.length < count then throw .invalid
  let n := hexValue ds
  if 0x80000000 ≤ n then throw .tooLarge
  if 0x110000 ≤ n then throw .invalid
  return n

/-- The control characters that have a letter. -/
def control? : Char → Option Nat
  | 'a' => some 7
  | 'f' => some 12
  | 'n' => some 10
  | 'r' => some 13
  | 't' => some 9
  | 'v' => some 11
  | '\\' => some 0x5C
  | _ => none

/-- The classes that have a letter. -/
def class? : Char → Option ClassItem
  | 'd' => some (.digit false)
  | 'D' => some (.digit true)
  | 's' => some (.space false)
  | 'S' => some (.space true)
  | 'w' => some (.word false)
  | 'W' => some (.word true)
  | _ => none

/-- The anchors that have a letter. -/
def anchor? (mode : Mode) : Char → Option Anchor
  | 'A' => some .textStart
  | 'Z' => some .textEnd
  | 'b' => some (.wordEdge false mode.ascii)
  | 'B' => some (.wordEdge true mode.ascii)
  | _ => none

/-- The character given by hexadecimal digits after one of the letters for it. -/
def hexEscape? : Char → Option Nat
  | 'x' => some 2
  | 'u' => some 4
  | 'U' => some 8
  | _ => none

/-- A character of no special meaning stands for itself; a letter or a digit does not. -/
def plainEscape (c : Char) : Reader Nat :=
  if c.isAlphanum then throw .invalid else return c.toNat

/-- What a backslash and the character after it mean inside a set. -/
def readClassEscape (c : Char) : Reader ClassItem := do
  if c == 'b' then return .char 8
  if let some n := control? c then return .char n
  if let some item := class? c then return item
  if let some count := hexEscape? c then return .char (← readHex count)
  if isOctal c then
    let n := octalValue (c :: (← takeUpTo 2 isOctal))
    if 0o377 < n then throw .invalid
    return .char n
  return .char (← plainEscape c)

/-- One character as a pattern. -/
def literal (mode : Mode) (n : Nat) : Pattern :=
  .set ⟨[.char n], false, mode.alphabet⟩

/-- What a backslash and the character after it mean outside a set. -/
def readEscape (mode : Mode) (c : Char) : Reader Pattern := do
  if let some a := anchor? mode c then return .anchor a
  if let some item := class? c then return .set ⟨[item], false, mode.alphabet⟩
  if let some n := control? c then return literal mode n
  if let some count := hexEscape? c then return literal mode (← readHex count)
  if c == '0' then return literal mode (octalValue (← takeUpTo 2 isOctal))
  if c.isDigit then
    let more ← takeUpTo 1 Char.isDigit
    if isOctal c && more.any isOctal then
      let third ← takeUpTo 1 isOctal
      unless third.isEmpty do
        let n := octalValue (c :: more ++ third)
        if 0o377 < n then throw .invalid
        return literal mode n
    return ← referTo mode (Numeral.value (c :: more))
  return literal mode (← plainEscape c)

/-! ### Sets -/

/-- One part of a set, of which the first character has been read. -/
def readClassItem (c : Char) : Reader ClassItem := do
  if c == '\\' then
    match ← next? with
    | none => throw .invalid
    | some c => readClassEscape c
  else return .char c.toNat

/-- The parts of a set up to its closing bracket. -/
def readClassItems : Nat → List ClassItem → Reader (List ClassItem)
  | 0, _ => throw .invalid
  | fuel + 1, items => do
    match ← next? with
    | none => throw .invalid
    | some c =>
      if c == ']' && !items.isEmpty then return items.reverse
      let first ← readClassItem c
      if ← accept '-' then
        match ← next? with
        | none => throw .invalid
        | some d =>
          if d == ']' then return (.char 0x2D :: first :: items).reverse
          match first, ← readClassItem d with
          | .char low, .char high =>
            if high < low then throw .invalid
            readClassItems fuel (.range low high :: items)
          | _, _ => throw .invalid
      else readClassItems fuel (first :: items)

/-- A set after its opening bracket. -/
def readSet (mode : Mode) : Reader Pattern := do
  let negated ← accept '^'
  let items ← readClassItems ((← get).rest.length + 1) []
  return .set ⟨items, negated, mode.alphabet⟩

/-! ### Repetitions -/

/-- The number from which on repetitions cannot be counted. -/
def countLimit : Nat := 4294967295

/-- A bound of a repetition. -/
def readBound (ds : List Char) : Reader (Option Nat) := do
  if ds.isEmpty then return none
  if Numeral.digitLimit < ds.length then throw .numeralTooLong
  let n := Numeral.value ds
  if countLimit ≤ n then throw .tooLarge
  return some n

/-- The bounds of a repetition in braces, after the opening brace; `none` if the text
there are no bounds, and then nothing has been read. -/
def readBounds : Reader (Option (Nat × Option Nat)) := do
  let start ← get
  if (← peek?) == some '\x7d' then return none
  let low ← takeAll Char.isDigit
  let high ← if ← accept ',' then takeAll Char.isDigit else pure low
  if ← accept '\x7d' then
    let least ← readBound low
    let most ← readBound high
    if most.any (· < least.getD 0) then throw .invalid
    return some (least.getD 0, most)
  else
    modify fun _ => start
    return none

/-- What a part of a sequence is, as far as a repetition after it is concerned. -/
inductive PartKind where
  /-- Something that can be repeated. -/
  | single
  /-- A condition on the position, which cannot be repeated. -/
  | anchored
  /-- A repetition, which cannot be repeated again. -/
  | repeated

/-- The parts of a sequence, the last one first. -/
abbrev Parts := List (Pattern × PartKind)

/-- A sequence of parts as a pattern. -/
def Parts.toPattern (ps : Parts) : Pattern :=
  ps.foldl (fun q p => match q with
    | .empty => p.1
    | q => .seq p.1 q) .empty

/-- How a repetition chooses the number of its rounds. -/
def readPolicy : Reader Policy := do
  if ← accept '?' then return .reluctant
  if ← accept '+' then return .possessive
  return .greedy

/-- Repeats the last part of a sequence. -/
def repeatLast (mode : Mode) (least : Nat) (most : Option Nat) (ps : Parts) : Reader Parts := do
  match ps with
  | (p, .single) :: ps =>
    let policy ← readPolicy
    if mode.plain then throw .invalid
    return (.loop least most policy p, .repeated) :: ps
  | _ => throw .invalid

/-! ### Flags -/

/-- Turns a flag on. -/
def Mode.turnOn (m : Mode) : Char → Option Mode
  | 'i' => some { m with ignoreCase := true }
  | 'm' => some { m with lines := true }
  | 's' => some { m with dotAll := true }
  | 'x' => some { m with spaced := true }
  | 'a' => some { m with ascii := true }
  | 'u' => some { m with full := true }
  | 't' => some { m with plain := true }
  | _ => none

/-- Turns off a flag that can be turned off. -/
def Mode.turnOff (m : Mode) : Char → Option Mode
  | 'i' => some { m with ignoreCase := false }
  | 'm' => some { m with lines := false }
  | 's' => some { m with dotAll := false }
  | 'x' => some { m with spaced := false }
  | _ => none

/-- Turns on the flags that hold for a whole pattern. -/
def Mode.turnOnAll (m : Mode) (flags : List Char) : Reader Mode :=
  flags.foldlM (fun m c => match m.turnOn c with
    | some m => pure m
    | none => throw .invalid) m

/-- The mode inside a group, with flags turned on and off. Of the alphabets, the one
that the group asks for replaces the other. -/
def Mode.inside (m : Mode) (on off : List Char) : Reader Mode := do
  if on.contains 't' || on.any (off.contains ·) then throw .invalid
  let m := if on.contains 'a' then { m with ascii := true, full := false }
    else if on.contains 'u' then { m with ascii := false, full := true }
    else m
  let m ← m.turnOnAll (on.filter fun c => c != 'a' && c != 'u')
  off.foldlM (fun m c => match m.turnOff c with
    | some m => pure m
    | none => throw .invalid) m

/-- What follows the question mark of a group with flags: either the flags hold for
the whole pattern, or they are given with those that are turned off. -/
def readFlags : Reader (List Char ⊕ (List Char × List Char)) := do
  let on ← takeAll Char.isAlpha
  if on.contains 'L' || (on.contains 'a' && on.contains 'u') then throw .invalid
  match ← next? with
  | some ')' => if on.isEmpty then throw .invalid else return .inl on
  | some ':' => if on.isEmpty then throw .invalid else return .inr (on, [])
  | some '-' =>
    let off ← takeAll Char.isAlpha
    if off.isEmpty then throw .invalid
    expect ':'
    return .inr (on, off)
  | _ => throw .invalid

/-! ### Comments -/

/-- A text after a comment in parentheses; a character after a backslash does not end
the comment. -/
def afterComment? : List Char → Option (List Char)
  | [] => none
  | ')' :: cs => some cs
  | '\\' :: _ :: cs => afterComment? cs
  | _ :: cs => afterComment? cs

/-- A text after a comment that ends with its line. -/
def afterLine : List Char → List Char
  | [] => []
  | '\n' :: cs => cs
  | '\\' :: _ :: cs => afterLine cs
  | _ :: cs => afterLine cs

/-! ### The grammar -/

/-- The number of the group that a condition names. -/
def readCondition : Reader Nat := do
  let name ← takeName ')'
  if isGroupName name then
    match (← get).names.lookup name with
    | none => throw .invalid
    | some index =>
      checkBehind index
      return index
  else
    match Numeral.readInt name with
    | .error _ => throw .invalid
    | .ok n =>
      if n ≤ 0 then throw .invalid
      let index := n.toNat
      modify fun s => { s with conditions := index :: s.conditions }
      checkBehind index
      return index

mutual

/-- Alternatives, up to a closing parenthesis or the end. Outside all groups each of
them is read under the flags of the whole pattern. -/
def readAlternatives (top : Bool) (mode : Mode) : Nat → Bool → Reader Pattern
  | 0, _ => throw .invalid
  | fuel + 1, first => do
    let whole := (← get).mode
    let mode := if top then whole else mode
    let p ← readSequence mode (top && first) fuel []
    if ← accept '|' then
      return .alt p (← readAlternatives top mode fuel false)
    else return p

/-- A sequence of parts, of which `parts` have been read. Flags for the whole pattern
may only stand at its start. -/
def readSequence (mode : Mode) (atStart : Bool) : Nat → Parts → Reader Pattern
  | 0, _ => throw .invalid
  | fuel + 1, parts => do
    match ← peek? with
    | none => return Parts.toPattern parts
    | some '|' => return Parts.toPattern parts
    | some ')' => return Parts.toPattern parts
    | some c =>
      let _ ← next?
      if mode.spaced && Numeral.isAsciiBlank c then
        readSequence mode atStart fuel parts
      else if mode.spaced && c == '#' then
        modify fun s => { s with rest := afterLine s.rest }
        readSequence mode atStart fuel parts
      else
        match c with
        | '\\' =>
          match ← next? with
          | none => throw .invalid
          | some c =>
            let p ← readEscape mode c
            let kind := match p with
              | .anchor _ => PartKind.anchored
              | _ => PartKind.single
            readSequence mode atStart fuel ((p, kind) :: parts)
        | '[' => readSequence mode atStart fuel ((← readSet mode, .single) :: parts)
        | '.' => readSequence mode atStart fuel ((.any mode.dotAll, .single) :: parts)
        | '^' =>
          let a := if mode.lines then Anchor.lineStart else .textStart
          readSequence mode atStart fuel ((.anchor a, .anchored) :: parts)
        | '$' =>
          let a := if mode.lines then Anchor.lineEnd else .lastLineEnd
          readSequence mode atStart fuel ((.anchor a, .anchored) :: parts)
        | '?' => readSequence mode atStart fuel (← repeatLast mode 0 (some 1) parts)
        | '*' => readSequence mode atStart fuel (← repeatLast mode 0 none parts)
        | '+' => readSequence mode atStart fuel (← repeatLast mode 1 none parts)
        | '\x7b' =>
          match ← readBounds with
          | none => readSequence mode atStart fuel ((literal mode 0x7B, .single) :: parts)
          | some (least, most) =>
            readSequence mode atStart fuel (← repeatLast mode least most parts)
        | '(' => readGroup mode atStart fuel parts
        | c => readSequence mode atStart fuel ((literal mode c.toNat, .single) :: parts)

/-- What follows an opening parenthesis, and the rest of the sequence. -/
def readGroup (mode : Mode) (atStart : Bool) : Nat → Parts → Reader Pattern
  | 0, _ => throw .invalid
  | fuel + 1, parts => do
    let finish : Pattern → Reader Pattern := fun p =>
      readSequence mode atStart fuel ((p, .single) :: parts)
    if !(← accept '?') then
      finish (← readNumbered mode none fuel)
    else
      match ← next? with
      | some ':' =>
        let p ← readAlternatives false mode fuel false
        expect ')'
        finish p
      | some '>' =>
        let p ← readAlternatives false mode fuel false
        expect ')'
        finish (.atomic p)
      | some '=' => finish (← readAhead mode false fuel)
      | some '!' => finish (← readAhead mode true fuel)
      | some '<' =>
        match ← next? with
        | some '=' => finish (← readBehind mode false fuel)
        | some '!' => finish (← readBehind mode true fuel)
        | _ => throw .invalid
      | some '#' =>
        match afterComment? (← get).rest with
        | none => throw .invalid
        | some rest =>
          modify fun s => { s with rest }
          readSequence mode atStart fuel parts
      | some 'P' =>
        match ← next? with
        | some '<' =>
          let name ← takeName '>'
          unless isGroupName name do throw .invalid
          finish (← readNumbered mode (some name) fuel)
        | some '=' =>
          let name ← takeName ')'
          unless isGroupName name do throw .invalid
          match (← get).names.lookup name with
          | none => throw .invalid
          | some index => finish (← referTo mode index)
        | _ => throw .invalid
      | some '(' =>
        let index ← readCondition
        let present ← readSequence mode false fuel []
        let absent ← if ← accept '|' then readSequence mode false fuel [] else pure .empty
        expect ')'
        finish (.branch index present absent)
      | some c =>
        modify fun s => { s with rest := c :: s.rest }
        match ← readFlags with
        | .inl flags =>
          unless atStart && parts.isEmpty do throw .invalid
          let global := (← get).mode
          let whole ← global.turnOnAll flags
          modify fun s => { s with mode := whole }
          readSequence whole atStart fuel parts
        | .inr (on, off) =>
          let p ← readAlternatives false (← mode.inside on off) fuel false
          expect ')'
          finish p
      | none => throw .invalid

/-- A numbered group after its opening. -/
def readNumbered (mode : Mode) (name : Option String) : Nat → Reader Pattern
  | 0 => throw .invalid
  | fuel + 1 => do
    let index ← openGroup name
    let p ← readAlternatives false mode fuel false
    expect ')'
    closeGroup index p
    return .group index p

/-- A pattern that looks ahead, after its opening. -/
def readAhead (mode : Mode) (negated : Bool) : Nat → Reader Pattern
  | 0 => throw .invalid
  | fuel + 1 => do
    let p ← readAlternatives false mode fuel false
    expect ')'
    return .ahead negated p

/-- A pattern that looks back, after its opening. -/
def readBehind (mode : Mode) (negated : Bool) : Nat → Reader Pattern
  | 0 => throw .invalid
  | fuel + 1 => do
    let outer := (← get).openedBefore
    if outer.isNone then
      modify fun s => { s with openedBefore := some s.opened }
    let p ← readAlternatives false mode fuel false
    modify fun s => { s with openedBefore := outer }
    expect ')'
    let lengths := span (← get).closed p
    if lengths.2 != some lengths.1 || countLimit < lengths.1 then throw .invalid
    return .behind negated lengths.1 p

end

/-- A whole pattern: what is left over must be nothing, and conditions must refer to
groups that exist. -/
def readWhole (fuel : Nat) : Reader Pattern := do
  let p ← readAlternatives true {} fuel true
  let s ← get
  if s.mode.ascii && s.mode.full then throw .twoAlphabets
  unless s.rest.isEmpty do throw .invalid
  if s.conditions.any (s.opened < ·) then throw .invalid
  return p

/-- The pattern that a text spells. -/
def read (s : String) : Except Fault Pattern :=
  ((readWhole (4 * s.length + 8)).run { rest := s.toList }).map Prod.fst

end ClusterTutor.Pattern

import ClusterTutor.Proofs.CommandLine.Words
import ClusterTutor.Proofs.Text.Squeeze

/-!
# What the characters of a line show

Splitting a line keeps the current word aside and looks two characters ahead. Here the same line
is scanned character by character, and each character shows at once what it adds to the words
(`ClusterTutor.CommandLine.marks_of_splitFrom`). So two readings of the same characters can be
compared, from places that differ: in one of them a quote may be open that is closed in the other.

They can be compared at the *gaps*, which are the runs of separators. Every gap shows a marker,
wherever it stands, and nothing else does:

| where a gap stands | what it shows |
|---|---|
| between words, or in a word | that a word begins |
| between quotes | its separators |
| behind a backslash | its first separator and, if there are others, that a word begins |

From the end of a line, gap by gap, it follows that two readings that have shown the same at the
end have shown the same before (`ClusterTutor.CommandLine.Mode.Settled.eq_of_chunks`). The one
gap of which this is not plain is the escaped one: it might be mistaken for the beginning of a
word behind a separator, but then the backslash in front of it would have been shown.
-/

namespace ClusterTutor.CommandLine

/-! ### Scanning -/

/-- Where the next character of a line stands, behind a backslash or not. -/
inductive Mode where
  /-- Between words. -/
  | between
  /-- In a word, outside quotes. -/
  | inWord
  /-- Behind a backslash, outside quotes. -/
  | escaped
  /-- Between single quotes. -/
  | single
  /-- Between double quotes. -/
  | double
  /-- Behind a backslash, between double quotes. -/
  | doubleEscaped
deriving DecidableEq, Repr

namespace Mode

/-- Where the character after a character stands. -/
def next : Mode → Char → Mode
  | .between, c | .inWord, c =>
    if isSeparator c then .between
    else if c == '\'' then .single
    else if c == '"' then .double
    else if c == '\\' then .escaped
    else .inWord
  | .escaped, _ => .inWord
  | .single, c => if c == '\'' then .inWord else .single
  | .double, c => if c == '"' then .inWord else if c == '\\' then .doubleEscaped else .double
  | .doubleEscaped, _ => .double

/-- What a character shows: characters of a word, and `none` where a word begins. -/
def adds : Mode → Char → List (Option Char)
  | .between, c => if isSeparator c then [] else if isPlain c then [none, some c] else [none]
  | .inWord, c => if isPlain c then [some c] else []
  | .escaped, c => [some c]
  | .single, c => if c == '\'' then [] else [some c]
  | .double, c => if c == '"' || c == '\\' then [] else [some c]
  | .doubleEscaped, c => if c == '"' || c == '\\' then [some c] else [some '\\', some c]

/-- Where the character after some characters stands. -/
def after (m : Mode) (cs : List Char) : Mode := cs.foldl next m

/-- What characters show. -/
def shown : Mode → List Char → List (Option Char)
  | _, [] => []
  | m, c :: cs => m.adds c ++ (m.next c).shown cs

/-- Whether a line may end. -/
def Closes (m : Mode) : Prop := m = .between ∨ m = .inWord

/-- What the character before has yet to show: between double quotes a backslash is an ordinary
character, unless a double quote or a backslash comes next. -/
def pending : Mode → List (Option Char)
  | .doubleEscaped => [some '\\']
  | _ => []

variable (m : Mode) (c : Char) (cs ds : List Char)

@[simp] theorem after_nil : m.after [] = m := rfl

@[simp] theorem after_cons : m.after (c :: cs) = (m.next c).after cs := rfl

@[simp] theorem shown_nil : m.shown [] = [] := rfl

@[simp] theorem shown_cons : m.shown (c :: cs) = m.adds c ++ (m.next c).shown cs := rfl

@[simp] theorem after_append : m.after (cs ++ ds) = (m.after cs).after ds := by
  simp [after]

@[simp] theorem shown_append : m.shown (cs ++ ds) = m.shown cs ++ (m.after cs).shown ds := by
  induction cs generalizing m with
  | nil => rfl
  | cons c cs ih => simp [ih]

variable {m c cs}

theorem Closes.pending_eq (h : m.Closes) : m.pending = [] := by
  rcases h with rfl | rfl <;> rfl

end Mode

/-- Words as they are shown. -/
def marks (ws : List String) : List (Option Char) :=
  ws.flatMap fun w => none :: w.toList.map some

/-! ### A line shows its words -/

theorem splitFrom_between_cons {c : Char} (h : c ≠ '\\') (word cs : List Char) :
    splitFrom .between word (c :: cs) =
      if isSeparator c then splitFrom .between [] cs
      else if c == '\'' then splitFrom .inSingle word cs
      else if c == '"' then splitFrom .inDouble word cs
      else splitFrom .inWord (c :: word) cs := by
  rw [splitFrom] <;> simp [h]

theorem splitFrom_inWord_cons {c : Char} (h : c ≠ '\\') (word cs : List Char) :
    splitFrom .inWord word (c :: cs) =
      if isSeparator c then (splitFrom .between [] cs).map (String.ofList word.reverse :: ·)
      else if c == '\'' then splitFrom .inSingle word cs
      else if c == '"' then splitFrom .inDouble word cs
      else splitFrom .inWord (c :: word) cs := by
  rw [splitFrom] <;> simp [h]

namespace Mode

/-- The words of the rest of a line. -/
def split : Mode → List Char → List Char → Option (List String)
  | .between, word, cs => splitFrom .between word cs
  | .inWord, word, cs => splitFrom .inWord word cs
  | .single, word, cs => splitFrom .inSingle word cs
  | .double, word, cs => splitFrom .inDouble word cs
  | .escaped, _, [] => none
  | .escaped, word, c :: cs => splitFrom .inWord (c :: word) cs
  | .doubleEscaped, _, [] => none
  | .doubleEscaped, word, c :: cs =>
    splitFrom .inDouble (if c == '"' || c == '\\' then c :: word else c :: '\\' :: word) cs

/-- What has been shown of the current word, which is held the last character first. -/
def begun : Mode → List Char → List (Option Char)
  | .between, _ => []
  | _, word => none :: word.reverse.map some

/-- **One character** ends a word, and what is left of the line is split, or goes on with
one. -/
theorem split_cons (m : Mode) {word : List Char} (hword : m = .between → word = []) (c : Char)
    (cs : List Char) :
    ∃ word' ended, ended ++ (m.next c).begun word' = m.begun word ++ m.adds c ∧
      (m.next c = .between → word' = []) ∧
      (m.split word (c :: cs)).map marks =
        ((m.next c).split word' cs).map fun ws => ended ++ marks ws := by
  cases m with
  | between =>
    obtain rfl := hword rfl
    by_cases hbackslash : c = '\\'
    · subst hbackslash
      exact ⟨[], [],
        by cases cs <;> simp [next, adds, begun, split, splitFrom, isPlain, isSeparator]⟩
    have hstep := splitFrom_between_cons hbackslash [] cs
    by_cases hs : isSeparator c = true
    · exact ⟨[], [], by simp [next, adds, begun, split, hs, hstep]⟩
    by_cases hq : c = '\''
    · subst hq
      exact ⟨[], [], by simp [next, adds, begun, split, hstep, isPlain, isSeparator]⟩
    by_cases hd : c = '"'
    · subst hd
      exact ⟨[], [], by simp [next, adds, begun, split, hstep, isPlain, isSeparator]⟩
    · exact ⟨[c], [], by simp [next, adds, begun, split, hs, hstep, hq, hd, hbackslash, isPlain]⟩
  | inWord =>
    by_cases hbackslash : c = '\\'
    · subst hbackslash
      exact ⟨word, [],
        by cases cs <;> simp [next, adds, begun, split, splitFrom, isPlain, isSeparator]⟩
    have hstep := splitFrom_inWord_cons hbackslash word cs
    by_cases hs : isSeparator c = true
    · refine ⟨[], none :: word.reverse.map some, ?_⟩
      simp [next, adds, begun, split, hs, hstep, isPlain, marks, Function.comp_def]
    by_cases hq : c = '\''
    · subst hq
      exact ⟨word, [], by simp [next, adds, begun, split, hstep, isPlain, isSeparator]⟩
    by_cases hd : c = '"'
    · subst hd
      exact ⟨word, [], by simp [next, adds, begun, split, hstep, isPlain, isSeparator]⟩
    · exact ⟨c :: word, [],
        by simp [next, adds, begun, split, hs, hstep, hq, hd, hbackslash, isPlain]⟩
  | escaped => exact ⟨c :: word, [], by simp [next, adds, begun, split]⟩
  | single =>
    by_cases h : c = '\''
    · exact ⟨word, [], by simp [next, adds, begun, split, splitFrom, h]⟩
    · exact ⟨c :: word, [], by simp [next, adds, begun, split, splitFrom, h]⟩
  | double =>
    by_cases hbackslash : c = '\\'
    · subst hbackslash
      have hnext : Mode.double.next '\\' = .doubleEscaped := rfl
      refine ⟨word, [], by simp [next, adds, begun], by simp [next], ?_⟩
      rw [hnext]
      cases cs with
      | nil => simp [split, splitFrom]
      | cons c cs =>
        simp only [split, splitFrom, List.nil_append]
        split_ifs <;> rfl
    by_cases hd : c = '"'
    · exact ⟨word, [], by simp [next, adds, begun, split, splitFrom, hd]⟩
    · exact ⟨c :: word, [], by simp [next, adds, begun, split, splitFrom, hbackslash, hd]⟩
  | doubleEscaped =>
    by_cases h : (c == '"' || c == '\\') = true
    · exact ⟨c :: word, [], by simp [next, adds, begun, split, h]⟩
    · exact ⟨c :: '\\' :: word, [], by simp [next, adds, begun, split, h]⟩

theorem marks_of_split {m : Mode} {word cs : List Char} {ws : List String}
    (hword : m = .between → word = []) (h : m.split word cs = some ws) :
    (m.after cs).Closes ∧ marks ws = m.begun word ++ m.shown cs := by
  induction cs generalizing m word ws with
  | nil =>
    cases m with
    | between =>
      obtain rfl : [] = ws := by simpa [split, splitFrom] using h
      exact ⟨Or.inl rfl, rfl⟩
    | inWord =>
      obtain rfl : [String.ofList word.reverse] = ws := by simpa [split, splitFrom] using h
      exact ⟨Or.inr rfl, by simp [marks, begun]⟩
    | _ => simp [split, splitFrom] at h
  | cons c cs ih =>
    obtain ⟨word', ended, hbegun, hword', hsplit⟩ := split_cons m hword c cs
    rw [h, Option.map_some, eq_comm, Option.map_eq_some_iff] at hsplit
    obtain ⟨ws', hws', hmarks⟩ := hsplit
    obtain ⟨hcloses, hrest⟩ := ih hword' hws'
    refine ⟨hcloses, ?_⟩
    rw [← hmarks, hrest, shown_cons, ← List.append_assoc, hbegun, List.append_assoc]

end Mode

open Mode

theorem marks_of_splitFrom {cs : List Char} {ws : List String}
    (h : splitFrom .between [] cs = some ws) :
    (Mode.between.after cs).Closes ∧ Mode.between.shown cs = marks ws := by
  obtain ⟨hcloses, hmarks⟩ := marks_of_split (m := .between) (fun _ => rfl) h
  exact ⟨hcloses, hmarks.symm⟩

/-! ### Markers -/

/-- **What a gap shows**: that a word begins, or a separator. -/
def isMarker (x : Option Char) : Bool := x.all isSeparator

/-- **What was shown up to the last marker** is determined by all that was shown. -/
theorem eq_of_lastMarker {xs ys ss ts : List (Option Char)} {x y : Option Char}
    (hx : isMarker x = true) (hy : isMarker y = true) (hss : ∀ s ∈ ss, isMarker s = false)
    (hts : ∀ t ∈ ts, isMarker t = false) (h : xs ++ x :: ss = ys ++ y :: ts) :
    xs ++ [x] = ys ++ [y] := by
  have hcut : ∀ (zs us : List (Option Char)) (z : Option Char), isMarker z = true →
      (∀ u ∈ us, isMarker u = false) →
        (zs ++ z :: us).rdropWhile (fun u => !isMarker u) = zs ++ [z] := by
    intro zs us z hz hus
    induction us using List.reverseRecOn with
    | nil => exact List.rdropWhile_concat_neg _ _ _ (by simp [hz])
    | append_singleton us u ih =>
      obtain ⟨hus, hu⟩ := List.forall_mem_append.1 hus
      rw [← List.cons_append, ← List.append_assoc,
        List.rdropWhile_concat_pos _ _ _ (by simpa using hu), ih hus]
  rw [← hcut xs ss x hx hss, ← hcut ys ts y hy hts, h]

/-- **What was shown before the first marker** is determined by all that was shown. -/
theorem eq_of_firstMarker {xs ys ss ts : List (Option Char)} {x y : Option Char}
    (hx : isMarker x = true) (hy : isMarker y = true) (hxs : ∀ s ∈ xs, isMarker s = false)
    (hys : ∀ t ∈ ys, isMarker t = false) (h : xs ++ x :: ss = ys ++ y :: ts) :
    xs = ys ∧ x = y ∧ ss = ts := by
  have htake : ∀ (zs us : List (Option Char)) (z : Option Char), isMarker z = true →
      (∀ z ∈ zs, isMarker z = false) →
        (zs ++ z :: us).takeWhile (fun u => !isMarker u) = zs := by
    intro zs us z hz hzs
    rw [List.takeWhile_append_of_pos (by simpa using hzs),
      List.takeWhile_cons_of_neg (by simp [hz]), List.append_nil]
  obtain rfl : xs = ys := by rw [← htake xs ss x hx hxs, ← htake ys ts y hy hys, h]
  simpa using h

namespace Mode

variable {m : Mode} {c : Char} {g y : List Char}

theorem next_ne_between (h : isSeparator c = false) (m : Mode) : m.next c ≠ .between := by
  cases m with
  | escaped => simp [next]
  | doubleEscaped => simp [next]
  | _ =>
    simp only [next]
    split_ifs <;> simp_all

theorem after_ne_between (hm : m ≠ .between) (hy : ∀ c ∈ y, isSeparator c = false) :
    m.after y ≠ .between := by
  induction y generalizing m with
  | nil => exact hm
  | cons c y ih =>
    obtain ⟨hc, hy⟩ := List.forall_mem_cons.1 hy
    exact ih (next_ne_between hc m) hy

theorem shown_between (h : isSeparator c = false) (cs : List Char) :
    Mode.between.shown (c :: cs) = none :: Mode.inWord.shown (c :: cs) ∧
      Mode.between.after (c :: cs) = Mode.inWord.after (c :: cs) := by
  constructor
  · simp only [shown_cons, adds, h, next]
    split_ifs <;> simp_all
  · rfl

theorem isMarker_eq_false_of_mem_adds (hm : m ≠ .between) (hc : isSeparator c = false) :
    ∀ x ∈ m.adds c, isMarker x = false := by
  have hchar : isMarker (some c) = false := hc
  have hbackslash : isMarker (some '\\') = false := by decide
  intro x hx
  cases m with
  | between => exact absurd rfl hm
  | escaped =>
    obtain rfl := List.mem_singleton.1 hx
    exact hc
  | doubleEscaped =>
    simp only [adds] at hx
    split_ifs at hx
    · simp_all
    · rcases List.mem_pair.1 hx with rfl | rfl <;> assumption
  | _ =>
    simp only [adds] at hx
    split_ifs at hx <;> simp_all

theorem isMarker_eq_false_of_mem_pending (m : Mode) : ∀ x ∈ m.pending, isMarker x = false := by
  cases m <;> simp [pending, isMarker, isSeparator]

/-- What is no separator shows no marker, but for the beginning of a word. -/
theorem isMarker_eq_false_of_mem_shown (hm : m ≠ .between)
    (hy : ∀ c ∈ y, isSeparator c = false) : ∀ x ∈ m.shown y, isMarker x = false := by
  induction y generalizing m with
  | nil => simp
  | cons c y ih =>
    obtain ⟨hc, hy⟩ := List.forall_mem_cons.1 hy
    exact List.forall_mem_append.2
      ⟨isMarker_eq_false_of_mem_adds hm hc, ih (next_ne_between hc m) hy⟩

/-! ### Gaps -/

/-- **What a gap shows**, together with the beginning of the word behind it: between quotes
the separators of which it is made, otherwise that a word begins; and behind a backslash its
first separator and, if there are others, that a word begins. -/
def gapMarks : Mode → List Char → List (Option Char)
  | .between, _ => [none]
  | .inWord, _ => [none]
  | .escaped, c :: _ :: _ => [some c, none]
  | _, g => g.map some

/-- The beginning of a word, where one must begin. -/
def beginning : Mode → List (Option Char)
  | .between => [none]
  | _ => []

theorem shown_gap_between (hg : ∀ c ∈ g, isSeparator c = true) :
    Mode.between.shown g = [] ∧ Mode.between.after g = .between := by
  induction g with
  | nil => exact ⟨rfl, rfl⟩
  | cons c g ih =>
    obtain ⟨hc, hg⟩ := List.forall_mem_cons.1 hg
    obtain ⟨hshown, hafter⟩ := ih hg
    simp [adds, next, hc, hshown, hafter]

theorem shown_gap_quoted (hm : m = .single ∨ m = .double) (hg : ∀ c ∈ g, isSeparator c = true) :
    m.shown g = g.map some ∧ m.after g = m := by
  induction g with
  | nil => exact ⟨rfl, rfl⟩
  | cons c g ih =>
    obtain ⟨hc, hg⟩ := List.forall_mem_cons.1 hg
    obtain ⟨hshown, hafter⟩ := ih hg
    have hstep : m.adds c = [some c] ∧ m.next c = m := by
      simp only [isSeparator, Bool.or_eq_true, beq_iff_eq] at hc
      rcases hm with rfl | rfl <;> rcases hc with ((rfl | rfl) | rfl) | rfl <;> decide
    rw [shown_cons, after_cons, hstep.1, hstep.2, hshown, hafter]
    exact ⟨rfl, rfl⟩

theorem shown_gap (m : Mode) (hne : g ≠ []) (hg : ∀ c ∈ g, isSeparator c = true) :
    m.shown g ++ (m.after g).beginning = m.pending ++ m.gapMarks g := by
  obtain ⟨c, g, rfl⟩ := List.exists_cons_of_ne_nil hne
  obtain ⟨hc, hg'⟩ := List.forall_mem_cons.1 hg
  obtain ⟨hshown, hafter⟩ := shown_gap_between hg'
  cases m with
  | between => simp [adds, next, hc, hshown, hafter, pending, gapMarks, beginning]
  | inWord => simp [adds, next, hc, hshown, hafter, pending, gapMarks, beginning, isPlain]
  | escaped =>
    cases g with
    | nil => rfl
    | cons c' g =>
      obtain ⟨hc', hg'⟩ := List.forall_mem_cons.1 hg'
      obtain ⟨hshown, hafter⟩ := shown_gap_between hg'
      simp [adds, next, hc', hshown, hafter, pending, gapMarks, beginning, isPlain]
  | single =>
    obtain ⟨hshown, hafter⟩ := shown_gap_quoted (Or.inl rfl) hg
    simp [hshown, hafter, pending, gapMarks, beginning]
  | double =>
    obtain ⟨hshown, hafter⟩ := shown_gap_quoted (Or.inr rfl) hg
    simp [hshown, hafter, pending, gapMarks, beginning]
  | doubleEscaped =>
    obtain ⟨hshown, hafter⟩ := shown_gap_quoted (Or.inr rfl) hg'
    have hstep : Mode.doubleEscaped.adds c = [some '\\', some c] := by
      simp only [isSeparator, Bool.or_eq_true, beq_iff_eq] at hc
      rcases hc with ((rfl | rfl) | rfl) | rfl <;> decide
    simp [hstep, next, hshown, hafter, pending, gapMarks, beginning]

/-- **A gap and what stands behind it** show what the gap does and then no marker. -/
theorem shown_chunk (m : Mode) (hne : g ≠ []) (hg : ∀ c ∈ g, isSeparator c = true)
    (hney : y ≠ []) (hy : ∀ c ∈ y, isSeparator c = false) :
    ∃ ss, (∀ s ∈ ss, isMarker s = false) ∧
      m.shown (g ++ y) = m.pending ++ (m.gapMarks g ++ ss) := by
  have hbehind : ∃ ss, (∀ s ∈ ss, isMarker s = false) ∧
      (m.after g).shown y = (m.after g).beginning ++ ss := by
    cases m.after g with
    | between =>
      obtain ⟨c, y, rfl⟩ := List.exists_cons_of_ne_nil hney
      rw [(shown_between (hy c List.mem_cons_self) y).1]
      exact ⟨_, isMarker_eq_false_of_mem_shown (by simp) hy, rfl⟩
    | _ => exact ⟨_, isMarker_eq_false_of_mem_shown (by simp) hy, rfl⟩
  obtain ⟨ss, hss, hshown⟩ := hbehind
  refine ⟨ss, hss, ?_⟩
  rw [shown_append, hshown, ← List.append_assoc, shown_gap m hne hg, List.append_assoc]

/-! ### What was shown before a gap -/

/-- **What was shown fits the character in front.** Only a backslash escapes, and where a
backslash has just ended up in a word it was shown. -/
structure Settled (last : Char) (m : Mode) (o : List (Option Char)) : Prop where
  /-- Only a backslash escapes. -/
  escaped : m = .escaped → last = '\\'
  /-- A backslash in a word was shown, and is no marker. -/
  outside : m.Closes → last = '\\' → ∀ x ∈ o.getLast?, isMarker x = false

theorem settled_append (m : Mode) (o : List (Option Char)) (hne : y ≠ []) :
    Settled (y.getLast hne) (m.after y) (o ++ m.shown y) := by
  obtain ⟨y, last, rfl⟩ : ∃ ys last, y = ys ++ [last] :=
    ⟨_, _, (List.dropLast_append_getLast hne).symm⟩
  rw [List.getLast_append_singleton, after_append, shown_append]
  generalize m.after y = n
  constructor
  · intro h
    cases n with
    | escaped => simp [next] at h
    | doubleEscaped => simp [next] at h
    | _ =>
      simp only [after_cons, after_nil, next] at h
      split_ifs at h <;> simp_all
  · rintro hcloses rfl
    cases n <;> simp [next, Closes, isSeparator] at hcloses
    simp [adds, isMarker, isSeparator]

theorem gapMarks_cases (m : Mode) (hg : ∀ c ∈ g, isSeparator c = true) :
    m.Closes ∧ m.gapMarks g = [none] ∨ m.gapMarks g = g.map some ∨
      m = .escaped ∧ ∃ c, isSeparator c = true ∧ m.gapMarks g = [some c, none] := by
  cases m with
  | between => exact Or.inl ⟨Or.inl rfl, rfl⟩
  | inWord => exact Or.inl ⟨Or.inr rfl, rfl⟩
  | escaped =>
    match g, hg with
    | [], _ => exact Or.inr (Or.inl rfl)
    | [c], _ => exact Or.inr (Or.inl rfl)
    | c :: c' :: g, hg => exact Or.inr (Or.inr ⟨rfl, c, hg c List.mem_cons_self, rfl⟩)
  | _ => exact Or.inr (Or.inl rfl)

/-- A gap that begins a word is not one of which the first separator is escaped: in front of both
stands a backslash, which in the first case was shown. -/
theorem Settled.ne_escaped {last c : Char} {m' : Mode} {o o' e' : List (Option Char)}
    (h : Settled last m o) (hcloses : m.Closes) (h' : Settled last m' o') (hescaped : m' = .escaped)
    (hc : isSeparator c = true) : o ++ m.pending ++ [none] ≠ e' ++ [some c, none] := by
  intro heq
  have hshown : o = e' ++ [some c] := by
    rw [hcloses.pending_eq, List.append_nil] at heq
    refine (List.append_left_inj [none]).1 ?_
    rw [heq, List.append_assoc]
    rfl
  have hlast := h.outside hcloses (h'.escaped hescaped) (some c) (by simp [hshown])
  rw [isMarker, Option.all_some, hc] at hlast
  exact absurd hlast (by simp)

/-- **What was shown before a gap** is determined by what has been shown behind it. -/
theorem Settled.eq_of_gap {last : Char} {m' : Mode} {o o' : List (Option Char)}
    (h : Settled last m o) (h' : Settled last m' o') (hne : g ≠ [])
    (hg : ∀ c ∈ g, isSeparator c = true)
    (heq : o ++ m.pending ++ m.gapMarks g = o' ++ m'.pending ++ m'.gapMarks g) :
    o ++ m.pending = o' ++ m'.pending := by
  -- A gap between quotes ends with a separator, and the others with the beginning of a word.
  have hends : ∀ e e' e'' : List (Option Char), e ++ g.map some ≠ e' ++ (e'' ++ [none]) := by
    intro e e' e'' hsame
    have hlast := congrArg List.getLast? hsame
    rw [← List.append_assoc, List.getLast?_concat,
      List.getLast?_append_of_ne_nil _ (by simpa using hne), List.getLast?_map] at hlast
    cases hg : g.getLast? <;> simp [hg] at hlast
  rcases m.gapMarks_cases hg with ⟨hcloses, hm⟩ | hm | ⟨hescaped, c, hc, hm⟩ <;>
    rcases m'.gapMarks_cases hg with ⟨hcloses', hm'⟩ | hm' | ⟨hescaped', c', hc', hm'⟩ <;>
    rw [hm, hm'] at heq
  · exact List.append_cancel_right heq
  · exact absurd heq.symm (hends _ _ [])
  · exact absurd heq (h.ne_escaped hcloses h' hescaped' hc')
  · exact absurd heq (hends _ _ [])
  · exact List.append_cancel_right heq
  · exact absurd heq (hends _ _ [some c'])
  · exact absurd heq.symm (h'.ne_escaped hcloses' h hescaped hc)
  · exact absurd heq.symm (hends _ _ [some c])
  · have hc : c = c' := by
      have hdrop := congrArg (fun l => l.dropLast.getLast?) heq
      simpa [List.dropLast_append_of_ne_nil] using hdrop
    rw [hc] at heq
    exact List.append_cancel_right heq

theorem exists_marker_gapMarks (m : Mode) (hne : g ≠ []) (hg : ∀ c ∈ g, isSeparator c = true) :
    ∃ xs x, isMarker x = true ∧ m.gapMarks g = xs ++ [x] := by
  rcases m.gapMarks_cases hg with ⟨-, hm⟩ | hm | ⟨-, c, -, hm⟩
  · exact ⟨[], none, rfl, hm⟩
  · refine ⟨g.dropLast.map some, some (g.getLast hne), hg _ (List.getLast_mem hne), ?_⟩
    rw [hm, ← List.map_singleton, ← List.map_append, List.dropLast_append_getLast]
  · exact ⟨[some c], none, rfl, hm⟩

/-- **A gap and what stands behind it**: what was shown before is determined by what has been
shown at the end. -/
theorem Settled.eq_of_chunk {last : Char} {m' : Mode} {o o' : List (Option Char)}
    (h : Settled last m o) (h' : Settled last m' o') (hne : g ≠ [])
    (hg : ∀ c ∈ g, isSeparator c = true) (hney : y ≠ []) (hy : ∀ c ∈ y, isSeparator c = false)
    (heq : o ++ m.shown (g ++ y) ++ (m.after (g ++ y)).pending =
      o' ++ m'.shown (g ++ y) ++ (m'.after (g ++ y)).pending) :
    o ++ m.pending = o' ++ m'.pending := by
  obtain ⟨ss, hss, hshown⟩ := m.shown_chunk hne hg hney hy
  obtain ⟨ts, hts, hshown'⟩ := m'.shown_chunk hne hg hney hy
  obtain ⟨xs, x, hx, hm⟩ := m.exists_marker_gapMarks hne hg
  obtain ⟨zs, z, hz, hm'⟩ := m'.exists_marker_gapMarks hne hg
  refine h.eq_of_gap h' hne hg ?_
  rw [hshown, hshown', hm, hm'] at heq
  rw [hm, hm', ← List.append_assoc, ← List.append_assoc]
  refine eq_of_lastMarker hx hz
    (List.forall_mem_append.2 ⟨hss, isMarker_eq_false_of_mem_pending (m.after (g ++ y))⟩)
    (List.forall_mem_append.2 ⟨hts, isMarker_eq_false_of_mem_pending (m'.after (g ++ y))⟩) ?_
  simpa using heq

/-! ### What was shown before the rest of a line -/

/-- **A line that goes on with gaps**: separators, and behind them others characters, and so
on. -/
inductive Chunks : List Char → Prop
  /-- Nothing more. -/
  | nil : Chunks []
  /-- A gap, and characters behind it. -/
  | cons {g y cs : List Char} : g ≠ [] → (∀ c ∈ g, isSeparator c = true) → y ≠ [] →
    (∀ c ∈ y, isSeparator c = false) → Chunks cs → Chunks (g ++ (y ++ cs))

/-- What begins anywhere and does not end with a separator is a chunk, perhaps without its gap, and
then chunks. -/
theorem exists_chunk {cs : List Char} (hne : cs ≠ [])
    (hback : ∀ c ∈ cs.getLast?, isSeparator c = false) :
    ∃ g y e, cs = g ++ (y ++ e) ∧ (∀ c ∈ g, isSeparator c = true) ∧ y ≠ [] ∧
      (∀ c ∈ y, isSeparator c = false) ∧ Chunks e := by
  induction cs with
  | nil => exact absurd rfl hne
  | cons c cs ih =>
    rcases cs.eq_nil_or_concat with rfl | hcs
    · exact ⟨[], [c], [], rfl, by simp, by simp, by simpa using hback, .nil⟩
    have hne' : cs ≠ [] := by
      rintro rfl
      simp at hcs
    rw [← List.singleton_append, List.getLast?_append_of_ne_nil _ hne'] at hback
    obtain ⟨g, y, e, rfl, hg, hney, hy, he⟩ := ih hne' hback
    cases hc : isSeparator c with
    | true => exact ⟨c :: g, y, e, rfl, List.forall_mem_cons.2 ⟨hc, hg⟩, hney, hy, he⟩
    | false =>
      by_cases hg' : g = []
      · subst hg'
        exact ⟨[], c :: y, e, rfl, by simp, by simp, List.forall_mem_cons.2 ⟨hc, hy⟩, he⟩
      · exact ⟨[], [c], _, rfl, by simp, by simp, by simpa using hc, .cons hg' hg hney hy he⟩

/-- **Two places from which the rest of a line shows the same in the end** have seen the same
shown before. -/
theorem Settled.eq_of_chunks {last : Char} {m' : Mode} {o o' : List (Option Char)} {cs : List Char}
    (hcs : Chunks cs) (h : Settled last m o) (h' : Settled last m' o')
    (hcloses : (m.after cs).Closes) (hcloses' : (m'.after cs).Closes)
    (heq : o ++ m.shown cs = o' ++ m'.shown cs) : o ++ m.pending = o' ++ m'.pending := by
  induction hcs generalizing last m m' o o' with
  | nil =>
    rw [after_nil] at hcloses hcloses'
    rw [hcloses.pending_eq, hcloses'.pending_eq]
    exact heq
  | @cons g y cs hne hg hney hy _ ih =>
    refine h.eq_of_chunk h' hne hg hney hy ?_
    have hlast : ∀ n : Mode, ∀ o,
        Settled (y.getLast hney) (n.after (g ++ y)) (o ++ n.shown (g ++ y)) := by
      intro n o
      have hne' : g ++ y ≠ [] := by simp [hney]
      have hsettled := settled_append n o hne'
      rwa [List.getLast_append_of_ne_nil hne' hney] at hsettled
    refine ih (hlast m o) (hlast m' o') ?_ ?_ ?_
    · rwa [← after_append, List.append_assoc]
    · rwa [← after_append, List.append_assoc]
    · rwa [List.append_assoc, List.append_assoc, ← shown_append, ← shown_append, List.append_assoc]

end Mode

end ClusterTutor.CommandLine

import ClusterTutor.Privilege
import ClusterTutor.Proofs.CommandLine.Interleaving

/-!
# The pieces of a line

A line behind its command is made of *pieces*: words, flags as they are typed, and at most one
`--`, behind which there are only words. This module says, without the reader of lines, what a
line is made of (`ClusterTutor.CommandLine.Reads`), and that each line is made of pieces in
exactly one way. What the reader gives is what the pieces show, for every line and every schema
(`ClusterTutor.ParsedLine.ofLine_decomposes`), so that of what was typed nothing is lost,
nothing is read twice, and nothing changes its place.

| what is read | what it is of the pieces |
|---|---|
| the subcommands | the words in front of the piece at which they end |
| the positionals | the words from there on |
| the names of the flags | the names, each where it comes first |
| the value of a flag | the value where its name comes last |
-/

namespace ClusterTutor

namespace CommandLine

/-! ### Pieces -/

/-- A piece of a line behind its command. -/
inductive Piece where
  /-- An ordinary word. -/
  | word (w : String)
  /-- A flag, with its value if it has one. -/
  | flag (f : TypedFlag)
  /-- The two dashes behind which there are no flags. -/
  | terminator
deriving DecidableEq, Repr

namespace Piece

/-- The words in which a piece is typed. -/
def words : Piece → List String
  | word w => [w]
  | flag f => f.words
  | terminator => ["--"]

/-- The ordinary word that a piece is. -/
def word? : Piece → Option String
  | word w => some w
  | _ => none

/-- What a piece binds, and to what. -/
def binding? : Piece → Option (String × FlagValue)
  | flag f => some f.binding
  | _ => none

/-- The part that a piece is read as. -/
def part : Piece → Part
  | word w => .word w
  | flag f => f.part
  | terminator => .terminator

/-- Whether a piece may stand where flags are still read. -/
def IsTyped : Piece → Prop
  | word w => isFlag w = false
  | flag f => f.IsTyped
  | terminator => False

/-- **Whether the subcommands end at a piece**: a number or an assignment ends them, and
without a schema so does a flag. -/
def EndsSubcommands (schema : Option FlagSchema) : Piece → Prop
  | word w => '=' ∈ w.toList ∨ Numeral.isInteger w = true
  | flag _ => schema = none
  | terminator => False

@[simp] theorem word?_part (p : Piece) : p.part.word? = p.word? := by
  cases p with
  | flag f => exact f.word?_part
  | _ => rfl

@[simp] theorem flag?_part (p : Piece) : p.part.flag? = p.binding? := by
  cases p with
  | flag f => exact f.flag?_part
  | _ => rfl

theorem endsSubcommands_part (schema : Option FlagSchema) (p : Piece) :
    p.part.endsSubcommands schema.isSome = true ↔ p.EndsSubcommands schema := by
  cases p with
  | word w => simp [part, Part.endsSubcommands, EndsSubcommands]
  | flag f =>
    have hflag : f.part.endsSubcommands schema.isSome = !schema.isSome := by cases f <;> rfl
    simp [part, hflag, EndsSubcommands]
  | terminator => simp [part, Part.endsSubcommands, EndsSubcommands]

end Piece

/-- **What a line is made of.** Up to the first `--` its words are flags and ordinary words, and
each flag ends where it should in front of what follows. -/
inductive Reads (schema : Option FlagSchema) : List String → List Piece → Prop
  /-- Nothing is made of nothing. -/
  | nil : Reads schema [] []
  /-- An ordinary word comes first. -/
  | word {w : String} {ws : List String} {pieces : List Piece} :
    isFlag w = false → Reads schema ws pieces → Reads schema (w :: ws) (.word w :: pieces)
  /-- A flag comes first. -/
  | flag {f : TypedFlag} {ws : List String} {pieces : List Piece} :
    f.IsTyped → f.Ends schema ws → Reads schema ws pieces →
    Reads schema (f.words ++ ws) (.flag f :: pieces)
  /-- The two dashes come first. -/
  | terminator (ws : List String) :
    Reads schema ("--" :: ws) (.terminator :: ws.map .word)

variable {schema : Option FlagSchema} {ws : List String} {pieces : List Piece}

/-! ### Every line is made of pieces -/

/-- A flag has no value of its own, or the one behind its first equals sign. -/
theorem isUnassigned_or_assigned {w : String} (hflag : isFlag w = true) (hne : w ≠ "--") :
    IsUnassigned w ∨ ∃ name value, '=' ∉ name.toList ∧ w = "--" ++ name ++ "=" ++ value := by
  by_cases h : isLong w = true ∧ '=' ∈ w.toList
  · obtain ⟨hlong, hmem⟩ := h
    obtain ⟨cs, hcs⟩ : ∃ cs, w.toList = '-' :: '-' :: cs := by
      unfold isLong at hlong
      split at hlong
      · exact ⟨_, ‹_›⟩
      · simp at hlong
    have hmem' : '=' ∈ cs := by simpa [hcs] using hmem
    obtain ⟨name, value, rfl, hname⟩ := List.eq_append_cons_of_mem hmem'
    refine Or.inr ⟨String.ofList name, String.ofList value, by simpa using hname, ?_⟩
    rw [← String.toList_inj]
    simp [hcs, String.toList_append]
  · exact Or.inl ⟨hflag, hne, fun hlong hmem => h ⟨hlong, hmem⟩⟩

/-- **Every line is made of pieces.** The cases are those of what a line begins with. -/
theorem exists_reads (schema : Option FlagSchema) : ∀ ws, ∃ pieces, Reads schema ws pieces
  | [] => ⟨[], .nil⟩
  | w :: ws => by
    by_cases hdashes : w = "--"
    · subst hdashes
      exact ⟨_, .terminator ws⟩
    cases hflag : isFlag w with
    | false =>
      obtain ⟨pieces, hpieces⟩ := exists_reads schema ws
      exact ⟨_, .word hflag hpieces⟩
    | true =>
      rcases isUnassigned_or_assigned hflag hdashes with hunassigned | ⟨name, value, hname, rfl⟩
      · match ws with
        | [] => exact ⟨_, .flag (f := .alone w) hunassigned (by simp [TypedFlag.Ends]) .nil⟩
        | next :: rest =>
          by_cases htakes : isFlag next = false ∧ wantsValue schema w = true
          · obtain ⟨hnext, hwants⟩ := htakes
            obtain ⟨pieces, hpieces⟩ := exists_reads schema rest
            exact ⟨_, .flag (f := .withNext w next) ⟨hunassigned, hnext⟩ hwants hpieces⟩
          · have hends : (TypedFlag.alone w).Ends schema (next :: rest) := by
              rintro _ ⟨⟩ hnext
              simpa [hnext] using htakes
            obtain ⟨pieces, hpieces⟩ := exists_reads schema (next :: rest)
            exact ⟨_, .flag (f := .alone w) hunassigned hends hpieces⟩
      · obtain ⟨pieces, hpieces⟩ := exists_reads schema ws
        exact ⟨_, .flag (f := .assigned name value) hname trivial hpieces⟩

/-! ### What pieces say of a line -/

theorem flatMap_words_map_word (ws : List String) : (ws.map Piece.word).flatMap Piece.words = ws := by
  induction ws with
  | nil => rfl
  | cons w ws ih => rw [List.map_cons, List.flatMap_cons, ih, Piece.words, List.singleton_append]

/-- **The words of the pieces are the words of the line**, in their order. -/
theorem Reads.flatMap_words (h : Reads schema ws pieces) : pieces.flatMap Piece.words = ws := by
  induction h with
  | nil => rfl
  | word _ _ ih => rw [List.flatMap_cons, ih, Piece.words, List.singleton_append]
  | flag _ _ _ ih => rw [List.flatMap_cons, ih, Piece.words]
  | terminator ws =>
    rw [List.flatMap_cons, flatMap_words_map_word, Piece.words, List.singleton_append]

/-- **The reader reads the pieces.** -/
theorem Reads.map_part (h : Reads schema ws pieces) : pieces.map Piece.part = partsOf schema ws := by
  induction h with
  | nil => rfl
  | word hw _ ih => rw [List.map_cons, ih, partsOf_word hw, Piece.part]
  | flag htyped hends _ ih => rw [List.map_cons, ih, partsOf_flag htyped hends, Piece.part]
  | terminator ws =>
    rw [partsOf.eq_def]
    simp [Piece.part, Function.comp_def]

/-- **The pieces of a line**, said without the order in which it is read. -/
structure Decomposes (schema : Option FlagSchema) (ws : List String) (pieces : List Piece) :
    Prop where
  /-- They are typed in the words of the line, one after the other. -/
  words : pieces.flatMap Piece.words = ws
  /-- Flags and words that are no flags come first; behind the two dashes, if they are there,
  everything is a word. -/
  front : ∃ front behind, pieces = front ++ behind ∧ (∀ p ∈ front, p.IsTyped) ∧
    (behind = [] ∨ ∃ rest : List String, behind = .terminator :: rest.map .word)
  /-- Each flag ends where it should in front of what follows. -/
  ends : ∀ left f right, pieces = left ++ .flag f :: right →
    f.Ends schema (right.flatMap Piece.words)

theorem Reads.exists_front (h : Reads schema ws pieces) :
    ∃ front behind, pieces = front ++ behind ∧ (∀ p ∈ front, p.IsTyped) ∧
      (behind = [] ∨ ∃ rest : List String, behind = .terminator :: rest.map .word) := by
  induction h with
  | nil => exact ⟨[], [], rfl, by simp, Or.inl rfl⟩
  | word hw _ ih =>
    obtain ⟨front, behind, rfl, hfront, hbehind⟩ := ih
    exact ⟨_ :: front, behind, rfl, List.forall_mem_cons.2 ⟨hw, hfront⟩, hbehind⟩
  | flag htyped _ _ ih =>
    obtain ⟨front, behind, rfl, hfront, hbehind⟩ := ih
    exact ⟨_ :: front, behind, rfl, List.forall_mem_cons.2 ⟨htyped, hfront⟩, hbehind⟩
  | terminator ws => exact ⟨[], _, rfl, by simp, Or.inr ⟨ws, rfl⟩⟩

theorem Reads.ends (h : Reads schema ws pieces) {left : List Piece} {f : TypedFlag}
    {right : List Piece} (hpieces : pieces = left ++ .flag f :: right) :
    f.Ends schema (right.flatMap Piece.words) := by
  induction h generalizing left with
  | nil => simp at hpieces
  | word _ _ ih =>
    cases left with
    | nil => simp at hpieces
    | cons p left => exact ih (List.cons.inj hpieces).2
  | flag _ hends hrest ih =>
    cases left with
    | nil =>
      obtain ⟨⟨⟩, rfl⟩ := List.cons.inj hpieces
      rwa [hrest.flatMap_words]
    | cons p left => exact ih (List.cons.inj hpieces).2
  | terminator ws =>
    have hmem : Piece.flag f ∈ Piece.terminator :: ws.map .word := by simp [hpieces]
    simp at hmem

/-- What a line is made of does not depend on the order in which it is read. -/
theorem reads_iff_decomposes : Reads schema ws pieces ↔ Decomposes schema ws pieces := by
  constructor
  · exact fun h => ⟨h.flatMap_words, h.exists_front, fun _ _ _ => h.ends⟩
  · rintro ⟨rfl, ⟨front, behind, rfl, hfront, hbehind⟩, hends⟩
    induction front with
    | nil =>
      rcases hbehind with rfl | ⟨rest, rfl⟩
      · exact .nil
      · rw [List.nil_append, List.flatMap_cons, flatMap_words_map_word]
        exact .terminator rest
    | cons p front ih =>
      obtain ⟨hp, hfront⟩ := List.forall_mem_cons.1 hfront
      have hrest := ih (fun left f right hpieces =>
        hends (p :: left) f right (by rw [List.cons_append, hpieces, List.cons_append])) hfront
      cases p with
      | word w => exact .word hp hrest
      | flag f => exact .flag hp (hends [] f _ rfl) hrest
      | terminator => exact hp.elim

/-- A piece is known by how it is typed and how it is read. -/
theorem Piece.eq_of_part_eq {p q : Piece} (hpart : p.part = q.part) {ws ws' : List String}
    (hwords : p.words ++ ws = q.words ++ ws') : p = q ∧ ws = ws' := by
  cases p with
  | word w =>
    cases q with
    | word w' => simpa [Piece.words] using hwords
    | flag g => cases g <;> simp [Piece.part, TypedFlag.part] at hpart
    | terminator => simp [Piece.part] at hpart
  | flag f =>
    cases q with
    | word w' => cases f <;> simp [Piece.part, TypedFlag.part] at hpart
    | flag g =>
      cases f <;> cases g <;>
        simp_all [Piece.part, TypedFlag.part, Piece.words, TypedFlag.words]
    | terminator => cases f <;> simp [Piece.part, TypedFlag.part] at hpart
  | terminator =>
    cases q with
    | word w' => simp [Piece.part] at hpart
    | flag g => cases g <;> simp [Piece.part, TypedFlag.part] at hpart
    | terminator => simpa [Piece.words] using hwords

/-- **A line is made of pieces in one way only.** -/
theorem Reads.unique {pieces' : List Piece} (h : Reads schema ws pieces)
    (h' : Reads schema ws pieces') : pieces = pieces' := by
  have hparts : pieces.map Piece.part = pieces'.map Piece.part := h.map_part.trans h'.map_part.symm
  have hwords : pieces.flatMap Piece.words = pieces'.flatMap Piece.words :=
    h.flatMap_words.trans h'.flatMap_words.symm
  clear h h'
  induction pieces generalizing pieces' with
  | nil => simpa using hparts.symm
  | cons p pieces ih =>
    cases pieces' with
    | nil => simp at hparts
    | cons q pieces' =>
      obtain ⟨hpart, hrest⟩ := List.cons.inj hparts
      rw [List.flatMap_cons, List.flatMap_cons] at hwords
      obtain ⟨rfl, hbehind⟩ := Piece.eq_of_part_eq hpart hwords
      rw [ih hrest hbehind]

end CommandLine

namespace ParsedLine

open CommandLine

/-- **What pieces show of a line**: its words, cut in two where the subcommands end, and its
flags. -/
structure Shows (schema : Option FlagSchema) (pieces : List Piece) (p : ParsedLine) : Prop where
  /-- The words stay in their order, and the subcommands end at the first piece that ends
  them. -/
  cut : ∃ early late, pieces = early ++ late ∧ (∀ q ∈ early, ¬q.EndsSubcommands schema) ∧
    (∀ q ∈ late.head?, q.EndsSubcommands schema) ∧
    p.subcommands = early.filterMap Piece.word? ∧ p.positionals = late.filterMap Piece.word?
  /-- The names of the flags come in the order of their first occurrences. -/
  keys : p.flags.keys = firstOccurrences ((pieces.filterMap Piece.binding?).map Prod.fst)
  /-- A flag is bound to its value where it occurs last. -/
  get? : ∀ name value, p.flags.get? name = some value ↔
    ∃ earlier later, pieces.filterMap Piece.binding? = earlier ++ (name, value) :: later ∧
      name ∉ later.map Prod.fst

theorem shows_ofParts (schema : Option FlagSchema) (command : String) (pieces : List Piece) :
    (ofParts schema.isSome command (pieces.map Piece.part)).Shows schema pieces := by
  have hbindings : (pieces.map Piece.part).filterMap Part.flag? =
      pieces.filterMap Piece.binding? := by
    have hflag : Part.flag? ∘ Piece.part = Piece.binding? := funext Piece.flag?_part
    rw [List.filterMap_map, hflag]
  refine ⟨⟨pieces.takeWhile fun p => !p.part.endsSubcommands schema.isSome,
    pieces.dropWhile fun p => !p.part.endsSubcommands schema.isSome,
    List.takeWhile_append_dropWhile.symm, fun q hq => ?_, fun q hq => ?_, ?_, ?_⟩, ?_, ?_⟩
  · simpa [← Piece.endsSubcommands_part] using List.mem_takeWhile_imp hq
  · have hstop := List.head?_dropWhile_not (fun p => !p.part.endsSubcommands schema.isSome) pieces
    rw [Option.mem_def.1 hq] at hstop
    simpa [← Piece.endsSubcommands_part] using hstop
  · simp [ofParts, List.takeWhile_map, List.filterMap_map, Function.comp_def]
  · simp [ofParts, List.dropWhile_map, List.filterMap_map, Function.comp_def]
  · rw [ofParts, hbindings, OrderedMap.keys_ofList, firstOccurrences]
  · intro name value
    rw [ofParts, hbindings, OrderedMap.get?_ofList_eq_some_iff]

/-- **Nothing is lost, read twice or moved.** The words behind the command decompose into
pieces in exactly one way: words, flags that have no value, one of their own or the word right
behind them, which is no flag, and at most one `--` with only words behind it. The line that is
read is what the pieces show. -/
theorem ofLine_decomposes (schema : Option FlagSchema) {line command : String} {ws : List String}
    (hline : words? (Text.trim line) = some (command :: ws)) :
    ∃ pieces, Decomposes schema ws pieces ∧
      (∀ pieces', Decomposes schema ws pieces' → pieces' = pieces) ∧
      (ofLine schema line).command = command ∧ (ofLine schema line).Shows schema pieces := by
  obtain ⟨pieces, hpieces⟩ := exists_reads schema ws
  have hread : ofLine schema line =
      ofParts schema.isSome command (pieces.map Piece.part) := by
    rw [ofLine_eq_ofParts hline, hpieces.map_part]
  refine ⟨pieces, reads_iff_decomposes.1 hpieces,
    fun pieces' hpieces' => (reads_iff_decomposes.2 hpieces').unique hpieces, ?_, ?_⟩
  · rw [hread, ofParts]
  · rw [hread]
    exact shows_ofParts schema command pieces

/-- Edges of the grammar: three dashes are a flag without a name, which takes a negative number;
a flag in front of another one has no value; and a second `--` is a word, as is a flag there. -/
theorem edge_words_decompose :
    let line := "srun run -N 1 --mem=4G -x --- -5 -- -L --"
    let ws := ["run", "-N", "1", "--mem=4G", "-x", "---", "-5", "--", "-L", "--"]
    let pieces : List Piece :=
      [.word "run", .flag (.withNext "-N" "1"), .flag (.assigned "mem" "4G"), .flag (.alone "-x"),
        .flag (.withNext "---" "-5"), .terminator, .word "-L", .word "--"]
    words? (Text.trim line) = some ("srun" :: ws) ∧ Decomposes none ws pieces ∧
      (ofLine none line).Shows none pieces := by
  intro line ws pieces
  have hline : words? (Text.trim line) = some ("srun" :: ws) := by decide
  have hcount : (TypedFlag.withNext "-N" "1").IsTyped :=
    ⟨⟨by decide, by decide, by decide⟩, by decide⟩
  have hmemory : (TypedFlag.assigned "mem" "4G").IsTyped :=
    show '=' ∉ "mem".toList by decide
  have hbare : (TypedFlag.alone "-x").IsTyped := ⟨by decide, by decide, by decide⟩
  have hbareEnds : (TypedFlag.alone "-x").Ends none ["---", "-5", "--", "-L", "--"] := by
    rintro _ ⟨⟩ hnext
    exact absurd hnext (by decide)
  have hdashes : (TypedFlag.withNext "---" "-5").IsTyped :=
    ⟨⟨by decide, by decide, by decide⟩, by decide⟩
  have hreads : Reads none ws pieces :=
    .word (by decide) (.flag hcount (show wantsValue none "-N" = true by decide)
      (.flag hmemory trivial (.flag hbare hbareEnds
        (.flag hdashes (show wantsValue none "---" = true by decide)
          (.terminator ["-L", "--"])))))
  have hpieces := reads_iff_decomposes.1 hreads
  obtain ⟨pieces', -, hunique, -, hshows⟩ := ofLine_decomposes none hline
  rw [← hunique pieces hpieces] at hshows
  exact ⟨hline, hpieces, hshows⟩

end ParsedLine

end ClusterTutor

import ClusterTutor.Proofs.Content.Commands
import ClusterTutor.Proofs.Definition.Options
import ClusterTutor.Proofs.Privilege.Spellings
import ClusterTutor.Proofs.Session.SameRuns

/-!
# Spellings of one option

Two lines may differ in nothing but the spelling of one option: it is typed under another of its
names, or with other dashes, in the same place and with the same value. What comes of them is the
same for most options of the tutor, but not for all.

* **If the effects take the names for the same**, nothing that a learner is told differs, nor what
  is written, nor who is acting afterwards; and this holds in every session, with `sudo` or without
  (`ClusterTutor.Session.runLine_respelled`).
* **If they do not**, some line tells the names apart. The tutor has twelve such options
  (`ClusterTutor.Session.tellingLines`). Ten of them need root under their short name and not under
  the long one. The level of the diagnostics is written under its short name alone. The name of a
  container is written under both; but if it is typed twice, the one that is listed first counts,
  and not the one that is typed last.

So an option of the tutor acts alike in all spellings exactly if its names are exchangeable for the
effects of its command (`ClusterTutor.Session.spelledAlike_iff`).
-/

namespace ClusterTutor

open CommandLine

variable {d : Definition} {o : CommandOption} {ws ws' : List String} {w : String} {a b : String}

/-! ### Options as they are typed -/

/-- **A word types an option**: it is read as a flag under one of the names of the option. -/
structure CommandOption.IsTypedAs (o : CommandOption) (w : String) : Prop where
  /-- It is a flag. -/
  isFlag : isFlag w = true
  /-- It does not end the flags. -/
  ne_terminator : w ≠ "--"
  /-- Its name is declared by the option. -/
  name_mem : typedName w ∈ o.tokens

/-- **Words that differ in one spelling**: they are the same but for one of them, before the end of
the flags, that types an option in two ways, with the same value if the value is in the same
word. -/
def CommandOption.Respells (o : CommandOption) (ws ws' : List String) : Prop :=
  ∃ before w w' after, ws = before ++ w :: after ∧ ws' = before ++ w' :: after ∧ "--" ∉ before ∧
    o.IsTypedAs w ∧ o.IsTypedAs w' ∧
    (inlineValue? w').map Prod.snd = (inlineValue? w).map Prod.snd

namespace Definition

/-- **A command knows the names of an option**: it declares the option, the names are their own
tokens, and the schema says of each what the option says. -/
structure KnowsNames (d : Definition) (o : CommandOption) : Prop where
  /-- The option is declared. -/
  declared : o ∈ d.allOptions
  /-- The names are their own tokens. -/
  plain : ∀ a ∈ o.tokens, tokenOf a = a
  /-- The schema says of each name what the option says. -/
  takes : ∀ a ∈ o.tokens, d.schema.get? a = some o.takesValue

/-- **The effects take all names of an option for the same.** -/
def Interchanges (d : Definition) (o : CommandOption) : Prop :=
  ∀ a ∈ o.tokens, ∀ b ∈ o.tokens, d.Exchangeable a b

instance (d : Definition) (o : CommandOption) : Decidable (d.Interchanges o) :=
  inferInstanceAs (Decidable (∀ a ∈ o.tokens, ∀ b ∈ o.tokens, d.Exchangeable a b))

namespace KnowsNames

/-- Every name of a known option passes the check. -/
theorem accepts_checkFlag (h : d.KnowsNames o) (ha : a ∈ o.tokens) {c : Catalogue}
    (hd : c.get? d.command = some d) : (c.checkFlag d.command a).accepts = true := by
  have hvalid : d.checkFlag a = .valid := by
    rw [d.checkFlag_eq_valid_iff, h.plain a ha, mem_tokens_iff]
    exact ⟨o, h.declared, ha⟩
  rw [Catalogue.checkFlag, hd]
  split
  · rfl
  · simp [hvalid, Verdict.accepts]

/-- A known option wants the same under all its names. -/
theorem wantsValue_eq (h : d.KnowsNames o) (hw : o.IsTypedAs w) (hvalue : inlineValue? w = none) :
    wantsValue d.schema? w = o.takesValue := by
  have hname : flagName w ∈ o.tokens := by
    have hmem := hw.name_mem
    rwa [typedName, hvalue, Option.elim_none] at hmem
  rw [wantsValue, schema?_bind_get?, h.takes _ hname, Option.getD_some]

/-- **Words that differ in one spelling are read as the same line** but for the name. -/
theorem exists_renames (h : d.KnowsNames o) (hrespells : o.Respells ws ws') :
    ∃ a ∈ o.tokens, ∃ b ∈ o.tokens, ParsedLine.Renames a b
      (.ofWords d.schema? (d.command :: ws)) (.ofWords d.schema? (d.command :: ws')) := by
  obtain ⟨before, w, w', after, rfl, rfl, hopen, hw, hw', hvalue⟩ := hrespells
  refine ⟨_, hw.name_mem, _, hw'.name_mem, ?_⟩
  refine ParsedLine.renames_ofParts hopen hw.isFlag hw.ne_terminator hw'.isFlag hw'.ne_terminator
    (readFlag_congr hvalue (fun hnone => ?_) after) d.command
  have hnone' : inlineValue? w' = none := by simpa [hnone] using hvalue
  rw [h.wantsValue_eq hw hnone, h.wantsValue_eq hw' hnone']

end KnowsNames

end Definition

namespace Session

variable {t : Tutor} {s : Session} {line line' command : String} {asRoot : Bool}
  {p p' : ParsedLine}

/-! ### Lines that run words -/

/-- **A line runs words**, as they are typed or, as root, behind `sudo`. -/
inductive RunsWords (line : String) (ws : List String) : Bool → Prop
  /-- The words are those of the line. -/
  | plainly : words? (Text.trim line) = some ws → RunsWords line ws false
  /-- The words are those that `sudo` hands on. -/
  | asRoot {typed : List String} : words? (Text.trim line) = some ("sudo" :: typed) →
    handedOn line = some ws → RunsWords line ws true

/-- **What a line with words runs**: a text with these words, as the actor of the session or as
root. -/
theorem RunsWords.exists_runLine (h : RunsWords line (command :: ws) asRoot)
    (hcommand : command ∉ ["", "help", "whoami", "sudo"]) :
    ∃ typed, words? (Text.trim typed) = some (command :: ws) ∧ ∀ t s, runLine t s line =
      runCommand t (s.typing line) typed (if asRoot then s.context.elevated else s.context)
        (Text.trim line) := by
  cases h with
  | plainly hwords =>
    exact ⟨Text.trim line, by rw [Text.trim_trim, hwords], fun t s =>
      runLine_of_command hwords hcommand t s⟩
  | asRoot hwords hhanded =>
    have hwhoami : command ≠ "whoami" := by
      rintro rfl
      simp at hcommand
    exact ⟨sudoRest (Text.trim line), hhanded, fun t s =>
      runLine_of_sudo hwords hhanded hwhoami t s⟩

/-! ### Runs of lines that differ in one spelling -/

/-- A line under another name is rejected for the same word, if both names pass the check. -/
theorem rejectedWord?_eq {c : Catalogue} (h : ParsedLine.Renames a b p p')
    (ha : (c.checkFlag d.command a).accepts = true)
    (hb : (c.checkFlag d.command b).accepts = true) :
    rejectedWord? c d p = rejectedWord? c d p' := by
  simp only [rejectedWord?, h.subcommands]
  rw [h.flags.findSome?_keys (by simp [ha]) (by simp [hb])]

/-- Reads that apply alike are told of alike. -/
theorem executionMessage_eq (h : d.TreatsAlike p.flags.keys p'.flags.keys)
    (state delta : Snapshot) :
    executionMessage d p state delta = executionMessage d p' state delta := by
  simp only [executionMessage, List.filter_congr h.reads]

/-- **Words that differ in one spelling come to the same**, for one actor at one engine, if the
effects take the names of the option for the same. -/
theorem runCommand_respelled {s' : Session} (hd : t.catalogue.get? d.command = some d)
    (hs : s.engine.catalogue = t.catalogue) (hengine : s'.engine = s.engine)
    (hknows : d.KnowsNames o) (hinter : d.Interchanges o)
    (hwords : words? (Text.trim line) = some (d.command :: ws))
    (hwords' : words? (Text.trim line') = some (d.command :: ws')) (hrespells : o.Respells ws ws')
    (acting : ExecutionContext) (tracked tracked' : String) :
    (runCommand t s line acting tracked).SameResult (runCommand t s' line' acting tracked') ∧
      (s'.context = s.context → (runCommand t s line acting tracked).session.context =
        (runCommand t s' line' acting tracked').session.context) := by
  obtain ⟨a, ha, b, hb, hrenames⟩ := hknows.exists_renames hrespells
  have hx := hinter a ha b hb
  have halike := hx.treatsAlike (hknows.plain a ha) (hknows.plain b hb) (.of_renames hrenames.flags)
  have hd' : s.engine.catalogue.get? d.command = some d := hs ▸ hd
  have hattempt := hx.attempt_eq (hknows.plain a ha) (hknows.plain b hb) hrenames hd' acting
  have hline : ∀ schema, ParsedLine.ofLine schema line = .ofWords schema (d.command :: ws) := by
    intro schema
    rw [ParsedLine.ofLine, hwords, Option.getD_some]
  have hline' : ∀ schema, ParsedLine.ofLine schema line' = .ofWords schema (d.command :: ws') := by
    intro schema
    rw [ParsedLine.ofLine, hwords', Option.getD_some]
  have hcommand := command_ofLine hwords none
  have hdef : ∀ d', t.catalogue.get? (ParsedLine.ofLine none line).command = some d' → d' = d := by
    intro d' hd'
    rw [hcommand, hd] at hd'
    exact (Option.some.inj hd').symm
  refine runCommand_congr (by rw [state, state, hengine])
    ((command_ofLine hwords' none).trans hcommand.symm) (fun d' hd' => ?_) (fun d' hd' => ?_)
    (fun d' hd' state delta => ?_) tracked tracked'
  · obtain rfl := hdef d' hd'
    rw [hline, hline', rejectedWord?_eq hrenames (hknows.accepts_checkFlag ha hd)
      (hknows.accepts_checkFlag hb hd)]
  · obtain rfl := hdef d' hd'
    -- Of what the engine answers only the state and the execution are looked at.
    have hmap : ∀ q : ParsedLine, (Invocation.ofLine d' q).map (fun i =>
        let r := s.engine.attempt acting d'.command i
        (r.1.state, r.2)) =
          ((Invocation.ofLine d' q).map (s.engine.attempt acting d'.command)).map
            fun r => (r.1.state, r.2) := by
      intro q
      cases Invocation.ofLine d' q <;> rfl
    rw [hcommand, hengine, hmap, hmap, hline, hline', hattempt]
  · obtain rfl := hdef d' hd'
    rw [hline, hline', executionMessage_eq halike]

/-- **Lines that differ in one spelling come to the same**, if the effects take the names of the
option for the same. -/
theorem runLine_respelled (hd : t.catalogue.get? d.command = some d)
    (hs : s.engine.catalogue = t.catalogue) (hcommand : d.command ∉ ["", "help", "whoami", "sudo"])
    (hknows : d.KnowsNames o) (hinter : d.Interchanges o)
    (hruns : RunsWords line (d.command :: ws) asRoot)
    (hruns' : RunsWords line' (d.command :: ws') asRoot) (hrespells : o.Respells ws ws') :
    (runLine t s line).SameResult (runLine t s line') ∧
      (runLine t s line).session.context = (runLine t s line').session.context := by
  obtain ⟨typed, hwords, hrun⟩ := hruns.exists_runLine hcommand
  obtain ⟨typed', hwords', hrun'⟩ := hruns'.exists_runLine hcommand
  have hs' : (s.typing line).engine.catalogue = t.catalogue := hs
  have hengine : (s.typing line').engine = (s.typing line).engine := rfl
  have hsame := runCommand_respelled hd hs' hengine hknows hinter hwords hwords' hrespells
    (if asRoot then s.context.elevated else s.context) (Text.trim line) (Text.trim line')
  rw [hrun, hrun']
  exact ⟨hsame.1, hsame.2 rfl⟩

/-! ### Options that act alike in all spellings -/

/-- **Two runs act alike**: they end with the same status, the same state and the same actor. -/
structure Run.ActsLike (r r' : Run) : Prop where
  /-- The status is the same. -/
  status : r.outcome.map LineOutcome.status = r'.outcome.map LineOutcome.status
  /-- The state is the same. -/
  state : r.session.state = r'.session.state
  /-- The actor is the same. -/
  context : r.session.context = r'.session.context

/-- Whether words of a command need root: what the engine is asked of the tokens of the flags. -/
def wordsNeedRoot (d : Definition) (ws : List String) : Bool :=
  d.needsRoot ((ParsedLine.ofWords d.schema? (d.command :: ws)).flags.keys.map tokenOf)

/-- **An option acts alike in all spellings**: lines that differ in its spelling alone act alike in
every session, and both need root or neither does. -/
def SpelledAlike (d : Definition) (o : CommandOption) : Prop :=
  ∀ (t : Tutor) (s : Session) (line line' : String) (asRoot : Bool) (ws ws' : List String),
    t.catalogue.get? d.command = some d → s.engine.catalogue = t.catalogue →
    RunsWords line (d.command :: ws) asRoot → RunsWords line' (d.command :: ws') asRoot →
    o.Respells ws ws' →
    (runLine t s line).ActsLike (runLine t s line') ∧ wordsNeedRoot d ws = wordsNeedRoot d ws'

theorem wordsNeedRoot_eq (hknows : d.KnowsNames o) (hinter : d.Interchanges o)
    (hrespells : o.Respells ws ws') : wordsNeedRoot d ws = wordsNeedRoot d ws' := by
  obtain ⟨a, ha, b, hb, hrenames⟩ := hknows.exists_renames hrespells
  have hswaps := Swaps.of_renames hrenames.flags
  have hplain := hknows.plain a ha
  have hplain' := hknows.plain b hb
  exact (hswaps.map_tokenOf hplain hplain').needsRoot_eq hplain hplain' (hinter a ha b hb).root

theorem spelledAlike_of_interchanges (hcommand : d.command ∉ ["", "help", "whoami", "sudo"])
    (hknows : d.KnowsNames o) (hinter : d.Interchanges o) : SpelledAlike d o := by
  intro t s line line' asRoot ws ws' hd hs hruns hruns' hrespells
  obtain ⟨⟨houtcome, hstate⟩, hcontext⟩ :=
    runLine_respelled hd hs hcommand hknows hinter hruns hruns' hrespells
  exact ⟨⟨by rw [houtcome], hstate, hcontext⟩, wordsNeedRoot_eq hknows hinter hrespells⟩

/-! ### The options of the tutor -/

/-- An option and a line on which its spelling counts. -/
structure TellingLine where
  /-- The command. -/
  command : String
  /-- The names of the option. -/
  names : List String
  /-- The words in front of the option. -/
  before : List String := []
  /-- The option in one spelling. -/
  first : String
  /-- The option in the other. -/
  second : String
  /-- The words behind it. -/
  after : List String := []

namespace TellingLine

/-- The words after the command, with the option in some spelling. -/
def words (x : TellingLine) (w : String) : List String := x.before ++ w :: x.after

/-- The line as it is typed. -/
def typed (x : TellingLine) (w : String) : String :=
  " ".intercalate (x.command :: x.words w)

end TellingLine

/-- **The options of the tutor that act differently** in their two spellings. -/
def tellingLines : List TellingLine :=
  [{ command := "dcgmi", names := ["r", "run"], before := ["diag"], first := "-r"
     second := "--run", after := ["1"] },
   { command := "enroot", names := ["n", "name"], before := ["create", "-n", "a"], first := "-n"
     second := "--name", after := ["b"] },
   { command := "nvidia-smi", names := ["pm", "persistence-mode"], first := "-pm"
     second := "--persistence-mode", after := ["1"] },
   { command := "nvidia-smi", names := ["pl", "power-limit"], first := "-pl"
     second := "--power-limit", after := ["300"] },
   { command := "nvidia-smi", names := ["e", "ecc-config"], first := "-e"
     second := "--ecc-config", after := ["1"] },
   { command := "nvidia-smi", names := ["r", "gpu-reset"], first := "-r", second := "--gpu-reset" },
   { command := "nvidia-smi", names := ["c", "compute-mode"], first := "-c"
     second := "--compute-mode", after := ["0"] },
   { command := "nvidia-smi", names := ["mig", "multi-instance-gpu"], first := "-mig"
     second := "--multi-instance-gpu", after := ["1"] },
   { command := "nvidia-smi", names := ["lgc", "lock-gpu-clocks"], first := "-lgc"
     second := "--lock-gpu-clocks", after := ["900"] },
   { command := "nvidia-smi", names := ["rgc", "reset-gpu-clocks"], first := "-rgc"
     second := "--reset-gpu-clocks" },
   { command := "perfquery", names := ["R", "Reset_only"], first := "-R"
     second := "--Reset_only" },
   { command := "perfquery", names := ["r", "reset_after_read"], first := "-r"
     second := "--reset_after_read" }]

/-- What can be seen of a run: its status, and the fields that everyone may write. -/
def Run.seen (r : Run) : Option LineStatus × List (Option String) :=
  (r.outcome.toOption.map LineOutcome.status,
    Content.openFields.map fun f => (r.session.state.value? f.1 f.2).map Value.text)

theorem Run.ActsLike.seen_eq {r r' : Run} (h : r.ActsLike r') : r.seen = r'.seen := by
  have hstatus := congrArg Except.toOption h.status
  have hmap : ∀ x : Except LineFault LineOutcome,
      (x.map LineOutcome.status).toOption = x.toOption.map LineOutcome.status := by
    intro x
    cases x <;> rfl
  rw [hmap, hmap] at hstatus
  rw [Run.seen, Run.seen, hstatus, h.state]

/-- The session of a learner who has just begun. -/
def beginner : Session := start .standard 1 (.whole 0)

namespace TellingLine

/-- **A line tells the two spellings apart**: one of them alone needs root, or a learner who has
just begun sees different things. -/
def Tells (x : TellingLine) (d : Definition) : Prop :=
  wordsNeedRoot d (x.words x.first) ≠ wordsNeedRoot d (x.words x.second) ∨
    (runLine .standard beginner (x.typed x.first)).seen ≠
      (runLine .standard beginner (x.typed x.second)).seen

instance (x : TellingLine) (d : Definition) : Decidable (x.Tells d) :=
  inferInstanceAs (Decidable (_ ∨ _))

variable {x : TellingLine}

/-- The words of a line of the table are read from it, in either spelling. -/
theorem words?_typed (hx : x ∈ tellingLines) {w : String} (hw : w ∈ [x.first, x.second]) :
    words? (Text.trim (x.typed w)) = some (x.command :: x.words w) := by
  have hall : ∀ x ∈ tellingLines, ∀ w ∈ [x.first, x.second],
      words? (Text.trim (x.typed w)) = some (x.command :: x.words w) := by
    decide +kernel
  exact hall x hx w hw

/-- Both spellings type the option. -/
theorem of_mem (hx : x ∈ tellingLines) :
    (∀ w ∈ [x.first, x.second], isFlag w = true ∧ w ≠ "--" ∧ typedName w ∈ x.names ∧
      inlineValue? w = none) ∧ "--" ∉ x.before := by
  have hall : ∀ x ∈ tellingLines,
      (∀ w ∈ [x.first, x.second], isFlag w = true ∧ w ≠ "--" ∧ typedName w ∈ x.names ∧
        inlineValue? w = none) ∧ "--" ∉ x.before := by
    decide +kernel
  exact hall x hx

theorem respells (hx : x ∈ tellingLines) (hnames : x.names = o.tokens) :
    o.Respells (x.words x.first) (x.words x.second) := by
  obtain ⟨hspellings, hopen⟩ := of_mem hx
  obtain ⟨hflag, hne, hname, hvalue⟩ := hspellings x.first (by simp)
  obtain ⟨hflag', hne', hname', hvalue'⟩ := hspellings x.second (by simp)
  rw [hnames] at hname hname'
  exact ⟨x.before, x.first, x.second, x.after, rfl, rfl, hopen, ⟨hflag, hne, hname⟩,
    ⟨hflag', hne', hname'⟩, by rw [hvalue, hvalue']⟩

/-- **Each line of the table tells the two spellings apart.** -/
theorem tells_of_mem (hx : x ∈ tellingLines) (hd : d ∈ Content.commands)
    (hcommand : x.command = d.command) : x.Tells d := by
  have hall : ∀ d ∈ Content.commands, ∀ x ∈ tellingLines, x.command = d.command → x.Tells d := by
    decide +kernel
  exact hall d hd x hx hcommand

/-- An option in the table does not act alike in all spellings. -/
theorem not_spelledAlike (hx : x ∈ tellingLines) (hd : d ∈ Content.commands)
    (hcommand : x.command = d.command) (hnames : x.names = o.tokens) : ¬SpelledAlike d o := by
  intro halike
  have hruns : ∀ w ∈ [x.first, x.second], RunsWords (x.typed w) (d.command :: x.words w) false :=
    fun w hw => .plainly (hcommand ▸ words?_typed hx hw)
  obtain ⟨hacts, hroot⟩ := halike .standard beginner _ _ false _ _
    (Content.get?_of_mem_commands hd) rfl (hruns x.first (by simp)) (hruns x.second (by simp))
    (respells hx hnames)
  rcases tells_of_mem hx hd hcommand with hne | hne
  · exact hne hroot
  · exact hne hacts.seen_eq

end TellingLine

/-- **The tutor knows the names of its options**: none ends with an equals sign, and of several
options with one name all take a value or none does. -/
theorem knowsNames (hd : d ∈ Content.commands) (ho : o ∈ d.allOptions) : d.KnowsNames o := by
  have hall : ∀ d ∈ Content.commands, ∀ o ∈ d.allOptions, ∀ a ∈ o.tokens,
      d.schema.get? a = some o.takesValue := by
    decide +kernel
  refine ⟨ho, fun a ha => ?_, hall d hd o ho⟩
  have hmem := Definition.mem_tokens_iff.2 ⟨o, ho, ha⟩
  exact tokenOf_eq_self (Definition.undashed_of_mem_tokens hmem)
    (Content.plain_of_mem_tokens hd hmem).2

/-- **The options whose names the effects tell apart** are those of the table. -/
theorem interchanges_iff (hd : d ∈ Content.commands) (ho : o ∈ d.allOptions) :
    d.Interchanges o ↔ ∀ x ∈ tellingLines, x.command = d.command → x.names ≠ o.tokens := by
  have hall : ∀ d ∈ Content.commands, ∀ o ∈ d.allOptions, d.Interchanges o ↔
      ∀ x ∈ tellingLines, x.command = d.command → x.names ≠ o.tokens := by
    decide +kernel
  exact hall d hd o ho

/-- **An option of the tutor acts alike in all spellings exactly if the effects take its names for
the same**, and it does unless it is in the table. -/
theorem spelledAlike_iff (hd : d ∈ Content.commands) (ho : o ∈ d.allOptions) :
    (SpelledAlike d o ↔ d.Interchanges o) ∧
    (d.Interchanges o ↔ ∀ x ∈ tellingLines, x.command = d.command → x.names ≠ o.tokens) := by
  have hcommand : ∀ d ∈ Content.commands, d.command ∉ ["", "help", "whoami", "sudo"] := by decide
  refine ⟨⟨fun halike => ?_, ?_⟩, interchanges_iff hd ho⟩
  · rw [interchanges_iff hd ho]
    intro x hx hxd hnames
    exact TellingLine.not_spelledAlike hx hd hxd hnames halike
  · exact spelledAlike_of_interchanges (hcommand d hd) (knowsNames hd ho)

/-- The containers of the node are listed in two spellings behind `sudo`. -/
theorem containers_listed_alike :
    ∃ o, Content.docker ∈ Content.commands ∧ o ∈ Content.docker.allOptions ∧
      o.tokens = ["a", "all"] ∧ SpelledAlike Content.docker o ∧
      (runLine .standard beginner "sudo docker -a ps").ActsLike
        (runLine .standard beginner "sudo docker --all ps") := by
  have hd : Content.docker ∈ Content.commands := by simp [Content.commands]
  obtain ⟨o, ho, htokens⟩ : ∃ o ∈ Content.docker.allOptions, o.tokens = ["a", "all"] := by
    decide +kernel
  obtain ⟨halike, hinter⟩ := spelledAlike_iff hd ho
  have hoption : SpelledAlike Content.docker o := by
    rw [halike, hinter, htokens]
    decide
  have hrespells : o.Respells ["-a", "ps"] ["--all", "ps"] :=
    ⟨[], "-a", "--all", ["ps"], rfl, rfl, by decide,
      ⟨by decide, by decide, htokens ▸ by decide⟩, ⟨by decide, by decide, htokens ▸ by decide⟩,
      by decide⟩
  have hwords : words? (Text.trim "sudo docker -a ps") = some ["sudo", "docker", "-a", "ps"] := by
    decide
  have hwords' : words? (Text.trim "sudo docker --all ps") =
      some ["sudo", "docker", "--all", "ps"] := by
    decide
  have hruns : RunsWords "sudo docker -a ps" ["docker", "-a", "ps"] true :=
    .asRoot hwords (by decide)
  have hruns' : RunsWords "sudo docker --all ps" ["docker", "--all", "ps"] true :=
    .asRoot hwords' (by decide)
  obtain ⟨hacts, -⟩ := hoption .standard beginner _ _ _ _ _ rfl rfl hruns hruns' hrespells
  exact ⟨o, hd, ho, htokens, hoption, hacts⟩

/-- **Persistence mode in two spellings.** The write lists the short name alone. Under this an
ordinary learner is denied; under the long one the line needs no root, and is executed without
writing anything. -/
theorem persistence_mode_told_apart :
    Content.nvidiaSmi ∈ Content.commands ∧
    (∃ o ∈ Content.nvidiaSmi.allOptions, o.tokens = ["pm", "persistence-mode"] ∧
      o.Respells ["-pm", "1"] ["--persistence-mode", "1"] ∧ ¬SpelledAlike Content.nvidiaSmi o) ∧
    RunsWords "nvidia-smi -pm 1" ["nvidia-smi", "-pm", "1"] false ∧
    RunsWords "nvidia-smi --persistence-mode 1" ["nvidia-smi", "--persistence-mode", "1"] false ∧
    (runLine .standard beginner "nvidia-smi -pm 1").outcome.toOption.map LineOutcome.status =
      some .denied ∧
    (runLine .standard beginner "nvidia-smi --persistence-mode 1").outcome.toOption.map
      LineOutcome.status = some .ok ∧
    wordsNeedRoot Content.nvidiaSmi ["-pm", "1"] = true ∧
    wordsNeedRoot Content.nvidiaSmi ["--persistence-mode", "1"] = false := by
  have hd : Content.nvidiaSmi ∈ Content.commands := by simp [Content.commands]
  obtain ⟨o, ho, htokens⟩ :
      ∃ o ∈ Content.nvidiaSmi.allOptions, o.tokens = ["pm", "persistence-mode"] := by
    decide +kernel
  have hrespells : o.Respells ["-pm", "1"] ["--persistence-mode", "1"] :=
    ⟨[], "-pm", "--persistence-mode", ["1"], rfl, rfl, by decide,
      ⟨by decide, by decide, htokens ▸ by decide⟩, ⟨by decide, by decide, htokens ▸ by decide⟩,
      by decide⟩
  have hruns : RunsWords "nvidia-smi -pm 1" ["nvidia-smi", "-pm", "1"] false :=
    .plainly (by decide)
  have hruns' : RunsWords "nvidia-smi --persistence-mode 1"
      ["nvidia-smi", "--persistence-mode", "1"] false := .plainly (by decide)
  have hroot : wordsNeedRoot Content.nvidiaSmi ["-pm", "1"] = true := by decide +kernel
  have hroot' : wordsNeedRoot Content.nvidiaSmi ["--persistence-mode", "1"] = false := by
    decide +kernel
  have hapart : ¬SpelledAlike Content.nvidiaSmi o := by
    intro halike
    obtain ⟨-, hneeds⟩ := halike .standard beginner _ _ _ _ _ rfl rfl hruns hruns' hrespells
    rw [hroot, hroot'] at hneeds
    exact absurd hneeds (by simp)
  exact ⟨hd, ⟨o, ho, htokens, hrespells, hapart⟩, hruns, hruns', by decide +kernel,
    by decide +kernel, hroot, hroot'⟩

end Session

end ClusterTutor

import ClusterTutor.Help
import ClusterTutor.Proofs.CommandLine.FlagWords
import ClusterTutor.Proofs.Content.Commands
import ClusterTutor.Proofs.Definition.Options

/-!
# Spellings that are offered

A flag that is not declared is answered with tokens that are, and the first of them is shown in
the spelling in which its option is declared. Whether this spelling can be typed is decided
elsewhere: the reader of lines must take it for a flag, and the name that it reads must denote
the option. Nothing else is needed (`ClusterTutor.Definition.usableFor_iff`).

An option may be declared in three ways, and is offered accordingly.

| the token is spelled by | it is offered | can it be used? |
|---|---|---|
| the short spelling | with one dash | unless this is a number |
| the long spelling | with two dashes | always |
| the spelling of another form | as declared, but for its equals signs | if it has such dashes |

This holds for tokens that are not empty and have no equals sign
(`ClusterTutor.Definition.offered_works_iff`). The third way is where it fails: nothing is added to
a spelling without dashes, and of the tools that come with the tutor two are declared so
(`ClusterTutor.Definition.usableFor_offered_bundled`).
-/

namespace ClusterTutor

open CommandLine

variable {d : Definition} {t w : String} {o : CommandOption}

/-! ### Tokens with dashes -/

/-- A token with dashes in front of it. -/
def withDashes (n : Nat) (t : String) : String := String.ofList (List.replicate n '-') ++ t

theorem toList_withDashes (n : Nat) (t : String) :
    (withDashes n t).toList = List.replicate n '-' ++ t.toList := by
  rw [withDashes, String.toList_append, String.toList_ofList]

theorem flagName_withDashes (hundashed : Undashed t) (n : Nat) : flagName (withDashes n t) = t := by
  have hdrop : dropDashes (withDashes n t) = dropDashes t := by
    simp [dropDashes, toList_withDashes, List.dropWhile_append_of_pos]
  rw [flagName, hdrop, dropDashes_of_undashed hundashed, String.ofList_toList]

/-- **A token with dashes in front of it has the form of a flag** with two dashes, or with one if
this does not make a number. -/
theorem isFlag_withDashes (hundashed : Undashed t) (hne : t ≠ "") (n : Nat) :
    isFlag (withDashes n t) = true ∧ withDashes n t ≠ "--" ↔
      2 ≤ n ∨ n = 1 ∧ Numeral.isInteger (withDashes 1 t) = false := by
  have hlist := toList_withDashes n t
  obtain ⟨c, cs, hcs⟩ : ∃ c cs, t.toList = c :: cs := by
    refine List.exists_cons_of_ne_nil fun hnil => hne ?_
    rw [← String.toList_inj, hnil]
    rfl
  have hc : c ≠ '-' := by
    rintro rfl
    simp [Undashed, hcs] at hundashed
  have hlong : withDashes n t ≠ "--" := by
    intro heq
    have hname := flagName_withDashes hundashed n
    rw [heq] at hname
    exact hne hname.symm
  rw [and_iff_left hlong]
  rcases n with _ | _ | n
  · simp [isFlag, hlist, hcs, hc]
  · simp [isFlag, hlist, hcs]
  · have hlong : isLong (withDashes (n + 2) t) = true := by
      simp [isLong, hlist, List.replicate_succ]
    simp [isFlag_of_isLong hlong]

theorem typedName_withDashes (hundashed : Undashed t) (hequals : '=' ∉ t.toList) (n : Nat) :
    typedName (withDashes n t) = t := by
  have hnone : inlineValue? (withDashes n t) = none :=
    inlineValue?_eq_none fun _ => by simpa [toList_withDashes] using hequals
  rw [typedName, hnone, Option.elim_none, flagName_withDashes hundashed]

/-! ### Declared spellings -/

/-- Whether a declared spelling is one of a token. -/
def CommandOption.spells (spelling : Option String) (t : String) : Bool :=
  spelling.any fun s => !s.isEmpty && tokenOf s == t

/-- **With how many dashes an option is offered** for a token: one for a short spelling of it, two
for a long one, and otherwise as many as the spelling of another form has. -/
def CommandOption.dashesFor (o : CommandOption) (t : String) : Nat :=
  if CommandOption.spells o.short t then 1
  else if CommandOption.spells o.long t then 2
  else ((o.flag.getD "").toList.takeWhile (· == '-')).length

/-- **Without the equals sign at its end a spelling is its token**, but for the dashes in front. -/
theorem withoutEquals_eq {f : String} (htoken : tokenOf f = t) (hne : t ≠ "")
    (hequals : '=' ∉ t.toList) :
    Help.withoutEquals f = withDashes (f.toList.takeWhile (· == '-')).length t := by
  have hchars : dropEquals (dropDashes f) = t.toList := by
    rw [← htoken, tokenOf, String.toList_ofList]
  have hdashes : f.toList.takeWhile (· == '-') =
      List.replicate (f.toList.takeWhile (· == '-')).length '-' :=
    List.eq_replicate_iff.2 ⟨rfl, fun c hc => by simpa using List.mem_takeWhile_imp hc⟩
  have hlast : t.toList.reverse.dropWhile (· == '=') = t.toList.reverse := by
    cases hreverse : t.toList.reverse with
    | nil => rfl
    | cons c cs =>
      have hc : c ≠ '=' := by
        rintro rfl
        exact hequals (List.mem_reverse.1 (hreverse ▸ List.mem_cons_self))
      simp [hc]
  -- The token drops one equals sign and the offer drops all; the token has no other.
  have hbody : (dropDashes f).reverse.dropWhile (· == '=') = t.toList.reverse := by
    unfold dropEquals at hchars
    split at hchars
    · rename_i hend
      obtain ⟨body, hbody⟩ : ∃ body, dropDashes f = body ++ ['='] :=
        ⟨_, (List.dropLast_append_getLast? '=' hend).symm⟩
      rw [hbody, List.dropLast_concat] at hchars
      rw [hbody, hchars, List.reverse_append, List.reverse_singleton, List.singleton_append,
        List.dropWhile_cons_of_pos (by simp), hlast]
    · rw [hchars, hlast]
  rw [← String.toList_inj, toList_withDashes, ← hdashes, Help.withoutEquals, String.toList_ofList]
  conv_lhs => rw [← List.takeWhile_append_dropWhile (p := (· == '-')) (l := f.toList)]
  rw [List.reverse_append, List.dropWhile_append]
  rw [dropDashes] at hbody
  have hne' : t.toList ≠ [] := by
    intro hnil
    refine hne ?_
    rw [← String.toList_inj, hnil]
    rfl
  rw [hbody, List.isEmpty_eq_false_iff.2 (by simpa using hne'), if_neg (by simp),
    List.reverse_append, List.reverse_reverse, List.reverse_reverse]

namespace Definition

/-! ### Words that can be used -/

/-- The spelling in which a token is offered to the learner. -/
def offered (d : Definition) (t : String) : String := suggestedSpelling t .option (some d)

/-- **A word can be used for a token**: wherever it is typed, as long as the flags have not ended,
it is read as a flag, which is valid and denotes the first option that declares the token. -/
def UsableFor (d : Definition) (t w : String) : Prop :=
  ∀ before after, "--" ∉ before → ∃ part rest name value o,
    partsOf d.schema? (before ++ w :: after) = partsOf d.schema? before ++ part :: rest ∧
    part.flag? = some (name, value) ∧ d.checkFlag name = .valid ∧ d.IsFirst t o ∧
    d.option? name = some o

/-- **A word has the form and the name of an option**: it has the form of a flag, and the option of
its name is the first one that declares the token. -/
def FormsFlagOf (d : Definition) (t w : String) : Prop :=
  isFlag w = true ∧ w ≠ "--" ∧ ∃ o, d.IsFirst t o ∧ d.option? (typedName w) = some o

/-- **Form and name are all it takes**, since a flag is never taken as the value of another one. -/
theorem usableFor_iff (d : Definition) (t w : String) : d.UsableFor t w ↔ d.FormsFlagOf t w := by
  constructor
  · intro h
    obtain ⟨part, rest, name, value, o, hparts, hpart, -, hfirst, ho⟩ := h [] [] (by simp)
    rw [List.nil_append, partsOf, List.nil_append] at hparts
    have hflag : isFlag w = true ∧ w ≠ "--" := by
      by_contra hno
      have hword : isFlag w = false ∨ w = "--" := by
        rw [not_and_or, Bool.not_eq_true, not_not] at hno
        exact hno
      have hnone := flag?_of_isFlag_eq_false hword d.schema? part (by rw [hparts]; rfl)
      rw [hpart] at hnone
      exact absurd hnone (by simp)
    have hopen : "--" ∉ ([] : List String) := by simp
    obtain ⟨part', hparts', hpart', -⟩ := partsOf_flagWord hflag.1 hflag.2 hopen d.schema? []
    rw [List.nil_append, partsOf, List.nil_append, hparts, List.cons.injEq] at hparts'
    obtain ⟨rfl, -⟩ := hparts'
    rw [hpart, Option.some.injEq, Prod.mk.injEq] at hpart'
    exact ⟨hflag.1, hflag.2, o, hfirst, hpart'.1 ▸ ho⟩
  · rintro ⟨hflag, hne, o, hfirst, ho⟩ before after hopen
    obtain ⟨part, hparts, hpart, -⟩ := partsOf_flagWord hflag hne hopen d.schema? after
    refine ⟨part, _, _, _, o, hparts, hpart, ?_, hfirst, ho⟩
    rw [d.checkFlag_eq_valid_iff, ← d.exists_option?_iff]
    exact ⟨o, ho⟩

theorem formsFlagOf_withDashes (hfirst : d.IsFirst t o) (hundashed : Undashed t) (hne : t ≠ "")
    (hequals : '=' ∉ t.toList) (n : Nat) :
    d.FormsFlagOf t (withDashes n t) ↔
      2 ≤ n ∨ n = 1 ∧ Numeral.isInteger (withDashes 1 t) = false := by
  have hoption : d.option? (typedName (withDashes n t)) = some o := by
    rw [typedName_withDashes hundashed hequals, option?_eq_some_iff,
      tokenOf_eq_self hundashed hequals]
    exact hfirst
  rw [← isFlag_withDashes hundashed hne, FormsFlagOf]
  exact ⟨fun ⟨hflag, hlong, _⟩ => ⟨hflag, hlong⟩,
    fun ⟨hflag, hlong⟩ => ⟨hflag, hlong, o, hfirst, hoption⟩⟩

/-! ### What is offered -/

theorem offered_eq (hfirst : d.IsFirst t o) (hundashed : Undashed t) (hne : t ≠ "")
    (hequals : '=' ∉ t.toList) : d.offered t = withDashes (o.dashesFor t) t := by
  have hoption : d.option? t = some o := by
    rw [option?_eq_some_iff, tokenOf_eq_self hundashed hequals]
    exact hfirst
  have hdeclares : CommandOption.spells o.short t = true ∨
      CommandOption.spells o.long t = true ∨ CommandOption.spells o.flag t = true := by
    obtain ⟨_, _, -, hmem, -⟩ := hfirst
    obtain ⟨s, hs, rfl⟩ := List.mem_map.1 hmem
    obtain ⟨spelling, hspelling, hfilter⟩ := List.mem_filterMap.1 hs
    obtain ⟨hsome, hfilled⟩ := Option.filter_eq_some_iff.1 hfilter
    have hspells : CommandOption.spells spelling (tokenOf s) = true := by
      simpa [CommandOption.spells, hsome] using hfilled
    simp only [List.mem_cons, List.not_mem_nil, or_false] at hspelling
    rcases hspelling with rfl | rfl | rfl
    · exact Or.inl hspells
    · exact Or.inr (Or.inl hspells)
    · exact Or.inr (Or.inr hspells)
  have hshown : d.offered t =
      if CommandOption.spells o.short t then "-" ++ t
      else if CommandOption.spells o.long t then "--" ++ t
      else ((o.flag.filter fun f => !f.isEmpty).map Help.withoutEquals).getD (dashed t) := by
    simp only [offered, suggestedSpelling, Option.bind_some, hoption, CommandOption.spells]
    congr 2
    cases o.flag.filter fun f => !f.isEmpty <;> rfl
  rw [hshown, CommandOption.dashesFor]
  split_ifs with hshort hlong
  · rfl
  · rfl
  · have hflag := (hdeclares.resolve_left hshort).resolve_left hlong
    cases hf : o.flag with
    | none => simp [CommandOption.spells, hf] at hflag
    | some f =>
      obtain ⟨hfilled, htoken⟩ : (!f.isEmpty) = true ∧ tokenOf f = t := by
        simpa [CommandOption.spells, hf] using hflag
      simp [Option.filter, hfilled, withoutEquals_eq htoken hne hequals]

/-! ### What works of what is offered -/

theorem exists_isFirst (h : t ∈ d.tokens) : ∃ o, d.IsFirst t o := by
  obtain ⟨o, ho, hmem⟩ := mem_tokens_iff.1 h
  have hsome : (d.allOptions.find? fun o => o.tokens.contains t).isSome = true := by
    rw [List.find?_isSome]
    exact ⟨o, ho, by simpa using hmem⟩
  obtain ⟨first, hfirst⟩ := Option.isSome_iff_exists.1 hsome
  obtain ⟨hdeclares, earlier, later, hoptions, hearlier⟩ := List.find?_eq_some_iff_append.1 hfirst
  exact ⟨first, earlier, later, hoptions, by simpa using hdeclares,
    fun o' ho' => by simpa using hearlier o' ho'⟩

/-- What is suggested is declared. -/
theorem mem_tokens_of_checkFlag {flag : String} {suggested : List String}
    (h : d.checkFlag flag = .invalid suggested) : ∀ t ∈ suggested, t ∈ d.tokens := by
  have hlimit : 0 ≤ Text.suggestionLimit := by decide
  have hselects :=
    Text.selects_suggestions (tokenOf flag) d.tokens Text.suggestionDistance hlimit
  rw [checkFlag, Verdict.of] at h
  split at h
  · simp at h
  · obtain rfl := Verdict.invalid.inj h
    exact fun t ht => (hselects.near t ht).1

theorem usableFor_offered_iff (hfirst : d.IsFirst t o) (hne : t ≠ "") (hequals : '=' ∉ t.toList) :
    d.UsableFor t (d.offered t) ↔
      2 ≤ o.dashesFor t ∨ o.dashesFor t = 1 ∧ Numeral.isInteger (withDashes 1 t) = false := by
  have hundashed : Undashed t := undashed_of_mem_tokens (mem_tokens_iff.2 ⟨o, hfirst.declared⟩)
  rw [usableFor_iff, offered_eq hfirst hundashed hne hequals,
    formsFlagOf_withDashes hfirst hundashed hne hequals]

/-- **What is offered for a rejected flag works exactly if it has the form and the name of an
option.** The message shows the first suggestion in the spelling that is offered. Wherever this is
typed it is read as a flag that is valid and denotes the suggested option, exactly if it has the
form of a flag, and a name that denotes this option. For a token without an equals sign that is
not empty it comes down to the dashes: two, or one if this does not make a number. -/
theorem offered_works_iff {flag : String} {others : List String}
    (h : d.checkFlag flag = .invalid (t :: others)) :
    (∃ unrecognized rest, rejection d.command flag (d.checkFlag flag) .option (some d) =
      unrecognized ++ s!"\nDid you mean '{d.offered t}'?" ++ rest) ∧
    (d.UsableFor t (d.offered t) ↔ d.FormsFlagOf t (d.offered t)) ∧
    ∃ o, d.IsFirst t o ∧ (t ≠ "" → '=' ∉ t.toList →
      (d.UsableFor t (d.offered t) ↔
        2 ≤ o.dashesFor t ∨ o.dashesFor t = 1 ∧ Numeral.isInteger (withDashes 1 t) = false)) := by
  have hmem := mem_tokens_of_checkFlag h t List.mem_cons_self
  obtain ⟨o, hfirst⟩ := exists_isFirst hmem
  refine ⟨?_, usableFor_iff d t _, o, hfirst, usableFor_offered_iff hfirst⟩
  rw [h, rejection]
  simp only [Verdict.suggestions]
  split
  · exact ⟨_, "", by rw [String.append_empty, offered]⟩
  · exact ⟨_, _, String.append_assoc⟩

/-- The options of the tutor that are offered as words. -/
def offeredAsWords : List (String × String) :=
  [("nvidia-bug-report", "output-file"), ("nvidia-bug-report", "safe-mode"),
    ("nvidia-bug-report", "extra-system-data"), ("nvidia-smi", "query-gpu"),
    ("nvidia-smi", "format")]

/-- **Of the tools that come with the tutor** the spellings that do not work are those of another
form, which are declared without dashes. -/
theorem usableFor_offered_bundled {d : Definition} (hd : d ∈ Content.commands) {t : String}
    (ht : t ∈ d.tokens) : d.UsableFor t (d.offered t) ↔ (d.command, t) ∉ offeredAsWords := by
  have hall : ∀ d ∈ Content.commands, ∀ o ∈ d.allOptions, ∀ t ∈ o.tokens,
      (2 ≤ o.dashesFor t ∨ o.dashesFor t = 1 ∧ Numeral.isInteger (withDashes 1 t) = false ↔
        (d.command, t) ∉ offeredAsWords) := by
    decide +kernel
  obtain ⟨hne, hequals⟩ := Content.plain_of_mem_tokens hd ht
  obtain ⟨o, hfirst⟩ := exists_isFirst ht
  obtain ⟨ho, hmem⟩ := hfirst.declared
  rw [usableFor_offered_iff hfirst hne hequals]
  exact hall d hd o ho t hmem

/-- With a letter left out a long option is suggested, and works as it is offered. -/
theorem misspelled_long_option_works :
    Content.nvidiaSmi.checkFlag "persistence-mod" = .invalid ["persistence-mode"] ∧
    Content.nvidiaSmi.offered "persistence-mode" = "--persistence-mode" ∧
    Content.nvidiaSmi.UsableFor "persistence-mode"
      (Content.nvidiaSmi.offered "persistence-mode") := by
  have hinvalid :
      Content.nvidiaSmi.checkFlag "persistence-mod" = .invalid ["persistence-mode"] := by
    decide +kernel
  have hequals : '=' ∉ "persistence-mode".toList := by decide
  obtain ⟨-, -, o, hfirst, hiff⟩ := offered_works_iff hinvalid
  have htoken : tokenOf "persistence-mode" = "persistence-mode" := by decide
  have ho : Content.nvidiaSmi.option? "persistence-mode" = some o :=
    option?_eq_some_iff.2 (htoken.symm ▸ hfirst)
  have hdashes : (Content.nvidiaSmi.option? "persistence-mode").all fun o =>
      decide (2 ≤ o.dashesFor "persistence-mode") := by
    decide +kernel
  rw [ho] at hdashes
  exact ⟨hinvalid, by decide +kernel,
    (hiff (by decide) hequals).2 (Or.inl (of_decide_eq_true hdashes))⟩

/-- **An option that is offered as a word.** The format of a query is declared without dashes, and
is offered without them; what is typed so is a word. -/
theorem misspelled_bare_option_fails :
    Content.nvidiaSmi ∈ Content.commands ∧
    Content.nvidiaSmi.checkFlag "fromat" = .invalid ["format"] ∧
    rejection "nvidia-smi" "fromat" (Content.nvidiaSmi.checkFlag "fromat") .option
        (some Content.nvidiaSmi) =
      "nvidia-smi: unrecognized option '--fromat'\nDid you mean 'format'?" ∧
    partsOf Content.nvidiaSmi.schema? ["format", "csv"] = [.word "format", .word "csv"] ∧
    ¬Content.nvidiaSmi.UsableFor "format" (Content.nvidiaSmi.offered "format") := by
  have hmem : Content.nvidiaSmi ∈ Content.commands := by simp [Content.commands]
  have hinvalid : Content.nvidiaSmi.checkFlag "fromat" = .invalid ["format"] := by decide +kernel
  refine ⟨hmem, hinvalid, by decide +kernel, by decide +kernel, ?_⟩
  rw [usableFor_iff]
  rintro ⟨hflag, -⟩
  have hno : isFlag (Content.nvidiaSmi.offered "format") = false := by decide +kernel
  rw [hno] at hflag
  exact absurd hflag (by simp)

end Definition

end ClusterTutor

import ClusterTutor.Proofs.CommandLine.Cut
import ClusterTutor.Proofs.Session.SameRuns

/-!
# What sudo hands on

`sudo` is recognized among the words of a line, and what it runs as root is cut off the text of
the line behind its first four characters. These are the word `sudo` only if it is typed as it is.

| what is typed | what is run as root |
|---|---|
| `sudo`, separators, and something that is no blank | the words behind `sudo` |
| `sudo` with a quote or a backslash in it | what the fifth character begins, if it can be read |
| `sudo`, separators, and another blank | the words behind `sudo`, the first without its blanks |

In the first case, and in no other, the words that are handed on are the other words of the line
(`ClusterTutor.Session.handedOn_eq_iff`). Then `sudo` comes to the same as the other words as a
line of their own, typed by root in any way whatever, unless their first word is empty: alone the
line would be refused, while `sudo` looks for a command without a name
(`ClusterTutor.Session.sudo_sameResult_iff`).
-/

namespace ClusterTutor

namespace Session

open CommandLine

variable {line : String} {ws : List String}

/-- **Sudo hands the other words on exactly if it is typed plainly.** -/
theorem handedOn_eq_iff (hwords : words? (Text.trim line) = some ("sudo" :: ws)) (hws : ws ≠ []) :
    handedOn line = some ws ↔ IsPlainlyBefore "sudo".toList (Text.trim line).toList := by
  have hname : ∀ c ∈ "sudo".toList, isPlain c = true ∧ Text.isBlank c = false := by
    simp [isPlain, isSeparator, Text.isBlank]
  have hlength : 4 = "sudo".toList.length := rfl
  have hsplit : splitFrom .between [] (Text.trim line).toList =
      some (String.ofList "sudo".toList :: ws) := by
    rw [String.ofList_toList]
    exact hwords
  rw [handedOn, trim_sudoRest, words?, sudoRest, String.toList_ofList, hlength]
  exact splitFrom_drop_iff (by simp) hname (Text.isTrimmed_trim line) hsplit hws

/-- **The same session as root**: with the same commands, the same state of the simulated system
and the same allocations, but with the privilege of root. -/
structure IsRootTwin (s s' : Session) : Prop where
  /-- The commands are the same. -/
  catalogue : s'.engine.catalogue = s.engine.catalogue
  /-- The state is the same. -/
  state : s'.state = s.state
  /-- The actor is the same, but root. -/
  context : s'.context = s.context.elevated

/-- The session itself as root. -/
theorem isRootTwin_elevated (s : Session) :
    s.IsRootTwin { s with context := s.context.elevated } := ⟨rfl, rfl, rfl⟩

/-- **What is handed on comes to the same as a line of its own**, if it is no built-in and begins
with a word that is not empty. -/
theorem sudo_sameResult {w : String} (hwords : words? (Text.trim line) = some ("sudo" :: ws))
    (hhanded : handedOn line = some ws) (hhead : ws.head? = some w)
    (hw : w ∉ ["", "help", "whoami", "sudo"]) {s s' : Session} (htwin : s.IsRootTwin s') (t : Tutor)
    {line' : String} (hwords' : words? (Text.trim line') = some ws) :
    (runLine t s line).SameResult (runLine t s' line') := by
  obtain ⟨ws, rfl⟩ : ∃ ws', ws = w :: ws' := ⟨ws.tail, (List.cons_head?_tail hhead).symm⟩
  have hwhoami : w ≠ "whoami" := by
    rintro rfl
    simp at hw
  rw [runLine_of_sudo hwords hhanded hwhoami, runLine_of_command hwords' hw, htwin.context]
  have hcatalogue : (s'.typing line').engine.catalogue = (s.typing line).engine.catalogue :=
    htwin.catalogue
  have hstate : (s'.typing line').state = (s.typing line).state := htwin.state
  refine runCommand_of_words hcatalogue hstate ?_ t _ _ _
  rw [Text.trim_trim, hwords', ← hhanded, handedOn]

theorem outcome_of_unknown {t : Tutor} {w : String}
    (hcommand : (ParsedLine.ofLine none line).command = w) (hnone : t.catalogue.get? w = none)
    (s : Session) (acting : ExecutionContext) (tracked : String) :
    (runCommand t s line acting tracked).outcome = .ok (unknownCommand t.catalogue w) := by
  simp [runCommand, hcommand, hnone, failed]

/-- A line that begins with an empty word is refused. -/
theorem outcome_of_emptyWord {ws : List String} (hwords : words? (Text.trim line) = some ("" :: ws))
    (t : Tutor) (s : Session) :
    (runLine t s line).outcome =
      .ok { status := .invalid, message := "Could not parse command line." } := by
  have hcommand : (ParsedLine.ofLine none (Text.trim line)).command = "" := by
    rw [← Text.trim_trim] at hwords
    exact command_ofLine hwords none
  have hline : Text.trim line ≠ "" := by
    intro hempty
    have hnone : words? "" = some [] := rfl
    rw [hempty, hnone] at hwords
    exact absurd hwords (by simp)
  simp [runLine, hline, runTrimmed, hcommand, failed]

/-- **Sudo runs the other words as root exactly if it is typed plainly** and they do not begin with
an empty word. The words that are handed on are the others exactly in the first case; and then,
unless they begin with a built-in, every line with these words that a twin as root runs comes to
the same, exactly if the first of them is not empty. -/
theorem sudo_sameResult_iff (hwords : words? (Text.trim line) = some ("sudo" :: ws))
    (hws : ws ≠ []) :
    (handedOn line = some ws ↔ IsPlainlyBefore "sudo".toList (Text.trim line).toList) ∧
    (IsPlainlyBefore "sudo".toList (Text.trim line).toList →
      (∀ w ∈ ws.head?, w ∉ ["help", "whoami", "sudo"]) →
      ((∀ (t : Tutor) (s s' : Session) (line' : String), s.IsRootTwin s' →
        words? (Text.trim line') = some ws → (runLine t s line).SameResult (runLine t s' line')) ↔
        ws.head? ≠ some "")) := by
  have hiff := handedOn_eq_iff hwords hws
  refine ⟨hiff, fun hplain hhead => ?_⟩
  have hhanded := hiff.2 hplain
  obtain ⟨w, ws, rfl⟩ := List.exists_cons_of_ne_nil hws
  have hw := hhead w rfl
  constructor
  · rintro hsame hempty
    obtain rfl : w = "" := by simpa using hempty
    -- What is cut off is a line with the other words itself, and is refused as such.
    have hrun := (hsame .standard (start .standard 1 (.whole 0)) _ (sudoRest (Text.trim line))
      (isRootTwin_elevated _) hhanded).1
    rw [runLine_of_sudo hwords hhanded (by simp), outcome_of_emptyWord hhanded,
      outcome_of_unknown (command_ofLine hhanded none) rfl] at hrun
    simp [unknownCommand] at hrun
  · intro hne t s s' line' htwin hwords'
    have hw' : w ∉ ["", "help", "whoami", "sudo"] := by
      rw [List.mem_cons, not_or]
      exact ⟨by simpa using hne, hw⟩
    exact sudo_sameResult hwords hhanded rfl hw' htwin t hwords'

/-- Separators and quotes behind `sudo` make no difference: persistence mode is switched on as by
root. -/
theorem quoted_rest_runs_as_root :
    let line := "sudo \t nvidia-smi \"-pm\" '1'"
    let ws := ["nvidia-smi", "-pm", "1"]
    let s := start .standard 1 (.whole 0)
    let s' := { s with context := s.context.elevated }
    words? (Text.trim line) = some ("sudo" :: ws) ∧ ws ≠ [] ∧ handedOn line = some ws ∧
      s.IsRootTwin s' ∧ words? (Text.trim "nvidia-smi -pm 1") = some ws ∧
      (runLine .standard s line).SameResult (runLine .standard s' "nvidia-smi -pm 1") ∧
      (runLine .standard s line).outcome.toOption.map LineOutcome.status = some .ok := by
  intro line ws s s'
  have hwords : words? (Text.trim line) = some ("sudo" :: ws) := by decide
  have hws : ws ≠ [] := by decide
  have hplain : IsPlainlyBefore "sudo".toList (Text.trim line).toList :=
    ⟨[' ', '\t', ' '], "nvidia-smi \"-pm\" '1'".toList, by decide, by decide,
      by simp [isSeparator], by simp [Text.isBlank]⟩
  obtain ⟨hhanded, hsame⟩ := sudo_sameResult_iff hwords hws
  have hwords' : words? (Text.trim "nvidia-smi -pm 1") = some ws := by decide
  have hstatus : (runLine .standard (start .standard 1 (.whole 0))
      "sudo \t nvidia-smi \"-pm\" '1'").outcome.toOption.map LineOutcome.status = some .ok := by
    decide +kernel
  exact ⟨hwords, hws, hhanded.2 hplain, isRootTwin_elevated s, hwords',
    (hsame hplain (by decide)).2 (by decide) _ _ _ _ (isRootTwin_elevated s) hwords', hstatus⟩

/-- **Quotes around `sudo`.** The words are `sudo` and the name of a tool that anyone may run. What
is cut off begins with the end of `sudo` and its closing quote, which opens one there; so it has
no words, and the command that is not found has no name. -/
theorem quoted_sudo_runs_nothing :
    let line := "\"sudo\" nvtop"
    let s := start .standard 1 (.whole 0)
    let s' := { s with context := s.context.elevated }
    words? (Text.trim line) = some ["sudo", "nvtop"] ∧ handedOn line = none ∧ s.IsRootTwin s' ∧
      words? (Text.trim "nvtop") = some ["nvtop"] ∧
      (runLine .standard s line).outcome.toOption.map LineOutcome.status = some .unknownCommand ∧
      (runLine .standard s' "nvtop").outcome.toOption.map LineOutcome.status = some .ok ∧
      ¬(runLine .standard s line).SameResult (runLine .standard s' "nvtop") := by
  intro line s s'
  have hunknown : (runLine .standard (start .standard 1 (.whole 0))
      "\"sudo\" nvtop").outcome.toOption.map LineOutcome.status = some .unknownCommand := by
    decide +kernel
  have hruns : (runLine .standard
      { start .standard 1 (.whole 0) with context := ExecutionContext.elevated {} }
      "nvtop").outcome.toOption.map LineOutcome.status = some .ok := by
    decide +kernel
  refine ⟨by decide, by decide, isRootTwin_elevated s, by decide, hunknown, hruns, fun hsame => ?_⟩
  have hstatus := congrArg (fun o => o.toOption.map LineOutcome.status) hsame.1
  exact absurd (hunknown.symm.trans (hstatus.trans hruns)) (by decide)

end Session

end ClusterTutor

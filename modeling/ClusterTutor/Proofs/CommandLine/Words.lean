import ClusterTutor.CommandLine.Words
import Mathlib

/-!
# Lines of plain words

Most characters stand for themselves in a line: all but the separators, the quotes and the
backslash. Words of such characters, with a space between each two of them, are the words of
the line (`ClusterTutor.CommandLine.words?_intercalate`).
-/

namespace ClusterTutor.CommandLine

/-- Whether a character stands for itself in a word. -/
def isPlain (c : Char) : Bool :=
  !isSeparator c && c != '\'' && c != '"' && c != '\\'

variable {c : Char} {w cs word : List Char}

/-- A plain character goes on with a word, or begins one. -/
theorem splitFrom_cons_of_plain (h : isPlain c = true) :
    splitFrom .inWord word (c :: cs) = splitFrom .inWord (c :: word) cs ∧
      splitFrom .between word (c :: cs) = splitFrom .inWord (c :: word) cs := by
  simp only [isPlain, Bool.and_eq_true, Bool.not_eq_true', bne_iff_ne] at h
  obtain ⟨⟨⟨hseparator, hsingle⟩, hdouble⟩, hbackslash⟩ := h
  constructor <;> rw [splitFrom] <;> simp [hseparator, hsingle, hdouble, hbackslash]

/-- The plain characters of a word are taken one after the other. -/
theorem splitFrom_inWord_append (h : ∀ c ∈ w, isPlain c = true) (word rest : List Char) :
    splitFrom .inWord word (w ++ rest) = splitFrom .inWord (w.reverse ++ word) rest := by
  induction w generalizing word with
  | nil => rfl
  | cons c w ih =>
    obtain ⟨hc, hw⟩ := List.forall_mem_cons.1 h
    rw [List.cons_append, (splitFrom_cons_of_plain hc).1, ih hw]
    simp

theorem splitFrom_between_append (hne : w ≠ []) (h : ∀ c ∈ w, isPlain c = true)
    (rest : List Char) : splitFrom .between [] (w ++ rest) = splitFrom .inWord w.reverse rest := by
  obtain ⟨c, w, rfl⟩ := List.exists_cons_of_ne_nil hne
  obtain ⟨hc, hw⟩ := List.forall_mem_cons.1 h
  rw [List.cons_append, (splitFrom_cons_of_plain hc).2, splitFrom_inWord_append hw]
  simp

/-- **Plain words are the words of the line** that has a space between each two of them. -/
theorem words?_intercalate {ws : List (List Char)}
    (h : ∀ w ∈ ws, w ≠ [] ∧ ∀ c ∈ w, isPlain c = true) :
    words? (String.ofList ([' '].intercalate ws)) = some (ws.map String.ofList) := by
  rw [words?, String.toList_ofList]
  induction ws with
  | nil => rfl
  | cons w ws ih =>
    obtain ⟨⟨hne, hplain⟩, hws⟩ := List.forall_mem_cons.1 h
    cases ws with
    | nil =>
      have hlast := splitFrom_between_append hne hplain []
      rw [List.append_nil] at hlast
      simp [List.intercalate, hlast, splitFrom]
    | cons w' ws =>
      have hrest : splitFrom .inWord w.reverse (' ' :: [' '].intercalate (w' :: ws)) =
          (splitFrom .between [] ([' '].intercalate (w' :: ws))).map (String.ofList w :: ·) := by
        rw [splitFrom] <;> simp [isSeparator]
      rw [List.intercalate_cons_cons, List.append_assoc, splitFrom_between_append hne hplain,
        List.singleton_append, hrest, ih hws]
      rfl

end ClusterTutor.CommandLine

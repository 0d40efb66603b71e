import ClusterTutor.Proofs.Text.Squeeze

/-!
# Spacing

Between two words of a text there may be any blanks, as long as there is one. A *gap* is such a
run of blanks (`ClusterTutor.Text.IsGap`); a text is cut at it into words wherever it stands
(`ClusterTutor.Text.words_gap`). So texts that differ in their gaps have the same words
(`ClusterTutor.Text.words_eq_of_respaced`), and are squeezed to the same text.
-/

namespace ClusterTutor.Text

/-- **A gap between words**: one blank or more, of any kind. -/
structure IsGap (g : String) : Prop where
  /-- There is a character. -/
  nonempty : g ≠ ""
  /-- All characters are blanks. -/
  blank : isBlankText g = true

/-- **Two texts differ in one gap**, or in blanks at an end. -/
inductive Respaced : String → String → Prop
  /-- A gap, wherever it stands, is another one. -/
  | gap (before after : String) {g g' : String} : IsGap g → IsGap g' →
    Respaced (before ++ g ++ after) (before ++ g' ++ after)
  /-- There are blanks in front. -/
  | front (s : String) {g : String} : isBlankText g = true → Respaced (g ++ s) s
  /-- There are blanks behind. -/
  | back (s : String) {g : String} : isBlankText g = true → Respaced (s ++ g) s

/-- Blanks before a text are no part of its words. -/
theorem words_blank_append {g : String} (hg : isBlankText g = true) (s : String) :
    words (g ++ s) = words s := by
  have hdrop : (g ++ s).toList.dropWhile isBlank = s.toList.dropWhile isBlank := by
    rw [String.toList_append, List.dropWhile_append_of_pos]
    simpa [isBlankText] using hg
  rw [words, ← filter_pieces_dropWhile, hdrop, filter_pieces_dropWhile, words]

/-- **The words around a gap** are those before it and those after it, whatever the gap is. -/
theorem words_gap {g : String} (hg : IsGap g) (before after : String) :
    words (before ++ g ++ after) = words before ++ words after := by
  cases hchars : g.toList with
  | nil => exact absurd (String.toList_eq_nil_iff.1 hchars) hg.nonempty
  | cons c cs =>
    have hblank : isBlank c = true ∧ cs.all isBlank = true := by
      simpa [isBlankText, hchars] using hg.blank
    have hrest : words (String.ofList cs ++ after) = words after :=
      words_blank_append (by simpa [isBlankText] using hblank.2) after
    rw [← hrest]
    simp only [words, String.toList_append, hchars, List.append_assoc, List.cons_append,
      String.toList_ofList, pieces_append_of_isBlank hblank.1, List.filter_append, List.map_append]

/-- Blanks behind a text are no part of its words. -/
theorem words_append_blank {g : String} (hg : isBlankText g = true) (s : String) :
    words (s ++ g) = words s := by
  by_cases hempty : g = ""
  · rw [hempty, String.append_empty]
  · have hgap := words_gap ⟨hempty, hg⟩ s ""
    have hnone : words "" = [] := by simp [words, pieces]
    rwa [String.append_empty, hnone, List.append_nil] at hgap

/-- **Texts that differ in their spacing have the same words.** -/
theorem words_eq_of_respaced {s s' : String} (h : Respaced s s') : words s = words s' := by
  cases h with
  | gap before after hg hg' => rw [words_gap hg, words_gap hg']
  | front s hg => exact words_blank_append hg s'
  | back s hg => exact words_append_blank hg s'

end ClusterTutor.Text

import ClusterTutor.Proofs.CommandLine.Scan

/-!
# Cutting the first word off

The first word of a line may be recognized among its words, and what stands behind it be cut off
the text of the line by counting the characters of the word. The two need not fit: a word may be
typed with quotes and backslashes, which count as characters but are none of the word.

This module says when they fit. What is cut off has the other words exactly if the first word
is typed as it is, with separators behind it, and then something that is no blank
(`ClusterTutor.CommandLine.splitFrom_drop_iff`).

* **The word must be typed as it is.** It is typed in no fewer characters than it has, and in
  more unless each stands for itself (`ClusterTutor.CommandLine.length_shown_le`). Then some are
  left, with which a word begins. A quote among them may change how the rest of the line is read,
  but never so that the words come out the same
  (`ClusterTutor.CommandLine.shown_ne_of_left`).
* **No other blank may follow the separators.** It would belong to the next word, and be lost with
  the blanks around what is cut off (`ClusterTutor.CommandLine.isSeparator_of_shown_eq`).
-/

namespace ClusterTutor.CommandLine

open Mode

/-! ### The first word -/

section FirstWord

variable {p cs name : List Char} {xs : List (Option Char)}

/-- **The first word of a line** is what is shown up to the first gap: nothing is open there. -/
theorem shown_firstWord (hp : ∀ c ∈ p, isSeparator c = false) (hcs : Chunks cs)
    (hname : ∀ c ∈ name, isSeparator c = false)
    (h : Mode.inWord.shown (p ++ cs) = name.map some ++ none :: xs) :
    Mode.inWord.shown p = name.map some ∧ Mode.inWord.after p = .inWord := by
  have hshown : ∀ s ∈ Mode.inWord.shown p, isMarker s = false :=
    isMarker_eq_false_of_mem_shown (by simp) hp
  have hname' : ∀ s ∈ name.map some, isMarker s = false := by
    simpa [isMarker] using hname
  cases hcs with
  | nil =>
    have hnone : none ∈ Mode.inWord.shown p := by
      rw [List.append_nil] at h
      simp [h]
    exact absurd (hshown none hnone) (by simp [isMarker])
  | @cons g y cs hne hg hney hy _ =>
    have hword := after_ne_between (m := .inWord) (by simp) hp
    rw [shown_append, ← List.append_assoc] at h
    generalize Mode.inWord.after p = m at h hword ⊢
    have hpending := List.forall_mem_append.2 ⟨hshown, isMarker_eq_false_of_mem_pending m⟩
    obtain ⟨ss, -, hgap⟩ := m.shown_chunk hne hg hney hy
    rw [shown_append, hgap] at h
    rcases m.gapMarks_cases hg with ⟨hcloses, hm⟩ | hm | ⟨-, c, hc, hm⟩
    · rw [hm] at h
      obtain ⟨hfirst, -, -⟩ := eq_of_firstMarker rfl rfl hpending hname' (by simpa using h)
      rw [hcloses.pending_eq, List.append_nil] at hfirst
      exact ⟨hfirst, hcloses.resolve_left hword⟩
    · obtain ⟨c, g, rfl⟩ := List.exists_cons_of_ne_nil hne
      rw [hm] at h
      obtain ⟨-, hno, -⟩ := eq_of_firstMarker (x := some c) (hg c List.mem_cons_self) rfl hpending
        hname' (by simpa using h)
      exact absurd hno (by simp)
    · rw [hm] at h
      obtain ⟨-, hno, -⟩ := eq_of_firstMarker (x := some c) hc rfl hpending hname'
        (by simpa using h)
      exact absurd hno (by simp)

/-- How many characters it takes at least to get out of quotes. -/
def toClose : Mode → Nat
  | .single => 1
  | .double => 1
  | _ => 0

theorem length_adds_le {m : Mode} {c : Char} (hm : m ≠ .between) :
    (m.adds c).length + toClose m ≤ toClose (m.next c) + 1 ∧
      (m = .inWord → (m.adds c).length = toClose (m.next c) + 1 → isPlain c = true) := by
  cases m with
  | between => exact absurd rfl hm
  | inWord =>
    cases hplain : isPlain c with
    | true => simp [adds, hplain, toClose]
    | false => simp [adds, hplain, toClose]
  | escaped => simp [adds, next, toClose]
  | single => by_cases h : c = '\'' <;> simp [adds, next, toClose, h]
  | double =>
    by_cases hquote : c = '"' <;> by_cases hbackslash : c = '\\' <;>
      simp [adds, next, toClose, hquote, hbackslash]
  | doubleEscaped => by_cases h : (c == '"' || c == '\\') = true <;> simp [adds, next, toClose, h]

theorem shown_cons_of_plain {c : Char} (h : isPlain c = true) :
    Mode.inWord.adds c = [some c] ∧ Mode.inWord.next c = .inWord := by
  have hplain := h
  simp only [isPlain, Bool.and_eq_true, Bool.not_eq_true', bne_iff_ne] at hplain
  obtain ⟨⟨⟨hseparator, hsingle⟩, hdouble⟩, hbackslash⟩ := hplain
  simp [adds, next, h, hseparator, hsingle, hdouble, hbackslash]

/-- **A word is typed in no fewer characters than it has**, and in as many only if each of them
stands for itself. -/
theorem length_shown_le {m : Mode} (hm : m ≠ .between) (hp : ∀ c ∈ p, isSeparator c = false)
    (hafter : m.after p = .inWord) :
    (m.shown p).length + toClose m ≤ p.length ∧
      (m = .inWord → (m.shown p).length = p.length → m.shown p = p.map some) := by
  induction p generalizing m with
  | nil =>
    obtain rfl : m = .inWord := hafter
    exact ⟨le_rfl, fun _ _ => rfl⟩
  | cons c p ih =>
    obtain ⟨hc, hp⟩ := List.forall_mem_cons.1 hp
    obtain ⟨hle, heq⟩ := ih (next_ne_between hc m) hp hafter
    obtain ⟨hstep, hplain⟩ := length_adds_le (c := c) hm
    rw [shown_cons, List.length_append, List.length_cons]
    refine ⟨by omega, ?_⟩
    rintro rfl htight
    obtain ⟨hadds, hnext⟩ := shown_cons_of_plain (hplain rfl (by omega))
    rw [hadds, hnext] at htight ⊢
    rw [hnext] at heq
    rw [heq rfl (by simp only [List.length_singleton] at htight; omega)]
    rfl

/-- A character of a word is shown, unless it is a quote or a backslash. -/
theorem mem_shown_of_plain {m : Mode} {c : Char} (hc : isPlain c = true) (hmem : c ∈ p) :
    some c ∈ m.shown p := by
  induction p generalizing m with
  | nil => simp at hmem
  | cons c' p ih =>
    rw [shown_cons, List.mem_append]
    rcases List.mem_cons.1 hmem with rfl | hmem
    · left
      simp only [isPlain, Bool.and_eq_true, Bool.not_eq_true', bne_iff_ne] at hc
      obtain ⟨⟨⟨hseparator, hsingle⟩, hdouble⟩, hbackslash⟩ := hc
      cases m <;> simp [adds, isPlain, hseparator, hsingle, hdouble, hbackslash]
    · exact Or.inr (ih hmem)

end FirstWord

/-! ### Cutting the first word off -/

/-- **A word typed plainly in front of others**: as it is, with separators behind it, and then
something that is no blank. -/
def IsPlainlyBefore (name line : List Char) : Prop :=
  ∃ gap rest, line = name ++ (gap ++ rest) ∧ gap ≠ [] ∧ (∀ c ∈ gap, isSeparator c = true) ∧
    ∀ c ∈ rest.head?, Text.isBlank c = false

theorem isBlank_of_isSeparator {c : Char} (h : isSeparator c = true) : Text.isBlank c = true := by
  simp only [isSeparator, Bool.or_eq_true, beq_iff_eq] at h
  rcases h with ((rfl | rfl) | rfl) | rfl <;> decide

theorem isPlain_of_isBlank {c : Char} (h : Text.isBlank c = true) (hc : isSeparator c = false) :
    isPlain c = true := by
  have hsingle : Text.isBlank '\'' = false := by decide
  have hdouble : Text.isBlank '"' = false := by decide
  have hbackslash : Text.isBlank '\\' = false := by decide
  simp only [isPlain, Bool.and_eq_true, Bool.not_eq_true', bne_iff_ne]
  refine ⟨⟨⟨hc, ?_⟩, ?_⟩, ?_⟩ <;> rintro rfl <;> simp_all

theorem splitFrom_gap_between {gap : List Char} (hgap : ∀ c ∈ gap, isSeparator c = true)
    (rest : List Char) : splitFrom .between [] (gap ++ rest) = splitFrom .between [] rest := by
  induction gap with
  | nil => rfl
  | cons c gap ih =>
    obtain ⟨hc, hgap⟩ := List.forall_mem_cons.1 hgap
    have hbackslash : c ≠ '\\' := by
      rintro rfl
      exact absurd hc (by decide)
    rw [List.cons_append, splitFrom_between_cons hbackslash, if_pos hc, ih hgap]

theorem splitFrom_gap_inWord {gap : List Char} (hne : gap ≠ [])
    (hgap : ∀ c ∈ gap, isSeparator c = true) (word rest : List Char) :
    splitFrom .inWord word (gap ++ rest) =
      (splitFrom .between [] rest).map (String.ofList word.reverse :: ·) := by
  obtain ⟨c, gap, rfl⟩ := List.exists_cons_of_ne_nil hne
  obtain ⟨hc, hgap⟩ := List.forall_mem_cons.1 hgap
  have hbackslash : c ≠ '\\' := by
    rintro rfl
    exact absurd hc (by decide)
  rw [List.cons_append, splitFrom_inWord_cons hbackslash, if_pos hc, splitFrom_gap_between hgap]

section Cut

variable {name line : List Char} {ws : List String}

/-- Behind a word that is typed plainly the other words are left. -/
theorem IsPlainlyBefore.splitFrom_drop (h : IsPlainlyBefore name line) (hne : name ≠ [])
    (hname : ∀ c ∈ name, isPlain c = true) (hline : Text.IsTrimmed line)
    (hwords : splitFrom .between [] line = some (String.ofList name :: ws)) :
    splitFrom .between [] (Text.trimList (line.drop name.length)) = some ws := by
  obtain ⟨gap, rest, rfl, hgapne, hgap, hrest⟩ := h
  have hback : ∀ c ∈ (gap ++ rest).getLast?, Text.isBlank c = false := by
    have hline := hline.back
    rwa [List.getLast?_append_of_ne_nil _ (by simp [hgapne])] at hline
  have hblank : ∀ c ∈ gap, Text.isBlank c = true := fun c hc => isBlank_of_isSeparator (hgap c hc)
  have htrim : Text.trimList (gap ++ rest) = rest := by
    rw [Text.trimList_eq_dropWhile hback, List.dropWhile_append_of_pos hblank]
    cases rest with
    | nil => rfl
    | cons c rest => simp [hrest c rfl]
  rw [splitFrom_between_append hne hname, splitFrom_gap_inWord hgapne hgap, List.reverse_reverse,
    Option.map_eq_some_iff] at hwords
  obtain ⟨ws', hws', heq⟩ := hwords
  rw [List.drop_left, htrim, hws']
  simpa using heq

/-- What is shown of characters apart from where words begin does not depend on whether a word has
begun. -/
theorem reduceOption_shown (cs : List Char) :
    (Mode.inWord.shown cs).reduceOption = (Mode.between.shown cs).reduceOption := by
  cases cs with
  | nil => rfl
  | cons c cs =>
    cases hc : isSeparator c with
    | true => simp [adds, next, hc, isPlain]
    | false => rw [(shown_between hc cs).1, List.reduceOption_cons_of_none]

theorem closes_after_of_blank {m : Mode} {cs : List Char} (hm : m.Closes)
    (hcs : ∀ c ∈ cs, Text.isBlank c = true) : (m.after cs).Closes := by
  induction cs generalizing m with
  | nil => exact hm
  | cons c cs ih =>
    obtain ⟨hc, hcs⟩ := List.forall_mem_cons.1 hcs
    refine ih ?_ hcs
    cases hs : isSeparator c with
    | true => rcases hm with rfl | rfl <;> simp [next, hs, Closes]
    | false =>
      have hplain := (shown_cons_of_plain (isPlain_of_isBlank hc hs)).2
      rcases hm with rfl | rfl <;> exact Or.inr hplain

/-- Blanks behind which the same words follow as with them are separators. -/
theorem isSeparator_of_shown_eq {bs cs : List Char} (hbs : ∀ c ∈ bs, Text.isBlank c = true)
    (h : Mode.inWord.shown (bs ++ cs) = Mode.between.shown cs) :
    ∀ c ∈ bs, isSeparator c = true := by
  have hnone : (Mode.inWord.shown bs).reduceOption = [] := by
    have hsame : ((Mode.inWord.after bs).shown cs).reduceOption =
        (Mode.between.shown cs).reduceOption := by
      rcases closes_after_of_blank (Or.inr rfl) hbs with hafter | hafter <;> rw [hafter]
      exact reduceOption_shown cs
    have hchars := congrArg List.reduceOption h
    rwa [shown_append, List.reduceOption_append, hsame, List.append_left_eq_self] at hchars
  intro c hc
  by_contra hs
  have hplain := isPlain_of_isBlank (hbs c hc) (by simpa using hs)
  have hmem : c ∈ (Mode.inWord.shown bs).reduceOption :=
    List.reduceOption_mem_iff.2 (mem_shown_of_plain hplain hc)
  rw [hnone] at hmem
  exact absurd hmem (by simp)

/-- **What a line shows of its first word and of the others.** -/
theorem exists_firstWord (hname : ∀ c ∈ name, isSeparator c = false) (hline : Text.IsTrimmed line)
    (hwords : splitFrom .between [] line = some (String.ofList name :: ws)) (hws : ws ≠ []) :
    ∃ p cs, line = p ++ cs ∧ p ≠ [] ∧ (∀ c ∈ p, isSeparator c = false) ∧ Chunks cs ∧
      Mode.inWord.shown p = name.map some ∧ Mode.inWord.after p = .inWord ∧
      Mode.inWord.shown cs = marks ws ∧ (Mode.inWord.after cs).Closes := by
  have hseparator : ∀ c, Text.isBlank c = false → isSeparator c = false := by
    intro c hc
    by_contra hs
    rw [isBlank_of_isSeparator (by simpa using hs)] at hc
    exact absurd hc (by simp)
  have hline' : line ≠ [] := by
    rintro rfl
    simp [splitFrom] at hwords
  obtain ⟨g, p, cs, rfl, hg, hpne, hp, hcs⟩ :=
    exists_chunk hline' fun c hc => hseparator c (hline.back c hc)
  obtain rfl : g = [] := by
    rcases g with _ | ⟨c, g⟩
    · rfl
    · have hfront := hseparator c (hline.front c rfl)
      rw [hg c List.mem_cons_self] at hfront
      exact absurd hfront (by simp)
  rw [List.nil_append] at hwords ⊢
  obtain ⟨hcloses, hshown⟩ := marks_of_splitFrom hwords
  obtain ⟨w, ws', rfl⟩ := List.exists_cons_of_ne_nil hws
  -- The line begins with the first word, and goes on with where the second one begins.
  have hinWord : Mode.inWord.shown (p ++ cs) = name.map some ++ marks (w :: ws') ∧
      Mode.between.after (p ++ cs) = Mode.inWord.after (p ++ cs) := by
    obtain ⟨c, p, rfl⟩ := List.exists_cons_of_ne_nil hpne
    obtain ⟨hbegins, hafter⟩ := shown_between (hp c List.mem_cons_self) (p ++ cs)
    rw [List.cons_append, hbegins] at hshown
    exact ⟨by simpa [marks] using hshown, hafter⟩
  obtain ⟨hshown, hafter⟩ := hinWord
  obtain ⟨hfirst, hclosed⟩ := shown_firstWord hp hcs hname (by simpa [marks] using hshown)
  refine ⟨p, cs, rfl, hpne, hp, hcs, hfirst, hclosed, ?_, ?_⟩
  · rwa [shown_append, hfirst, hclosed, List.append_cancel_left_eq] at hshown
  · rwa [hafter, after_append, hclosed] at hcloses

/-- What is left of the first word begins a word: other words are left than those behind it. -/
theorem shown_ne_of_left {q cs : List Char} (hqne : q ≠ []) (hq : ∀ c ∈ q, isSeparator c = false)
    (hcs : Chunks cs) (hcloses : (Mode.inWord.after cs).Closes)
    (hcloses' : (Mode.between.after (q ++ cs)).Closes) :
    Mode.between.shown (q ++ cs) ≠ Mode.inWord.shown cs := by
  intro hsame
  rw [shown_append] at hsame
  rw [after_append] at hcloses'
  have hsettled : Settled (q.getLast hqne) .inWord [] := ⟨by simp, by simp⟩
  have hnothing := hsettled.eq_of_chunks hcs (settled_append .between [] hqne) hcloses hcloses'
    (by simpa using hsame.symm)
  obtain ⟨c, q, rfl⟩ := List.exists_cons_of_ne_nil hqne
  rw [(shown_between (hq c List.mem_cons_self) q).1] at hnothing
  simp [pending] at hnothing

/-- Blanks behind a word are separators if without them the same words follow. -/
theorem isPlainlyBefore_of_shown {cs : List Char} (hcs : Chunks cs) (hne : cs ≠ [])
    (h : Mode.inWord.shown cs = Mode.between.shown (cs.dropWhile Text.isBlank)) :
    IsPlainlyBefore name (name ++ cs) := by
  have hblank : ∀ c ∈ cs.takeWhile Text.isBlank, Text.isBlank c = true :=
    fun _ hc => List.mem_takeWhile_imp hc
  have hgap : ∀ c ∈ cs.takeWhile Text.isBlank, isSeparator c = true :=
    isSeparator_of_shown_eq hblank (by rw [List.takeWhile_append_dropWhile, h])
  refine ⟨cs.takeWhile Text.isBlank, cs.dropWhile Text.isBlank, ?_, ?_, hgap, ?_⟩
  · rw [List.takeWhile_append_dropWhile]
  · cases hcs with
    | nil => exact absurd rfl hne
    | @cons g y cs hgne hg _ _ _ =>
      obtain ⟨c, g, rfl⟩ := List.exists_cons_of_ne_nil hgne
      simp [isBlank_of_isSeparator (hg c List.mem_cons_self)]
  · intro c hc
    have hfront := List.head?_dropWhile_not Text.isBlank cs
    rw [Option.mem_def.1 hc] at hfront
    simpa using hfront

/-- **Cutting the first word off by its length** leaves the other words exactly if it is typed
plainly. -/
theorem splitFrom_drop_iff (hne : name ≠ [])
    (hname : ∀ c ∈ name, isPlain c = true ∧ Text.isBlank c = false) (hline : Text.IsTrimmed line)
    (hwords : splitFrom .between [] line = some (String.ofList name :: ws)) (hws : ws ≠ []) :
    splitFrom .between [] (Text.trimList (line.drop name.length)) = some ws ↔
      IsPlainlyBefore name line := by
  refine ⟨fun hdrop => ?_,
    fun h => h.splitFrom_drop hne (fun c hc => (hname c hc).1) hline hwords⟩
  have hseparator : ∀ c ∈ name, isSeparator c = false := by
    intro c hc
    have hplain := (hname c hc).1
    simp only [isPlain, Bool.and_eq_true, Bool.not_eq_true'] at hplain
    exact hplain.1.1.1
  obtain ⟨p, cs, rfl, -, hp, hcs, hfirst, hinWord, hrest, hcloses⟩ :=
    exists_firstWord hseparator hline hwords hws
  obtain ⟨hle, htight⟩ := length_shown_le (by simp) hp hinWord
  rw [hfirst, List.length_map] at hle htight
  have hle : name.length ≤ p.length := hle
  obtain ⟨hcloses', hshown⟩ := marks_of_splitFrom hdrop
  rw [List.drop_append_of_le_length hle, ← hrest] at hshown
  rw [List.drop_append_of_le_length hle] at hcloses'
  have hcsne : cs ≠ [] := by
    rintro rfl
    obtain ⟨w, ws', rfl⟩ := List.exists_cons_of_ne_nil hws
    simp [marks] at hrest
  have hback : ∀ c ∈ (p.drop name.length ++ cs).getLast?, Text.isBlank c = false := by
    have hback := hline.back
    rw [List.getLast?_append_of_ne_nil _ hcsne] at hback ⊢
    exact hback
  rw [Text.trimList_eq_dropWhile hback] at hshown hcloses'
  by_cases hleft : p.drop name.length = []
  · -- The first word is typed as it is.
    have hpname : name = p := by
      have hsame := htight rfl (le_antisymm hle (List.drop_eq_nil_iff.1 hleft))
      exact List.map_injective_iff.2 (Option.some_injective _) hsame
    subst hpname
    rw [hleft, List.nil_append] at hshown
    exact isPlainlyBefore_of_shown hcs hcsne hshown.symm
  · -- Something of it is left, and begins with no blank: its blanks would be shown.
    have hq : ∀ c ∈ p.drop name.length, isSeparator c = false := fun c hc =>
      hp c (List.mem_of_mem_drop hc)
    have hqblank : ∀ c ∈ p.drop name.length, Text.isBlank c = false := by
      intro c hc
      by_contra hblank
      have hplain := isPlain_of_isBlank (by simpa using hblank) (hq c hc)
      have hmem := mem_shown_of_plain (m := .inWord) hplain (List.mem_of_mem_drop hc)
      rw [hfirst, List.mem_map] at hmem
      obtain ⟨c', hc', heq⟩ := hmem
      obtain rfl := Option.some.inj heq
      exact hblank (hname c' hc').2
    have hkept : (p.drop name.length ++ cs).dropWhile Text.isBlank = p.drop name.length ++ cs := by
      obtain ⟨c, q, hcq⟩ := List.exists_cons_of_ne_nil hleft
      rw [hcq] at hqblank ⊢
      simp [hqblank c List.mem_cons_self]
    rw [hkept] at hshown hcloses'
    exact absurd hshown (shown_ne_of_left hleft hq hcs hcloses hcloses')

end Cut

end ClusterTutor.CommandLine

import ClusterTutor.Definition.Token

/-!
# Tokens of tokens

Taking the token of a spelling drops all dashes at its front but only one equals sign at
its end, so the token of a token need not be the token itself. This module says when it
is. A token has no dash at its front (`ClusterTutor.undashed_tokenOf`), and it is its own
token exactly when it does not end with an equals sign
(`ClusterTutor.tokenOf_eq_self_iff`). Every text without a dash at its front is the token
of the same text with one more equals sign (`ClusterTutor.tokenOf_padded`).
-/

namespace ClusterTutor

/-- Whether a text has no dash at its front. -/
def Undashed (s : String) : Prop := s.toList.head? ≠ some '-'

/-- Whether a text ends with an equals sign. -/
def EndsWithEquals (s : String) : Prop := s.toList.getLast? = some '='

/-- A spelling with one more equals sign. -/
def padded (s : String) : String := String.ofList (s.toList ++ ['='])

theorem dropDashes_of_undashed {s : String} (h : Undashed s) : dropDashes s = s.toList := by
  unfold dropDashes
  cases hs : s.toList with
  | nil => rfl
  | cons c cs =>
    have hc : ¬c = '-' := fun hc => h (by simp [hs, hc])
    simp [hc]

theorem head?_dropDashes_ne (s : String) : (dropDashes s).head? ≠ some '-' := by
  unfold dropDashes
  intro h
  have := List.head?_dropWhile_not (· == '-') s.toList
  simp [h] at this

theorem head?_dropEquals_ne {cs : List Char} (h : cs.head? ≠ some '-') :
    (dropEquals cs).head? ≠ some '-' := by
  unfold dropEquals
  split
  · cases cs with
    | nil => exact h
    | cons c cs =>
      cases cs with
      | nil => simp
      | cons c' cs => simpa using h
  · exact h

/-- **A token has no dash at its front.** -/
theorem undashed_tokenOf (s : String) : Undashed (tokenOf s) := by
  simpa [Undashed, tokenOf] using head?_dropEquals_ne (head?_dropDashes_ne s)

theorem undashed_padded {s : String} (h : Undashed s) : Undashed (padded s) := by
  unfold Undashed padded at *
  cases hs : s.toList with
  | nil => simp
  | cons c cs => simpa [hs] using h

/-- **One more equals sign is one that is dropped.** -/
theorem tokenOf_padded {s : String} (h : Undashed s) : tokenOf (padded s) = s := by
  rw [tokenOf, dropDashes_of_undashed (undashed_padded h)]
  simp [padded, dropEquals]

/-- A spelling with more dashes at its front has the same token. -/
theorem tokenOf_dashed (n : Nat) (s : String) :
    tokenOf (String.ofList (List.replicate n '-') ++ s) = tokenOf s := by
  have hdrop : dropDashes (String.ofList (List.replicate n '-') ++ s) = dropDashes s := by
    simp [dropDashes, List.dropWhile_append_of_pos]
  rw [tokenOf, hdrop, tokenOf]

/-- **A text without a dash at its front is its own token** exactly when it does not end
with an equals sign. -/
theorem tokenOf_eq_self_iff {s : String} (h : Undashed s) : tokenOf s = s ↔ ¬EndsWithEquals s := by
  rw [tokenOf, dropDashes_of_undashed h, dropEquals]
  by_cases heq : s.toList.getLast? = some '='
  · simp only [heq, if_true, EndsWithEquals, not_true_eq_false, iff_false]
    intro hs
    have hlen := congrArg (fun t : String => t.toList.length) hs
    have hne : s.toList ≠ [] := by
      intro hnil
      simp [hnil] at heq
    have hpos := List.length_pos_iff.2 hne
    simp only [String.toList_ofList, List.length_dropLast] at hlen
    omega
  · simp [heq, EndsWithEquals]

/-- A token without an equals sign is its own token, so that with dashes in front of it, it denotes
the option that declares it. -/
theorem tokenOf_eq_self {t : String} (hundashed : Undashed t) (hequals : '=' ∉ t.toList) :
    tokenOf t = t :=
  (tokenOf_eq_self_iff hundashed).2 fun hlast => hequals (List.mem_of_getLast? hlast)

end ClusterTutor

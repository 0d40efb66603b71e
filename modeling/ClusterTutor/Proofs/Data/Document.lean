import ClusterTutor.Data.Document
import ClusterTutor.Proofs.Data.Except
import ClusterTutor.Proofs.Number.Numeral

/-!
# What a document says can be shown

A value with a whole number of too many digits has no text, and neither has anything that it
stands in. No document holds such a value: its reader refuses the number
(`ClusterTutor.Document.readNumber`), and builds lists and objects from what it has read. So
whatever is read from a document can be shown
(`ClusterTutor.Document.isShowable_of_read`), and the readers of commands, families and labs do
not meet a value without a text there.
-/

namespace ClusterTutor.Document

variable {cs ds rest : List Char} {v : Value} {vs : List Value} {fs : List (String × Value)}
  {n : Nat}

/-- The whole part of a number has digits only. -/
theorem isDigit_of_splitWhole (h : splitWhole cs = some (ds, rest)) :
    ∀ c ∈ ds, c.isDigit = true := by
  unfold splitWhole at h
  split at h
  · obtain ⟨hdigits, -⟩ := Prod.ext_iff.1 (Option.some.inj h)
    subst hdigits
    exact List.forall_mem_singleton.2 rfl
  · dsimp only at h
    split at h
    · cases h
    · obtain ⟨rfl, -⟩ := Prod.ext_iff.1 (Option.some.inj h)
      exact fun c hc => List.mem_takeWhile_imp hc

/-- **A number that is read can be shown.** -/
theorem isShowable_of_readNumber (h : readNumber cs = .ok (v, rest)) : v.isShowable = true := by
  unfold readNumber at h
  dsimp only at h
  split at h
  · cases h
  · rename_i whole after hwhole
    split at h
    · split at h
      · cases h
      · rename_i hlimit
        obtain ⟨rfl, -⟩ := Prod.ext_iff.1 (Except.ok.inj h)
        rw [Value.isShowable, decide_eq_true_iff, apply_ite Int.natAbs, Int.natAbs_neg, ite_self,
          Int.natAbs_natCast]
        exact Numeral.value_lt_of_length_le (isDigit_of_splitWhole hwhole)
          (Nat.le_of_not_lt hlimit)
    · obtain ⟨rfl, -⟩ := Prod.ext_iff.1 (Except.ok.inj h)
      rfl

/-- **What is read in so many steps can be shown.** -/
structure ReadsShowable (n : Nat) : Prop where
  /-- A value. -/
  value : ∀ cs v rest, readValue n cs = .ok (v, rest) → v.isShowable = true
  /-- The items of a list. -/
  items : ∀ cs vs rest, readItems n cs = .ok (vs, rest) → Value.areShowable vs = true
  /-- The fields of an object. -/
  fields : ∀ cs fs rest, readFields n cs = .ok (fs, rest) → Value.haveShowable fs = true

theorem isShowable_of_readLiteral? (h : readLiteral? cs = some (v, rest)) :
    v.isShowable = true := by
  obtain ⟨e, he, hread⟩ := List.exists_of_findSome?_eq_some h
  have hliterals : ∀ e ∈ literals, e.2.isShowable = true := by decide
  obtain ⟨-, hread⟩ := Option.ite_none_right_eq_some.1 hread
  obtain ⟨rfl, -⟩ := Prod.ext_iff.1 (Option.some.inj hread)
  exact hliterals e he

/-- Of the fields that were read, an object keeps some. -/
theorem haveShowable_toList_ofList (h : Value.haveShowable fs = true) :
    Value.haveShowable (OrderedMap.ofList fs).toList = true := by
  rw [Value.haveShowable_iff] at h ⊢
  rintro ⟨name, v⟩ hmem
  exact h _ (OrderedMap.mem_of_get?_ofList ((OrderedMap.mem_toList_iff _ _ _).1 hmem))

namespace ReadsShowable

theorem value_succ (h : ReadsShowable n) (hread : readValue (n + 1) cs = .ok (v, rest)) :
    v.isShowable = true := by
  unfold readValue at hread
  split at hread
  · obtain ⟨r, -, hr⟩ := map_eq_ok.1 hread
    obtain ⟨rfl, -⟩ := Prod.ext_iff.1 hr
    rfl
  · split at hread
    · obtain ⟨rfl, -⟩ := Prod.ext_iff.1 (Except.ok.inj hread)
      rfl
    · obtain ⟨r, hitems, hr⟩ := map_eq_ok.1 hread
      obtain ⟨rfl, -⟩ := Prod.ext_iff.1 hr
      exact h.items _ _ _ hitems
  · split at hread
    · obtain ⟨rfl, -⟩ := Prod.ext_iff.1 (Except.ok.inj hread)
      rfl
    · obtain ⟨r, hfields, hr⟩ := map_eq_ok.1 hread
      obtain ⟨rfl, -⟩ := Prod.ext_iff.1 hr
      exact haveShowable_toList_ofList (h.fields _ _ _ hfields)
  · split at hread
    · rename_i hliteral
      rw [Except.ok.inj hread] at hliteral
      exact isShowable_of_readLiteral? hliteral
    · exact isShowable_of_readNumber hread

theorem items_succ (h : ReadsShowable n) (hread : readItems (n + 1) cs = .ok (vs, rest)) :
    Value.areShowable vs = true := by
  unfold readItems at hread
  split at hread
  · cases hread
  · rename_i hvalue
    split at hread
    · obtain ⟨r, hitems, hr⟩ := map_eq_ok.1 hread
      obtain ⟨rfl, -⟩ := Prod.ext_iff.1 hr
      simp [Value.areShowable, h.value _ _ _ hvalue, h.items _ _ _ hitems]
    · obtain ⟨rfl, -⟩ := Prod.ext_iff.1 (Except.ok.inj hread)
      simp [Value.areShowable, h.value _ _ _ hvalue]
    · cases hread

theorem fields_succ (h : ReadsShowable n) (hread : readFields (n + 1) cs = .ok (fs, rest)) :
    Value.haveShowable fs = true := by
  unfold readFields at hread
  split at hread
  · split at hread
    · cases hread
    · split at hread
      · split at hread
        · cases hread
        · rename_i hvalue
          split at hread
          · obtain ⟨r, hfields, hr⟩ := map_eq_ok.1 hread
            obtain ⟨rfl, -⟩ := Prod.ext_iff.1 hr
            simp [Value.haveShowable, h.value _ _ _ hvalue, h.fields _ _ _ hfields]
          · obtain ⟨rfl, -⟩ := Prod.ext_iff.1 (Except.ok.inj hread)
            simp [Value.haveShowable, h.value _ _ _ hvalue]
          · cases hread
      · cases hread
  · cases hread

end ReadsShowable

/-- However many steps the reader takes, what it reads can be shown. -/
theorem readsShowable (n : Nat) : ReadsShowable n := by
  induction n with
  | zero =>
    refine ⟨fun _ _ _ h => ?_, fun _ _ _ h => ?_, fun _ _ _ h => ?_⟩
    · cases h
    · cases h
    · cases h
  | succ n ih =>
    exact ⟨fun _ _ _ => ih.value_succ, fun _ _ _ => ih.items_succ, fun _ _ _ => ih.fields_succ⟩

/-- **Whatever is read from a document can be shown.** -/
theorem isShowable_of_read {s : String} (h : read s = .ok v) : v.isShowable = true := by
  unfold read at h
  dsimp only at h
  split at h
  · cases h
  · rename_i hvalue
    split at h
    · obtain rfl := Except.ok.inj h
      exact (readsShowable _).value _ _ _ hvalue
    · cases h

end ClusterTutor.Document

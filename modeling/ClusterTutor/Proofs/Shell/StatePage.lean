import ClusterTutor.Proofs.Data.Except
import ClusterTutor.Proofs.Session.ShownNumbers
import ClusterTutor.Shell.Page

/-!
# The page of a state

The fields of a domain are listed in the order of their names. Texts have an order, and so have
numbers, but there is none between a text and a number, nor of the name that is no value. A single
field needs no order. So a state can be listed exactly if the names of each domain are of one kind
that has an order, unless the domain has at most one field
(`ClusterTutor.Page.state_snd_eq_none_iff`).
-/

namespace ClusterTutor

/-- Whether a field has a number as its name. -/
def FieldName.isNumber (name : FieldName) : Bool :=
  name.toValue.magnitude?.isSome

namespace Page

/-- **The fields of a domain have an order**: there is at most one, or their names are all texts,
or all numbers. -/
def IsOrderable (fields : Fields) : Prop :=
  fields.toList.length ≤ 1 ∨ (∀ e ∈ fields.toList, e.1.isText = true) ∨
    ∀ e ∈ fields.toList, e.1.isNumber = true

theorem inOrder?_ne_none_iff {fields : Fields} : inOrder? fields ≠ none ↔ IsOrderable fields := by
  simp only [inOrder?, IsOrderable]
  split
  · rename_i hfew
    exact iff_of_true (Option.some_ne_none _) (.inl hfew)
  · rename_i hmany
    rw [or_iff_right hmany]
    -- The names are read as texts first, and then as numbers.
    split
    · rename_i htexts
      refine iff_of_true (Option.some_ne_none _) (.inl ((mapM_ne_none_iff ?_).1
        (ne_of_eq_of_ne htexts (Option.some_ne_none _))))
      rintro ⟨name, v⟩
      cases name <;> simp [FieldName.isText]
    · rename_i htexts
      have hnot : ¬∀ e ∈ fields.toList, e.1.isText = true := by
        refine fun hall => (mapM_ne_none_iff ?_).2 hall htexts
        rintro ⟨name, v⟩
        cases name <;> simp [FieldName.isText]
      have hnumber : ∀ e : FieldName × Value,
          (e.1.toValue.magnitude?.map fun n => (n, e)) ≠ none ↔ e.1.isNumber = true := fun e => by
        rw [Ne, Option.map_eq_none_iff, FieldName.isNumber, Option.isSome_iff_ne_none]
      rw [or_iff_right hnot, ← mapM_ne_none_iff hnumber]
      split
      · rename_i hnumbers
        rw [hnumbers]
        exact iff_of_true (Option.some_ne_none _) (Option.some_ne_none _)
      · rename_i hnumbers
        exact iff_of_false (fun h => h rfl) fun h => h hnumbers

theorem domainLines_snd_eq_none_iff {ds : List (String × Fields)} :
    (domainLines ds).2 = none ↔ ∀ d ∈ ds, IsOrderable d.2 := by
  induction ds with
  | nil => simp [domainLines]
  | cons d ds ih =>
    rw [List.forall_mem_cons, ← ih, ← inOrder?_ne_none_iff, domainLines]
    cases inOrder? d.2 <;> simp

/-- **A state can be listed** exactly if the fields of each domain have an order. -/
theorem state_snd_eq_none_iff {s : Snapshot} :
    (state s).2 = none ↔ ∀ d ∈ s.toList, IsOrderable d.2 :=
  domainLines_snd_eq_none_iff.trans
    (forall_congr' fun _ => imp_congr_left (Text.perm_sortedBy _ _).mem_iff)

/-- A state with texts as names can be listed. -/
theorem state_snd {s : Snapshot} (h : s.Named) : (state s).2 = none :=
  state_snd_eq_none_iff.2 fun d hd => .inr (.inl (h.forall_mem d hd))

end Page

end ClusterTutor

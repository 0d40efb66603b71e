import ClusterTutor.Definition.Reader
import ClusterTutor.Proofs.Data.Except

/-!
# How reading a definition fails

A catalogue passes over a record that is defective, but not over every defect: two of them
end the load (`ClusterTutor.Defect.isContained`). This module finds out which records have
one of these two.

Of one of them there is none. A field that may be left out is only asked of a value after a
field that is always needed was found in it, hence of an object. The other one is real: an
exit code may be an infinite number, which has no whole part. A record ends a load exactly
if an infinite exit code is the first thing that is wrong with it
(`ClusterTutor.Definition.contained_ofValue_iff`); whatever else is wrong with a record, and
wherever, is passed over.
-/

namespace ClusterTutor

variable {α β : Type}

/-- **A reading of which the failures are passed over**: if it fails, it does so with a
defect that a catalogue contains. -/
def Contained (x : Except Defect α) : Prop := ∀ e, x = .error e → e.isContained = true

namespace Contained

theorem ok (a : α) : Contained (.ok a) := by
  intro e h
  simp at h

theorem error {e : Defect} (h : e.isContained = true) :
    Contained (.error e : Except Defect α) := by
  rintro _ ⟨⟩
  exact h

/-- A sequence of steps is contained if each of them is, after those before it have
succeeded. -/
theorem bind {x : Except Defect α} {f : α → Except Defect β} (hx : Contained x)
    (hf : ∀ a, x = .ok a → Contained (f a)) : Contained (x >>= f) := by
  cases x with
  | error e => exact error (hx e rfl)
  | ok a => exact hf a rfl

/-- Reading a list is contained if reading a part is, after the parts before it were
read. -/
theorem mapM_of_before {f : α → Except Defect β} {xs : List α}
    (h : ∀ before x after, xs = before ++ x :: after → (∀ y ∈ before, ∃ b, f y = .ok b) →
      Contained (f x)) : Contained (xs.mapM f) := by
  induction xs with
  | nil => exact ok []
  | cons x xs ih =>
    rw [List.mapM_cons]
    refine (h [] x xs rfl (by simp)).bind fun b hb => (ih ?_).bind fun bs _ => ok _
    rintro before y after rfl hbefore
    exact h (x :: before) y after rfl (List.forall_mem_cons.2 ⟨⟨b, hb⟩, hbefore⟩)

theorem mapM {f : α → Except Defect β} (h : ∀ x, Contained (f x)) (xs : List α) :
    Contained (xs.mapM f) :=
  mapM_of_before fun _ x _ _ _ => h x

end Contained

/-! ### Fields -/

namespace Value

variable (fields : List (String × Value)) (name : String)

theorem contained_listField : Contained (listField fields name) := by
  unfold listField
  split
  · exact .ok _
  · exact .ok _
  · exact .ok _
  · exact .error rfl

theorem contained_nameField : Contained (nameField fields name) := by
  unfold nameField
  split
  · split
    · exact .error rfl
    · exact .ok _
  · exact .error rfl

theorem contained_toText (v : Value) : Contained v.toText := by
  unfold toText
  split
  · exact .ok _
  · exact .error rfl

theorem contained_trimmed? (o : Option Value) : Contained (trimmed? o) := by
  unfold trimmed?
  split
  · exact .ok _
  · exact .ok _
  · exact (contained_toText _).bind fun _ _ => .ok _

theorem contained_trimmedField : Contained (trimmedField fields name) :=
  contained_trimmed? _

theorem contained_textOr (default : String) : Contained (textOr fields name default) := by
  unfold textOr
  split
  · exact contained_toText _
  · exact .ok _

/-- The text of a field is asked of an object only. -/
theorem contained_textField (default : String) :
    Contained ((Value.object fields).textField name default) := by
  unfold textField
  refine (Contained.ok _).bind fun o _ => ?_
  split
  · exact contained_toText _
  · exact .ok _

theorem contained_required (v : Value) : Contained (v.required name) := by
  unfold required
  split
  · split
    · exact .ok _
    · exact .error rfl
  · exact .error rfl

/-- A field is found in objects only. -/
theorem exists_fields_of_required {v w : Value} {name : String} (h : v.required name = .ok w) :
    ∃ fields, v = .object fields ∧ fields.lookup name = some w := by
  unfold required at h
  split at h
  · rename_i fields
    split at h
    · rename_i hlookup
      obtain rfl := Except.ok.inj h
      exact ⟨fields, rfl, hlookup⟩
    · simp at h
  · simp at h

/-- Whether a value is an infinite number. -/
def IsInfinite (v : Value) : Prop := ∃ negative, v = .float (.infinite negative)

theorem toInt_of_isInfinite {v : Value} (h : v.IsInfinite) : v.toInt = .error .infiniteNumber := by
  obtain ⟨negative, rfl⟩ := h
  rfl

/-- Only infinite numbers have no whole part that could be passed over. -/
theorem contained_toInt {v : Value} (h : ¬v.IsInfinite) : Contained v.toInt := by
  cases v with
  | float x =>
    cases x with
    | infinite negative => exact absurd ⟨negative, rfl⟩ h
    | undefined => exact .error rfl
    | _ => exact .ok _
  | string s =>
    simp only [toInt]
    split
    · exact .ok _
    · exact .error rfl
    · exact .error rfl
  | int n => exact .ok n
  | bool b => exact .ok _
  | _ => exact .error rfl

end Value

/-! ### Parts of a record -/

theorem CommandOption.contained_argumentsOf (o : Option Value) : Contained (argumentsOf o) := by
  unfold argumentsOf
  split
  · exact .ok _
  · exact Value.contained_trimmed? _

theorem CommandOption.contained_ofValue (v : Value) : Contained (CommandOption.ofValue v) := by
  unfold CommandOption.ofValue
  split
  · rename_i fields
    refine (Value.contained_textOr fields "description" "").bind fun _ _ => ?_
    refine (Value.contained_trimmedField fields "short").bind fun _ _ => ?_
    refine (Value.contained_trimmedField fields "long").bind fun _ _ => ?_
    refine (Value.contained_trimmedField fields "flag").bind fun _ _ => ?_
    refine (contained_argumentsOf (fields.lookup "arguments")).bind fun _ _ => ?_
    refine (Value.contained_trimmedField fields "argument_type").bind fun _ _ => ?_
    refine (Value.contained_trimmedField fields "default").bind fun _ _ => ?_
    refine (Value.contained_trimmedField fields "example").bind fun _ _ => ?_
    dsimp only
    split
    · exact .error rfl
    · exact .ok _
  · exact .error rfl

theorem Subcommand.contained_ofValue (v : Value) : Contained (Subcommand.ofValue v) := by
  unfold Subcommand.ofValue
  split
  · rename_i fields
    refine (Value.contained_nameField fields "name").bind fun name _ => ?_
    refine (Value.contained_textOr fields "description" "").bind fun _ _ => ?_
    refine (Value.contained_listField fields "options").bind fun options _ => ?_
    exact (Contained.mapM CommandOption.contained_ofValue options).bind fun _ _ => .ok _
  · exact .error rfl

/-- Whether an exit code is an infinite number. -/
def ExitCode.IsInfinite (v : Value) : Prop :=
  ∃ fields code, v = .object fields ∧ fields.lookup "code" = some code ∧ code.IsInfinite

theorem ExitCode.ofValue_of_isInfinite {v : Value} (h : ExitCode.IsInfinite v) :
    ExitCode.ofValue v = .error .infiniteNumber := by
  obtain ⟨fields, code, rfl, hlookup, hcode⟩ := h
  simp [ExitCode.ofValue, Value.required, hlookup, Value.toInt_of_isInfinite hcode, bind,
    Except.bind]

theorem ExitCode.contained_ofValue {v : Value} (h : ¬ExitCode.IsInfinite v) :
    Contained (ExitCode.ofValue v) := by
  refine (Value.contained_required "code" v).bind fun code hcode => ?_
  obtain ⟨fields, rfl, hlookup⟩ := Value.exists_fields_of_required hcode
  have hfinite : ¬code.IsInfinite := fun hinf => h ⟨fields, code, rfl, hlookup, hinf⟩
  -- The record has a field, so it is an object, and the meaning may be left out.
  refine (Value.contained_toInt hfinite).bind fun n _ => ?_
  exact (Value.contained_textField fields "meaning" "").bind fun _ _ => .ok _

theorem UsagePattern.contained_ofValue (v : Value) : Contained (UsagePattern.ofValue v) := by
  refine (Value.contained_required "command" v).bind fun command hcommand => ?_
  obtain ⟨fields, rfl, -⟩ := Value.exists_fields_of_required hcommand
  refine (Value.contained_toText command).bind fun _ _ => ?_
  exact (Value.contained_textField fields "description" "").bind fun _ _ => .ok _

theorem KnownError.contained_ofValue (v : Value) : Contained (KnownError.ofValue v) := by
  refine (Value.contained_required "message" v).bind fun message hmessage => ?_
  obtain ⟨fields, rfl, -⟩ := Value.exists_fields_of_required hmessage
  refine (Value.contained_toText message).bind fun _ _ => ?_
  refine (Value.contained_textField fields "meaning" "").bind fun _ _ => ?_
  exact (Value.contained_trimmed? (fields.lookup "resolution")).bind fun _ _ => .ok _

theorem Effect.contained_ofValue (v : Value) : Contained (Effect.ofValue v) := by
  unfold Effect.ofValue
  split
  · rename_i fields
    -- Whatever became of the flags, the rest is read in the same way.
    have hrest : ∀ flags, Contained (do
        let domain ← Value.nameField fields "state_domain"
        let written ← (← Value.listField fields "fields").mapM Value.toText
        let privilege ← Value.trimmedField fields "requires_privilege"
        return ({ domain, flags, fields := written, privilege } : Effect)) := by
      intro flags
      refine (Value.contained_nameField fields "state_domain").bind fun domain _ => ?_
      refine (Value.contained_listField fields "fields").bind fun names _ => ?_
      refine (Contained.mapM Value.contained_toText names).bind fun written _ => ?_
      exact (Value.contained_trimmedField fields "requires_privilege").bind fun _ _ => .ok _
    split
    · exact hrest none
    · exact hrest none
    · refine (Value.contained_listField fields "requires_flags").bind fun names _ => ?_
      exact (Contained.mapM Value.contained_toText names).bind fun texts _ => hrest _
  · exact .error rfl

theorem Interactions.contained_ofValue (o : Option Value) :
    Contained (Interactions.ofValue? o) := by
  unfold Interactions.ofValue?
  split
  · exact .ok _
  · exact .ok _
  · rename_i fields
    refine (Value.contained_listField fields "reads_from").bind fun rs _ => ?_
    refine (Contained.mapM Effect.contained_ofValue rs).bind fun reads _ => ?_
    refine (Value.contained_listField fields "writes_to").bind fun ws _ => ?_
    exact (Contained.mapM Effect.contained_ofValue ws).bind fun writes _ => .ok _
  · exact .error rfl

theorem PermissionNotes.contained_ofValue (o : Option Value) :
    Contained (PermissionNotes.ofValue? o) := by
  unfold PermissionNotes.ofValue?
  split
  · exact .ok _
  · exact .ok _
  · rename_i fields
    refine (Value.contained_trimmedField fields "read_operations").bind fun _ _ => ?_
    refine (Value.contained_trimmedField fields "write_operations").bind fun _ _ => ?_
    exact (Value.contained_trimmedField fields "notes").bind fun _ _ => .ok _
  · exact .error rfl

/-! ### Records -/

namespace Definition

/-- **The parts of a record that are read before its exit codes are in order.** -/
structure ReadsToExitCodes (fields : List (String × Value)) : Prop where
  /-- The command has a name. -/
  command : ∃ command, Value.nameField fields "command" = .ok command
  /-- The category exists. -/
  category : ∃ category, Value.textOr fields "category" "general" = .ok category ∧
    categories.contains category = true
  /-- The options are read, and no two of them share a spelling. -/
  options : ∃ vs options, Value.listField fields "global_options" = .ok vs ∧
    vs.mapM CommandOption.ofValue = .ok options ∧ repeatedToken? options = none
  /-- The subcommands are read, and no two of them share their name. -/
  subcommands : ∃ vs subcommands, Value.listField fields "subcommands" = .ok vs ∧
    vs.mapM Subcommand.ofValue = .ok subcommands ∧
    Text.allDistinct (subcommands.map Subcommand.name) = true
  /-- What the command is for can be told. -/
  description : ∃ description, Value.textOr fields "description" "" = .ok description
  /-- How it is used can be told. -/
  synopsis : ∀ command, Value.nameField fields "command" = .ok command →
    ∃ synopsis, Value.textOr fields "synopsis" command = .ok synopsis

/-- **A record that ends a load**: the first thing that is wrong with it is an infinite exit
code. -/
def EndsLoad (record : Value) : Prop :=
  ∃ fields before code after, record = .object fields ∧ ReadsToExitCodes fields ∧
    Value.listField fields "exit_codes" = .ok (before ++ code :: after) ∧
    (∀ earlier ∈ before, ∃ c, ExitCode.ofValue earlier = .ok c) ∧ ExitCode.IsInfinite code

theorem ofValue_of_endsLoad {record : Value} (h : EndsLoad record) :
    ofValue record = .error .infiniteNumber := by
  obtain ⟨fields, before, code, after, rfl, hreads, hcodes, hbefore, hcode⟩ := h
  obtain ⟨⟨command, hcommand⟩, ⟨category, hcategory, hknown⟩, ⟨os, options, hos, hoptions, htoken⟩,
    ⟨ss, subcommands, hss, hsubcommands, hdistinct⟩, ⟨description, hdescription⟩, hsynopsis⟩ :=
    hreads
  obtain ⟨synopsis, hsynopsis⟩ := hsynopsis command hcommand
  have hlist : (before ++ code :: after).mapM ExitCode.ofValue = .error .infiniteNumber :=
    mapM_eq_error hbefore (ExitCode.ofValue_of_isInfinite hcode)
  simp only [ofValue, hcommand, hcategory, hknown, if_true, hos, hoptions, htoken, hss,
    hsubcommands, hdistinct, hdescription, hsynopsis, hcodes, hlist, bind, Except.bind]

/-- The exit codes of every other record are read, or the record is passed over. -/
theorem contained_exitCodes {fields : List (String × Value)} (h : ¬EndsLoad (.object fields))
    (hreads : ReadsToExitCodes fields) {codes : List Value}
    (hcodes : Value.listField fields "exit_codes" = .ok codes) :
    Contained (codes.mapM ExitCode.ofValue) := by
  -- An infinite exit code comes first, or after one that is wrong in another way.
  refine Contained.mapM_of_before fun before code after hsplit hbefore => ?_
  refine ExitCode.contained_ofValue fun hcode => h ?_
  exact ⟨fields, before, code, after, rfl, hreads, hsplit ▸ hcodes, hbefore, hcode⟩

/-- Every other record is read, or passed over. -/
theorem contained_ofValue {record : Value} (h : ¬EndsLoad record) :
    Contained (ofValue record) := by
  unfold ofValue
  split
  · rename_i fields
    refine (Value.contained_nameField fields "command").bind fun command hcommand => ?_
    refine (Value.contained_textOr fields "category" "general").bind fun category hcategory => ?_
    dsimp only
    split
    · rename_i hknown
      refine (Value.contained_listField fields "global_options").bind fun os hos => ?_
      refine (Contained.mapM CommandOption.contained_ofValue os).bind fun options hoptions => ?_
      cases htoken : repeatedToken? options with
      | some token => exact Contained.error rfl
      | none =>
        refine (Value.contained_listField fields "subcommands").bind fun ss hss => ?_
        refine (Contained.mapM Subcommand.contained_ofValue ss).bind fun subcommands hsub => ?_
        split
        · rename_i hdistinct
          refine (Value.contained_textOr fields "description" "").bind fun description hdesc => ?_
          refine (Value.contained_textOr fields "synopsis" command).bind fun synopsis hsyn => ?_
          -- Everything before the exit codes is in order, so they are the ones to look at.
          have hreads : ReadsToExitCodes fields := {
            command := ⟨command, hcommand⟩
            category := ⟨category, hcategory, hknown⟩
            options := ⟨os, options, hos, hoptions, htoken⟩
            subcommands := ⟨ss, subcommands, hss, hsub, hdistinct⟩
            description := ⟨description, hdesc⟩
            synopsis := fun _ h => ⟨synopsis, by rwa [← Except.ok.inj (hcommand.symm.trans h)]⟩ }
          refine (Value.contained_listField fields "exit_codes").bind fun codes hcodes => ?_
          refine (contained_exitCodes h hreads hcodes).bind fun _ _ => ?_
          refine (Value.contained_listField fields "common_usage_patterns").bind fun us _ => ?_
          refine (Contained.mapM UsagePattern.contained_ofValue us).bind fun _ _ => ?_
          refine (Value.contained_listField fields "error_messages").bind fun es _ => ?_
          refine (Contained.mapM KnownError.contained_ofValue es).bind fun _ _ => ?_
          refine (Interactions.contained_ofValue _).bind fun _ _ => ?_
          exact (PermissionNotes.contained_ofValue _).bind fun _ _ => .ok _
        · exact Contained.error rfl
    · exact Contained.error rfl
  · exact .error rfl

/-- **A record ends a load exactly if an infinite exit code is the first thing that is wrong
with it.** -/
theorem contained_ofValue_iff (record : Value) : Contained (ofValue record) ↔ ¬EndsLoad record := by
  refine ⟨fun hcontained hends => ?_, contained_ofValue⟩
  exact absurd (hcontained _ (ofValue_of_endsLoad hends)) (by decide)

end Definition

end ClusterTutor

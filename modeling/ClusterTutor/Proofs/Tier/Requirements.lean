import ClusterTutor.Content.Families
import ClusterTutor.Proofs.Progress.Folds
import ClusterTutor.Proofs.Tier.Calls
import ClusterTutor.Proofs.Tier.Progress
import Mathlib

/-!
# What is missing for a tier

A locked tier is shown with what is missing for it. The message looks at the quiz, the tools and
the gate on its own, and not at what locked the tier; that it names the right things is a fact
about both.

A tier of a family has *requirements* (`ClusterTutor.Requirement.needed`): the quiz, each tool,
and for the third tier the gate. Each of them is met by progress or not
(`ClusterTutor.Requirement.isMet`), and those that are not are the *unmet* ones.

| | |
|---|---|
| the message lists the unmet requirements, in order | `ClusterTutor.TierFacts.requirements_eq` |
| a tier is earned if there are none | `ClusterTutor.TierFacts.earned_iff` |
| a requirement that is met stays so | `ClusterTutor.TierFacts.GrowsTo.isMet` |
| all of them can be met | `ClusterTutor.TierFacts.exists_growsTo` |

So a locked tier has unmet requirements, which are listed, and progress that meets them opens the
tier (`ClusterTutor.TierFacts.lists_of_locked`). A recorded tier can only unlock more, and no
requirement is listed for a tier that is unlocked.
-/

namespace ClusterTutor

/-! ### Requirements -/

/-- What a tier of a family may require. -/
inductive Requirement where
  /-- A quiz of the family with a score that is a pass. -/
  | quiz
  /-- A use of a tool of the family. -/
  | tool (name : String)
  /-- The explanation gate of the second tier, passed. -/
  | gate
deriving DecidableEq

namespace Requirement

/-- **The requirements of a tier of a family**: the quiz, every tool in the order of the family,
and for the third tier the gate. -/
def needed (f : Family) (tier : Int) : List Requirement :=
  .quiz :: f.toolNames.map .tool ++ if tier = 3 then [.gate] else []

/-- Whether a requirement of a tier of a family is met. -/
def isMet (s : TierFacts) (f : Family) : Requirement → Bool
  | .quiz => s.quizPassed f.id
  | .tool name => ((s.toolsUsed.get? f.id).getD .empty).contains name
  | .gate => s.gatePassed f.id 2

/-- The tool that a requirement is about. -/
def tool? : Requirement → Option String
  | .tool name => some name
  | _ => none

end Requirement

namespace TierFacts

variable {s s' : TierFacts} {families : Families} {id : String} {f : Family} {tier : Int}

/-- **The unmet requirements** of a tier of a family, in order. -/
def unmet (s : TierFacts) (f : Family) (tier : Int) : List Requirement :=
  (Requirement.needed f tier).filter fun r => !r.isMet s f

theorem mem_unmet {r : Requirement} :
    r ∈ s.unmet f tier ↔ r ∈ Requirement.needed f tier ∧ r.isMet s f = false := by
  simp [unmet]

/-- The request for a quiz of a family, with the best score so far if there is one. -/
def quizPhrase (s : TierFacts) (f : Family) : String :=
  let best := (s.quizzes.get? f.id).elim "" fun r => s!" (best {r.score.toPlaces 0}%)"
  s!"score at least {quizThreshold}% on the {f.name} quiz{best}"

/-- The items that stand for some requirements in a message: one for the quiz, one for all
tools, one for the gate. -/
def phrases (s : TierFacts) (f : Family) (rs : List Requirement) : List String :=
  (if .quiz ∈ rs then [s.quizPhrase f] else []) ++
    (if rs.filterMap Requirement.tool? = [] then []
      else ["use " ++ ", ".intercalate (rs.filterMap Requirement.tool?)]) ++
    if .gate ∈ rs then ["pass the tier 2 explanation gate"] else []

/-- **What is told of a locked tier.** The message lists the unmet requirements, of which there
are some; progress that meets them opens the tier, and there can be such progress. -/
structure Lists (s : TierFacts) (families : Families) (id : String) (f : Family) (tier : Int) :
    Prop where
  /-- Something is missing. -/
  unmet_ne_nil : s.unmet f tier ≠ []
  /-- What is missing is what the message lists. -/
  message : s.requirementMessage families id tier =
    s!"To unlock tier {tier} of {f.name}: " ++
      "; ".intercalate (s.phrases f (s.unmet f tier)) ++ "."
  /-- It is enough for the tier. -/
  opens : ∀ s', s.GrowsTo s' → (∀ r ∈ s.unmet f tier, r.isMet s' f = true) →
    s'.isUnlocked families id tier = true
  /-- It can be brought about. -/
  attainable : ∃ s', s.GrowsTo s' ∧ ∀ r ∈ s.unmet f tier, r.isMet s' f = true

/-! ### The message -/

/-- What is unmet, by the kind of requirement. -/
theorem unmet_eq (s : TierFacts) (f : Family) (tier : Int) :
    s.unmet f tier = (if s.quizPassed f.id = true then [] else [.quiz]) ++
      (s.missingTools f).map .tool ++
      if tier = 3 ∧ s.gatePassed f.id 2 = false then [.gate] else [] := by
  have hquiz : ([Requirement.quiz].filter fun r => !r.isMet s f) =
      if s.quizPassed f.id = true then [] else [.quiz] := by
    cases hpassed : s.quizPassed f.id <;> simp [Requirement.isMet, hpassed]
  have htools : ((f.toolNames.map Requirement.tool).filter fun r => !r.isMet s f) =
      (s.missingTools f).map .tool := List.filter_map
  have hgate : (if tier = 3 then [Requirement.gate] else []).filter (fun r => !r.isMet s f) =
      if tier = 3 ∧ s.gatePassed f.id 2 = false then [.gate] else [] := by
    by_cases hthree : tier = 3 <;> cases hpassed : s.gatePassed f.id 2 <;>
      simp [Requirement.isMet, hthree, hpassed]
  rw [← hquiz, ← htools, ← hgate, ← List.filter_append, ← List.filter_append]
  rfl

/-- The tools that are listed are those that were not used, in the order of the family. -/
theorem filterMap_tool?_unmet (s : TierFacts) (f : Family) (tier : Int) :
    (s.unmet f tier).filterMap Requirement.tool? = s.missingTools f := by
  have htools : ((s.missingTools f).map Requirement.tool).filterMap Requirement.tool? =
      s.missingTools f := by
    rw [List.filterMap_map]
    exact List.filterMap_some
  have hquiz : [Requirement.quiz].filterMap Requirement.tool? = [] := rfl
  have hgate : [Requirement.gate].filterMap Requirement.tool? = [] := rfl
  rw [unmet_eq, List.filterMap_append, List.filterMap_append, htools]
  split <;> split <;> simp [hquiz, hgate]

/-- **The message lists the unmet requirements.** -/
theorem requirements_eq (s : TierFacts) (f : Family) (hmax : tier ≤ maxTier) :
    s.requirements f.id f tier = s.phrases f (s.unmet f tier) := by
  have hthree : tier = 3 ↔ 3 ≤ tier := ⟨fun h => h.ge, fun h => le_antisymm hmax h⟩
  have hquiz : Requirement.quiz ∈ s.unmet f tier ↔ ¬s.quizPassed f.id = true := by
    simp [mem_unmet, Requirement.needed, Requirement.isMet]
  have hgate : Requirement.gate ∈ s.unmet f tier ↔
      (decide (3 ≤ tier) && !s.gatePassed f.id 2) = true := by
    simp [mem_unmet, Requirement.needed, Requirement.isMet, hthree]
  rw [phrases, filterMap_tool?_unmet]
  refine congrArg₂ (· ++ ·) (congrArg₂ (· ++ ·) ?_ ?_) ?_
  · simp only [hquiz, ite_not]
    rfl
  · simp only [List.isEmpty_iff]
  · simp only [hgate]

/-! ### Progress that meets requirements -/

/-- **A tier is earned if nothing is unmet.** -/
theorem earned_iff (s : TierFacts) (f : Family) (hmin : 2 ≤ tier) (hmax : tier ≤ maxTier) :
    s.earned f.id f tier = true ↔ s.unmet f tier = [] := by
  have hcases : tier = 2 ∨ tier = 3 := by
    simp only [maxTier] at hmax
    omega
  rw [unmet_eq, earned]
  rcases hcases with rfl | rfl
  · cases s.quizPassed f.id <;> simp
  · cases s.quizPassed f.id <;> cases s.gatePassed f.id 2 <;> simp

/-- **A requirement that is met stays so.** -/
theorem GrowsTo.isMet (h : s.GrowsTo s') {r : Requirement} (hr : r.isMet s f = true) :
    r.isMet s' f = true := by
  cases r with
  | quiz => exact h.quizPassed hr
  | tool name =>
    exact (NameSet.contains_iff _ _).2 (h.tools f.id name ((NameSet.contains_iff _ _).1 hr))
  | gate => exact h.gates f.id 2 hr

theorem gatePassed_iff {family : String} :
    s.gatePassed family tier = true ↔
      ∃ name g, s.gates.get? name = some g ∧ g.passed = true ∧ g.family = family ∧
        g.tier = tier := by
  simp only [gatePassed, OrderedMap.values, List.any_map, List.any_eq_true, Prod.exists,
    OrderedMap.mem_toList_iff, Function.comp_apply, Bool.and_eq_true, beq_iff_eq, and_assoc]

/-- Progress after a good quiz of a family, all of its tools, and its gate, which is recorded
under a name. -/
def fulfilling (s : TierFacts) (f : Family) (gate : String) : TierFacts :=
  { s with
    toolsUsed := s.toolsUsed.insert f.id
      (f.toolNames.foldl NameSet.insert ((s.toolsUsed.get? f.id).getD .empty))
    quizzes := s.quizzes.insert f.id (Store.addQuiz (s.quizzes.get? f.id) true (.ofInt 100))
    gates := s.gates.insert gate ⟨true, "", f.id, 2⟩ }

theorem growsTo_fulfilling (s : TierFacts) (f : Family) {gate : String}
    (hgate : s.gates.get? gate = none) : s.GrowsTo (s.fulfilling f gate) where
  tools family name hname := by
    simp only [fulfilling, OrderedMap.get?_insert]
    split
    · rename_i hid
      subst hid
      rw [Option.getD_some, NameSet.mem_foldl_insert]
      exact Or.inl hname
    · exact hname
  quizzes family r hr hdefined := by
    simp only [fulfilling, OrderedMap.get?_insert]
    split
    · rename_i hid
      subst hid
      refine ⟨_, rfl, ?_⟩
      simp only [Store.addQuiz, hr, Option.map_some, Option.getD_some]
      exact Binary64.le_max_right (by decide +kernel) hdefined
    · exact ⟨r, hr, Binary64.le_refl hdefined⟩
  recorded family tier htier := by
    simp [fulfilling, recordedTier, htier]
  gates family tier hpassed := by
    obtain ⟨name, g, hg, hrest⟩ := gatePassed_iff.1 hpassed
    refine gatePassed_iff.2 ⟨name, g, ?_, hrest⟩
    have hne : gate ≠ name := by
      rintro rfl
      rw [hgate] at hg
      cases hg
    simp [fulfilling, hne, hg]

/-- Whatever a tier of the family may require is met then. -/
theorem isMet_fulfilling (s : TierFacts) (f : Family) (gate : String) {r : Requirement}
    (hr : r ∈ Requirement.needed f tier) : r.isMet (s.fulfilling f gate) f = true := by
  cases r with
  | quiz =>
    have hscore : (Binary64.ofInt 100) ≠ .undefined := by decide +kernel
    have hpass : Binary64.intLe quizThreshold (.ofInt 100) = true := by decide +kernel
    simp [Requirement.isMet, quizPassed, fulfilling, Store.addQuiz, Binary64.intLe_max hscore,
      hpass]
  | tool name =>
    have hname : name ∈ f.toolNames := by
      simpa [Requirement.needed] using hr
    simp [Requirement.isMet, fulfilling, NameSet.contains_iff, NameSet.mem_foldl_insert, hname]
  | gate =>
    exact gatePassed_iff.2 ⟨gate, ⟨true, "", f.id, 2⟩, by simp [fulfilling], rfl, rfl, rfl⟩

/-- **Everything that a tier requires can be met** by progress. -/
theorem exists_growsTo (s : TierFacts) (f : Family) (tier : Int) :
    ∃ s', s.GrowsTo s' ∧ ∀ r ∈ Requirement.needed f tier, r.isMet s' f = true := by
  -- A gate that was passed must not be replaced, so the new one needs a name of its own.
  obtain ⟨gate, hgate⟩ := Infinite.exists_notMem_finset s.gates.keys.toFinset
  have hnone : s.gates.get? gate = none := by
    rw [OrderedMap.get?_eq_none_iff]
    simpa using hgate
  exact ⟨s.fulfilling f gate, s.growsTo_fulfilling f hnone, fun r => s.isMet_fulfilling f gate⟩

/-! ### Locked tiers -/

/-- **A locked tier is told with what is missing for it.** -/
theorem lists_of_locked (hf : families.get? f.id = some f) (hmin : 2 ≤ tier)
    (hmax : tier ≤ maxTier) (hlocked : s.isUnlocked families f.id tier = false) :
    s.Lists families f.id f tier := by
  have hiff : ∀ s : TierFacts, s.isUnlocked families f.id tier = true ↔
      tier ≤ s.recordedTier f.id ∨ s.unmet f tier = [] := by
    intro s
    rw [isUnlocked_iff s families f.id (by omega) hmax, opens, hf, Option.any_some,
      earned_iff s f hmin hmax]
  have hunmet : s.unmet f tier ≠ [] := by
    intro hnil
    rw [(hiff s).2 (Or.inr hnil)] at hlocked
    cases hlocked
  refine ⟨hunmet, ?_, fun s' hgrows hmet => (hiff s').2 (Or.inr ?_), ?_⟩
  · rw [requirementMessage, hlocked, if_neg Bool.false_ne_true, hf, ← requirements_eq s f hmax]
  · -- What is still required then was met before, or was listed and is met now.
    rw [unmet, List.filter_eq_nil_iff]
    intro r hr
    cases hbefore : r.isMet s f with
    | true => simp [hgrows.isMet hbefore]
    | false => simp [hmet r (mem_unmet.2 ⟨hr, hbefore⟩)]
  · obtain ⟨s', hgrows, hmet⟩ := s.exists_growsTo f tier
    exact ⟨s', hgrows, fun r hr => hmet r (mem_unmet.1 hr).1⟩

/-- **The message says that a tier is unlocked exactly if it is.** -/
theorem requirementMessage_eq_unlocked_iff :
    s.requirementMessage families id tier = s!"Tier {tier} is unlocked." ↔
      s.isUnlocked families id tier = true := by
  rw [requirementMessage]
  split
  · rename_i hunlocked
    exact iff_of_true rfl hunlocked
  · rename_i hlocked
    refine iff_of_false (fun heq => ?_) hlocked
    -- The second letter tells the messages apart.
    split at heq
    · have hletter := congrArg (fun message => message.toList[1]?) heq
      simp [toString, String.toList_append] at hletter
    · have hletter := congrArg (fun message => message.toList[1]?) heq
      simp [toString, String.toList_append] at hletter

end TierFacts

/-! ### Rows of the overview -/

namespace Families

variable {families : Families}

theorem Keyed.mem_values_iff (h : families.Keyed) {f : Family} :
    f ∈ families.values ↔ families.get? f.id = some f := by
  simp only [OrderedMap.values, List.mem_map, Prod.exists, OrderedMap.mem_toList_iff,
    exists_eq_right]
  constructor
  · rintro ⟨id, hid⟩
    exact (h id f hid).symm ▸ hid
  · exact fun hf => ⟨f.id, hf⟩

/-- No two families have one name. -/
theorem Keyed.nodup_ids (h : families.Keyed) : (families.values.map Family.id).Nodup := by
  have hkeys : families.values.map Family.id = families.keys := by
    simp only [OrderedMap.values, OrderedMap.keys, List.map_map]
    refine List.map_congr_left fun e he => ?_
    exact h e.1 e.2 ((OrderedMap.mem_toList_iff _ _ _).1 he)
  rw [hkeys]
  exact families.nodup_keys

end Families

namespace Tutor

/-- **How a family is shown in the overview**: by its highest tier, and with what is missing for
the next one, unless there is none. -/
structure ShowsFamily (t : Tutor) (profile : ProfileNumber) (f : Family) (row : TierStatus) :
    Prop where
  /-- The row is about the family. -/
  family : row.family = f
  /-- It shows the highest tier. -/
  highest : row.highest = (t.store.tierFacts profile).highestTier t.families f.id
  /-- Nothing is said of a next tier at the highest one, and only there. -/
  requirement_none : row.requirement = none ↔ row.highest = maxTier
  /-- What is said elsewhere is what is told of the next tier. -/
  requirement_some : row.highest ≠ maxTier →
    row.requirement =
        some ((t.store.tierFacts profile).requirementMessage t.families f.id (row.highest + 1)) ∧
      (t.store.tierFacts profile).Lists t.families f.id f (row.highest + 1)

/-- The row of a family in the overview. -/
def tierStatus (t : Tutor) (profile : ProfileNumber) (f : Family) : TierStatus :=
  let highest := (t.store.tierFacts profile).highestTier t.families f.id
  { family := f
    highest
    requirement :=
      if highest < maxTier then
        some ((t.store.tierFacts profile).requirementMessage t.families f.id (highest + 1))
      else none }

theorem tierStatuses_eq (t : Tutor) (profile : ProfileNumber) :
    t.tierStatuses profile =
      (Text.sortedBy Family.id t.families.values).map (t.tierStatus profile) := rfl

/-- The next tier of a family is locked, and what is missing for it is told. -/
theorem showsFamily_tierStatus (t : Tutor) (profile : ProfileNumber) {f : Family}
    (hf : t.families.get? f.id = some f) : t.ShowsFamily profile f (t.tierStatus profile f) := by
  have hlow := (t.store.tierFacts profile).one_le_highestTier t.families f.id
  have hhigh := (t.store.tierFacts profile).highestTier_le_maxTier t.families f.id
  refine ⟨rfl, rfl, ?_, fun hnext => ?_⟩
  · simp only [tierStatus]
    split
    · rename_i hlt
      exact iff_of_false (Option.some_ne_none _) hlt.ne
    · rename_i hge
      exact iff_of_true rfl (le_antisymm hhigh (not_lt.1 hge))
  · have hlt : (t.store.tierFacts profile).highestTier t.families f.id < maxTier :=
      lt_of_le_of_ne hhigh hnext
    have hlocked : (t.store.tierFacts profile).isUnlocked t.families f.id
        ((t.store.tierFacts profile).highestTier t.families f.id + 1) = false := by
      rw [← Bool.not_eq_true, TierFacts.isUnlocked_iff_le]
      omega
    exact ⟨if_pos hlt, TierFacts.lists_of_locked hf (by simp only [tierStatus]; omega)
      (by simp only [tierStatus]; omega) hlocked⟩

/-- **What is missing for a tier is told, and it is enough.** Of a known family and a tier from
the second one on, the message says that the tier is unlocked exactly if it is, and otherwise it
lists what is unmet. The overview has one row for each family, with nothing about a next tier
exactly at the highest one, and elsewhere with what is missing for it. -/
theorem missing_is_told (t : Tutor) (hkeyed : t.families.Keyed) :
    (∀ (s : TierFacts) (id : String) (f : Family) (tier : Int), t.families.get? id = some f →
      2 ≤ tier → tier ≤ maxTier →
        (s.requirementMessage t.families id tier = s!"Tier {tier} is unlocked." ↔
          s.isUnlocked t.families id tier = true) ∧
        (s.isUnlocked t.families id tier = false → s.Lists t.families id f tier)) ∧
    ∀ profile,
      ((t.tierStatuses profile).map fun row => row.family.id).Pairwise (· < ·) ∧
      (∀ id f, t.families.get? id = some f →
        ∃ row ∈ t.tierStatuses profile, row.family = f) ∧
      ∀ row ∈ t.tierStatuses profile, t.families.get? row.family.id = some row.family ∧
        t.ShowsFamily profile row.family row := by
  refine ⟨fun s id f tier hf hmin hmax => ?_, fun profile => ⟨?_, fun id f hf => ?_, ?_⟩⟩
  · obtain rfl := hkeyed id f hf
    exact ⟨TierFacts.requirementMessage_eq_unlocked_iff, TierFacts.lists_of_locked hf hmin hmax⟩
  · rw [tierStatuses_eq, List.map_map]
    exact List.pairwise_map.2 (Text.increasing_sortedBy hkeyed.nodup_ids)
  · refine ⟨t.tierStatus profile f, ?_, rfl⟩
    rw [tierStatuses_eq]
    refine List.mem_map.2 ⟨f, (Text.perm_sortedBy _ _).mem_iff.2 (hkeyed.mem_values_iff.2 ?_), rfl⟩
    exact (hkeyed id f hf).symm ▸ hf
  · intro row hrow
    rw [tierStatuses_eq] at hrow
    obtain ⟨f, hf, rfl⟩ := List.mem_map.1 hrow
    have hget : t.families.get? f.id = some f :=
      hkeyed.mem_values_iff.1 ((Text.perm_sortedBy _ _).mem_iff.1 hf)
    exact ⟨hget, t.showsFamily_tierStatus profile hget⟩

/-- A learner of the families of the tutor with a weak quiz and one tool. -/
def beginner : Tutor where
  catalogue := ⟨true, .empty⟩
  families := Content.families
  labs := .empty
  store := { Store.markToolUsed {} 1 "gpu-monitoring" "nvtop" with
    quizzes := .ofList [((1, "gpu-monitoring"), ⟨false, .ofInt 60, 1⟩)] }

/-- A beginner is told of the quiz, of two tools and of the gate, and that is enough for the third
tier. -/
theorem beginner_is_told :
    beginner.families.Keyed ∧
    (beginner.store.tierFacts 1).requirementMessage beginner.families "gpu-monitoring" 3 =
      "To unlock tier 3 of GPU Monitoring: score at least 75% on the GPU Monitoring quiz " ++
        "(best 60%); use nvidia-smi, dcgmi; pass the tier 2 explanation gate." ∧
    (beginner.store.tierFacts 1).Lists beginner.families "gpu-monitoring"
      Content.gpuMonitoringFamily 3 := by
  have hkeyed : beginner.families.Keyed := by
    have hentries : ∀ e ∈ Content.families.toList, e.2.id = e.1 := by decide
    exact fun id f hf => hentries (id, f) ((OrderedMap.mem_toList_iff _ _ _).2 hf)
  obtain ⟨hrules, -⟩ := missing_is_told beginner hkeyed
  obtain ⟨-, htold⟩ := hrules (beginner.store.tierFacts 1) "gpu-monitoring"
    Content.gpuMonitoringFamily 3 (by decide) (by decide) (by decide)
  exact ⟨hkeyed, by decide +kernel, htold (by decide +kernel)⟩

end Tutor

end ClusterTutor

import ClusterTutor.Number.Decimal
import ClusterTutor.Shell.Screen
import ClusterTutor.Text.Column

/-!
# Pages

What the shell prints when it comes to a screen, and the reports that it prints on the
way: the list of profiles, the menu, the tables of labs and tiers, the steps of a lab,
and the state of the simulated system.

The fields of a domain are listed in the order of their names. Names of different kinds
have no order among each other, so such a domain cannot be listed
(`ClusterTutor.Page.inOrder?`).
-/

namespace ClusterTutor.Page

/-- Items behind their numbers, which start at one. -/
def numbered (items : List String) : List String :=
  (items.zipIdx 1).map fun e => s!"{e.2}) {e.1}"

/-- A line of dashes under a text. -/
def underline (s : String) : String :=
  String.ofList (List.replicate s.length '-')

/-- The width of the column of some texts under a heading. -/
def columnWidth (heading : String) (texts : List String) : Nat :=
  (texts.map String.length).foldl max heading.length

/-! ### Profiles -/

/-- The list of profiles. -/
def profiles (t : Tutor) : List String :=
  let names := t.store.listProfiles.map Profile.name
  ["\n=== Profiles ==="]
    ++ (if names.isEmpty then ["No profiles yet."] else numbered names)
    ++ ["n) New profile", "d) Delete profile", "q) Quit"]

/-- The list of profiles that can be deleted. -/
def deletion (t : Tutor) : List String :=
  ["\nDelete profile"] ++ numbered (t.store.listProfiles.map Profile.name) ++ ["b) Back"]

/-- The warning before a profile is deleted. -/
def deletionWarning (target : Profile) : String :=
  s!"WARNING: This permanently deletes profile '{target.name}' and all lab and tier progress."

/-! ### The menu -/

/-- The menu of activities. -/
def menu (t : Tutor) (learner : Profile) (m : Moment) : List String :=
  let due := (t.dueReviews learner.id m.now).map Family.name
  ["\n=== Command Lab ===", s!"Profile: {learner.name}"]
    ++ (if due.isEmpty then [] else ["Review due: " ++ ", ".intercalate due])
    ++ ["1) Free terminal", "2) Labs", "3) Tier status", "4) Command reference",
      "5) Record quiz score", "b) Back", "q) Quit"]

/-! ### The terminal -/

/-- The head of the free terminal. -/
def terminal : List String :=
  ["\n=== Terminal ===",
    "Type `help` for commands, :state to inspect the system, :undo to step back, :b to leave."]

/-- Fields in the order of their names, unless the names have no order. -/
def inOrder? (fields : Fields) : Option (List (FieldName × Value)) :=
  let entries := fields.toList
  if entries.length ≤ 1 then some entries
  else
    match entries.mapM fun e => match e.1 with | .text s => some (s, e) | _ => none with
    | some named => some ((Text.sortedBy Prod.fst named).map Prod.snd)
    | none =>
      match entries.mapM fun e => e.1.toValue.magnitude?.map fun n => (n, e) with
      | some numbers => some ((numbers.mergeSort fun a b => a.1.le b.1).map Prod.snd)
      | none => none

/-- The lines about domains, and the fault that stands at their end. -/
def domainLines : List (String × Fields) → List String × Option ShellFault
  | [] => ([], none)
  | (domain, fields) :: rest =>
    match inOrder? fields with
    | none => ([s!"{domain}:"], some .unorderedNames)
    | some entries =>
      let (lines, fault) := domainLines rest
      (s!"{domain}:" :: entries.map (fun e => s!"  {e.1.shown} = {e.2.text}") ++ lines, fault)

/-- The lines about a state, and the fault that stands at their end. -/
def state (s : Snapshot) : List String × Option ShellFault :=
  domainLines (Text.sortedBy Prod.fst s.toList)

/-! ### Labs -/

/-- A row of the table of labs. -/
def labRow (idWidth familyWidth : Nat) (number id family tier steps title : String) : String :=
  " ".intercalate [
    Text.padLeft 2 number, Text.padRight idWidth id, Text.padRight familyWidth family,
    Text.padLeft 4 tier, Text.padLeft 7 steps, title]

/-- The table of labs. -/
def labs (rows : List LabStatus) : List String :=
  let idWidth := columnWidth "Lab" (rows.map (·.lab.id))
  let familyWidth := columnWidth "Family" (rows.map (·.lab.family))
  let header := labRow idWidth familyWidth "#" "Lab" "Family" "Tier" "Steps" "Title"
  let row : LabStatus × Nat → String := fun e =>
    labRow idWidth familyWidth (toString e.2) e.1.lab.id e.1.lab.family (toString e.1.lab.tier)
      s!"{e.1.completedSteps}/{e.1.lab.steps.length}"
      (if e.1.unlocked then e.1.lab.title else s!"{e.1.lab.title} (locked)")
  ["\n=== Labs ===", header, underline header] ++ (rows.zipIdx 1).map row
    ++ ["b) Back", "q) Quit"]

/-- A description, unless it is empty. -/
def described (description : String) : List String :=
  if description.isEmpty then [] else [description]

/-- The head of a lab. -/
def labStart (lab : Lab) : List String :=
  [s!"\nStarting lab: {lab.title}"] ++ described lab.description
    ++ ["Type :hint for a hint, :status for progress, :b to leave the lab."]

/-- The announcement of a step of a lab. -/
def labStep (lab : Lab) (index : Nat) (step : LabStep) : List String :=
  [s!"\nStep {index + 1}/{lab.steps.length}: {step.title}"] ++ described step.description

/-- What is said of the score of a step on request. -/
def stepProgress (score : StepScore) : String :=
  s!"Step progress: {score.percentage}% (pass at {score.passingScore}%)"

/-- What is said when a step is passed. -/
def stepPassed (score : StepScore) : String :=
  s!"Step passed ({score.percentage}%)."

/-! ### Tiers -/

/-- A row of the table of tiers. -/
def tierRow (idWidth : Nat) (id tier next : String) : String :=
  " ".intercalate [Text.padRight idWidth id, Text.padLeft 4 tier, next]

/-- The table of tiers. -/
def tiers (rows : List TierStatus) : List String :=
  let idWidth := columnWidth "Family" (rows.map (·.family.id))
  let header := tierRow idWidth "Family" "Tier" "Next"
  let row : TierStatus → String := fun r =>
    tierRow idWidth r.family.id (toString r.highest) (r.requirement.getD "all tiers unlocked")
  ["\n=== Tier Status ==="]
    ++ if rows.isEmpty then ["No command families defined."]
      else [header, underline header] ++ rows.map row

/-! ### The reference -/

/-- The commands by category. -/
def reference (c : Catalogue) : List String :=
  let line : String → Option String := fun category =>
    match (c.byCategory category).map Definition.command with
    | [] => none
    | names => some (s!"{category}: " ++ ", ".intercalate names)
  ["\n=== Command Reference ==="] ++ categories.filterMap line ++ ["b) Back"]

/-- What is said of a command that is not defined. -/
def noEntry (command : String) : String :=
  s!"No reference entry for '{command}'."

/-! ### Quizzes -/

/-- The families that a quiz may be on, in the order of their short names. -/
def quizFamilies (t : Tutor) : List Family :=
  Text.sortedBy Family.id t.families.values

/-- The list of families. -/
def families (t : Tutor) : List String :=
  ["\n=== Record Quiz Score ==="]
    ++ numbered ((quizFamilies t).map fun f => s!"{f.id} - {f.name}") ++ ["b) Back"]

/-- What is said of a recorded quiz. -/
def quizRecorded (f : Family) (r : QuizResult) : String :=
  let status := if r.passed then "passed" else "not passed"
  s!"{f.name} quiz: best {r.score.toPlaces 0}% ({status}, {r.attempts} attempts)"

end ClusterTutor.Page

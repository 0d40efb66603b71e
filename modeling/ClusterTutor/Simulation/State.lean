import ClusterTutor.Data.Field
import ClusterTutor.Definition.Basic
import ClusterTutor.Text.NameSet

/-!
# Simulated state

The simulated machines are described by named domains, and each domain by fields. A
command that runs writes some fields: what it writes is itself a piece of state, the
*delta*, and the new state is the old one overlaid with it.

One domain does not belong to the state. Writes to `execution_context` change who is
acting: the privilege of the session and the resources allocated to it. Both are texts,
so what is written there has to have one (`ClusterTutor.ExecutionContext.write?`).
-/

namespace ClusterTutor

/-- The state of the simulated machines: fields by domain. -/
abbrev Snapshot := OrderedMap String Fields

namespace Snapshot

/-- The value of a field of a domain. -/
def value? (s : Snapshot) (domain : String) (field : FieldName) : Option Value :=
  (s.get? domain).bind (·.get? field)

/-- Fields written over others. -/
def overlayFields (old new : Fields) : Fields :=
  old.insertAll new.toList

/-- A state with the fields of one domain written over. -/
def overlayDomain (s : Snapshot) (domain : String) (fields : Fields) : Snapshot :=
  s.insert domain (overlayFields ((s.get? domain).getD .empty) fields)

/-- A state written over with another one, field by field. -/
def overlay (s new : Snapshot) : Snapshot :=
  new.toList.foldl (fun s d => s.overlayDomain d.1 d.2) s

theorem value?_overlayDomain (s : Snapshot) (domain domain' : String) (fields : Fields)
    (field : FieldName) :
    (s.overlayDomain domain fields).value? domain' field =
      if domain = domain' then (fields.get? field).or (s.value? domain field)
      else s.value? domain' field := by
  by_cases h : domain = domain'
  · subst h
    cases hs : s.get? domain <;> simp [value?, overlayDomain, overlayFields, hs]
  · simp [value?, overlayDomain, h]

theorem value?_foldl_overlayDomain (s : Snapshot) {ds : List (String × Fields)}
    (h : (ds.map Prod.fst).Nodup) (domain : String) (field : FieldName) :
    (ds.foldl (fun s d => s.overlayDomain d.1 d.2) s).value? domain field =
      ((OrderedMap.findEntry domain ds).bind (·.get? field)).or (s.value? domain field) := by
  induction ds generalizing s with
  | nil => simp [OrderedMap.findEntry]
  | cons d ds ih =>
    obtain ⟨hne, hnd⟩ := List.nodup_cons.1 h
    rw [List.foldl_cons, ih _ hnd, value?_overlayDomain]
    by_cases hd : d.1 = domain
    · have hno : OrderedMap.findEntry domain ds = none := by
        rw [← Option.not_isSome_iff_eq_none, OrderedMap.findEntry_isSome]
        exact hd ▸ hne
      simp [OrderedMap.findEntry, hd, hno]
    · simp [OrderedMap.findEntry, hd]

/-- An overlaid state has the new value of a field where there is one, and the old one
elsewhere. -/
@[simp] theorem value?_overlay (s new : Snapshot) (domain : String) (field : FieldName) :
    (s.overlay new).value? domain field = (new.value? domain field).or (s.value? domain field) :=
  value?_foldl_overlayDomain s new.nodup domain field

/-- Reads the domains of a state, each with its fields. -/
def ofDomains (domains : List (String × Value)) : Except Defect Snapshot :=
  domains.foldlM (fun (s : Snapshot) d => do return s.insert d.1 (← d.2.toFields)) .empty

/-- Reads a state: an object of domains, each with its fields. Whatever counts as
false is the empty state. -/
def ofValue (v : Value) : Except Defect Snapshot :=
  if !v.truthy then .ok .empty
  else match v with
    | .object domains => ofDomains domains
    | _ => .error .optionalFieldOfNonObject

end Snapshot

/-- Who is acting in a session. -/
structure ExecutionContext where
  /-- The privilege. -/
  privilege : String := userPrivilege
  /-- The resources allocated to the session. -/
  allocations : NameSet := .empty
deriving DecidableEq, Inhabited

namespace ExecutionContext

/-- Whether the actor is root. -/
def isElevated (c : ExecutionContext) : Bool :=
  c.privilege == rootPrivilege

/-- The same actor as root. -/
def elevated (c : ExecutionContext) : ExecutionContext :=
  { c with privilege := rootPrivilege }

/-- The domain of which writes change the context. -/
def domain : String := "execution_context"

/-- The set of resources that a written value names, if it can be shown. -/
def allocationsOf? : Value → Option NameSet
  | .array items => (items.mapM Value.shown?).map .ofList
  | v => v.shown?.map fun s => .ofList [s]

/-- A context after fields were written to it, if they can be shown. -/
def write? (c : ExecutionContext) (fields : Fields) : Option ExecutionContext := do
  let privilege ← (fields.get? "privilege").elim (some c.privilege) Value.shown?
  let allocations ← (fields.get? "allocations").elim (some c.allocations) allocationsOf?
  return { privilege, allocations }

end ExecutionContext

end ClusterTutor

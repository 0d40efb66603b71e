import ClusterTutor.Data.Field
import ClusterTutor.Text.Order

/-!
# Families of commands

Tools that are learned together form a family. A tool may belong to several families.
-/

namespace ClusterTutor

/-- A tool of a family. -/
structure Tool where
  /-- The command. -/
  name : String
  /-- What it is good for. -/
  tagline : String := ""
  /-- Who may use it. -/
  permissions : String := "user"
deriving DecidableEq, Repr

/-- A family of tools. -/
structure Family where
  /-- The short name. -/
  id : String
  /-- The name in full. -/
  name : String
  /-- What the family is about. -/
  description : String := ""
  /-- The tools. -/
  tools : List Tool := []
deriving DecidableEq, Repr

/-- Families by their short names. -/
abbrev Families := OrderedMap String Family

namespace Tool

/-- Reads a tool. -/
def ofValue (v : Value) : Except Defect Tool := do
  let name ← (← v.required "name").toText
  let tagline ← v.textField "tagline" ""
  return { name, tagline, permissions := ← v.textField "permissions" "user" }

end Tool

namespace Family

/-- The names of the tools. -/
def toolNames (f : Family) : List String :=
  f.tools.map Tool.name

/-- Reads a family. -/
def ofValue (v : Value) : Except Defect Family := do
  let id ← (← v.required "id").toText
  let name ← (← v.required "name").toText
  let description ← v.textField "description" ""
  let tools ← (← v.partsOfField "tools").mapM Tool.ofValue
  return { id, name, description, tools }

end Family

namespace Families

/-- Reads families, each with a name of its own. -/
def ofValue (v : Value) : Except Defect Families := do
  (← v.partsOfField "families").foldlM (fun (families : Families) item => do
    let f ← Family.ofValue item
    if families.contains f.id then throw (.repeatedFamily f.id)
    return families.insert f.id f) .empty

/-- The short names of the families that a tool belongs to, in order. -/
def ofTool (families : Families) (tool : String) : List String :=
  Text.sorted ((families.values.filter fun f => f.toolNames.contains tool).map Family.id)

end Families

end ClusterTutor

import TagWeave.Config.Schema

/-!
# The schema as a document

The schema in the form of a JSON Schema, for tools that read such documents.
-/

namespace TagWeave.Config

/-- The types of a rule: a name, or a list of several. -/
def typesDocument : List JsonType → Value
  | [type] => .str type.name
  | types => Value.ofStrings (types.map JsonType.name)

/-- The members for what a rule demands beside the type. -/
def Demand.document : Demand → List (String × Value)
  | .none => []
  | .atLeast bound => [("minimum", .int bound)]
  | .above bound => [("exclusiveMinimum", .int bound)]
  | .oneOf choices => [("enum", Value.ofStrings choices)]

/-- The document of a setting. -/
def Setting.document (setting : Setting) : Value :=
  Value.ofFields (("type", typesDocument setting.types) :: setting.demand.document)

/-- The document of a mapping with some members. -/
def objectDocument (members : List (String × Value)) (open? : Bool) : List (String × Value) :=
  [("type", typesDocument [.object]), ("properties", Value.ofFields members),
    ("additionalProperties", .bool open?)]

/-- The document of a section. -/
def Section.document (part : Section) : Value :=
  Value.ofFields
    (objectDocument (part.settings.map fun setting => (setting.name, setting.document)) false)

/-- The document of the schema. -/
def schemaDocument : Entries :=
  (("$schema", Value.str "https://json-schema.org/draft/2020-12/schema") ::
    ("title", Value.str "viewcompose configuration") ::
    objectDocument (schema.map fun part => (part.name, part.document)) true).map
      fun (name, value) => (.str name, value)

end TagWeave.Config

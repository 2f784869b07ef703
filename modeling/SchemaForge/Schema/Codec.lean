import SchemaForge.Json.Decode
import SchemaForge.Schema.Table

/-!
# Definitions as JSON

Tables and everything in them are written as JSON by `toJson` and read by `decoder`.  What a table
does not say is not written: a field without a length has no member `length`, and the text `now`
stands for the default value that is the time of the insert.
-/

namespace SchemaForge

-- powers stay those of the core library where another instance is in scope
attribute [local instance(2000)] instPowNat

open Decoder

/-! ## Names of choices -/

/-- The names that a type is read from. -/
def FieldType.readable : List (String × FieldType) := FieldType.all.map fun t => (t.name, t)

/-- A type by its name. -/
def FieldType.decoder : Decoder FieldType := choice FieldType.readable

/-- The names that an action is read from. -/
def DeleteAction.readable : List (String × DeleteAction) :=
  [DeleteAction.cascade, .setNull, .restrict].map fun a => (a.name, a)

/-- An action by its name. -/
def DeleteAction.decoder : Decoder DeleteAction := choice DeleteAction.readable

/-- The names that a kind of association is read from. -/
def RelationKind.readable : List (String × RelationKind) :=
  [RelationKind.oneToMany, .manyToOne, .manyToMany].map fun k => (k.name, k)

/-- A kind of association by its name. -/
def RelationKind.decoder : Decoder RelationKind := choice RelationKind.readable

/-! ## Default values -/

namespace DefaultValue

/-- The text that stands for the time of the insert. -/
def nowText : String := "now"

/-- A default value as JSON. -/
def toJson : DefaultValue → Json
  | .now => .string nowText
  | .text s => .string s
  | .integer n => .number (.integer n.toInt)
  | .real x => .number (.real x)
  | .boolean b => .boolean b

/-- The integer has 64 bits. -/
def fitsInt64 (n : Int) : Bool := -2 ^ (63 : Nat) ≤ n && n < 2 ^ (63 : Nat)

/-- An integer as a default value; one of more than 64 bits becomes a binary64 number. -/
def ofInteger? (n : Int) : Option DefaultValue :=
  if fitsInt64 n then some (.integer (Int64.ofInt n))
  else (Binary64.ofRatio? (decide (n < 0)) n.natAbs 1).map .real

/-- The default value that a reading without a break shows. -/
def ofReading? : Reading → Option DefaultValue
  | .boolean b => some (.boolean b)
  | .number (.integer n) => ofInteger? n
  | .number (.real x) => some (.real x)
  | .string s => some (if s = nowText then .now else .text s)
  | _ => none

/-- A default value; a fault anywhere inside the value comes before its being of no use. -/
def decoder : Decoder DefaultValue := fun c r =>
  match if c.fromText then r.contentFault? c.depth else none with
  | some fault => .error (.malformed fault)
  | none =>
    match ofReading? r with
    | some v => .ok v
    | none => .error (.noAlternative "RawDefault")

end DefaultValue

/-! ## Foreign keys -/

namespace ForeignKey

/-- A foreign key as JSON. -/
def toJson (key : ForeignKey) : Json :=
  .object ([("target_table", .string key.targetTable), ("target_field", .string key.targetField)]
    ++ Json.optionalMember "on_delete" (key.onDelete.map fun a => .string a.name))

/-- A foreign key of which some parts have been read. -/
structure Draft where
  targetTable : Option String := none
  targetField : Option String := none
  onDelete : Option (Option DeleteAction) := none

/-- The members of a foreign key. -/
def shape : Record Draft where
  name := "ForeignKey"
  closed := false
  slots := [
    ⟨"target_table", true, (·.targetTable.isSome),
      string.map fun v d => { d with targetTable := some v }⟩,
    ⟨"target_field", false, (·.targetField.isSome),
      string.map fun v d => { d with targetField := some v }⟩,
    ⟨"on_delete", false, (·.onDelete.isSome),
      (optional DeleteAction.decoder).map fun v d => { d with onDelete := some v }⟩]

/-- A foreign key; its field is `id` unless it says otherwise. -/
def decoder : Decoder ForeignKey := record shape {} fun d => do
  let targetTable ← need "target_table" d.targetTable
  return ⟨targetTable, d.targetField.getD "id", d.onDelete.getD none⟩

end ForeignKey

/-! ## Fields -/

namespace Field

/-- A field as JSON. -/
def toJson (f : Field) : Json :=
  .object (
    [("name", .string f.name), ("type", .string f.type.name), ("required", .boolean f.required),
      ("unique", .boolean f.unique), ("is_primary_key", .boolean f.isPrimaryKey),
      ("is_auto_increment", .boolean f.isAutoIncrement)]
    ++ Json.optionalMember "length" (f.length.map fun n => Json.nat n.toNat)
    ++ Json.optionalMember "default_value" (f.defaultValue.map DefaultValue.toJson)
    ++ Json.optionalMember "foreign_key" (f.foreignKey.map ForeignKey.toJson))

/-- A field of which some parts have been read. -/
structure Draft where
  name : Option String := none
  type : Option FieldType := none
  required : Option Bool := none
  unique : Option Bool := none
  isPrimaryKey : Option Bool := none
  isAutoIncrement : Option Bool := none
  length : Option (Option UInt32) := none
  defaultValue : Option (Option DefaultValue) := none
  foreignKey : Option (Option ForeignKey) := none

/-- The members of a field. -/
def shape : Record Draft where
  name := "FieldDefinition"
  closed := false
  slots := [
    ⟨"name", true, (·.name.isSome), string.map fun v d => { d with name := some v }⟩,
    ⟨"type", true, (·.type.isSome), FieldType.decoder.map fun v d => { d with type := some v }⟩,
    ⟨"required", false, (·.required.isSome),
      boolean.map fun v d => { d with required := some v }⟩,
    ⟨"unique", false, (·.unique.isSome), boolean.map fun v d => { d with unique := some v }⟩,
    ⟨"is_primary_key", false, (·.isPrimaryKey.isSome),
      boolean.map fun v d => { d with isPrimaryKey := some v }⟩,
    ⟨"is_auto_increment", false, (·.isAutoIncrement.isSome),
      boolean.map fun v d => { d with isAutoIncrement := some v }⟩,
    ⟨"length", false, (·.length.isSome),
      (optional word32).map fun v d => { d with length := some v }⟩,
    ⟨"default_value", false, (·.defaultValue.isSome),
      (optional DefaultValue.decoder).map fun v d => { d with defaultValue := some v }⟩,
    ⟨"foreign_key", false, (·.foreignKey.isSome),
      (optional ForeignKey.decoder).map fun v d => { d with foreignKey := some v }⟩]

/-- A field; it needs a name and a type, and every flag is down unless it says otherwise. -/
def decoder : Decoder Field := record shape {} fun d => do
  let name ← need "name" d.name
  let type ← need "type" d.type
  return {
    name, type
    required := d.required.getD false
    unique := d.unique.getD false
    isPrimaryKey := d.isPrimaryKey.getD false
    isAutoIncrement := d.isAutoIncrement.getD false
    length := d.length.getD none
    defaultValue := d.defaultValue.getD none
    foreignKey := d.foreignKey.getD none }

end Field

/-! ## Tables -/

namespace Relation

/-- An association as JSON. -/
def toJson (r : Relation) : Json :=
  .object [("kind", .string r.kind.name), ("target_table", .string r.targetTable),
    ("field_name", .string r.fieldName)]

/-- An association of which some parts have been read. -/
structure Draft where
  kind : Option RelationKind := none
  targetTable : Option String := none
  fieldName : Option String := none

/-- The members of an association. -/
def shape : Record Draft where
  name := "Relation"
  closed := false
  slots := [
    ⟨"kind", true, (·.kind.isSome), RelationKind.decoder.map fun v d => { d with kind := some v }⟩,
    ⟨"target_table", true, (·.targetTable.isSome),
      string.map fun v d => { d with targetTable := some v }⟩,
    ⟨"field_name", true, (·.fieldName.isSome),
      string.map fun v d => { d with fieldName := some v }⟩]

/-- An association, all of whose members are needed. -/
def decoder : Decoder Relation := record shape {} fun d => do
  let kind ← need "kind" d.kind
  let targetTable ← need "target_table" d.targetTable
  let fieldName ← need "field_name" d.fieldName
  return ⟨kind, targetTable, fieldName⟩

end Relation

namespace Table

/-- A table as JSON; one without associations has no member for them. -/
def toJson (t : Table) : Json :=
  .object (
    [("name", .string t.name), ("display_name", .string t.displayName),
      ("fields", .array (t.fields.map Field.toJson))]
    ++ if t.relations.isEmpty then []
      else [("relations", .array (t.relations.map Relation.toJson))])

/-- A table of which some parts have been read. -/
structure Draft where
  name : Option String := none
  displayName : Option String := none
  fields : Option (List Field) := none
  relations : Option (List Relation) := none

/-- The members of a table. -/
def shape : Record Draft where
  name := "TableDefinition"
  closed := false
  slots := [
    ⟨"name", true, (·.name.isSome), string.map fun v d => { d with name := some v }⟩,
    ⟨"display_name", true, (·.displayName.isSome),
      string.map fun v d => { d with displayName := some v }⟩,
    ⟨"fields", true, (·.fields.isSome),
      (list Field.decoder).map fun v d => { d with fields := some v }⟩,
    ⟨"relations", false, (·.relations.isSome),
      (list Relation.decoder).map fun v d => { d with relations := some v }⟩]

/-- A table; it needs names and a list of fields. -/
def decoder : Decoder Table := record shape {} fun d => do
  let name ← need "name" d.name
  let displayName ← need "display_name" d.displayName
  let fields ← need "fields" d.fields
  return ⟨name, displayName, fields, d.relations.getD []⟩

end Table

end SchemaForge

import SchemaForge.Declaration.Column
import SchemaForge.Target.TypeMap

/-!
# From fields to columns

`lowerField` makes a field ready for a target, `lowerTables` a list of tables.  Tables are lowered
only when every foreign key leads to one of them (`checkReferences`); a field fails when it is
counted up without being the key, or when the target has no type for it.
-/

namespace SchemaForge

/-! ## One field -/

/-- The default of a field: how its key is generated comes before the default it declares. -/
def defaultTokenOf (generation : KeyGeneration) (declared : Option DefaultValue) :
    Option DefaultToken :=
  match generation, declared with
  | .autoIncrement, _ => some .autoIncrement
  | .randomUuid, _ => some .randomUuid
  | .supplied, some .now => some .now
  | .supplied, some value => some (.literal value)
  | .supplied, none => none

/-- The reference of a field of a table. -/
def referenceOf (table : Table) (key : ForeignKey) : Reference :=
  ⟨key.targetTable, key.targetField, key.onDelete, key.targetTable == table.name⟩

/-- The constraints that a field declares by its flags; a primary key has no others. -/
def constraintTokens (f : Field) : List Token :=
  if f.isPrimaryKey then [.primaryKey]
  else (if f.unique then [.unique] else []) ++ (if f.required then [.notNull] else [])

/-- The length of a field, which only a `string` has. -/
def lengthTokens (f : Field) : List Token :=
  if f.type = .string then (f.length.map Token.length).toList else []

/-- The tokens of a field with the given type of the backend, in the order of their slots. -/
def tokensOf (table : Table) (f : Field) (dialect : Dialect) (primitive : String) : List Token :=
  Token.arrange (
    .base primitive
      :: ((f.foreignKey.map fun key => Token.references (referenceOf table key)).toList
        ++ ((defaultTokenOf (f.keyGeneration dialect) f.defaultValue).map Token.default).toList
        ++ constraintTokens f
        ++ lengthTokens f))

/-- A field of a table made ready for a target. -/
def lowerField (table : Table) (f : Field) (target : Target) : Except SchemaError Column :=
  if f.isAutoIncrement && !f.isPrimaryKey then
    .error (.invalidTable table.name (.strayAutoIncrement f.name))
  else
    (target.primitive f.type).map fun primitive =>
      { name := f.name
        type := f.type
        keyGeneration := f.keyGeneration target.dialect
        nullable := f.isNullable
        tokens := tokensOf table f target.dialect primitive }

/-! ## Tables -/

/-- The results of all calls, or the error of the first that fails. -/
def allOrFirstError {α β ε : Type} (f : α → Except ε β) : List α → Except ε (List β)
  | [] => .ok []
  | a :: rest =>
    match f a with
    | .error e => .error e
    | .ok b =>
      match allOrFirstError f rest with
      | .error e => .error e
      | .ok bs => .ok (b :: bs)

/-- A table made ready for a target. -/
def lowerTable (target : Target) (table : Table) : Except SchemaError TableDecl :=
  (allOrFirstError (fun f => lowerField table f target) table.fields).map fun columns =>
    ⟨table, columns⟩

/-- The first foreign key of a table that leads to none of the given tables. -/
def openKey? (tables : List Table) (table : Table) : Option SchemaError :=
  (table.foreignKeys.find? fun k => !tables.any (·.name == k.2.targetTable)).map fun k =>
    .unresolvableKey table.name k.1.name k.2.targetTable

/-- Fails when a foreign key leads out of the tables. -/
def checkReferences (tables : List Table) : Except SchemaError Unit :=
  match tables.findSome? (openKey? tables) with
  | some e => .error e
  | none => .ok ()

/-- Tables made ready for a target, in their order. -/
def lowerTables (target : Target) (tables : List Table) : Except SchemaError (List TableDecl) :=
  match checkReferences tables with
  | .error e => .error e
  | .ok () => allOrFirstError (lowerTable target) tables

end SchemaForge

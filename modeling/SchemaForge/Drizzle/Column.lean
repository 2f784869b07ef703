import SchemaForge.Declaration.Column
import SchemaForge.Drizzle.Types
import SchemaForge.Source.Artifact

/-!
# Column builders

A column of a Drizzle table is a chain of calls: a builder and one call for each further token, in
the order of the tokens.

    varchar('email', { length: 255 }).notNull().unique()

`clauses` is the chain as data and `renderColumn` its text.  A length stands among the options of
the builder; on SQLite a counter is an option of the primary key, so there the default that asks
for it has no call of its own.
-/

namespace SchemaForge.Drizzle

/-! ## The chain -/

/-- A call in the chain of a column. -/
inductive Clause
  | builder (name column : String) (length : Option UInt32) (mode : Option String)
  | primaryKey (autoIncrement : Bool)
  | notNull
  | unique
  | default (value : DefaultToken)
  | references (target : Reference)
  deriving DecidableEq, Repr

/-- The column is a primary key that SQLite counts up. -/
def isCountedKey (c : Column) (dialect : Dialect) : Bool :=
  c.isPrimaryKey && c.default? == some .autoIncrement && dialect == .sqlite

/-- The call for a token of a column, if it has one of its own. -/
def clause? (c : Column) (dialect : Dialect) : Token → Option Clause
  | .base p =>
    some (.builder p c.name (c.length?.or (impliedLength? dialect c.type))
      (columnMode? dialect c.type))
  | .length _ => none
  | .primaryKey => some (.primaryKey (isCountedKey c dialect))
  | .notNull => some .notNull
  | .unique => some .unique
  | .default value =>
    if value = .autoIncrement ∧ dialect = .sqlite then none else some (.default value)
  | .references target => some (.references target)

/-- The chain of a column. -/
def clauses (c : Column) (dialect : Dialect) : List Clause :=
  c.tokens.filterMap (clause? c dialect)

/-! ## Its text -/

/-- The options of a builder. -/
def builderOptions (length : Option UInt32) (mode : Option String) : List String :=
  (length.map fun n => "length: " ++ toString n.toNat).toList
    ++ (mode.map fun m => "mode: " ++ Text.singleQuoted m).toList

/-- The call that sets a default. -/
def defaultCall : DefaultToken → Dialect → String
  | .literal value, _ => ".default(" ++ Source.literal value ++ ")"
  | .now, .sqlite => ".default(sql`(unixepoch())`)"
  | .now, _ => ".defaultNow()"
  | .autoIncrement, .postgresql => ".generatedAlwaysAsIdentity()"
  | .autoIncrement, .mysql => ".autoincrement()"
  | .autoIncrement, .sqlite => ""
  | .randomUuid, .postgresql => ".defaultRandom()"
  | .randomUuid, _ => ".$defaultFn(() => crypto.randomUUID())"

/-- The name of a referential action. -/
def actionName : DeleteAction → String
  | .cascade => "cascade"
  | .setNull => "set null"
  | .restrict => "restrict"

/-- The referenced column: the symbol of its table and its property there. -/
def referenceTarget (r : Reference) : String :=
  symbolOf r.table ++ "." ++ Text.lowerCamel r.field

/-- The callback that gives the referenced column; within one table it needs a type. -/
def referenceCallback (r : Reference) (dialect : Dialect) : String :=
  if r.selfReferencing then "(): " ++ anyColumnType dialect ++ " => " ++ referenceTarget r
  else "() => " ++ referenceTarget r

/-- The text of a call. -/
def Clause.render (dialect : Dialect) : Clause → String
  | .builder name column length mode =>
    let options := builderOptions length mode
    name ++ "(" ++ Text.singleQuoted column
      ++ (if options.isEmpty then ""
        else ", " ++ Source.braced (String.intercalate ", " options))
      ++ ")"
  | .primaryKey autoIncrement =>
    if autoIncrement then ".primaryKey(" ++ Source.braced "autoIncrement: true" ++ ")"
    else ".primaryKey()"
  | .notNull => ".notNull()"
  | .unique => ".unique()"
  | .default value => defaultCall value dialect
  | .references target =>
    ".references(" ++ referenceCallback target dialect
      ++ (match target.onDelete with
        | some action =>
          ", " ++ Source.braced ("onDelete: " ++ Text.singleQuoted (actionName action))
        | none => "")
      ++ ")"

/-- The text of the chain of a column. -/
def renderColumn (c : Column) (dialect : Dialect) : String :=
  String.join ((clauses c dialect).map (Clause.render dialect))

end SchemaForge.Drizzle

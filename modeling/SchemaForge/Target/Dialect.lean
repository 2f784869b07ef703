/-!
# Backends and dialects

A backend is the language that a schema is generated for, a dialect the database below it.
-/

namespace SchemaForge

/-- The language of the generated sources. -/
inductive Backend
  /-- Table builders of Drizzle ORM. -/
  | drizzle
  /-- The schema language of Prisma. -/
  | prisma
  /-- Table interfaces for Kysely. -/
  | kysely
  deriving DecidableEq, Repr

/-- The name of a backend. -/
def Backend.name : Backend → String
  | .drizzle => "drizzle"
  | .prisma => "prisma"
  | .kysely => "kysely"

/-- The database engine. -/
inductive Dialect
  | postgresql
  | mysql
  | sqlite
  deriving DecidableEq, Repr

/-- The name of a dialect. -/
def Dialect.name : Dialect → String
  | .postgresql => "postgresql"
  | .mysql => "mysql"
  | .sqlite => "sqlite"

/-- The names that a dialect is read from; `postgres` is another name of the first. -/
def Dialect.readable : List (String × Dialect) :=
  [("postgres", .postgresql), ("postgresql", .postgresql), ("mysql", .mysql), ("sqlite", .sqlite)]

/-- The names that a backend is read from. -/
def Backend.readable : List (String × Backend) :=
  [("drizzle", .drizzle), ("prisma", .prisma), ("kysely", .kysely)]

/-! ## Connection URLs -/

/-- The text before the first colon, if there is a colon. -/
def urlScheme? (url : String) : Option String :=
  let s := url.toList
  if ':' ∈ s then some (String.ofList (s.takeWhile (· != ':'))) else none

/-- The dialect of a URL scheme in lowercase. -/
def Dialect.ofScheme? (scheme : String) : Option Dialect :=
  if scheme = "postgres" ∨ scheme = "postgresql" then some .postgresql
  else if scheme = "mysql" ∨ scheme = "mariadb" then some .mysql
  else if scheme = "sqlite" ∨ scheme = "file" then some .sqlite
  else none

/-- The dialect that a connection URL implies by its scheme, in any case of ASCII letters. -/
def Dialect.ofDatabaseUrl? (url : String) : Option Dialect :=
  (urlScheme? url).bind fun scheme => Dialect.ofScheme? (scheme.map Char.toLower)

end SchemaForge

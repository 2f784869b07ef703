import SchemaForge.Target.Dialect

/-!
# Packages

The npm packages that a project needs for a backend on a dialect: those of the backend itself, the
driver of the database, and the type declarations of a driver that ships without them.
-/

namespace SchemaForge

/-- What to install to run a project and to develop it. -/
structure Packages where
  dependencies : List String
  devDependencies : List String
  deriving DecidableEq, Repr

/-- The database driver; Prisma brings its own. -/
def Backend.driver? (backend : Backend) (dialect : Dialect) : Option String :=
  match backend, dialect with
  | .prisma, _ => none
  | .drizzle, .postgresql => some "postgres"
  | .kysely, .postgresql => some "pg"
  | _, .mysql => some "mysql2"
  | _, .sqlite => some "better-sqlite3"

/-- The packages of a backend without its driver. -/
def Backend.corePackages : Backend → Packages
  | .drizzle => ⟨["drizzle-orm"], ["drizzle-kit"]⟩
  | .prisma => ⟨["@prisma/client"], ["prisma"]⟩
  | .kysely => ⟨["kysely"], []⟩

/-- The type declarations of a driver, where they are a package of their own. -/
def driverTypes (driver : String) : List String :=
  if driver = "pg" then ["@types/pg"]
  else if driver = "better-sqlite3" then ["@types/better-sqlite3"]
  else []

/-- The packages of a backend on a dialect. -/
def Backend.packages (backend : Backend) (dialect : Dialect) : Packages :=
  let core := backend.corePackages
  let driver := (backend.driver? dialect).toList
  ⟨core.dependencies ++ driver, core.devDependencies ++ driver.flatMap driverTypes⟩

end SchemaForge

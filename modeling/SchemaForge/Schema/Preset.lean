import SchemaForge.Schema.Error

/-!
# Presets and selections

A preset is a named group of table names.  A selection says which tables a request starts from:
those of a preset, or a list of names given outright.
-/

namespace SchemaForge

/-- A named group of tables. -/
structure Preset where
  id : String
  description : String
  tables : List String
  deriving DecidableEq, Repr

namespace Preset

/-- Every preset, in the order of listings. -/
def all : List Preset := [
  ⟨"empty", "No tables", []⟩,
  ⟨"basic", "Users only", ["users"]⟩,
  ⟨"auth", "Users with sessions, linked accounts and profiles",
    ["users", "sessions", "accounts", "profiles"]⟩,
  ⟨"blog", "Posts, comments, tags and categories",
    ["users", "posts", "comments", "categories", "tags", "post_tags"]⟩,
  ⟨"ecommerce", "Product catalog with orders",
    ["users", "categories", "products", "orders", "order_items"]⟩,
  ⟨"saas", "Multi-tenant organizations with memberships and an audit trail",
    ["users", "organizations", "memberships", "audit_logs"]⟩]

/-- The preset of an identifier. -/
def find (id : String) : Except SchemaError Preset :=
  match all.find? (·.id == id) with
  | some p => .ok p
  | none => .error (.unknownPreset id)

/-- The preset of a request that names neither a preset nor tables. -/
def fallback : String := "basic"

end Preset

/-- Which tables a request starts from. -/
inductive Selection
  /-- The tables of a preset. -/
  | preset (id : String)
  /-- Tables by name, whatever the presets are. -/
  | custom (names : List String)
  deriving DecidableEq, Repr

namespace Selection

/-- The names that a selection asks for, in order. -/
def tableNames : Selection → Except SchemaError (List String)
  | .preset id => (Preset.find id).map (·.tables)
  | .custom names => .ok names

/-- The name of a selection in reports. -/
def label : Selection → String
  | .preset id => id
  | .custom _ => "custom"

end Selection

end SchemaForge

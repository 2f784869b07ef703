import SchemaForge.Schema.Table

/-!
# Built-in tables

The tables that every catalog starts with, and from which the presets choose.
-/

namespace SchemaForge

namespace Builtin

/-! ## Fields that recur -/

/-- A required timestamp of the insert. -/
def stamp (name : String) : Field := (Field.plain name .timestamp).mandatory.defaulting .now

/-- When a row was made. -/
def createdAt : Field := stamp "created_at"

/-- When a row was last changed. -/
def updatedAt : Field := stamp "updated_at"

/-- A required reference to the row that this one belongs to. -/
def owner (name target : String) (onDelete : DeleteAction) : Field :=
  (Field.plain name .identifier).mandatory.referencing target onDelete

/-- A text of bounded length. -/
def bounded (name : String) (length : UInt32) : Field := (Field.plain name .string).upTo length

/-! ## Accounts -/

/-- Accounts that own most other rows. -/
def users : Table where
  name := "users"
  displayName := "User"
  fields := [
    Field.id,
    (bounded "email" 255).mandatory.distinct,
    bounded "name" 100,
    (bounded "password_hash" 255).mandatory,
    (Field.plain "is_active" .boolean).mandatory.defaulting (.boolean true),
    createdAt,
    updatedAt]
  relations := [
    ⟨.oneToMany, "posts", "posts"⟩,
    ⟨.oneToMany, "comments", "comments"⟩,
    ⟨.oneToMany, "sessions", "sessions"⟩]

/-- Details of a user, at most one row each. -/
def profiles : Table where
  name := "profiles"
  displayName := "Profile"
  fields := [
    Field.id,
    (owner "user_id" "users" .cascade).distinct,
    Field.plain "bio" .text,
    bounded "avatar_url" 500,
    bounded "website" 255,
    Field.plain "preferences" .json,
    updatedAt]
  relations := [⟨.manyToOne, "users", "user"⟩]

/-- Logins, each with a token of its own. -/
def sessions : Table where
  name := "sessions"
  displayName := "Session"
  fields := [
    Field.id,
    owner "user_id" "users" .cascade,
    (bounded "token" 255).mandatory.distinct,
    (Field.plain "expires_at" .timestamp).mandatory,
    Field.plain "user_agent" .text,
    createdAt]
  relations := [⟨.manyToOne, "users", "user"⟩]

/-- Identities at other providers, linked to a user. -/
def accounts : Table where
  name := "accounts"
  displayName := "Account"
  fields := [
    Field.id,
    owner "user_id" "users" .cascade,
    (bounded "provider" 50).mandatory,
    (bounded "provider_account_id" 255).mandatory,
    Field.plain "access_token" .text,
    Field.plain "refresh_token" .text,
    Field.plain "expires_at" .timestamp,
    createdAt]
  relations := [⟨.manyToOne, "users", "user"⟩]

/-! ## Articles -/

/-- A hierarchy: `parent_id` points back into this table. -/
def categories : Table where
  name := "categories"
  displayName := "Category"
  fields := [
    Field.id,
    (bounded "name" 100).mandatory,
    (bounded "slug" 100).mandatory.distinct,
    Field.plain "description" .text,
    (Field.plain "parent_id" .identifier).referencing "categories" .setNull]
  relations := [
    ⟨.manyToOne, "categories", "parent"⟩,
    ⟨.oneToMany, "categories", "children"⟩]

/-- Articles of an author. -/
def posts : Table where
  name := "posts"
  displayName := "Post"
  fields := [
    Field.id,
    owner "author_id" "users" .cascade,
    (bounded "title" 255).mandatory,
    (bounded "slug" 255).mandatory.distinct,
    Field.plain "content" .text,
    (Field.plain "published" .boolean).mandatory.defaulting (.boolean false),
    (Field.plain "view_count" .integer).mandatory.defaulting (.integer 0),
    createdAt,
    updatedAt]
  relations := [
    ⟨.manyToOne, "users", "author"⟩,
    ⟨.oneToMany, "comments", "comments"⟩,
    ⟨.manyToMany, "tags", "tags"⟩]

/-- Replies to articles. -/
def comments : Table where
  name := "comments"
  displayName := "Comment"
  fields := [
    Field.id,
    owner "post_id" "posts" .cascade,
    owner "author_id" "users" .cascade,
    (Field.plain "content" .text).mandatory,
    createdAt]
  relations := [
    ⟨.manyToOne, "posts", "post"⟩,
    ⟨.manyToOne, "users", "author"⟩]

/-- Labels of articles. -/
def tags : Table where
  name := "tags"
  displayName := "Tag"
  fields := [
    Field.id,
    (bounded "name" 50).mandatory.distinct,
    (bounded "slug" 50).mandatory.distinct]
  relations := [⟨.manyToMany, "posts", "posts"⟩]

/-- Which article has which label. -/
def postTags : Table where
  name := "post_tags"
  displayName := "PostTag"
  fields := [
    Field.id,
    owner "post_id" "posts" .cascade,
    owner "tag_id" "tags" .cascade]
  relations := [
    ⟨.manyToOne, "posts", "post"⟩,
    ⟨.manyToOne, "tags", "tag"⟩]

/-! ## Trade -/

/-- Items for sale, priced in minor units. -/
def products : Table where
  name := "products"
  displayName := "Product"
  fields := [
    Field.id,
    (Field.plain "category_id" .identifier).referencing "categories" .setNull,
    (bounded "name" 255).mandatory,
    (bounded "sku" 64).mandatory.distinct,
    Field.plain "description" .text,
    (Field.plain "price" .integer).mandatory,
    (Field.plain "stock" .integer).mandatory.defaulting (.integer 0),
    Field.plain "attributes" .json,
    (Field.plain "is_active" .boolean).mandatory.defaulting (.boolean true),
    createdAt]
  relations := [
    ⟨.manyToOne, "categories", "category"⟩,
    ⟨.oneToMany, "order_items", "order_items"⟩]

/-- What a user orders. -/
def orders : Table where
  name := "orders"
  displayName := "Order"
  fields := [
    Field.id,
    owner "user_id" "users" .restrict,
    (bounded "status" 20).mandatory.defaulting (.text "pending"),
    (Field.plain "total" .integer).mandatory,
    Field.plain "shipping_address" .json,
    createdAt,
    updatedAt]
  relations := [
    ⟨.manyToOne, "users", "user"⟩,
    ⟨.oneToMany, "order_items", "items"⟩]

/-- The lines of an order. -/
def orderItems : Table where
  name := "order_items"
  displayName := "OrderItem"
  fields := [
    Field.id,
    owner "order_id" "orders" .cascade,
    owner "product_id" "products" .restrict,
    (Field.plain "quantity" .integer).mandatory.defaulting (.integer 1),
    (Field.plain "unit_price" .integer).mandatory]
  relations := [
    ⟨.manyToOne, "orders", "order"⟩,
    ⟨.manyToOne, "products", "product"⟩]

/-! ## Organizations -/

/-- Tenants of an application. -/
def organizations : Table where
  name := "organizations"
  displayName := "Organization"
  fields := [
    Field.id,
    (bounded "name" 255).mandatory,
    (bounded "slug" 100).mandatory.distinct,
    Field.plain "settings" .json,
    createdAt]
  relations := [⟨.oneToMany, "memberships", "memberships"⟩]

/-- Which user belongs to which organization. -/
def memberships : Table where
  name := "memberships"
  displayName := "Membership"
  fields := [
    Field.id,
    owner "organization_id" "organizations" .cascade,
    owner "user_id" "users" .cascade,
    (bounded "role" 20).mandatory.defaulting (.text "member"),
    createdAt]
  relations := [
    ⟨.manyToOne, "organizations", "organization"⟩,
    ⟨.manyToOne, "users", "user"⟩]

/-- A trail of events with a counted key. -/
def auditLogs : Table where
  name := "audit_logs"
  displayName := "AuditLog"
  fields := [
    { name := "id", type := .integer, isPrimaryKey := true, isAutoIncrement := true },
    (Field.plain "user_id" .identifier).referencing "users" .setNull,
    (bounded "action" 100).mandatory,
    Field.plain "payload" .json,
    createdAt]
  relations := [⟨.manyToOne, "users", "user"⟩]

/-- Every built-in table, in the order of the catalog. -/
def tables : List Table :=
  [users, profiles, sessions, accounts, categories, posts, comments, tags, postTags, products,
    orders, orderItems, organizations, memberships, auditLogs]

/-! ## The built-in tables belong together -/

/-- Nothing is wrong with any built-in table. -/
theorem fault_of_mem_tables : ∀ t ∈ tables, t.fault? = none := by decide

/-- The names of the built-in tables differ. -/
theorem nodup_names : (tables.map (·.name)).Nodup := by decide

/-- Every foreign key of a built-in table leads to a built-in table. -/
theorem foreignKeys_closed :
    ∀ t ∈ tables, ∀ k ∈ t.foreignKeys, k.2.targetTable ∈ tables.map (·.name) := by decide

end Builtin

end SchemaForge

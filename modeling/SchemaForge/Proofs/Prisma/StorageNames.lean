import SchemaForge.Proofs.Json.StringLiterals
import SchemaForge.Proofs.Outcome
import SchemaForge.Proofs.Prisma.MemberNames
import SchemaForge.Proofs.Text.Parts

/-!
# Storage names in models

A model and its members have names of their own, and the storage names stand beside them: that of a
column in an attribute of its line, unless the line has the same name, and that of the table at the
end of the block.

The name of a column is written as a literal, so the line gives it back whatever its characters are
(`storedAs_scalarMember`).  The name of the table is written between quotes as it is, and given back
only if it has no quote, no backslash and no control character (`storage_names`).  A table may be
called otherwise: `greetings_are_cut_short`.
-/

namespace SchemaForge.Prisma

open Text

variable {models : List TableDecl} {dialect : Dialect} {t : TableDecl} {c : Column} {m : Member}

/-! ## The line of a column -/

/-- How the line of a member gives a storage name back. -/
inductive StoredAs (name : String) (m : Member) : Prop
  /-- The line starts with the storage name and has no attribute for another one. -/
  | kept (same : m.name = name) (unmapped : ∀ s, .map s ∉ m.attributes)
      (line : ∀ n k, ∃ rest, memberLine n k m = "  " ++ name ++ " " ++ rest) : StoredAs name m
  /-- The line ends with its only attribute for a storage name, whose literal spells this name. -/
  | mapped {others : List Attribute} {literal : String}
      (last : m.attributes = others ++ [.map name]) (once : ∀ s, .map s ∉ others)
      (spells : Json.unquoted? literal = some name)
      (line : ∀ n k, ∃ start, memberLine n k m = start ++ "@map(" ++ literal ++ ")") :
      StoredAs name m

theorem map_notMem_tokenAttributes (c : Column) (dialect : Dialect) (s : String) :
    Attribute.map s ∉ c.tokens.flatMap (tokenAttributes c dialect) := by
  intro h
  obtain ⟨token, -, h⟩ := List.mem_flatMap.1 h
  cases token <;> simp [tokenAttributes] at h

/-- Behind a text that is padded, a blank might as well stand before the padding. -/
theorem padEnd_append_blank (n : Nat) (s : String) :
    padEnd n s ++ " " = s ++ " " ++ spaces (n - s.length) := by
  have blanks : spaces (n - s.length) ++ " " = " " ++ spaces (n - s.length) := by
    apply String.toList_injective
    rw [spaces, String.toList_append, String.toList_append, String.toList_ofList]
    exact List.replicate_succ'.symm
  rw [padEnd, String.append_assoc, blanks, String.append_assoc]

/-- What stands behind the name of a member. -/
def behindName (m : Member) : String :=
  m.typeText ++ String.intercalate " " (m.attributes.map Attribute.render)

/-- The line of a member starts with its name if something behind it can be seen. -/
theorem exists_memberLine_eq_name_append (m : Member)
    (visible : ∃ ch ∈ (behindName m).toList, isBlank ch = false) (n k : Nat) :
    ∃ rest, memberLine n k m = "  " ++ m.name ++ " " ++ rest := by
  let rest := spaces (n - m.name.length) ++ (padEnd k m.typeText ++ " "
    ++ String.intercalate " " (m.attributes.map Attribute.render))
  have front : "  " ++ padEnd n m.name ++ " "
      = "  " ++ m.name ++ " " ++ spaces (n - m.name.length) := by
    rw [String.append_assoc, padEnd_append_blank]
    simp only [String.append_assoc]
  have line : "  " ++ padEnd n m.name ++ " " ++ padEnd k m.typeText ++ " "
      ++ String.intercalate " " (m.attributes.map Attribute.render)
        = "  " ++ m.name ++ " " ++ rest := by
    rw [front]
    simp only [rest, String.append_assoc]
  have visible' : ∃ ch ∈ rest.toList, isBlank ch = false := by
    obtain ⟨ch, hch, hblank⟩ := visible
    refine ⟨ch, ?_, hblank⟩
    rw [behindName, String.toList_append, List.mem_append] at hch
    simp only [rest, padEnd, String.toList_append, List.mem_append]
    exact hch.elim (fun h => .inr (.inl (.inl (.inl h)))) fun h => .inr (.inr h)
  refine ⟨trimEnd rest, ?_⟩
  rw [memberLine, line, trimEnd_append visible']

/-- The line of a member ends with an attribute for a storage name if this is the last. -/
theorem exists_memberLine_eq_append_map {others : List Attribute} {name : String}
    (last : m.attributes = others ++ [.map name]) (n k : Nat) :
    ∃ start, memberLine n k m = start ++ "@map(" ++ Json.quoted name ++ ")" := by
  obtain ⟨before, h⟩ := exists_intercalate_append " " (others.map Attribute.render)
    (Attribute.map name).render
  let start := "  " ++ padEnd n m.name ++ " " ++ padEnd k m.typeText ++ " " ++ before
  have line : "  " ++ padEnd n m.name ++ " " ++ padEnd k m.typeText ++ " "
      ++ (before ++ (Attribute.map name).render) = start ++ "@map(" ++ Json.quoted name ++ ")" := by
    simp only [start, Attribute.render, String.append_assoc]
  refine ⟨start, ?_⟩
  rw [memberLine, last, List.map_append, List.map_singleton, h, line, trimEnd_append_bracket]

theorem attributes_scalarMember (dialect : Dialect) (c : Column) :
    (scalarMember dialect c).attributes
      = c.tokens.flatMap (tokenAttributes c dialect) ++ mapAttributes c :=
  rfl

/-- The line of a column gives its name back. -/
theorem storedAs_scalarMember (visible : ∃ ch ∈ c.primitive.toList, isBlank ch = false) :
    StoredAs c.name (scalarMember dialect c) := by
  by_cases same : c.propertyName = c.name
  · have attributes : (scalarMember dialect c).attributes
        = c.tokens.flatMap (tokenAttributes c dialect) := by
      rw [attributes_scalarMember, mapAttributes, if_pos same, List.append_nil]
    refine .kept same ?_ ?_
    · intro s
      rw [attributes]
      exact map_notMem_tokenAttributes c dialect s
    · intro n k
      have behind : ∃ ch ∈ (behindName (scalarMember dialect c)).toList, isBlank ch = false := by
        obtain ⟨ch, hch, hblank⟩ := visible
        refine ⟨ch, ?_, hblank⟩
        rw [behindName, Member.typeText, String.append_assoc, String.toList_append]
        exact List.mem_append_left _ hch
      obtain ⟨rest, line⟩ :=
        exists_memberLine_eq_name_append (scalarMember dialect c) behind n k
      exact ⟨rest, same ▸ line⟩
  · have last : (scalarMember dialect c).attributes
        = c.tokens.flatMap (tokenAttributes c dialect) ++ [.map c.name] := by
      rw [attributes_scalarMember, mapAttributes, if_neg same]
    exact .mapped last (map_notMem_tokenAttributes c dialect) (Json.unquoted?_quoted c.name)
      (exists_memberLine_eq_append_map last)

theorem exists_visible_of_primitive? {type : FieldType} {p : String}
    (h : primitive? dialect type = some p) : ∃ ch ∈ p.toList, isBlank ch = false := by
  have seen : (primitive? dialect type).all (·.toList.any fun ch => !isBlank ch) = true := by
    cases dialect <;> cases type <;> rfl
  rw [h, Option.all_some, List.any_eq_true] at seen
  obtain ⟨ch, hch, visible⟩ := seen
  exact ⟨ch, hch, by simpa using visible⟩

/-! ## The end of the block -/

/-- What stands in the attribute for the storage name of a table. -/
def mapArgument (t : TableDecl) : String := "\"" ++ t.name ++ "\""

theorem exists_renderModel_eq (t : TableDecl) (ms : List Member) :
    ∃ start, renderModel t ms = start ++ "\n  @@map(" ++ mapArgument t ++ ")\n\x7d\n" := by
  refine ⟨"model " ++ t.typeName ++ " \x7b\n" ++ String.join ((memberLines ms).map (· ++ "\n")), ?_⟩
  have opening : "\n  @@map(\"" = "\n  @@map(" ++ "\"" := by decide
  have closing : "\")\n\x7d\n" = "\"" ++ ")\n\x7d\n" := by decide
  rw [renderModel, mapArgument, opening, closing]
  simp only [String.append_assoc]

/-! ## Models -/

/-- How a model gives the storage names of its table and its columns back. -/
structure StorageNames (models : List TableDecl) (dialect : Dialect) (t : TableDecl) : Prop where
  /-- The block ends with the name of the table, written as a literal. -/
  block : ∃ start, renderModel t (members models dialect t)
    = start ++ "\n  @@map(" ++ mapArgument t ++ ")\n\x7d\n"
  /-- The literal spells the name of the table exactly if nothing in the name has to be escaped. -/
  spells_iff : Json.unquoted? (mapArgument t) = some t.name ↔ ∀ ch ∈ t.name.toList, Json.IsPlain ch
  /-- The lines of scalars give the names of the fields back. -/
  columns : List.Forall₂ StoredAs (t.source.fields.map (·.name))
    ((members models dialect t).filter (!·.isRelation))

/-- In every schema the models give the storage names of all columns back, and those of all tables
with no quotes, backslashes and control characters in their names. -/
theorem storage_names {tables : List Table}
    (lowered : lowerTables ⟨.prisma, dialect⟩ tables = .ok models) :
    ∀ t ∈ models, StorageNames models dialect t := by
  intro t ht
  refine ⟨exists_renderModel_eq t _, Json.unquoted?_bare_iff, ?_⟩
  rw [← map_name_columns lowered ht, filter_scalars_members, List.forall₂_map_left_iff,
    List.forall₂_map_right_iff, List.forall₂_same]
  intro c hc
  obtain ⟨f, -, p, hp, rfl⟩ := exists_columnOf lowered ht hc
  refine storedAs_scalarMember ?_
  rw [primitive_columnOf]
  exact exists_visible_of_primitive? hp

/-- The models of posts and users give all names back. -/
theorem storage_names_posts :
    ∃ models, lowerTables ⟨.prisma, .postgresql⟩ [Builtin.users, Builtin.posts] = .ok models ∧
      ∀ t ∈ models, StorageNames models .postgresql t ∧
        Json.unquoted? (mapArgument t) = some t.name := by
  have plain : ∀ t ∈ [Builtin.users, Builtin.posts], t.name.toList.all (Json.IsPlain ·) = true := by
    decide
  obtain ⟨models, lowered⟩ : ∃ models,
      lowerTables ⟨.prisma, .postgresql⟩ [Builtin.users, Builtin.posts] = .ok models := ⟨_, rfl⟩
  refine ⟨models, lowered, ?_⟩
  intro t ht
  have names := storage_names lowered t ht
  have source : t.source ∈ [Builtin.users, Builtin.posts] :=
    map_source_of_lowerTables lowered ▸ List.mem_map_of_mem ht
  have plain' : ∀ ch ∈ t.source.name.toList, Json.IsPlain ch := by
    simpa using plain t.source source
  exact ⟨names, names.spells_iff.2 plain'⟩

/-- Greetings, in a table with quotes in its name. -/
def greetings : Catalog := ⟨[
  ⟨"say \"hi\"", "Greeting", [Field.id, Field.plain "the \"word\"" .text], []⟩]⟩

/-- The literal of the table ends behind `say`. -/
theorem greetings_are_cut_short :
    greetings.Valid ∧ ∃ tables models, greetings.resolve ["say \"hi\""] = .ok tables ∧
      lowerTables ⟨.prisma, .postgresql⟩ tables = .ok models ∧
      ∃ t ∈ models, ∃ start, t.name = "say \"hi\"" ∧
        renderModel t (members models .postgresql t)
          = start ++ "\n  @@map(" ++ "\"say \"hi\"\"" ++ ")\n\x7d\n" ∧
        Json.unquoted? "\"say \"hi\"\"" = none := by
  have valid : greetings.Valid := .of_accepted (by decide) (by decide)
  have resolves : greetings.resolve ["say \"hi\""] = .ok greetings.tables := by cbv
  obtain ⟨models, lowered, t, ht, named⟩ :
      ∃ models, lowerTables ⟨.prisma, .postgresql⟩ greetings.tables = .ok models ∧
        ∃ t ∈ models, t.name = "say \"hi\"" := ⟨_, rfl, _, List.mem_cons_self, rfl⟩
  have argument : mapArgument t = "\"say \"hi\"\"" := by
    rw [mapArgument, named]
    rfl
  obtain ⟨start, block⟩ := exists_renderModel_eq t (members models .postgresql t)
  rw [argument] at block
  exact ⟨valid, _, models, resolves, lowered, t, ht, start, named, block, by cbv⟩

end SchemaForge.Prisma

import SchemaForge.Proofs.Text.Parts
import SchemaForge.Source.Artifact

/-!
# Statements of generated files

A generated file in which tables are declared is a sequence of statements behind a heading.  A
`Statement` is the text of one with the names that it declares or imports, and `Declares` says that
the text is written with these names, in the form that each kind of statement has.
-/

namespace SchemaForge

open Text (Opens)

/-- A statement of a file with the names that it declares or imports. -/
structure Statement where
  names : List String
  text : String

/-- The text starts as a statement with these names does. -/
inductive Declares : List String → String → Prop
  | imports {values types : List String} {text : String}
    (opens : Opens ("import "
      ++ Source.braced (String.intercalate ", " (values ++ types.map ("type " ++ ·)))) text) :
    Declares (values ++ types) text
  | typeImport {name text : String} (opens : Opens ("import type " ++ Source.braced name) text) :
    Declares [name] text
  | constant {name text : String} (opens : Opens ("export const " ++ name ++ " = ") text) :
    Declares [name] text
  | alias {name text : String} (opens : Opens ("export type " ++ name ++ " = ") text) :
    Declares [name] text
  | interface {name text : String} (opens : Opens ("export interface " ++ name ++ " \x7b") text) :
    Declares [name] text
  | model {name text : String} (opens : Opens ("model " ++ name ++ " \x7b") text) :
    Declares [name] text
  /-- A file without a table exports nothing. -/
  | nothing : Declares [] "export \x7b\x7d;\n"
  /-- A line may be left free before a statement. -/
  | spaced {names : List String} {text : String} (declares : Declares names text) :
    Declares names ("\n" ++ text)

end SchemaForge

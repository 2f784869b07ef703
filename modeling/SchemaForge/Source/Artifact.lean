import SchemaForge.Schema.Field
import SchemaForge.Decimal.Layout
import SchemaForge.Text.SingleQuoted

/-!
# Generated files

An artifact is a generated file: the path it is meant for and its content.  The texts here are
those that the files of several backends share.
-/

namespace SchemaForge

/-- A generated file. -/
structure Artifact where
  path : String
  content : String
  deriving DecidableEq, Repr

namespace Source

/-- The comment at the top of generated files, in TypeScript and in the schema language alike. -/
def banner : String := "// Generated by schemagen. Do not edit by hand."

/-- The text of a truth value. -/
def booleanText (b : Bool) : String := if b then "true" else "false"

/-- A default value as a TypeScript literal. -/
def literal : DefaultValue → String
  | .text s => Text.singleQuoted s
  | .integer n => toString n.toInt
  | .real x => x.plainText
  | .boolean b => booleanText b
  | .now => "new Date()"

/-- The text between braces with a blank on either side. -/
def braced (inner : String) : String := "\x7b " ++ inner ++ " \x7d"

end Source

end SchemaForge

import SchemaForge.CommandLine.Arguments
import SchemaForge.CommandLine.Report
import SchemaForge.CommandLine.Run
import SchemaForge.Config
import SchemaForge.Decimal.Binary64
import SchemaForge.Decimal.Layout
import SchemaForge.Decimal.Shortest
import SchemaForge.Declaration.Column
import SchemaForge.Declaration.Lowering
import SchemaForge.Declaration.Token
import SchemaForge.Drizzle.Column
import SchemaForge.Drizzle.Import
import SchemaForge.Drizzle.Relation
import SchemaForge.Drizzle.Schema
import SchemaForge.Drizzle.Types
import SchemaForge.FileTree
import SchemaForge.Files
import SchemaForge.Generate
import SchemaForge.Json.Decode
import SchemaForge.Json.Fault
import SchemaForge.Json.Numeral
import SchemaForge.Json.Printer
import SchemaForge.Json.Reader
import SchemaForge.Json.Reading
import SchemaForge.Json.Value
import SchemaForge.Kysely.Interface
import SchemaForge.Kysely.Schema
import SchemaForge.Kysely.Types
import SchemaForge.Main
import SchemaForge.Outline
import SchemaForge.Prisma.Edge
import SchemaForge.Prisma.Member
import SchemaForge.Prisma.Schema
import SchemaForge.Prisma.Types
import SchemaForge.Proofs.Agreement
import SchemaForge.Proofs.CommandLine.Preview
import SchemaForge.Proofs.Declaration.DefaultTypes
import SchemaForge.Proofs.Declaration.Faithful
import SchemaForge.Proofs.Declaration.Linked
import SchemaForge.Proofs.Declaration.Lowering
import SchemaForge.Proofs.Declaration.NameSet
import SchemaForge.Proofs.Drizzle.AbsentTargets
import SchemaForge.Proofs.Drizzle.Associations
import SchemaForge.Proofs.Drizzle.BoundKeys
import SchemaForge.Proofs.Drizzle.CallChain
import SchemaForge.Proofs.Drizzle.DeclarationLines
import SchemaForge.Proofs.Drizzle.Entries
import SchemaForge.Proofs.Drizzle.ImportUse
import SchemaForge.Proofs.Drizzle.KeyNames
import SchemaForge.Proofs.Drizzle.ManyEntries
import SchemaForge.Proofs.Drizzle.SchemaLiterals
import SchemaForge.Proofs.Drizzle.SchemaNames
import SchemaForge.Proofs.Emission
import SchemaForge.Proofs.Identifiers
import SchemaForge.Proofs.Json.MemberOrder
import SchemaForge.Proofs.Json.Records
import SchemaForge.Proofs.Json.StringLiterals
import SchemaForge.Proofs.Kysely.ClosedFile
import SchemaForge.Proofs.Kysely.InterfaceNames
import SchemaForge.Proofs.Kysely.RowTypes
import SchemaForge.Proofs.Lists
import SchemaForge.Proofs.Locality
import SchemaForge.Proofs.Outcome
import SchemaForge.Proofs.Prisma.BackCardinality
import SchemaForge.Proofs.Prisma.MemberNames
import SchemaForge.Proofs.Prisma.RelationNames
import SchemaForge.Proofs.Prisma.RelationPairs
import SchemaForge.Proofs.Prisma.StorageNames
import SchemaForge.Proofs.References
import SchemaForge.Proofs.Results
import SchemaForge.Proofs.RoundTrip
import SchemaForge.Proofs.Schema.Calls
import SchemaForge.Proofs.Schema.Coherence
import SchemaForge.Proofs.Schema.Composition
import SchemaForge.Proofs.Schema.Expansion
import SchemaForge.Proofs.Schema.Failure
import SchemaForge.Proofs.Schema.Merging
import SchemaForge.Proofs.Schema.Reachability
import SchemaForge.Proofs.Schema.Repetition
import SchemaForge.Proofs.Schema.Resolution
import SchemaForge.Proofs.Schema.Restriction
import SchemaForge.Proofs.Schema.Termination
import SchemaForge.Proofs.Schema.Traversal
import SchemaForge.Proofs.Schema.Validation
import SchemaForge.Proofs.Schema.Validity
import SchemaForge.Proofs.Source.Statement
import SchemaForge.Proofs.Text.Ascii
import SchemaForge.Proofs.Text.CamelCase
import SchemaForge.Proofs.Text.CodeLiterals
import SchemaForge.Proofs.Text.FreeNames
import SchemaForge.Proofs.Text.Identifiers
import SchemaForge.Proofs.Text.Literals
import SchemaForge.Proofs.Text.NameSearch
import SchemaForge.Proofs.Text.Parts
import SchemaForge.Proofs.Text.PlainWords
import SchemaForge.Proofs.Text.Splitting
import SchemaForge.Proofs.TopLevel
import SchemaForge.Schema.Builtin
import SchemaForge.Schema.Catalog
import SchemaForge.Schema.Codec
import SchemaForge.Schema.Error
import SchemaForge.Schema.Field
import SchemaForge.Schema.Preset
import SchemaForge.Schema.Resolve
import SchemaForge.Schema.Table
import SchemaForge.Source.Artifact
import SchemaForge.Target.Dialect
import SchemaForge.Target.KeyGeneration
import SchemaForge.Target.Package
import SchemaForge.Target.TypeMap
import SchemaForge.Text.Affix
import SchemaForge.Text.Blank
import SchemaForge.Text.CaseMapping
import SchemaForge.Text.CharProperty
import SchemaForge.Text.FreeName
import SchemaForge.Text.Padding
import SchemaForge.Text.SingleQuoted
import SchemaForge.Text.Split
import SchemaForge.Text.Visible
import SchemaForge.Text.WordCase

import DeclTree.CommandLine.Arguments
import DeclTree.CommandLine.Run
import DeclTree.Condition
import DeclTree.Declaration
import DeclTree.Declaration.Codec
import DeclTree.Declaration.Constraints
import DeclTree.Declaration.Kind
import DeclTree.Declaration.Visibility
import DeclTree.Error
import DeclTree.Files.Glob
import DeclTree.Files.IgnoreRules
import DeclTree.Files.Order
import DeclTree.Files.Path
import DeclTree.Files.Snapshot
import DeclTree.Files.Tree
import DeclTree.Files.Walk
import DeclTree.FirstMatch
import DeclTree.Inheritance
import DeclTree.Json.Reader
import DeclTree.Json.Value
import DeclTree.Json.Writer
import DeclTree.Load
import DeclTree.Main
import DeclTree.Matcher.Search
import DeclTree.Matcher.Symbols
import DeclTree.Namespaces
import DeclTree.ParseTree
import DeclTree.Pattern
import DeclTree.Pattern.Escape
import DeclTree.Pattern.Expression
import DeclTree.Pattern.Meaning
import DeclTree.Pattern.Parser
import DeclTree.Pattern.PropertyName
import DeclTree.Proofs.Lists
import DeclTree.Proofs.Occurrences
import DeclTree.Proofs.Outcomes
import DeclTree.Query
import DeclTree.Query.Run
import DeclTree.Report
import DeclTree.Source.Language
import DeclTree.Source.RustItems
import DeclTree.Source.Tree
import DeclTree.Source.TypeScriptStatements
import DeclTree.Text.Alphabetic
import DeclTree.Text.Blank
import DeclTree.Text.CaseFolding
import DeclTree.Text.CaseTable
import DeclTree.Text.Category
import DeclTree.Text.Lowercase
import DeclTree.Text.Runs
import DeclTree.Text.Script
import DeclTree.Text.Split
import DeclTree.TypeName
import DeclTree.TypeName.Parser
import DeclTree.Proofs.Query.Chains
import DeclTree.Proofs.Report.Order
import DeclTree.Proofs.Inheritance.Closing
import DeclTree.Proofs.Query.Schedules
import DeclTree.Proofs.Inheritance.Reachability
import DeclTree.Proofs.TypeName.Path
import DeclTree.Proofs.TypeName.RoundTrip
import DeclTree.Proofs.Json.Layout
import DeclTree.Proofs.Json.Nesting
import DeclTree.Proofs.Json.Record
import DeclTree.Proofs.Declaration.RoundTrip
import DeclTree.Proofs.Declaration.Rereading
import DeclTree.Proofs.Inheritance.Resolution
import DeclTree.Proofs.Namespaces.Merging
import DeclTree.Proofs.Namespaces.Places
import DeclTree.Proofs.Source.Layers
import DeclTree.Proofs.Source.Spaces
import DeclTree.Proofs.Namespaces.Contents
import DeclTree.Proofs.Source.Contents
import DeclTree.Proofs.Inheritance.Idempotence
import DeclTree.Proofs.Source.Containment
import DeclTree.Proofs.ParseTree.Stripping
import DeclTree.Proofs.Source.Comments
import DeclTree.Proofs.Source.RustComments
import DeclTree.Proofs.Source.TypeScriptComments
import DeclTree.Proofs.Query.ClosedTrees
import DeclTree.Proofs.CommandLine.Filters
import DeclTree.Proofs.Query.Scopes
import DeclTree.Proofs.Query.SiblingOrder
import DeclTree.Proofs.TypeName.Steps
import DeclTree.Proofs.TypeName.Grammar
import DeclTree.Proofs.TypeName.Spelling
import DeclTree.Proofs.Inheritance.Frame
import DeclTree.Proofs.Inheritance.Rounds
import DeclTree.Proofs.Query.Steps
import DeclTree.Proofs.Source.RustBlocks
import DeclTree.Proofs.Text.FinalSigma
import DeclTree.Proofs.Source.RustVisibility
import DeclTree.Proofs.Text.ByteOrder
import DeclTree.Proofs.Report.Reading
import DeclTree.Proofs.Source.RustInterfaces
import DeclTree.Proofs.Source.RustBounds
import DeclTree.Proofs.Source.TypeScriptMembers
import DeclTree.Proofs.Source.RustAttributes
import DeclTree.Proofs.Files.Reach
import DeclTree.Proofs.Files.Order
import DeclTree.Proofs.Files.Numbering
import DeclTree.Proofs.Json.Grammar
import DeclTree.Proofs.Json.Recognition
import DeclTree.Proofs.Json.Members
import DeclTree.Proofs.Declaration.KnownMembers

import Traceability.CommandLine
import Traceability.Digraph.Algorithms
import Traceability.Digraph.Basic
import Traceability.Document.Automation
import Traceability.Document.Error
import Traceability.Document.Filter
import Traceability.Document.Requirements
import Traceability.Document.Verification
import Traceability.Expression.Basic
import Traceability.Expression.Condition
import Traceability.Expression.Error
import Traceability.Expression.Lexeme
import Traceability.Expression.Lexer
import Traceability.Expression.Parser
import Traceability.FileTree
import Traceability.Filter
import Traceability.Identifier
import Traceability.ImportGraph
import Traceability.Json
import Traceability.Loading
import Traceability.Main
import Traceability.Model.Basic
import Traceability.Model.Consistency
import Traceability.Model.Deletion
import Traceability.Model.Generation
import Traceability.Model.Merge
import Traceability.Model.Scope
import Traceability.Module
import Traceability.NonEmptyList
import Traceability.Pattern.Automaton.Assembly
import Traceability.Pattern.Automaton.Basic
import Traceability.Pattern.Automaton.Characters
import Traceability.Pattern.Automaton.OfRegex
import Traceability.Pattern.Automaton.Search
import Traceability.Pattern.Automaton.Words
import Traceability.Pattern.Basic
import Traceability.Pattern.Meaning
import Traceability.Pattern.Property
import Traceability.Pattern.Reader
import Traceability.Pattern.Regex
import Traceability.Pattern.Syntax
import Traceability.Program
import Traceability.Proofs.Collections
import Traceability.Proofs.Definition
import Traceability.Proofs.Digraph.ByReach
import Traceability.Proofs.Digraph.Closure
import Traceability.Proofs.Digraph.Cycles
import Traceability.Proofs.Digraph.Lawful
import Traceability.Proofs.Digraph.Reach
import Traceability.Proofs.Identifier
import Traceability.Proofs.ImportGraph.Chain
import Traceability.Proofs.ImportGraph.ReachedPart
import Traceability.Proofs.ImportGraph.Unfolding
import Traceability.Proofs.Model.Trace
import Traceability.Proofs.ImportGraph.Reachability
import Traceability.Proofs.Index
import Traceability.Proofs.Model.Acceptance
import Traceability.Proofs.Model.Admission
import Traceability.Proofs.Model.Coherence
import Traceability.Proofs.Model.Deletion
import Traceability.Proofs.Model.Findings
import Traceability.Proofs.Model.Isolation
import Traceability.Proofs.Model.Merge
import Traceability.Proofs.Model.Narrowing
import Traceability.Proofs.Model.Origin
import Traceability.Proofs.Model.Remainder
import Traceability.Proofs.Model.Run
import Traceability.Proofs.Model.Scope
import Traceability.Proofs.Model.Visibility
import Traceability.Proofs.Table.Basic
import Traceability.Proofs.Table.Removal
import Traceability.Record.Automation
import Traceability.Record.Requirement
import Traceability.Record.Spelling
import Traceability.Record.Verification
import Traceability.Report.Basic
import Traceability.Report.Status
import Traceability.Report.Validation
import Traceability.Settings
import Traceability.Settings.Written
import Traceability.Text.Blank
import Traceability.Text.ByteRange
import Traceability.Text.Hexadecimal
import Traceability.Toml.Reader
import Traceability.Toml.Scalar
import Traceability.Toml.Text
import Traceability.Toml.Value
import Traceability.Unicode.Age
import Traceability.Unicode.BinaryProperty
import Traceability.Unicode.CaseFolding
import Traceability.Unicode.CharSet
import Traceability.Unicode.GeneralCategory
import Traceability.Unicode.RangeTable
import Traceability.Unicode.Script
import Traceability.Unicode.ScriptExtension
import Traceability.Unicode.Segmentation
import Traceability.Yaml.Glyph
import Traceability.Yaml.Layout
import Traceability.Yaml.Node
import Traceability.Yaml.Node.Reader
import Traceability.Yaml.Scalar.Block
import Traceability.Yaml.Scalar.Gap
import Traceability.Yaml.Scalar.Plain
import Traceability.Yaml.Scalar.Quoted
import Traceability.Yaml.Shape
import Traceability.Yaml.Tag
import Traceability.Yaml.Token
import Traceability.Yaml.Token.Property
import Traceability.Proofs.Expression.Grammar
import Traceability.Proofs.Expression.Reading
import Traceability.Proofs.Expression.Layout
import Traceability.Proofs.Expression.Blame
import Traceability.Proofs.Identifier.Qualification
import Traceability.Proofs.ImportGraph.Reordering
import Traceability.Proofs.Model.Idempotence
import Traceability.Proofs.Model.Reordering
import Traceability.Proofs.Model.Failure
import Traceability.Proofs.Loading.Walk
import Traceability.Proofs.Loading.Closure
import Traceability.Proofs.Loading.WellFormed
import Traceability.Proofs.ImportGraph.Cycle
import Traceability.Proofs.Expression.Writing
import Traceability.Proofs.Filter.Enumeration
import Traceability.Proofs.Filter.Unresolved
import Traceability.Proofs.Model.Imports
import Traceability.Proofs.Expression.Spelling
import Traceability.Proofs.Model.Warnings
import Traceability.Proofs.Filter.Hinge
import Traceability.Proofs.Model.Rules
import Traceability.Proofs.Model.Inertness
import Traceability.Proofs.DepthFirst
import Traceability.Proofs.Loading.Preorder
import Traceability.Proofs.Gathering
import Traceability.Proofs.Expression.Composition
import Traceability.Proofs.Model.Outcomes
import Traceability.Proofs.Document.Entries
import Traceability.Proofs.Document.Collection
import Traceability.Proofs.Document.Conversion
import Traceability.Proofs.Report.Status

import ImportOrder.Attachment
import ImportOrder.Command.Arguments
import ImportOrder.Command.Reach
import ImportOrder.Command.Run
import ImportOrder.Document.Basic
import ImportOrder.Document.Display
import ImportOrder.Draft
import ImportOrder.Engine
import ImportOrder.FileTree
import ImportOrder.Hash.Sha256
import ImportOrder.Json.Comments
import ImportOrder.Json.Reader
import ImportOrder.Json.Writer
import ImportOrder.Locality.Manifest
import ImportOrder.Locality.Probe
import ImportOrder.Main
import ImportOrder.Number.Binary64
import ImportOrder.Options.Basic
import ImportOrder.Options.Problems
import ImportOrder.Options.Reading
import ImportOrder.Ordering.NaturalKey
import ImportOrder.Ordering.Sorter
import ImportOrder.Path
import ImportOrder.Pattern.Basic
import ImportOrder.Pattern.Matcher
import ImportOrder.Pattern.Parser
import ImportOrder.Project.Error
import ImportOrder.Project.Files
import ImportOrder.Project.Resolver
import ImportOrder.Project.Tsconfig
import ImportOrder.Proofs.Draft.Regions
import ImportOrder.Proofs.Text.Offsets
import ImportOrder.Report.Json
import ImportOrder.Report.Lines
import ImportOrder.Report.Log
import ImportOrder.Report.Outcome
import ImportOrder.Report.Timestamp
import ImportOrder.Settings.Builtin
import ImportOrder.Settings.Lookup
import ImportOrder.Source.Cursor
import ImportOrder.Source.Dialect
import ImportOrder.Source.Grammar
import ImportOrder.Source.Imports
import ImportOrder.Source.Lexeme
import ImportOrder.Source.Reader
import ImportOrder.Source.Rule
import ImportOrder.Span
import ImportOrder.Statement
import ImportOrder.Surgery
import ImportOrder.Text.Basic
import ImportOrder.Text.CodePoints
import ImportOrder.Text.Decomposition
import ImportOrder.Text.Digits
import ImportOrder.Text.Letters
import ImportOrder.Text.Lines
import ImportOrder.Text.Printable
import ImportOrder.Text.Quoted
import ImportOrder.Text.Utf8
import ImportOrder.Tree.Imports
import ImportOrder.Tree.Node
import ImportOrder.Yaml.Lexer
import ImportOrder.Yaml.Node
import ImportOrder.Yaml.Reader
import ImportOrder.Yaml.Schema
import ImportOrder.Yaml.Token
import ImportOrder.Proofs.Draft.Removal
import ImportOrder.Proofs.Draft.Merging
import ImportOrder.Proofs.Surgery.Layout
import ImportOrder.Proofs.Surgery.Lossless
import ImportOrder.Proofs.Surgery.Placement
import ImportOrder.Proofs.Surgery.Rerun
import ImportOrder.Proofs.Text.Boundary
import ImportOrder.Proofs.Tree.Neighbours
import ImportOrder.Proofs.Attachment.Pass
import ImportOrder.Proofs.Tree.Statements
import ImportOrder.Proofs.Attachment.Exclusive
import ImportOrder.Proofs.Ordering.NaturalOrder
import ImportOrder.Proofs.Ordering.Buckets
import ImportOrder.Proofs.Ordering.Parts
import ImportOrder.Proofs.Ordering.Rank
import ImportOrder.Proofs.Ordering.Settled
import ImportOrder.Proofs.Project.Extends
import ImportOrder.Proofs.Project.Acyclic
import ImportOrder.Proofs.Project.Containment
import ImportOrder.Proofs.Draft.Deletion
import ImportOrder.Proofs.Json.Stripping
import ImportOrder.Proofs.Json.Decoding
import ImportOrder.Proofs.FileTree.Alike
import ImportOrder.Proofs.Project.Reads
import ImportOrder.Proofs.Command.Verdict
import ImportOrder.Proofs.Command.Footprint
import ImportOrder.Proofs.Command.Progress
import ImportOrder.Proofs.Command.Conclusion
import ImportOrder.Proofs.Command.Independence
import ImportOrder.Proofs.Command.Account
import ImportOrder.Proofs.Command.Prediction
import ImportOrder.Proofs.Attachment.Modes
import ImportOrder.Proofs.Draft.Redundancy
import ImportOrder.Proofs.Text.Lines
import ImportOrder.Proofs.Text.Rows
import ImportOrder.Proofs.Draft.Survival
import ImportOrder.Proofs.Surgery.Spacing
import ImportOrder.Proofs.Locality.Scan
import ImportOrder.Proofs.Locality.Packages
import ImportOrder.Proofs.Ordering.Thinning
import ImportOrder.Proofs.Ordering.Shuffling
import ImportOrder.Proofs.Document.Keys
import ImportOrder.Proofs.Json.Tidy
import ImportOrder.Proofs.Options.Clean
import ImportOrder.Proofs.Project.Inheritance
import ImportOrder.Proofs.Project.Termination
import ImportOrder.Proofs.Tree.Census
import ImportOrder.Proofs.Tree.Coverage
import ImportOrder.Proofs.Tree.Sequence
import ImportOrder.Proofs.Tree.Sharing
import ImportOrder.Proofs.Json.RoundTrip
import ImportOrder.Proofs.FileTree.Growth
import ImportOrder.Proofs.Report.Journal
import ImportOrder.Proofs.Tree.Faults

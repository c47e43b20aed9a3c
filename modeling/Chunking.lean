import Chunking.Diff.Detect
import Chunking.Change
import Chunking.LineIndex
import Chunking.LineIndex.Starts
import Chunking.Settings
import Chunking.Signals
import Chunking.Json.Printer
import Chunking.Json.Reader
import Chunking.Json.Token
import Chunking.Dictionary
import Chunking.Digest
import Chunking.Number.Decimal
import Chunking.Text.Affix
import Chunking.Text.Alphanumeric
import Chunking.Text.Blank
import Chunking.Text.Bytes
import Chunking.Text.Lines
import Chunking.Text.Lowercase
import Chunking.Text.Path
import Chunking.Text.Run
import Chunking.Text.Uppercase
import Chunking.Nearest
import Chunking.Chunk
import Chunking.Lineage
import Chunking.Version
import Chunking.Version.Json
import Chunking.Merge
import Chunking.Number.Numeral
import Chunking.Number.Scaled
import Chunking.Word
import Chunking.Processor
import Chunking.Processor.Boundary
import Chunking.Processor.Marked
import Chunking.Tree.Node
import Chunking.Tree.Preorder
import Chunking.Tree.Source
import Chunking.Grammar
import Chunking.Grammar.Python
import Chunking.Grammar.Rust
import Chunking.Grammar.Script
import Chunking.Grammar.Go
import Chunking.Grammar.Registry
import Chunking.Scope.Cuts
import Chunking.Scope.Windows
import Chunking.Scope
import Chunking.Store
import Chunking.Engine.Host
import Chunking.Engine.Scripted
import Chunking.Engine
import Chunking.Archive
import Chunking.Workspace.Pattern
import Chunking.Text.Visible
import Chunking.Toml.Basic
import Chunking.Toml.Moment
import Chunking.Toml.Reader
import Chunking.Workspace.Config
import Chunking.Workspace.Config.Json
import Chunking.Workspace.Config.Toml
import Chunking.Workspace.FileTree
import Chunking.Workspace
import Chunking.Index
import Chunking.Command.Arguments
import Chunking.Command.Listing
import Chunking.Command.Run
import Chunking.Archive.Json
import Chunking.Main
import Chunking.Proofs.Rows
import Chunking.Proofs.EditScript
import Chunking.Proofs.Windows
import Chunking.Proofs.Overlaps
import Chunking.Proofs.Merging
import Chunking.Proofs.Dictionary
import Chunking.Proofs.Lineage
import Chunking.Proofs.MergeIds
import Chunking.Proofs.Resolution
import Chunking.Proofs.Answers
import Chunking.Proofs.Slots
import Chunking.Proofs.Runs
import Chunking.Proofs.IdHistory
import Chunking.Proofs.Identifiers
import Chunking.Proofs.Outlines
import Chunking.Proofs.Validity
import Chunking.Proofs.Checks
import Chunking.Proofs.Defects
import Chunking.Proofs.Processors
import Chunking.Proofs.IdClashes
import Chunking.Proofs.Numbering
import Chunking.Proofs.Pieces
import Chunking.Proofs.Gaps
import Chunking.Proofs.Splicing
import Chunking.Proofs.Contents
import Chunking.Proofs.Equivalence
import Chunking.Proofs.Divergence
import Chunking.Proofs.Publication
import Chunking.Proofs.Recovery
import Chunking.Proofs.Survivors
import Chunking.Proofs.Scopes
import Chunking.Proofs.LineMaps
import Chunking.Proofs.Comparison
import Chunking.Proofs.Operations
import Chunking.Proofs.Tokens
import Chunking.Proofs.PairedLines
import Chunking.Proofs.Scripts
import Chunking.Proofs.Recency
import Chunking.Proofs.JsonTexts
import Chunking.Proofs.Records
import Chunking.Proofs.Persistence
import Chunking.Proofs.Hydration
import Chunking.Proofs.Indexing
import Chunking.Proofs.Reindexing
import Chunking.Proofs.FileTrees
import Chunking.Proofs.IndexRuns
import Chunking.Proofs.Selection
import Chunking.Proofs.Settling
import Chunking.Proofs.Succession
import Chunking.Proofs.Nearness
import Chunking.Proofs.Independence
import Chunking.Proofs.Nodes
import Chunking.Archive.Tables
import Chunking.Proofs.Grammars
import Chunking.Proofs.Rounding
import Chunking.Proofs.Tables
import Chunking.Proofs.Mirroring
import Chunking.Proofs.Repetition
import Chunking.Proofs.Bytes
import Chunking.Proofs.Patterns
import Chunking.Proofs.Directories
import Chunking.Proofs.DataForms
import Chunking.Proofs.CarriedNumbers
import Chunking.Proofs.Sums
import Chunking.Proofs.Spending
import Chunking.Proofs.CallMerges
import Chunking.Proofs.NumberLimits
import Chunking.Proofs.Spellings
import Chunking.Proofs.Offsets

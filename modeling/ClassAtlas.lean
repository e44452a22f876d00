import ClassAtlas.Cache.Key
import ClassAtlas.Cache.Moment
import ClassAtlas.Cache.Store
import ClassAtlas.Command.Arguments
import ClassAtlas.Command.Basic
import ClassAtlas.Command.Display
import ClassAtlas.Command.Number
import ClassAtlas.Command.Run
import ClassAtlas.Declaration.Basic
import ClassAtlas.Declaration.Reader
import ClassAtlas.Declaration.TypeText
import ClassAtlas.Detail.Description
import ClassAtlas.Detail.Listing
import ClassAtlas.Detail.Members
import ClassAtlas.Detail.Options
import ClassAtlas.Detail.Reference
import ClassAtlas.Digest.Sha256
import ClassAtlas.DocBlock
import ClassAtlas.Exchange.Request
import ClassAtlas.Exchange.Source
import ClassAtlas.Exchange.Tree
import ClassAtlas.Exchange.Workspace
import ClassAtlas.Failure
import ClassAtlas.Files.FileTree
import ClassAtlas.Files.Path
import ClassAtlas.Files.Project
import ClassAtlas.Import.Position
import ClassAtlas.Import.Statement
import ClassAtlas.Import.UseKind
import ClassAtlas.Index.Autoload
import ClassAtlas.Index.Basic
import ClassAtlas.Index.Lineage
import ClassAtlas.Index.Lookup
import ClassAtlas.Json.Basic
import ClassAtlas.Json.Given
import ClassAtlas.Json.Order
import ClassAtlas.Json.Printer
import ClassAtlas.Json.Reader
import ClassAtlas.Json.Shown
import ClassAtlas.Name.Basic
import ClassAtlas.Name.Context
import ClassAtlas.Page
import ClassAtlas.Release.Sync
import ClassAtlas.Release.Version
import ClassAtlas.Request.Basic
import ClassAtlas.Request.Serve
import ClassAtlas.Request.Workspace
import ClassAtlas.Settings.Basic
import ClassAtlas.Settings.EnvFile
import ClassAtlas.Settings.Environment
import ClassAtlas.Settings.LogLevel
import ClassAtlas.Terminal.Colour
import ClassAtlas.Terminal.Emoji
import ClassAtlas.Terminal.EmojiTable.EToL
import ClassAtlas.Terminal.EmojiTable.FromS
import ClassAtlas.Terminal.EmojiTable.MToR
import ClassAtlas.Terminal.EmojiTable.UpToD
import ClassAtlas.Terminal.Encoding
import ClassAtlas.Terminal.Literal
import ClassAtlas.Terminal.Markup
import ClassAtlas.Terminal.Style
import ClassAtlas.Terminal.Table
import ClassAtlas.Text.Blank
import ClassAtlas.Text.CaseTable
import ClassAtlas.Text.CharClass
import ClassAtlas.Text.Encoding
import ClassAtlas.Text.LetterCase
import ClassAtlas.Text.Lines
import ClassAtlas.Text.Numeral
import ClassAtlas.Text.PrintableTable
import ClassAtlas.Text.Quoted
import ClassAtlas.Text.Range
import ClassAtlas.Text.Replace
import ClassAtlas.Text.Search
import ClassAtlas.Text.Utf8
import ClassAtlas.Text.Width
import ClassAtlas.Text.WidthTable
import ClassAtlas.Text.WordTable
import ClassAtlas.Text.Wrap
import ClassAtlas.Token.Basic
import ClassAtlas.Token.Position
import ClassAtlas.Token.Stream
import ClassAtlas.Token.Walk
import ClassAtlas.Tree.Language
import ClassAtlas.Tree.Node
import ClassAtlas.Usage.Detector
import ClassAtlas.Usage.Record
import ClassAtlas.Usage.Reference
import ClassAtlas.Usage.Report
import ClassAtlas.Usage.Scan
import ClassAtlas.Usage.Sighting
import ClassAtlas.Usage.TypeHint
import ClassAtlas.Main
import ClassAtlas.Proofs.Entries
import ClassAtlas.Proofs.Text.Search
import ClassAtlas.Proofs.Text.Utf8
import ClassAtlas.Proofs.Text.CodePoint
import ClassAtlas.Proofs.Token.Coverage
import ClassAtlas.Proofs.Token.Walk
import ClassAtlas.Proofs.Token.Place
import ClassAtlas.Proofs.Token.Lines
import ClassAtlas.Proofs.Token.Depth
import ClassAtlas.Proofs.Token.Alignment
import ClassAtlas.Proofs.Tree.Nested
import ClassAtlas.Proofs.Token.Joining
import ClassAtlas.Proofs.Token.Clause
import ClassAtlas.Proofs.Declaration.Clauses
import ClassAtlas.Proofs.Declaration.Members
import ClassAtlas.Proofs.Import.Reading
import ClassAtlas.Proofs.Import.UseKind
import ClassAtlas.Proofs.Import.Scope
import ClassAtlas.Proofs.Name.LastSegment
import ClassAtlas.Proofs.Name.Full
import ClassAtlas.Proofs.Usage.Mention
import ClassAtlas.Proofs.Usage.Span
import ClassAtlas.Proofs.Usage.Correspondence
import ClassAtlas.Proofs.Usage.Trivia
import ClassAtlas.Proofs.Usage.Respelling
import ClassAtlas.Proofs.Usage.Inheritance
import ClassAtlas.Proofs.Json.Escape
import ClassAtlas.Proofs.Json.RoundTrip
import ClassAtlas.Proofs.Cache.Key
import ClassAtlas.Proofs.Usage.Record
import ClassAtlas.Proofs.Usage.StoredAnswers
import ClassAtlas.Proofs.Files.Reading
import ClassAtlas.Proofs.Files.Subdirectory
import ClassAtlas.Proofs.Usage.Agreement
import ClassAtlas.Proofs.Usage.Prefilter
import ClassAtlas.Proofs.Usage.Session
import ClassAtlas.Proofs.Usage.Order
import ClassAtlas.Proofs.Usage.Findings
import ClassAtlas.Proofs.Usage.Selection
import ClassAtlas.Proofs.Usage.Subdirectory
import ClassAtlas.Proofs.Usage.HintName
import ClassAtlas.Proofs.Usage.TypeHint
import ClassAtlas.Proofs.Index.Ends
import ClassAtlas.Proofs.Index.Graph
import ClassAtlas.Proofs.Index.Sound
import ClassAtlas.Proofs.Index.Loading
import ClassAtlas.Proofs.Index.Lineage
import ClassAtlas.Proofs.Index.History
import ClassAtlas.Proofs.Cache.Damage
import ClassAtlas.Proofs.Usage.DamagedEntries
import ClassAtlas.Proofs.Files.Readable
import ClassAtlas.Proofs.Usage.Unreadable
import ClassAtlas.Proofs.Index.BreadthFirst
import ClassAtlas.Proofs.Index.Orderly
import ClassAtlas.Proofs.Index.Advance
import ClassAtlas.Proofs.Index.Rounds
import ClassAtlas.Proofs.Index.Accurate
import ClassAtlas.Proofs.Index.Search
import ClassAtlas.Proofs.Index.Absence
import ClassAtlas.Proofs.Index.Autoload
import ClassAtlas.Proofs.Index.Settled
import ClassAtlas.Proofs.Index.Description
import ClassAtlas.Proofs.Detail.Listing
import ClassAtlas.Proofs.Detail.Sections
import ClassAtlas.Proofs.Detail.Methods
import ClassAtlas.Proofs.Detail.Holders
import ClassAtlas.Proofs.Detail.Private
import ClassAtlas.Proofs.Cache.Expiry
import ClassAtlas.Proofs.Import.Written
import ClassAtlas.Proofs.Token.WrittenType
import ClassAtlas.Proofs.Usage.Parameter
import ClassAtlas.Proofs.Usage.Property
import ClassAtlas.Proofs.Token.Numbering
import ClassAtlas.Proofs.Text.Words
import ClassAtlas.Proofs.DocBlock
import ClassAtlas.Proofs.Declaration.TypeText
import ClassAtlas.Proofs.Detail.Slices
import ClassAtlas.Proofs.Usage.Promotion
import ClassAtlas.Proofs.Declaration.Site
import ClassAtlas.Proofs.Declaration.Outermost
import ClassAtlas.Proofs.Token.Namespace
import ClassAtlas.Proofs.Index.Faults
import ClassAtlas.Proofs.Index.Resumed
import ClassAtlas.Proofs.Detail.Filters
import ClassAtlas.Proofs.Text.Replace
import ClassAtlas.Proofs.Release.Span
import ClassAtlas.Proofs.Release.Sync
import ClassAtlas.Proofs.Usage.Grouping
import ClassAtlas.Proofs.Usage.Coherence
import ClassAtlas.Proofs.Index.Unmet
import ClassAtlas.Proofs.Index.Climb
import ClassAtlas.Proofs.Detail.Nesting
import ClassAtlas.Proofs.Index.Registry
import ClassAtlas.Proofs.Usage.MergedNames
import ClassAtlas.Proofs.Name.Bare

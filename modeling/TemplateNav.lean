import TemplateNav.Text.Basic
import TemplateNav.Text.Ranges
import TemplateNav.Text.Blank
import TemplateNav.Text.WordChar
import TemplateNav.Text.Scan
import TemplateNav.Position
import TemplateNav.Lines
import TemplateNav.Template.Tag
import TemplateNav.Template.Fragment
import TemplateNav.Script.Identifier
import TemplateNav.Script.Bracket
import TemplateNav.Script.Binding
import TemplateNav.Script.Occurrence
import TemplateNav.Symbol.Basic
import TemplateNav.Symbol.Rule
import TemplateNav.Symbol.Recognize
import TemplateNav.Symbol.Index
import TemplateNav.Analysis
import TemplateNav.Navigation.Target
import TemplateNav.Navigation.Hover
import TemplateNav.Navigation.Highlight
import TemplateNav.Text.Printable
import TemplateNav.Text.Quoted
import TemplateNav.Decimal.Binary
import TemplateNav.Decimal.Fixed
import TemplateNav.Decimal.Shortest
import TemplateNav.Decimal.Layout
import TemplateNav.Members
import TemplateNav.Json
import TemplateNav.Settings.Basic
import TemplateNav.Settings.Decode
import TemplateNav.Uri.Basic
import TemplateNav.Uri.Escape
import TemplateNav.Uri.Path
import TemplateNav.Uri.Host
import TemplateNav.Uri.Authority
import TemplateNav.Uri.Parse
import TemplateNav.Latency.Monitor
import TemplateNav.Latency.Report
import TemplateNav.Cache.RevisionMap
import TemplateNav.Cache.Basic
import TemplateNav.Cache.Command
import TemplateNav.Query.Tracker
import TemplateNav.Session.Answer
import TemplateNav.Session.Message
import TemplateNav.Session.Basic
import TemplateNav.Session.Task
import TemplateNav.Session.Backlog
import TemplateNav.Session.Step
import TemplateNav.Proofs.Text.Placement
import TemplateNav.Proofs.Text.Overlap
import TemplateNav.Proofs.Text.Bytes
import TemplateNav.Proofs.Lines.Placement
import TemplateNav.Proofs.Lines.Offsets
import TemplateNav.Proofs.Lines.Boundaries
import TemplateNav.Proofs.Lines.Shift
import TemplateNav.Proofs.Template.Placement
import TemplateNav.Proofs.Template.Location
import TemplateNav.Proofs.Template.Containment
import TemplateNav.Proofs.Template.Surroundings
import TemplateNav.Proofs.Script.Identifier
import TemplateNav.Proofs.Script.Placement
import TemplateNav.Proofs.Script.Grammar
import TemplateNav.Proofs.Script.BindingSyntax
import TemplateNav.Proofs.Script.ReadBack
import TemplateNav.Proofs.Deduplication
import TemplateNav.Proofs.Symbol.Placement
import TemplateNav.Proofs.Symbol.Location
import TemplateNav.Proofs.Symbol.FirstDeclaration
import TemplateNav.Proofs.Symbol.Buckets
import TemplateNav.Proofs.Symbol.Shift
import TemplateNav.Proofs.Symbol.PlainHead
import TemplateNav.Proofs.Symbol.PlainDeclaration
import TemplateNav.Proofs.Navigation.Agreement
import TemplateNav.Proofs.Navigation.ClientNumbers
import TemplateNav.Proofs.Navigation.Places
import TemplateNav.Proofs.Navigation.Surroundings
import TemplateNav.Proofs.Cache.Agreement
import TemplateNav.Proofs.Cache.Transparency
import TemplateNav.Proofs.Cache.Accounting
import TemplateNav.Proofs.Cache.Eviction
import TemplateNav.Proofs.Cache.Capacity
import TemplateNav.Proofs.Cache.Sweeping
import TemplateNav.Proofs.Query.Tickets
import TemplateNav.Proofs.Query.History
import TemplateNav.Proofs.Session.Frame
import TemplateNav.Proofs.Session.Freshness
import TemplateNav.Proofs.Interleaving.Basic
import TemplateNav.Proofs.Interleaving.Closure
import TemplateNav.Proofs.Interleaving.Freshness
import TemplateNav.Proofs.Interleaving.Uninterrupted
import TemplateNav.Proofs.Interleaving.Reopening
import TemplateNav.Proofs.Template.Coverage
import TemplateNav.Proofs.Template.Delimiter
import TemplateNav.Proofs.Template.Nesting
import TemplateNav.Proofs.Template.Outermost
import TemplateNav.Proofs.Navigation.Highlights
import TemplateNav.Proofs.Script.Usages
import TemplateNav.Proofs.Session.Configuration
import TemplateNav.Proofs.Script.Matching
import TemplateNav.Proofs.Symbol.ArrowList
import TemplateNav.Proofs.Symbol.Initializer
import TemplateNav.Proofs.Settings.Record
import TemplateNav.Proofs.Settings.Decoding
import TemplateNav.Proofs.Settings.RoundTrip
import TemplateNav.Proofs.Session.SlowWarning
import TemplateNav.Proofs.Latency.Window
import TemplateNav.Proofs.Script.ByteGrammar
import TemplateNav.Proofs.Navigation.CursorWord
import TemplateNav.Proofs.Script.Segments
import TemplateNav.Proofs.Template.Columns
import TemplateNav.Proofs.Script.BindingOrder
import TemplateNav.Proofs.Script.ByteScan
import TemplateNav.Proofs.Script.Expansion

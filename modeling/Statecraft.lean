import Statecraft.Guard.Data
import Statecraft.Guard.Editing
import Statecraft.Json.Reader
import Statecraft.Json.Writer
import Statecraft.Definition.Report
import Statecraft.Graph.Data
import Statecraft.Session
import Statecraft.Yaml.Reader
import Statecraft.Definition.Source
import Statecraft.Yaml.Outline
import Statecraft.Yaml.Pen
import Statecraft.Yaml.Writer
import Statecraft.Document.Overlay
import Statecraft.Settings.Assignments
import Statecraft.Settings.Layers
import Statecraft.Console.Style
import Statecraft.Console.Emoji
import Statecraft.Console.Markup
import Statecraft.Console.Message
import Statecraft.Command.Arguments
import Statecraft.Command.Basic
import Statecraft.Command.Create
import Statecraft.Command.Describe
import Statecraft.Command.Graph
import Statecraft.Command.Guard
import Statecraft.Command.Run
import Statecraft.Console.Screen
import Statecraft.Main
import Statecraft.Literal.Token
import Statecraft.Literal.Node
import Statecraft.Literal.Peg
import Statecraft.Literal.Grammar
import Statecraft.Literal.Value
import Statecraft.Proofs.Keyed
import Statecraft.Proofs.Graph.Merge
import Statecraft.Proofs.Graph.WellFormed
import Statecraft.Proofs.Definition.Graph
import Statecraft.Proofs.Session.Reachable
import Statecraft.Proofs.Definition.Valid
import Statecraft.Proofs.Graph.Definition
import Statecraft.Proofs.Definition.RoundTrip
import Statecraft.Proofs.Definition.Positions
import Statecraft.Proofs.Graph.Reload
import Statecraft.Proofs.Session.Reload
import Statecraft.Proofs.Decimal.Bits
import Statecraft.Proofs.Decimal.Rounding
import Statecraft.Proofs.Decimal.Shortest
import Statecraft.Proofs.Decimal.Numeral
import Statecraft.Proofs.Decimal.ReadBack
import Statecraft.Proofs.Guard.Literal
import Statecraft.Proofs.Guard.Grammar
import Statecraft.Proofs.Guard.Reread
import Statecraft.Proofs.Guard.Image
import Statecraft.Proofs.Guard.RoundTrip
import Statecraft.Proofs.Guard.Meaning
import Statecraft.Proofs.Guard.Draft
import Statecraft.Proofs.Guard.Derivation
import Statecraft.Proofs.Guard.Acceptance
import Statecraft.Proofs.Definition.Loading
import Statecraft.Proofs.Definition.Check
import Statecraft.Proofs.Definition.Derived
import Statecraft.Proofs.Guard.Editing
import Statecraft.Proofs.Graph.Copies
import Statecraft.Proofs.Definition.Relaid
import Statecraft.Proofs.Console.Act
import Statecraft.Proofs.Command.Layout
import Statecraft.Proofs.Json.Scalar
import Statecraft.Proofs.Json.ReadBack
import Statecraft.Proofs.Guard.Data
import Statecraft.Proofs.Guard.Reload
import Statecraft.Proofs.Graph.Names
import Statecraft.Proofs.Session.Copies
import Statecraft.Proofs.Guard.Canonical
import Statecraft.Proofs.Session.Notices
import Statecraft.Proofs.Definition.Answers
import Statecraft.Proofs.Definition.Verdict
import Statecraft.Proofs.Definition.Plain
import Statecraft.Proofs.Definition.ReadBack
import Statecraft.Proofs.Graph.Gather
import Statecraft.Proofs.Session.Rounds
import Statecraft.Proofs.Console.Show
import Statecraft.Proofs.Command.Wizard
import Statecraft.Proofs.Console.Markup
import Statecraft.Proofs.Guard.Cited
import Statecraft.Proofs.Guard.Message
import Statecraft.Proofs.Definition.Written
import Statecraft.Proofs.Session.States
import Statecraft.Proofs.Command.Create
import Statecraft.Proofs.Command.Quoting
import Statecraft.Proofs.Definition.Divergence
import Statecraft.Proofs.Definition.Alike
import Statecraft.Proofs.Definition.Isolated
import Statecraft.Proofs.Graph.Renaming
import Statecraft.Proofs.Graph.Normal
import Statecraft.Proofs.Graph.Restriction
import Statecraft.Proofs.Graph.Redrawing
import Statecraft.Proofs.Graph.Agreement
import Statecraft.Proofs.Layout.Reach
import Statecraft.Proofs.Layout.Layers
import Statecraft.Proofs.Layout.Rank
import Statecraft.Proofs.Layout.Apart
import Statecraft.Proofs.Graph.Addressing
import Statecraft.Proofs.Definition.Shown
import Statecraft.Proofs.Guard.Number
import Statecraft.Proofs.Guard.Spacing
import Statecraft.Proofs.Guard.Located
import Statecraft.Proofs.Guard.Coverage
import Statecraft.Proofs.Guard.Completeness
import Statecraft.Proofs.Document.Lookup
import Statecraft.Proofs.Document.Overlay
import Statecraft.Proofs.Shape.Checked
import Statecraft.Proofs.Document.Plain
import Statecraft.Proofs.Yaml.Dictionary
import Statecraft.Proofs.Settings.Leaf
import Statecraft.Proofs.Settings.Configured
import Statecraft.Proofs.Settings.Variables
import Statecraft.Proofs.Settings.Precedence
import Statecraft.Proofs.Graph.Fresh
import Statecraft.Proofs.Decimal.Root
import Statecraft.Proofs.Layout.Grid
import Statecraft.Proofs.Text.Encoded
import Statecraft.Proofs.Folder
import Statecraft.Proofs.Json.Printed
import Statecraft.Proofs.Yaml.Printed
import Statecraft.Proofs.Definition.Stored
import Statecraft.Proofs.Guard.Spare
import Statecraft.Proofs.Except

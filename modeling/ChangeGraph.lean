import ChangeGraph.Analysis.Analyzer
import ChangeGraph.Analysis.Notice
import ChangeGraph.Diff.ChangedFile
import ChangeGraph.Diff.Hunk
import ChangeGraph.Files.Fault
import ChangeGraph.Files.Host
import ChangeGraph.Files.Path
import ChangeGraph.Files.Tree
import ChangeGraph.Git.Repository
import ChangeGraph.Grammar.Automaton
import ChangeGraph.Grammar.Production
import ChangeGraph.Grammar.Regex
import ChangeGraph.Grammar.Rule
import ChangeGraph.Grammar.Tables
import ChangeGraph.Graph.Basic
import ChangeGraph.Graph.Build
import ChangeGraph.Graph.Dot
import ChangeGraph.Graph.Json
import ChangeGraph.Graph.Options
import ChangeGraph.Json.Reader
import ChangeGraph.Json.Writer
import ChangeGraph.LineRange.Basic
import ChangeGraph.LineRange.Merge
import ChangeGraph.LineRange.Reader
import ChangeGraph.Number.Double
import ChangeGraph.Number.Shortest
import ChangeGraph.Parse.Cursor
import ChangeGraph.Parse.Engine
import ChangeGraph.Parse.Lexer
import ChangeGraph.Parse.Shape
import ChangeGraph.Parse.Stack
import ChangeGraph.Parse.Tree
import ChangeGraph.Patch.Line
import ChangeGraph.Patch.Reader
import ChangeGraph.Script.Context
import ChangeGraph.Script.JavaScript
import ChangeGraph.Script.Language
import ChangeGraph.Script.Lexical
import ChangeGraph.Script.TypeScript
import ChangeGraph.Settings.Store
import ChangeGraph.Settings.Word
import ChangeGraph.Source.Calls
import ChangeGraph.Source.File
import ChangeGraph.Source.Kind
import ChangeGraph.Source.NameIndex
import ChangeGraph.Source.Shape
import ChangeGraph.Source.Signature
import ChangeGraph.Source.Snippet
import ChangeGraph.Source.Symbol
import ChangeGraph.Source.Symbols
import ChangeGraph.Syntax.Node
import ChangeGraph.Text.Blank
import ChangeGraph.Text.Cut
import ChangeGraph.Text.Digit
import ChangeGraph.Text.Integer
import ChangeGraph.Text.Lines
import ChangeGraph.Text.Printable
import ChangeGraph.Text.Quoted
import ChangeGraph.Text.Utf8
import ChangeGraph.Toml.Fault
import ChangeGraph.Toml.Layout
import ChangeGraph.Toml.Reader
import ChangeGraph.Toml.Scalar
import ChangeGraph.Toml.Writer
import ChangeGraph.Value.Basic
import ChangeGraph.Value.Moment
import ChangeGraph.Value.Shown
import ChangeGraph.Command.Arguments
import ChangeGraph.Command.Basic
import ChangeGraph.Command.Run
import ChangeGraph.Main
import ChangeGraph.Proofs.FirstByKey
import ChangeGraph.Proofs.Graph.Ids
import ChangeGraph.Proofs.Outcome
import ChangeGraph.Proofs.Source.NameIndex
import ChangeGraph.Proofs.Source.Symbols
import ChangeGraph.Proofs.Graph.References
import ChangeGraph.Proofs.Graph.Layout
import ChangeGraph.Proofs.Graph.Edges
import ChangeGraph.Proofs.Graph.Limits
import ChangeGraph.Proofs.Graph.OneHop
import ChangeGraph.Proofs.Diff.ChangedLines
import ChangeGraph.Proofs.Patch.AddedLines
import ChangeGraph.Proofs.Analysis.Memo
import ChangeGraph.Proofs.Syntax.Places
import ChangeGraph.Proofs.Source.Calls
import ChangeGraph.Proofs.Source.Declared
import ChangeGraph.Proofs.Analysis.Escapes
import ChangeGraph.Proofs.Graph.FileOrder
import ChangeGraph.Proofs.Graph.Views
import ChangeGraph.Proofs.Analysis.Isolation
import ChangeGraph.Proofs.Patch.Groups
import ChangeGraph.Proofs.Patch.RoundTrip
import ChangeGraph.Proofs.Patch.Joined
import ChangeGraph.Proofs.Graph.DistinctIds
import ChangeGraph.Proofs.Graph.MoreLines
import ChangeGraph.Proofs.Graph.HiddenOutside
import ChangeGraph.Proofs.Text.Cutting
import ChangeGraph.Proofs.Text.Digits
import ChangeGraph.Proofs.Text.Utf8
import ChangeGraph.Proofs.Toml.Layout
import ChangeGraph.Proofs.Toml.Quoted
import ChangeGraph.Proofs.Toml.PlainValues
import ChangeGraph.Proofs.Toml.Lists
import ChangeGraph.Proofs.Toml.Tables
import ChangeGraph.Proofs.Toml.Lines
import ChangeGraph.Proofs.Toml.Sections
import ChangeGraph.Proofs.Toml.Written
import ChangeGraph.Proofs.Toml.RoundTrip
import ChangeGraph.Proofs.Files.Held
import ChangeGraph.Proofs.Settings.Saving
import ChangeGraph.Proofs.Analysis.Reads
import ChangeGraph.Proofs.Dot.Quoted
import ChangeGraph.Proofs.Dot.ReadBack
import ChangeGraph.Proofs.Json.Quoted
import ChangeGraph.Proofs.Graph.Exported
import ChangeGraph.Proofs.Toml.OneTable
import ChangeGraph.Proofs.Settings.Words
import ChangeGraph.Proofs.Settings.LastWrite
import ChangeGraph.Proofs.Diff.Combined
import ChangeGraph.Proofs.Source.Resolution
import ChangeGraph.Proofs.Settings.Loading
import ChangeGraph.Proofs.Screen.Marks
import ChangeGraph.Proofs.Screen.Wrapping
import ChangeGraph.Proofs.Screen.Cells
import ChangeGraph.Proofs.Command.Shown
import ChangeGraph.Proofs.LineRange.Canonical
import ChangeGraph.Proofs.Source.Columns
import ChangeGraph.Proofs.Source.Snippets
import ChangeGraph.Proofs.LineRange.Written
import ChangeGraph.Proofs.Screen.Signs

import ModelNav.Call
import ModelNav.Client
import ModelNav.CommandLine.Arguments
import ModelNav.CommandLine.Command
import ModelNav.CommandLine.Console
import ModelNav.CommandLine.Execute
import ModelNav.CommandLine.HoverLines
import ModelNav.Convention
import ModelNav.Dictionary
import ModelNav.Document
import ModelNav.Failure
import ModelNav.FileSystem.Basic
import ModelNav.FileSystem.ReadText
import ModelNav.FileSystem.Update
import ModelNav.Host
import ModelNav.Hover
import ModelNav.Http.Address
import ModelNav.Http.Description
import ModelNav.Http.Host.Characters
import ModelNav.Http.Host.Direction
import ModelNav.Http.Host.Joining
import ModelNav.Http.Host.Label
import ModelNav.Http.Host.Numeric
import ModelNav.Http.Host.Punycode
import ModelNav.Http.Route
import ModelNav.Http.Service
import ModelNav.Json.Basic
import ModelNav.Json.Encoding
import ModelNav.Json.Printer
import ModelNav.Json.Reader
import ModelNav.Listing
import ModelNav.Load
import ModelNav.Main
import ModelNav.Method.Comment
import ModelNav.Method.Declaration
import ModelNav.Method.Search
import ModelNav.Path
import ModelNav.Project.AppDirs
import ModelNav.Project.Candidates
import ModelNav.Project.Discovery
import ModelNav.Proofs.Call
import ModelNav.Proofs.Call.WholeRun
import ModelNav.Proofs.Client
import ModelNav.Proofs.CommandLine.Definition
import ModelNav.Proofs.Convention
import ModelNav.Proofs.Document
import ModelNav.Proofs.Document.WholeRun
import ModelNav.Proofs.FileSystem
import ModelNav.Proofs.FileSystem.Reading
import ModelNav.Proofs.Hover
import ModelNav.Proofs.Http.Lookups
import ModelNav.Proofs.Load.Appending
import ModelNav.Proofs.Load.LineEnds
import ModelNav.Proofs.Load.Occurrence
import ModelNav.Proofs.Load.Writing
import ModelNav.Proofs.Method.Column
import ModelNav.Proofs.Method.Declaration
import ModelNav.Proofs.Method.Definition
import ModelNav.Proofs.Method.Documentation
import ModelNav.Proofs.Method.FirstDefinition
import ModelNav.Proofs.Method.InlineBlock
import ModelNav.Proofs.Method.LineEnds
import ModelNav.Proofs.Method.LineNumbers
import ModelNav.Proofs.Method.Locality
import ModelNav.Proofs.Method.Lookup
import ModelNav.Proofs.Method.OpeningBrace
import ModelNav.Proofs.Project.Agreement
import ModelNav.Proofs.Project.AppDirs
import ModelNav.Proofs.Project.Candidates
import ModelNav.Proofs.Project.CanonicalOrder
import ModelNav.Proofs.Project.Containment
import ModelNav.Proofs.Project.ModelFile
import ModelNav.Proofs.Project.Ranking
import ModelNav.Proofs.Project.Subproject
import ModelNav.Proofs.Resolution.Agreement
import ModelNav.Proofs.Resolution.Appending
import ModelNav.Proofs.Resolution.LineEnds
import ModelNav.Proofs.Resolution.Links
import ModelNav.Proofs.Resolution.Target
import ModelNav.Proofs.Settings.Loading
import ModelNav.Proofs.Text.Lines
import ModelNav.Proofs.Text.Pieces
import ModelNav.Proofs.Text.Utf8
import ModelNav.Record
import ModelNav.Resolution
import ModelNav.Rounding
import ModelNav.Session
import ModelNav.Settings.Basic
import ModelNav.Settings.EnvFile
import ModelNav.Settings.Sources
import ModelNav.Terminal.CellWidth
import ModelNav.Terminal.Cluster
import ModelNav.Terminal.Color
import ModelNav.Terminal.Emoji
import ModelNav.Terminal.Layout
import ModelNav.Terminal.Literal.Escape
import ModelNav.Terminal.Literal.Fault
import ModelNav.Terminal.Literal.Grammar
import ModelNav.Terminal.Literal.Matcher
import ModelNav.Terminal.Literal.Reader
import ModelNav.Terminal.Literal.Shape
import ModelNav.Terminal.Literal.Template
import ModelNav.Terminal.Literal.Token
import ModelNav.Terminal.Literal.Tokens
import ModelNav.Terminal.Markup
import ModelNav.Terminal.Style
import ModelNav.Terminal.Styled
import ModelNav.Terminal.Table
import ModelNav.Text.Basic
import ModelNav.Text.CaseFold
import ModelNav.Text.CharacterName
import ModelNav.Text.CharacterName.AToB
import ModelNav.Text.CharacterName.CToF
import ModelNav.Text.CharacterName.GToL
import ModelNav.Text.CharacterName.MToR
import ModelNav.Text.CharacterName.SToZ
import ModelNav.Text.CodeTable
import ModelNav.Text.Composed
import ModelNav.Text.Digit
import ModelNav.Text.Lines
import ModelNav.Text.Mark
import ModelNav.Text.Name
import ModelNav.Text.Numeral
import ModelNav.Text.Printable
import ModelNav.Text.Quoted
import ModelNav.Text.Space
import ModelNav.Text.StyledLetter
import ModelNav.Text.Upper
import ModelNav.Text.Utf8
import ModelNav.Text.Word
import ModelNav.Traced
import ModelNav.Validation
import ModelNav.Version

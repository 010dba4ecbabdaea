import QueryGate.Dsn.Mask
import QueryGate.Dsn.Read
import QueryGate.Dsn.Tls
import QueryGate.Error
import QueryGate.Gate.Combined
import QueryGate.Gate.Fragment
import QueryGate.Gate.Lexical
import QueryGate.Gate.Verdict
import QueryGate.Json.Print
import QueryGate.Json.Read
import QueryGate.Json.Value
import QueryGate.Log.Event
import QueryGate.Log.Filter
import QueryGate.Log.Line
import QueryGate.Main
import QueryGate.Number.Binary
import QueryGate.Number.Read
import QueryGate.Number.Shortest
import QueryGate.Number.Text
import QueryGate.Query.Program
import QueryGate.Query.Run
import QueryGate.Query.Stream
import QueryGate.Registry.Connect
import QueryGate.Registry.State
import QueryGate.Render.Grid
import QueryGate.Render.Markdown
import QueryGate.Render.Output
import QueryGate.Render.Size
import QueryGate.Rows.Calendar
import QueryGate.Rows.Cell
import QueryGate.Rows.Column
import QueryGate.Rows.Limit
import QueryGate.Rows.Result
import QueryGate.Schema.Column
import QueryGate.Schema.Field
import QueryGate.Schema.Index
import QueryGate.Schema.Inspect
import QueryGate.Schema.Table
import QueryGate.Schema.Template
import QueryGate.Scripted.Server
import QueryGate.Scripted.World
import QueryGate.Server.Catalogue
import QueryGate.Server.Ending
import QueryGate.Server.Journal
import QueryGate.Server.Session
import QueryGate.Settings.CommandLine
import QueryGate.Settings.Connections
import QueryGate.Settings.Pool
import QueryGate.Settings.Server
import QueryGate.Sql.Identifier
import QueryGate.Sql.Keyword
import QueryGate.Sql.Literal
import QueryGate.Sql.Nodes
import QueryGate.Sql.Read.Administration
import QueryGate.Sql.Read.Basic
import QueryGate.Sql.Read.DataType
import QueryGate.Sql.Read.Definition
import QueryGate.Sql.Read.Expr
import QueryGate.Sql.Read.Query
import QueryGate.Sql.Read.Statement
import QueryGate.Sql.Read.Table
import QueryGate.Sql.Read.Write
import QueryGate.Sql.Token
import QueryGate.Sql.Tree
import QueryGate.Text.Blank
import QueryGate.Text.Case
import QueryGate.Text.Cut
import QueryGate.Text.Pattern
import QueryGate.Text.Utf8
import QueryGate.Text.Visible
import QueryGate.Text.Width
import QueryGate.Text.WidthRanges
import QueryGate.Text.WordChar
import QueryGate.Tool.Input
import QueryGate.Tool.Output
import QueryGate.Tool.Run
import QueryGate.Vector.Search
import QueryGate.Proofs.Coverage
import QueryGate.Proofs.Mediation
import QueryGate.Proofs.ReadOnly
import QueryGate.Proofs.Layers
import QueryGate.Proofs.Unit.Name
import QueryGate.Proofs.Refused
import QueryGate.Proofs.Opening
import QueryGate.Proofs.Text.Utf8
import QueryGate.Proofs.Unit.Closing
import QueryGate.Proofs.Blanking
import QueryGate.Proofs.Unit.Cut
import QueryGate.Proofs.Literals
import QueryGate.Proofs.Front.Definition
import QueryGate.Proofs.Front.Administration
import QueryGate.Proofs.Count
import QueryGate.Proofs.Unit.Idle
import QueryGate.Proofs.Text.Trim
import QueryGate.Proofs.Stacking
import QueryGate.Proofs.Text.Cut
import QueryGate.Proofs.Dsn.Mask
import QueryGate.Proofs.Dsn.Told
import QueryGate.Proofs.Dsn.Tls
import QueryGate.Proofs.Unit.Tail
import QueryGate.Proofs.Ending.Basic
import QueryGate.Proofs.Ending.Expr
import QueryGate.Proofs.Ending.Query
import QueryGate.Proofs.Ending.Text
import QueryGate.Proofs.Standing
import QueryGate.Proofs.Search.Parts
import QueryGate.Proofs.Search.Shape
import QueryGate.Proofs.Concurrent.Machine
import QueryGate.Proofs.Concurrent.Selection
import QueryGate.Proofs.Concurrent.Discipline
import QueryGate.Proofs.Concurrent.Serving
import QueryGate.Proofs.Concurrent.Handing
import QueryGate.Proofs.Concurrent.Ownership
import QueryGate.Proofs.Concurrent.Routing
import QueryGate.Proofs.Concurrent.Switching
import QueryGate.Proofs.Concurrent.Pools
import QueryGate.Proofs.Concurrent.ScriptedPools
import QueryGate.Proofs.Concurrent.Schema
import QueryGate.Proofs.Stripping
import QueryGate.Proofs.Text.Match
import QueryGate.Proofs.Contents
import QueryGate.Proofs.Alone
import QueryGate.Proofs.Startup
import QueryGate.Proofs.Explained
import QueryGate.Proofs.Text.Case
import QueryGate.Proofs.Leading
import QueryGate.Proofs.Text.Split
import QueryGate.Proofs.Identifier
import QueryGate.Proofs.LetterCase
import QueryGate.Proofs.SelectList
import QueryGate.Proofs.Templates
import QueryGate.Proofs.Digits
import QueryGate.Proofs.Dsn.Address
import QueryGate.Proofs.Dsn.Written
import QueryGate.Proofs.Configured
import QueryGate.Proofs.Offered
import QueryGate.Proofs.Dsn.Once
import QueryGate.Proofs.Json
import QueryGate.Proofs.Truncation
import QueryGate.Proofs.Grouping
import QueryGate.Proofs.Text.Lines
import QueryGate.Proofs.OneLine
import QueryGate.Proofs.Text.Seam
import QueryGate.Proofs.Seam
import QueryGate.Proofs.Outside
import QueryGate.Proofs.Filter
import QueryGate.Proofs.Cells
import QueryGate.Proofs.Alignment

import WikiCasing.Casing.Command
import WikiCasing.Casing.Transform
import WikiCasing.CommandLine.Arguments
import WikiCasing.CommandLine.Request
import WikiCasing.CommandLine.Result
import WikiCasing.CommandLine.Run
import WikiCasing.Console.Emoji
import WikiCasing.Console.Line
import WikiCasing.Console.Markup
import WikiCasing.Console.Sequence
import WikiCasing.Console.Style
import WikiCasing.Console.Width
import WikiCasing.Editor.Basic
import WikiCasing.Editor.Buffer
import WikiCasing.Editor.Host
import WikiCasing.Editor.Session
import WikiCasing.Json.Syntax
import WikiCasing.Json.Value
import WikiCasing.Log.Notice
import WikiCasing.Main
import WikiCasing.Markup.Form
import WikiCasing.Markup.Name
import WikiCasing.Markup.Plan
import WikiCasing.Markup.Recase
import WikiCasing.Note.File
import WikiCasing.Note.FrontMatter
import WikiCasing.Program
import WikiCasing.Prompt.Basic
import WikiCasing.Proofs.Casing.Idempotence
import WikiCasing.Proofs.Casing.Lines
import WikiCasing.Proofs.Casing.Recast
import WikiCasing.Proofs.Casing.Skeleton
import WikiCasing.Proofs.Casing.Stability
import WikiCasing.Proofs.Casing.UpperOfLower
import WikiCasing.Proofs.Casing.Words
import WikiCasing.Proofs.CommandLine.Input
import WikiCasing.Proofs.CommandLine.Modes
import WikiCasing.Proofs.Console.Message
import WikiCasing.Proofs.Console.Sequence
import WikiCasing.Proofs.Editor.Caret
import WikiCasing.Proofs.Editor.Guards
import WikiCasing.Proofs.Editor.Hosts
import WikiCasing.Proofs.Editor.LineBuffer
import WikiCasing.Proofs.Editor.Notification
import WikiCasing.Proofs.Editor.Reaction
import WikiCasing.Proofs.Editor.Typing
import WikiCasing.Proofs.Editor.Writes
import WikiCasing.Proofs.Json.Written
import WikiCasing.Proofs.Markup.Accounting
import WikiCasing.Proofs.Markup.Appending
import WikiCasing.Proofs.Markup.Block
import WikiCasing.Proofs.Markup.CaretBounds
import WikiCasing.Proofs.Markup.Cascade
import WikiCasing.Proofs.Markup.Change
import WikiCasing.Proofs.Markup.Enclosing
import WikiCasing.Proofs.Markup.FirstWord
import WikiCasing.Proofs.Markup.Grammar
import WikiCasing.Proofs.Markup.Insertion
import WikiCasing.Proofs.Markup.Landing
import WikiCasing.Proofs.Markup.Lines
import WikiCasing.Proofs.Markup.Ordinary
import WikiCasing.Proofs.Markup.Outside
import WikiCasing.Proofs.Markup.Overlap
import WikiCasing.Proofs.Markup.Pass
import WikiCasing.Proofs.Markup.Precedence
import WikiCasing.Proofs.Markup.Rendering
import WikiCasing.Proofs.Markup.Resolved
import WikiCasing.Proofs.Markup.Scan
import WikiCasing.Proofs.Markup.Simultaneous
import WikiCasing.Proofs.Markup.Spelling
import WikiCasing.Proofs.Markup.Unfinished
import WikiCasing.Proofs.Note.ClosedForm
import WikiCasing.Proofs.Note.ClosingLine
import WikiCasing.Proofs.Note.Fences
import WikiCasing.Proofs.Note.File
import WikiCasing.Proofs.Note.FrontMatter
import WikiCasing.Proofs.Settings.Register
import WikiCasing.Proofs.Storage.Listing
import WikiCasing.Proofs.Storage.Paths
import WikiCasing.Proofs.Storage.Tree
import WikiCasing.Proofs.Text.Cut
import WikiCasing.Proofs.Text.Expression
import WikiCasing.Proofs.Text.Line
import WikiCasing.Proofs.Text.Newline
import WikiCasing.Proofs.Text.Utf8
import WikiCasing.Proofs.Unicode.CaseClosure
import WikiCasing.Proofs.Unicode.CaseImage
import WikiCasing.Proofs.Unicode.CaseReturn
import WikiCasing.Proofs.Vault.DryRun
import WikiCasing.Proofs.Vault.Repeated
import WikiCasing.Proofs.Vault.Run
import WikiCasing.Settings.Home
import WikiCasing.Settings.Reader
import WikiCasing.Settings.Store
import WikiCasing.Storage.Path
import WikiCasing.Storage.Replace
import WikiCasing.Storage.Tree
import WikiCasing.Text.Basic
import WikiCasing.Text.Expression
import WikiCasing.Text.Integer
import WikiCasing.Text.Quoted
import WikiCasing.Text.Utf8
import WikiCasing.Unicode.Basic
import WikiCasing.Unicode.CaseMap
import WikiCasing.Unicode.Cased
import WikiCasing.Unicode.Category
import WikiCasing.Unicode.Printable
import WikiCasing.Vault.Recase

import InterfaceGen.Command.Arguments
import InterfaceGen.Command.Batch
import InterfaceGen.Command.Help
import InterfaceGen.Command.Invocation
import InterfaceGen.Command.Project
import InterfaceGen.Command.Run
import InterfaceGen.Command.Session
import InterfaceGen.Command.Single
import InterfaceGen.Command.Style
import InterfaceGen.Conversion
import InterfaceGen.Event
import InterfaceGen.Files.Content
import InterfaceGen.Files.Path
import InterfaceGen.Files.Tree
import InterfaceGen.Files.Walk
import InterfaceGen.Interface.Options
import InterfaceGen.Interface.Printer
import InterfaceGen.Interface.Writer
import InterfaceGen.Json.Printer
import InterfaceGen.Json.Reader
import InterfaceGen.Json.Record
import InterfaceGen.Json.Value
import InterfaceGen.Main
import InterfaceGen.Model.Basic
import InterfaceGen.Model.Json
import InterfaceGen.Settings.Basic
import InterfaceGen.Settings.Json
import InterfaceGen.SortedMap
import InterfaceGen.Source.Lexer
import InterfaceGen.Source.Line
import InterfaceGen.Source.Outline
import InterfaceGen.Source.Token
import InterfaceGen.Text.Basic
import InterfaceGen.Text.Blank
import InterfaceGen.Text.Cased
import InterfaceGen.Text.Letter
import InterfaceGen.Text.Lines
import InterfaceGen.Text.Lowercase
import InterfaceGen.Text.Mark
import InterfaceGen.Text.Printable
import InterfaceGen.Text.Ranges
import InterfaceGen.Types.Resolve
import InterfaceGen.Types.Target
import InterfaceGen.Types.Vocabulary
import InterfaceGen.Proofs.Outline.Matching
import InterfaceGen.Proofs.Outline.Reading
import InterfaceGen.Proofs.Outline.Log
import InterfaceGen.Proofs.Source.Characters
import InterfaceGen.Proofs.Source.Lexing
import InterfaceGen.Proofs.Source.TypeRun
import InterfaceGen.Proofs.Source.Spelling
import InterfaceGen.Proofs.Source.PrintedLine
import InterfaceGen.Proofs.Source.Layout
import InterfaceGen.Proofs.Source.Forest
import InterfaceGen.Proofs.Source.Reprinting
import InterfaceGen.Proofs.Source.Tiling
import InterfaceGen.Proofs.Source.TokenLines
import InterfaceGen.Proofs.Source.TrailingText
import InterfaceGen.Proofs.Source.Normalization
import InterfaceGen.Proofs.Types.Expression
import InterfaceGen.Proofs.Types.Nesting
import InterfaceGen.Proofs.Types.Core
import InterfaceGen.Proofs.Types.Strictness
import InterfaceGen.Proofs.Types.Descent
import InterfaceGen.Proofs.Types.Normal
import InterfaceGen.Proofs.Types.Unlimited
import InterfaceGen.Proofs.Types.Precedence
import InterfaceGen.Proofs.Types.Additions
import InterfaceGen.Proofs.Interface.Blocks
import InterfaceGen.Proofs.Interface.Strictness
import InterfaceGen.Proofs.Interface.Reporting
import InterfaceGen.Proofs.Interface.Writing
import InterfaceGen.Proofs.Interface.Log
import InterfaceGen.Proofs.Json.RoundTrip
import InterfaceGen.Proofs.Conversion.Lenient
import InterfaceGen.Proofs.Conversion.OptionalMarks
import InterfaceGen.Proofs.Conversion.FromModel
import InterfaceGen.Proofs.Text.ByteOrder
import InterfaceGen.Proofs.Settings.Vocabulary
import InterfaceGen.Proofs.Settings.Reordering
import InterfaceGen.Proofs.Conversion.WordRows
import InterfaceGen.Proofs.Conversion.Concatenation
import InterfaceGen.Proofs.Interface.Signatures
import InterfaceGen.Proofs.Conversion.ReadingBack
import InterfaceGen.Proofs.Files.Steps
import InterfaceGen.Proofs.Files.Places
import InterfaceGen.Proofs.Files.Following
import InterfaceGen.Proofs.Files.Changing
import InterfaceGen.Proofs.Files.Putting
import InterfaceGen.Proofs.Files.Walking
import InterfaceGen.Proofs.Command.Treating
import InterfaceGen.Proofs.Command.Targets
import InterfaceGen.Proofs.Command.Building
import InterfaceGen.Proofs.Command.Stages
import InterfaceGen.Proofs.Command.Failing
import InterfaceGen.Proofs.Command.Accounting
import InterfaceGen.Proofs.Command.Confinement
import InterfaceGen.Proofs.Command.Rejecting
import InterfaceGen.Proofs.Command.Emptiness
import InterfaceGen.Proofs.Files.Rereading
import InterfaceGen.Proofs.Command.SettingUp
import InterfaceGen.Proofs.Command.Preserving
import InterfaceGen.Proofs.Settings.RoundTrip
import InterfaceGen.Proofs.Command.NewSettings
import InterfaceGen.Proofs.Interface.PropertyNames
import InterfaceGen.Proofs.Source.TypeScan

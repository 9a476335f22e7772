import FlatSheet.CommandLine.Run
import FlatSheet.FileSystem.Tree
import FlatSheet.Main
import FlatSheet.Proofs.Record.Pass
import FlatSheet.Proofs.Tokens.Segment
import FlatSheet.Proofs.Text.Pattern
import FlatSheet.Proofs.Tokens.Grammar
import FlatSheet.Proofs.Tokens.Spacing
import FlatSheet.Proofs.Tokens.Matching
import FlatSheet.Proofs.Record.Agreement
import FlatSheet.Proofs.Record.Wire
import FlatSheet.Proofs.Record.Operands
import FlatSheet.Proofs.Record.Refusals
import FlatSheet.Proofs.Record.Conditional
import FlatSheet.Proofs.Record.Bounds
import FlatSheet.Proofs.Record.Footprint
import FlatSheet.Proofs.Record.Extension
import FlatSheet.Proofs.Tokens.Placement
import FlatSheet.Proofs.Reference.Spelling
import FlatSheet.Proofs.Reference.Printing
import FlatSheet.Proofs.Condition.Parsing
import FlatSheet.Proofs.Condition.Grammar
import FlatSheet.Proofs.Condition.Printing
import FlatSheet.Proofs.Record.Addressing
import FlatSheet.Proofs.Binary64.Basic
import FlatSheet.Proofs.Record.Application
import FlatSheet.Proofs.Content.Printing
import FlatSheet.Proofs.Binary64.Rounding
import FlatSheet.Proofs.Binary64.Nearest
import FlatSheet.Proofs.Binary64.Value
import FlatSheet.Proofs.Number.Display
import FlatSheet.Proofs.Record.Printing
import FlatSheet.Proofs.Number.Integer
import FlatSheet.Proofs.Number.Nonfinite
import FlatSheet.Proofs.Record.Sources
import FlatSheet.Proofs.CommandLine.Words
import FlatSheet.Proofs.CommandLine.Arguments
import FlatSheet.Proofs.CommandLine.SettingsSource
import FlatSheet.Proofs.CommandLine.Output
import FlatSheet.Proofs.CommandLine.Rerun
import FlatSheet.Proofs.Content.Decision
import FlatSheet.Proofs.Content.Naming
import FlatSheet.Proofs.Record.Warnings
import FlatSheet.Proofs.CommandLine.Verbosity
import FlatSheet.Proofs.Number.Numeral
import FlatSheet.Proofs.Number.Accuracy
import FlatSheet.Proofs.Number.FixedPoint
import FlatSheet.Proofs.Number.Rereading
import FlatSheet.Proofs.Binary64.Rounded
import FlatSheet.Proofs.Number.Decimal
import FlatSheet.Proofs.Number.LeadingInteger
import FlatSheet.Proofs.Number.Spelling
import FlatSheet.Proofs.FileSystem.Path
import FlatSheet.Proofs.FileSystem.Loading
import FlatSheet.Proofs.CommandLine.Style
import FlatSheet.Proofs.Binary64.Remainder
import FlatSheet.Proofs.Record.Precedence

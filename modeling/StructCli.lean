import StructCli.Main
import StructCli.Proofs.Command.Fault
import StructCli.Proofs.Command.Written
import StructCli.Proofs.Directive.RoundTrip
import StructCli.Proofs.Directive.Normal
import StructCli.Proofs.Command.Consumption
import StructCli.Proofs.Go.Rows
import StructCli.Proofs.Go.Sites
import StructCli.Proofs.Go.DocGroup
import StructCli.Proofs.Go.Outline
import StructCli.Proofs.Text.Utf8
import StructCli.Proofs.Go.Sketch
import StructCli.Proofs.Go.Outline.Layout
import StructCli.Proofs.Go.Outline.Docs
import StructCli.Proofs.Go.Outline.Entries
import StructCli.Proofs.Go.Outline.Fields
import StructCli.Proofs.Go.Outline.Reading
import StructCli.Proofs.Text.CodePoint
import StructCli.Proofs.Go.Units
import StructCli.Proofs.Directive.Grammar
import StructCli.Proofs.Command.Agreement
import StructCli.Proofs.Json.Reading
import StructCli.Proofs.Shell.Output
import StructCli.Proofs.Directive.Presence
import StructCli.Proofs.Directive.Merge
import StructCli.Proofs.Command.Sequence
import StructCli.Proofs.Go.Bytes
import StructCli.Proofs.Text.Words
import StructCli.Proofs.Command.Help
import StructCli.Proofs.Go.BlankLines
import StructCli.Proofs.Go.CommentText
import StructCli.Proofs.Go.DocBlock
import StructCli.Proofs.Command.NameWords
import StructCli.Proofs.Text.Casing
import StructCli.Proofs.Command.Kebab
import StructCli.Proofs.Directive.FlagGrammar
import StructCli.Proofs.Go.CommentWords
import StructCli.Proofs.Command.Layout
import StructCli.Proofs.Go.Quotation
import StructCli.Proofs.Go.BlankRow

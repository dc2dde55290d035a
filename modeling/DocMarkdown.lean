import DocMarkdown.Main
import DocMarkdown.Proofs.Source.Concatenation
import DocMarkdown.Proofs.Source.Blanks
import DocMarkdown.Proofs.Text.Lines
import DocMarkdown.Proofs.Text.Margins
import DocMarkdown.Proofs.Comment.Reading
import DocMarkdown.Proofs.Layout
import DocMarkdown.Proofs.Comment.Prose
import DocMarkdown.Proofs.Comment.Writing
import DocMarkdown.Proofs.Printing
import DocMarkdown.Proofs.Source.Imports
import DocMarkdown.Proofs.SingleLine
import DocMarkdown.Proofs.Comment.Values
import DocMarkdown.Proofs.Tags.Items
import DocMarkdown.Proofs.Comment.NormalForm
import DocMarkdown.Proofs.Markdown.Listing
import DocMarkdown.Proofs.Markdown.Spacing
import DocMarkdown.Proofs.Tags.Agreement
import DocMarkdown.Proofs.FileTree.Listing
import DocMarkdown.Proofs.Letters.ByteOrder
import DocMarkdown.Proofs.Batch.Scanning
import DocMarkdown.Proofs.FileTree.Following
import DocMarkdown.Proofs.FileTree.Paths
import DocMarkdown.Proofs.FileTree.Writing
import DocMarkdown.Proofs.Batch.Delivering
import DocMarkdown.Proofs.CommandLine.Modes
import DocMarkdown.Proofs.Letters.Lowercase
import DocMarkdown.Proofs.Languages
import DocMarkdown.Proofs.Batch.Repeating
import DocMarkdown.Proofs.Comment.Blocks
import DocMarkdown.Proofs.Tags.Grouping
import DocMarkdown.Proofs.Comment.Separators
import DocMarkdown.Proofs.Comment.MarkedCode
import DocMarkdown.Proofs.Source.Labels
import DocMarkdown.Proofs.Text.Words
import DocMarkdown.Proofs.Tags.TypedValues
import DocMarkdown.Proofs.Batch.Failing
import DocMarkdown.Proofs.CommandLine.Failing
import DocMarkdown.Proofs.Batch.Overwriting
import DocMarkdown.Proofs.Text.Fields
import DocMarkdown.Proofs.Text.OneLine
import DocMarkdown.Proofs.Source.Offsets

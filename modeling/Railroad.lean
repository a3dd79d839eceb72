import Railroad.Drawing.Svg
import Railroad.Json.Diagram
import Railroad.Json.Node
import Railroad.Main
import Railroad.Node.Bytewise
import Railroad.Node.Parser
import Railroad.Pipeline
import Railroad.Process
import Railroad.Process.Bytewise
import Railroad.Proofs.Balance
import Railroad.Proofs.CharacterNumbers
import Railroad.Proofs.Classes
import Railroad.Proofs.Comments
import Railroad.Proofs.Conditions
import Railroad.Proofs.Containment
import Railroad.Proofs.Depiction
import Railroad.Proofs.Displacement
import Railroad.Proofs.ExtendedScope
import Railroad.Proofs.Faults
import Railroad.Proofs.Grammar
import Railroad.Proofs.GroupNumbers
import Railroad.Proofs.Grouping
import Railroad.Proofs.NameText
import Railroad.Proofs.Naming
import Railroad.Proofs.NormalForm
import Railroad.Proofs.Numbering
import Railroad.Proofs.Onward
import Railroad.Proofs.Outlining
import Railroad.Proofs.PageCharacters
import Railroad.Proofs.PageMarkup
import Railroad.Proofs.PlainText
import Railroad.Proofs.Possessive
import Railroad.Proofs.Printing
import Railroad.Proofs.QuantifierText
import Railroad.Proofs.Rails
import Railroad.Proofs.ReaderRuns
import Railroad.Proofs.Repeating
import Railroad.Proofs.Replacing
import Railroad.Proofs.Searching
import Railroad.Proofs.Slices
import Railroad.Proofs.TemplateBytes
import Railroad.Proofs.Templates
import Railroad.Proofs.Tiling
import Railroad.Proofs.Unfinished
import Railroad.Proofs.Verbatim
import Railroad.Proofs.Walking
import Railroad.Proofs.Zooming
import Railroad.Reference
import Railroad.Regex.Analysis
import Railroad.Regex.Class
import Railroad.Regex.Error
import Railroad.Regex.Parser
import Railroad.Regex.Program
import Railroad.Regex.Search
import Railroad.Text.Decimal
import Railroad.Text.Quoted
import Railroad.Visual.Layout
import Railroad.Visual.Outline

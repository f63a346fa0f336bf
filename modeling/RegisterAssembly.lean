import RegisterAssembly.Listing.Select
import RegisterAssembly.Main
import RegisterAssembly.Decimal
import RegisterAssembly.Text.Quoted
import RegisterAssembly.Proofs.Numeral
import RegisterAssembly.Proofs.Splitting
import RegisterAssembly.Proofs.Denotation
import RegisterAssembly.Proofs.Annotation
import RegisterAssembly.Proofs.Decomposition
import RegisterAssembly.Proofs.Position
import RegisterAssembly.Proofs.Recording
import RegisterAssembly.Proofs.Collection
import RegisterAssembly.Proofs.Disk
import RegisterAssembly.Proofs.Exit
import RegisterAssembly.Proofs.Dump
import RegisterAssembly.Proofs.Reporting
import RegisterAssembly.Proofs.Joining
import RegisterAssembly.Proofs.Composition
import RegisterAssembly.Proofs.EditDistance
import RegisterAssembly.Proofs.PayloadRange
import RegisterAssembly.Proofs.Interruption
import RegisterAssembly.Proofs.Encoding
import RegisterAssembly.Proofs.Independence
import RegisterAssembly.Proofs.LiteralForm
import RegisterAssembly.Proofs.Suggestion
import RegisterAssembly.Proofs.LineCount
import RegisterAssembly.Proofs.Pointing
import RegisterAssembly.Proofs.Correspondence
import RegisterAssembly.Proofs.Spacing
import RegisterAssembly.Proofs.LineEnding
import RegisterAssembly.Proofs.Environment
import RegisterAssembly.Proofs.LabelUse
import RegisterAssembly.Proofs.Numbering
import RegisterAssembly.Proofs.Precedence

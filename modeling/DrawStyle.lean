import DrawStyle.Proofs.Pattern.Seam
import DrawStyle.Proofs.Pattern.Sections
import DrawStyle.Proofs.Pattern.Cuts
import DrawStyle.Proofs.Pattern.Places
import DrawStyle.Proofs.Pattern.Spans
import DrawStyle.Proofs.Pattern.Partition
import DrawStyle.Proofs.Automaton.Room
import DrawStyle.Proofs.Rule.Shape
import DrawStyle.Proofs.Rule.Opening
import DrawStyle.Proofs.Rule.Blocks
import DrawStyle.Proofs.Rule.Listed
import DrawStyle.Proofs.Rule.Fits
import DrawStyle.Proofs.Rule.Named
import DrawStyle.Proofs.Merge.Flat
import DrawStyle.Proofs.Merge.Replacement
import DrawStyle.Proofs.Merge.Removal
import DrawStyle.Proofs.Merge.Turns
import DrawStyle.Proofs.Clean.Balance
import DrawStyle.Proofs.Run.MergedRules
import DrawStyle.Proofs.Token.Layering
import DrawStyle.Proofs.Clean.Bracketing
import DrawStyle.Proofs.Clean.EmptyBraces
import DrawStyle.Proofs.Clean.NormalForm
import DrawStyle.Proofs.Clean.LineEnds
import DrawStyle.Proofs.Clean.Passes
import DrawStyle.Proofs.Clean.Phases
import DrawStyle.Proofs.Clean.PlainLines
import DrawStyle.Proofs.Clean.LineByLine
import DrawStyle.Proofs.Clean.References
import DrawStyle.Proofs.Files.Replace
import DrawStyle.Proofs.Run.Outcome
import DrawStyle.Proofs.Run.References
import DrawStyle.Proofs.Clean.ClassRules
import DrawStyle.Proofs.Files.Frame
import DrawStyle.Proofs.Files.Writable
import DrawStyle.Proofs.Run.AllOrNothing
import DrawStyle.Proofs.Run.Writes
import DrawStyle.Proofs.Text.Encoding
import DrawStyle.Proofs.Json.StringLiteral
import DrawStyle.Proofs.Json.Members
import DrawStyle.Proofs.Token.Entries
import DrawStyle.Proofs.Token.Names
import DrawStyle.Proofs.Token.Substitution
import DrawStyle.Proofs.Token.Locality
import DrawStyle.Proofs.Token.File
import DrawStyle.Proofs.Token.Operations
import DrawStyle.Proofs.Token.Members
import DrawStyle.Proofs.CommandLine.Arguments
import DrawStyle.Proofs.CommandLine.Execution

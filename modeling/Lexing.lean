import Lexing.Machine.Printer
import Lexing.Pattern.Words
import Lexing.Proofs.Catalogue.Differences
import Lexing.Proofs.Catalogue.FileName
import Lexing.Proofs.Grammar.Inheriting
import Lexing.Proofs.Kind.Short
import Lexing.Proofs.Lexer.Whole
import Lexing.Proofs.Machine.Interning
import Lexing.Proofs.Machine.Moves
import Lexing.Proofs.Machine.Reported
import Lexing.Proofs.Options.Pairs
import Lexing.Proofs.Options.Settled
import Lexing.Proofs.Pattern.Words
import Lexing.Proofs.Run.Checked
import Lexing.Proofs.Run.Depth
import Lexing.Proofs.Run.Greedy
import Lexing.Proofs.Run.Numbering
import Lexing.Proofs.Run.Pull
import Lexing.Proofs.Run.Resume
import Lexing.Proofs.Run.Shadowing
import Lexing.Proofs.Run.Steered
import Lexing.Proofs.Splice.Faithful
import Lexing.Proofs.Wire.Respond
import Lexing.Proofs.Wire.Token

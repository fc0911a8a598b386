import GoLiteral.Main
import GoLiteral.Program.Machine
import GoLiteral.Proofs.Reading.Bytes
import GoLiteral.Proofs.Reading.Inverse
import GoLiteral.Proofs.Reading.Rounds
import GoLiteral.Proofs.Reading.SharedBuffer
import GoLiteral.Proofs.Reading.Shortcut
import GoLiteral.Proofs.Reading.Width
import GoLiteral.Proofs.Session.Cuts
import GoLiteral.Proofs.Spelling.Rewrite
import GoLiteral.Proofs.Token.Lexeme
import GoLiteral.Proofs.Command.Refusal
import GoLiteral.Proofs.Command.Input

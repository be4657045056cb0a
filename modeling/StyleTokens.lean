import StyleTokens.Command.Session
import StyleTokens.Cursor.Program
import StyleTokens.Main
import StyleTokens.Proofs.Substitution.Layering
import StyleTokens.Proofs.Command.Compile
import StyleTokens.Proofs.Layers.History
import StyleTokens.Proofs.Substitution.Data
import StyleTokens.Proofs.Token.Quotation
import StyleTokens.Spacing
import StyleTokens.Proofs.Token.Failure
import StyleTokens.Proofs.Command.Listing
import StyleTokens.Proofs.Value.Alike
import StyleTokens.Proofs.Value.Common
import StyleTokens.Proofs.Value.Formats
import StyleTokens.Proofs.Value.Rendering
import StyleTokens.Proofs.Substitution.Fixpoint
import StyleTokens.Proofs.Value.Integers
import StyleTokens.Proofs.Value.Collisions
import StyleTokens.Proofs.Spacing.Units
import StyleTokens.Proofs.Cursor.Program

import Calculator.Main
import Calculator.Proofs.Acceptance
import Calculator.Proofs.Chunking
import Calculator.Proofs.EagerMode
import Calculator.Proofs.EagerRejection
import Calculator.Proofs.RandomExpression
import Calculator.Proofs.RoundTrip
import Calculator.Proofs.WalkOrder
import Calculator.Terminal.Literal
import Calculator.Text.Lowercase
import Calculator.Proofs.Nearest
import Calculator.Proofs.Groups
import Calculator.Proofs.Parentheses
import Calculator.Proofs.FixedPoint
import Calculator.Proofs.NestingDepth
import Calculator.Proofs.Trail
import Calculator.Proofs.Inorder
import Calculator.Proofs.Tiling
import Calculator.Proofs.WellFormed
import Calculator.Proofs.Surroundings
import Calculator.Proofs.Substitution
import Calculator.Proofs.ExactReading
import Calculator.Proofs.Spacing
import Calculator.Proofs.Rendering
import Calculator.Proofs.Ancestors
import Calculator.Proofs.Thousands
import Calculator.Proofs.SettingsChecks
import Calculator.Proofs.Climbing
import Calculator.Proofs.SettingsSearch
import Calculator.Proofs.Loading

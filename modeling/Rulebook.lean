import Rulebook.Builder
import Rulebook.Proofs.RuleString.Pattern
import Rulebook.Proofs.RuleString.Spacing
import Rulebook.Proofs.Validation.Strictness
import Rulebook.Regex.Compile
import Rulebook.Session
import Rulebook.Wire.Outcome
import Rulebook.Proofs.Validation.Level
import Rulebook.Proofs.Rule.Reading
import Rulebook.Proofs.Validation.Composition
import Rulebook.Proofs.Validation.Nesting
import Rulebook.Proofs.Validation.Interference
import Rulebook.Proofs.Table
import Rulebook.Proofs.Value.Alike
import Rulebook.Proofs.Value.Reordered
import Rulebook.Proofs.Validation.Likeness
import Rulebook.Proofs.Validation.Rearrangement
import Rulebook.Proofs.Registry.Log
import Rulebook.Proofs.Registry.Frame
import Rulebook.Proofs.Session.Isolation
import Rulebook.Proofs.Rule.Arguments
import Rulebook.Proofs.Wire.RuleSet
import Rulebook.Proofs.Wire.Value
import Rulebook.Proofs.Wire.Outcome
import Rulebook.Proofs.Validation.Input
import Rulebook.Proofs.Date.Pass
import Rulebook.Proofs.Date.Written
import Rulebook.Proofs.Date.Fields
import Rulebook.Proofs.Date.Instant
import Rulebook.Proofs.Rule.Address
import Rulebook.Proofs.Value.Equality
import Rulebook.Proofs.Number.Text
import Rulebook.Proofs.Rule.Presence
import Rulebook.Proofs.Number.Whole
import Rulebook.Proofs.Rule.Size
import Rulebook.Proofs.Regex.Characters
import Rulebook.Proofs.Rule.Files
import Rulebook.Proofs.Rule.Format
import Rulebook.Proofs.Builder
import Rulebook.Proofs.Rule.Location
import Rulebook.Proofs.Text.Replacement
import Rulebook.Proofs.Validation.Verdict
import Rulebook.Proofs.Date.Outline

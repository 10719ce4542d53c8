import Tabletop.Main
import Tabletop.Proofs.Classes
import Tabletop.Proofs.Composing.Blockless
import Tabletop.Proofs.Composing.Bodies
import Tabletop.Proofs.Composing.Chain
import Tabletop.Proofs.Composing.Comments
import Tabletop.Proofs.Composing.Evaluated
import Tabletop.Proofs.Composing.FirstTotal
import Tabletop.Proofs.Composing.Overriding
import Tabletop.Proofs.Composing.Single
import Tabletop.Proofs.Extracting.DiceTokens
import Tabletop.Proofs.Extracting.Expressions
import Tabletop.Proofs.Extracting.InlineBlocks
import Tabletop.Proofs.Extracting.Joints
import Tabletop.Proofs.Extracting.LeadingToken
import Tabletop.Proofs.Extracting.Line
import Tabletop.Proofs.Extracting.Ranges
import Tabletop.Proofs.Extracting.Words
import Tabletop.Proofs.Labelling
import Tabletop.Proofs.Merging.Cleaned
import Tabletop.Proofs.Merging.Settled
import Tabletop.Proofs.Overrides
import Tabletop.Proofs.Reading.Complaints
import Tabletop.Proofs.Reading.Coverage
import Tabletop.Proofs.Reading.LowerCase
import Tabletop.Proofs.Reading.Nesting
import Tabletop.Proofs.Reading.PrintedBlocks
import Tabletop.Proofs.Reading.Printing
import Tabletop.Proofs.Reading.RoundTrip
import Tabletop.Proofs.Reading.Templates
import Tabletop.Proofs.Rendering.Breakdown
import Tabletop.Proofs.Rendering.Stats
import Tabletop.Proofs.Resolving.DiceNotation
import Tabletop.Proofs.Resolving.Emptied
import Tabletop.Proofs.Resolving.Lookup
import Tabletop.Proofs.Resolving.Optimum
import Tabletop.Proofs.Resolving.Placeholders
import Tabletop.Proofs.Resolving.Printed
import Tabletop.Proofs.Resolving.References
import Tabletop.Proofs.Resolving.Settled
import Tabletop.Proofs.Resolving.Substitution
import Tabletop.Proofs.Rolling.Conservation
import Tabletop.Proofs.Rolling.Ending
import Tabletop.Proofs.Rolling.Explosions
import Tabletop.Proofs.Rolling.Fixed
import Tabletop.Proofs.Rolling.Keeping
import Tabletop.Proofs.Rolling.Patience
import Tabletop.Proofs.Rolling.Refusal
import Tabletop.Proofs.Rolling.Rerolls
import Tabletop.Proofs.Totalling.Bounded
import Tabletop.Proofs.Totalling.Ceiling
import Tabletop.Proofs.Totalling.Exact
import Tabletop.Proofs.Totalling.Failures

import Verdict.Rule.Annotated
import Verdict.Rule.Inventory
import Verdict.Rule.Report
import Verdict.Rule.Setup
import Verdict.Proofs.Scan.Lossless
import Verdict.Proofs.CanonicalText
import Verdict.Proofs.Evaluation.Errors
import Verdict.Proofs.Evaluation.Dependence
import Verdict.Proofs.Evaluation.CanonicalMeaning
import Verdict.Proofs.Evaluation.Composition
import Verdict.Proofs.Evaluation.Growth
import Verdict.Proofs.Evaluation.Forms
import Verdict.Proofs.Layout
import Verdict.Proofs.Nesting.Bounds
import Verdict.Proofs.Registry
import Verdict.Proofs.Evaluation.Calls
import Verdict.Proofs.Silence
import Verdict.Proofs.Nesting.Abandonment
import Verdict.Proofs.Nesting.Cost
import Verdict.Proofs.Termination
import Verdict.Proofs.Scan.Quoted
import Verdict.Proofs.Scan.Boundaries
import Verdict.Proofs.Spans.Edges
import Verdict.Proofs.Spans.Placement
import Verdict.Proofs.Spans.Slices
import Verdict.Proofs.Spans.Listing
import Verdict.Proofs.Drafts
import Verdict.Proofs.Evaluation.Names
import Verdict.Proofs.Evaluation.Membership
import Verdict.Proofs.Bindings
import Verdict.Proofs.PatternList

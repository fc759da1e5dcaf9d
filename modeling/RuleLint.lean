import RuleLint.Main
import RuleLint.Proofs.Faults
import RuleLint.Proofs.Loading
import RuleLint.Proofs.Samples
import RuleLint.Proofs.Silence
import RuleLint.Proofs.Dispatch
import RuleLint.Proofs.Coverage
import RuleLint.Proofs.Changes
import RuleLint.Proofs.Composing
import RuleLint.Proofs.Cutting
import RuleLint.Proofs.Layout
import RuleLint.Proofs.Template
import RuleLint.Proofs.Reading
import RuleLint.Proofs.Commands
import RuleLint.Proofs.Options
import RuleLint.Proofs.Wildcards
import RuleLint.Proofs.Noted
import RuleLint.Proofs.Locating
import RuleLint.Proofs.Merging
import RuleLint.Proofs.Keyed
import RuleLint.Proofs.Initializing
import RuleLint.Proofs.Encoding
import RuleLint.Proofs.Visiting
import RuleLint.Proofs.Signatures

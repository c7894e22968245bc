import Typecase.Anchor
import Typecase.Bench.Report
import Typecase.Main
import Typecase.Rehearsal.Programs
import Typecase.Switchboard
import Typecase.Proofs.Ledger
import Typecase.Proofs.CacheSteps
import Typecase.Proofs.FirstWrite
import Typecase.Proofs.SlotTable
import Typecase.Proofs.Probing
import Typecase.Proofs.Recall
import Typecase.Proofs.Calls
import Typecase.Proofs.Transparency
import Typecase.Proofs.Declared
import Typecase.Proofs.JumpAgreement
import Typecase.Proofs.FirstCalls
import Typecase.Proofs.Accounts
import Typecase.Proofs.Matches
import Typecase.Proofs.Walks
import Typecase.Proofs.Bounds
import Typecase.Proofs.Permanence
import Typecase.Proofs.Sides
import Typecase.Proofs.Crowding
import Typecase.Proofs.Separation
import Typecase.Proofs.Reports
import Typecase.Proofs.Declarations
import Typecase.Proofs.FixedViews
import Typecase.Proofs.Family
import Typecase.Proofs.FirstMatch
import Typecase.Proofs.Sizes
import Typecase.Proofs.Numerals
import Typecase.Proofs.Settings
import Typecase.Proofs.Totals
import Typecase.Proofs.Ranges
import Typecase.Proofs.LogLines
import Typecase.Proofs.Chronicle
import Typecase.Proofs.Measurements
import Typecase.Proofs.ShellWords
import Typecase.Proofs.ScaleLists
import Typecase.Proofs.ScaleTables
import Typecase.Proofs.Labels

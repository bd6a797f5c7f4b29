import Proofreader.Main
import Proofreader.Proofs.Checker.Publication
import Proofreader.Proofs.CommandLine.Run
import Proofreader.Proofs.Schedule.Debouncing
import Proofreader.Proofs.Schedule.Standalone
import Proofreader.Proofs.Checker.Separation
import Proofreader.Proofs.Checker.Rest
import Proofreader.Proofs.Checker.Closing
import Proofreader.Proofs.Checker.Fixes
import Proofreader.Proofs.CommandLine.Reporting
import Proofreader.Proofs.Check.Messages
import Proofreader.Proofs.Checker.Reports
import Proofreader.Proofs.Checker.Atomicity
import Proofreader.Proofs.Schedule.Ticks
import Proofreader.Proofs.Schedule.Order
import Proofreader.Proofs.Checker.Deadlines
import Proofreader.Proofs.Search.Comments
import Proofreader.Proofs.Check.Rules
import Proofreader.Proofs.Checker.Previews
import Proofreader.Proofs.CommandLine.Optimality
import Proofreader.Proofs.Session
import Proofreader.Proofs.Text.Edits
import Proofreader.Proofs.Schedule.Cells
import Proofreader.Proofs.Grammar
import Proofreader.Proofs.Text.Counting
import Proofreader.Proofs.Bounds

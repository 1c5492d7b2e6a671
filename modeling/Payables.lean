import Payables.Service.Reply
import Payables.Wire.Tables
import Payables.Wire.Settings
import Payables.Json.Reader
import Payables.Json.Writer
import Payables.Proofs.Evaluation.Rescoring
import Payables.Proofs.Evaluation.Policy
import Payables.Proofs.Evaluation.Seeding
import Payables.Proofs.Evaluation.Representation
import Payables.Proofs.Evaluation.Reordered
import Payables.Proofs.Ranking.Foreign
import Payables.Proofs.Evaluation.Severity
import Payables.Proofs.Evaluation.Limits
import Payables.Proofs.Evaluation.CarriedOver
import Payables.Proofs.Evaluation.Evidence
import Payables.Proofs.Evaluation.Threshold
import Payables.Proofs.Evaluation.Resubmission
import Payables.Proofs.Evaluation.MoreRules
import Payables.Proofs.Evaluation.Unordered
import Payables.Proofs.Evaluation.AcceptedPrior
import Payables.Proofs.Evaluation.Elimination
import Payables.Proofs.Matching.BestCandidate
import Payables.Service.Batch
import Payables.Proofs.Service.Batch
import Payables.Proofs.Evaluation.Deviation
import Payables.Proofs.Document.Faults
import Payables.Proofs.Ledger.Queries
import Payables.Proofs.Ledger.Orders
import Payables.Proofs.Ledger.Loaded
import Payables.Proofs.Matching.Words
import Payables.Proofs.Matching.Cutoff
import Payables.Proofs.Matching.Mean
import Payables.Proofs.Matching.Deviation
import Payables.Proofs.Report.AuditTrail

import LoginGate.Authority.ScopeTable
import LoginGate.Service
import LoginGate.Simulation.Accounts
import LoginGate.Simulation.Authority
import LoginGate.Simulation.Host
import LoginGate.Proofs.Identity.GroupSearch
import LoginGate.Proofs.Authority.Exchange
import LoginGate.Proofs.Gate.Consultation
import LoginGate.Proofs.Gate.Paths
import LoginGate.Proofs.Gate.DecisionTable
import LoginGate.Proofs.Text.Utf8
import LoginGate.Proofs.Bus.Consent
import LoginGate.Proofs.Gate.Admission
import LoginGate.Proofs.Host.PamContract
import LoginGate.Proofs.Authority.Dealing
import LoginGate.Proofs.Authority.Recorded
import LoginGate.Proofs.Authority.Faithful
import LoginGate.Proofs.Gate.Faithful
import LoginGate.Proofs.Gate.SessionDiscipline
import LoginGate.Proofs.Authority.Turn
import LoginGate.Proofs.Authority.Lifetime
import LoginGate.Proofs.Authority.ScopeDiscipline
import LoginGate.Proofs.Authority.FixedAnswers
import LoginGate.Proofs.Identity.Attempt
import LoginGate.Proofs.Identity.FixedAnswers
import LoginGate.Proofs.Identity.GroupListAttempts
import LoginGate.Proofs.Identity.HonestGroupList
import LoginGate.Proofs.Gate.Weakening
import LoginGate.Proofs.Alike
import LoginGate.Proofs.Identity.Alike
import LoginGate.Proofs.Gate.Alike
import LoginGate.Proofs.Gate.Forgetful
import LoginGate.Proofs.Gate.Course
import LoginGate.Proofs.Gate.BypassOnly
import LoginGate.Proofs.Gate.AuditTrail
import LoginGate.Proofs.Text.Control
import LoginGate.Proofs.Diagnostics.StandardSinks
import LoginGate.Proofs.Host.SystemDatabase
import LoginGate.Proofs.Identity.Questions
import LoginGate.Proofs.Host.LibraryCalls
import LoginGate.Proofs.Host.NameTable
import LoginGate.Proofs.Identity.GroupScan
import LoginGate.Proofs.Gate.BypassList
import LoginGate.Proofs.Diagnostics.Fanout
import LoginGate.Proofs.Text.LossyUtf8
import LoginGate.Proofs.Text.IllFormedUtf8
import LoginGate.Proofs.Gate.AccountDecoding
import LoginGate.Proofs.Diagnostics.SystemLog
import LoginGate.Diagnostics.Timestamp
import LoginGate.Proofs.Bus.Client

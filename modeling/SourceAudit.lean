import SourceAudit.Main
import SourceAudit.Proofs.Admission.Effect
import SourceAudit.Proofs.Analysis.Concealment
import SourceAudit.Proofs.Analysis.Edges
import SourceAudit.Proofs.Analysis.Evaluation
import SourceAudit.Proofs.Analysis.Locations
import SourceAudit.Proofs.Analysis.Merging
import SourceAudit.Proofs.Analysis.Windows
import SourceAudit.Proofs.Line.Breaks
import SourceAudit.Proofs.Pattern.Endings
import SourceAudit.Proofs.Pattern.Guard
import SourceAudit.Proofs.Pattern.Nested
import SourceAudit.Proofs.Remote.Files
import SourceAudit.Proofs.Report.Consistency
import SourceAudit.Proofs.Report.Leftmost
import SourceAudit.Proofs.Report.Ranking
import SourceAudit.Proofs.Repository.Canonical
import SourceAudit.Proofs.Repository.Safety
import SourceAudit.Proofs.Repository.Spellings
import SourceAudit.Proofs.Repository.Tails
import SourceAudit.Proofs.Retrieval.Budget
import SourceAudit.Proofs.Retrieval.Walks
import SourceAudit.Proofs.Rule.Exemption
import SourceAudit.Proofs.Rule.Loading
import SourceAudit.Proofs.Rule.Nesting
import SourceAudit.Proofs.Scan.Privacy
import SourceAudit.Proofs.Scan.RateLimit
import SourceAudit.Proofs.Scan.Registries
import SourceAudit.Proofs.Scan.Sources
import SourceAudit.Proofs.Service.Gates
import SourceAudit.Proofs.Service.Waiting
import SourceAudit.Service.Application

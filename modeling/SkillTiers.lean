import SkillTiers.Cache.Results
import SkillTiers.Dashboard.Report
import SkillTiers.Json.Reader
import SkillTiers.Proofs.Cache.Listing
import SkillTiers.Proofs.Condition.Operand
import SkillTiers.Proofs.Condition.RoundTrip
import SkillTiers.Proofs.Condition.Strict
import SkillTiers.Proofs.Condition.Undefined
import SkillTiers.Proofs.Dashboard.Coverage
import SkillTiers.Proofs.Dashboard.Isolation
import SkillTiers.Proofs.Dashboard.ZeroTotal
import SkillTiers.Proofs.Request.Agreement
import SkillTiers.Proofs.Rule.EmptyTotal
import SkillTiers.Proofs.Rule.Improvement
import SkillTiers.Proofs.Rule.Loading
import SkillTiers.Proofs.Rule.Priority
import SkillTiers.Proofs.Rule.Proportion
import SkillTiers.Proofs.Rule.Rearrangement
import SkillTiers.Proofs.Service.Authentication
import SkillTiers.Proofs.Service.Availability
import SkillTiers.Proofs.Service.Conservation
import SkillTiers.Proofs.Service.Entrances
import SkillTiers.Proofs.Service.Overlap
import SkillTiers.Proofs.Service.Refresh
import SkillTiers.Proofs.Service.Seeding
import SkillTiers.Proofs.Service.Strictness
import SkillTiers.Proofs.Service.Transparency
import SkillTiers.Proofs.Store.Amending
import SkillTiers.Proofs.Store.Audit
import SkillTiers.Proofs.Store.Outages
import SkillTiers.Proofs.Store.Persistence
import SkillTiers.Proofs.Store.Placing
import SkillTiers.Request.Bodies
import SkillTiers.Rule.Seed
import SkillTiers.Service.Answering
import SkillTiers.Service.Starting
import SkillTiers.Store.Reading
import SkillTiers.Store.Statement
import SkillTiers.Store.Writing
import SkillTiers.Telemetry.LogContext
import SkillTiers.Telemetry.Metrics

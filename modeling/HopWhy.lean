import HopWhy.Accuracy.Corpus
import HopWhy.Accuracy.Scoring
import HopWhy.Accuracy.Script
import HopWhy.Engine.Environment
import HopWhy.Engine.Finalize
import HopWhy.Engine.Http
import HopWhy.Engine.Inspect
import HopWhy.Engine.Stages
import HopWhy.Engine.Tracker
import HopWhy.Guarantees.Accuracy
import HopWhy.Guarantees.AddressCounts
import HopWhy.Guarantees.AddressPolicy
import HopWhy.Guarantees.AddressRegistry
import HopWhy.Guarantees.Authorization
import HopWhy.Guarantees.BudgetKept
import HopWhy.Guarantees.ChainContinuity
import HopWhy.Guarantees.Comparison
import HopWhy.Guarantees.ConnectVerdict
import HopWhy.Guarantees.DocumentLimits
import HopWhy.Guarantees.EffectiveTarget
import HopWhy.Guarantees.ExitStatus
import HopWhy.Guarantees.ForwardExtension
import HopWhy.Guarantees.Ipv6Exemption
import HopWhy.Guarantees.LiteralServerName
import HopWhy.Guarantees.LiteralTargets
import HopWhy.Guarantees.MemberOrder
import HopWhy.Guarantees.NoProxyGrammar
import HopWhy.Guarantees.PhaseLedger
import HopWhy.Guarantees.Pipeline
import HopWhy.Guarantees.PlanAgreement
import HopWhy.Guarantees.Presentation
import HopWhy.Guarantees.PrivateGrant
import HopWhy.Guarantees.ProbeAccounting
import HopWhy.Guarantees.ProbeLanguage
import HopWhy.Guarantees.ProxyCredentials
import HopWhy.Guarantees.QueryBlindness
import HopWhy.Guarantees.ReadBack
import HopWhy.Guarantees.Readiness
import HopWhy.Guarantees.Redaction
import HopWhy.Guarantees.RedirectChain
import HopWhy.Guarantees.RedirectDiagnosis
import HopWhy.Guarantees.RedirectLimit
import HopWhy.Guarantees.Rehearsal
import HopWhy.Guarantees.ReleaseGate
import HopWhy.Guarantees.RequestedRedirects
import HopWhy.Guarantees.Rerun
import HopWhy.Guarantees.ResolverOrder
import HopWhy.Guarantees.ResourceLimits
import HopWhy.Guarantees.RuledOut
import HopWhy.Guarantees.Seal
import HopWhy.Guarantees.SpecDocuments
import HopWhy.Guarantees.Streams
import HopWhy.Guarantees.Testimony
import HopWhy.Guarantees.Timeline
import HopWhy.Guarantees.Transcript
import HopWhy.Guarantees.UsageFormat
import HopWhy.Library.AddrText
import HopWhy.Library.Automaton
import HopWhy.Library.Base64
import HopWhy.Library.Calendar
import HopWhy.Library.Codec
import HopWhy.Library.CodecOrder
import HopWhy.Library.CodecSize
import HopWhy.Library.Coupled
import HopWhy.Library.Extension
import HopWhy.Library.FormUrlencoded
import HopWhy.Library.IpAddr
import HopWhy.Library.Json
import HopWhy.Library.JsonSize
import HopWhy.Library.JsonText
import HopWhy.Library.OrderedMap
import HopWhy.Library.Prefixes
import HopWhy.Library.Prog
import HopWhy.Library.Python
import HopWhy.Library.ServerName
import HopWhy.Library.Sha256
import HopWhy.Library.StableSort
import HopWhy.Library.Text
import HopWhy.Library.Trace
import HopWhy.Library.Url
import HopWhy.Library.Utf8
import HopWhy.Model.Crates
import HopWhy.Model.Error
import HopWhy.Model.Report
import HopWhy.Model.Wire
import HopWhy.Offline.Commands
import HopWhy.Offline.Documents
import HopWhy.Offline.RecordSizes
import HopWhy.Offline.Sizes
import HopWhy.Offline.Usage
import HopWhy.Policy.Address
import HopWhy.Policy.NoProxy
import HopWhy.Policy.Proxy
import HopWhy.Policy.Target
import HopWhy.Process.Contract
import HopWhy.Process.Output
import HopWhy.Process.Run
import HopWhy.Process.Spec
import HopWhy.Release.Checks
import HopWhy.Release.Manifest
import HopWhy.Release.Readiness
import HopWhy.Release.Reading
import HopWhy.Runs.Brevity
import HopWhy.Runs.BriefReport
import HopWhy.Runs.Course
import HopWhy.Runs.Effect
import HopWhy.Runs.Http
import HopWhy.Runs.Inspection
import HopWhy.Runs.Options
import HopWhy.Runs.Orchestration
import HopWhy.Runs.ProbeMachine
import HopWhy.Runs.Resolution
import HopWhy.Runs.Stages
import HopWhy.Runs.Timeline
import HopWhy.Runs.Transcript
import HopWhy.Runs.Twins
import HopWhy.Runs.Views

import GaleraHealth.Agent.Bodies
import GaleraHealth.Agent.Clients
import GaleraHealth.Agent.Endpoint
import GaleraHealth.Agent.Fetch
import GaleraHealth.Agent.Surroundings
import GaleraHealth.Check.Collect
import GaleraHealth.Check.Course
import GaleraHealth.Check.Events
import GaleraHealth.Check.FanOut
import GaleraHealth.Check.Run
import GaleraHealth.Check.RunEvents
import GaleraHealth.Check.Wiring
import GaleraHealth.Cluster.Disk
import GaleraHealth.Cluster.DiskRisk
import GaleraHealth.Cluster.Encoding
import GaleraHealth.Cluster.Failure
import GaleraHealth.Cluster.Node
import GaleraHealth.Cluster.NodeReport
import GaleraHealth.Cluster.NodeStatus
import GaleraHealth.Cluster.Quorum
import GaleraHealth.Cluster.Snapshot
import GaleraHealth.Cluster.Verdict
import GaleraHealth.CommandLine.Diagnose
import GaleraHealth.CommandLine.ErrorReport
import GaleraHealth.CommandLine.Options
import GaleraHealth.CommandLine.Serve
import GaleraHealth.Config.Agent
import GaleraHealth.Config.Cluster
import GaleraHealth.Config.ClusterEncoding
import GaleraHealth.Config.Loading
import GaleraHealth.Config.Validation
import GaleraHealth.Database.Probe
import GaleraHealth.Database.Server
import GaleraHealth.Database.StatusRows
import GaleraHealth.Decimal.Binary
import GaleraHealth.Decimal.Fixed
import GaleraHealth.Decimal.Reading
import GaleraHealth.Decimal.Shortest
import GaleraHealth.DiskAgent.Filesystem
import GaleraHealth.DiskAgent.Router
import GaleraHealth.DiskAgent.Volume
import GaleraHealth.Duration
import GaleraHealth.Form
import GaleraHealth.Http.BasicAuth
import GaleraHealth.Http.Message
import GaleraHealth.Http.Target
import GaleraHealth.Json.Basic
import GaleraHealth.Json.Reader
import GaleraHealth.Json.Writer
import GaleraHealth.Main
import GaleraHealth.Net.Address
import GaleraHealth.Net.Domain
import GaleraHealth.Net.Escape
import GaleraHealth.Net.Host
import GaleraHealth.Net.Letters
import GaleraHealth.Net.Punycode
import GaleraHealth.Net.SocketAddress
import GaleraHealth.Net.Url
import GaleraHealth.Summary.Amounts
import GaleraHealth.Summary.Basic
import GaleraHealth.Summary.Table
import GaleraHealth.Text.Base64
import GaleraHealth.Text.Blank
import GaleraHealth.Text.Pieces
import GaleraHealth.Text.Printable
import GaleraHealth.Text.Quoted
import GaleraHealth.Text.Ranges
import GaleraHealth.Text.SmallLetters
import GaleraHealth.Text.Utf8
import GaleraHealth.Text.Width
import GaleraHealth.Tls.Der
import GaleraHealth.Tls.Identity
import GaleraHealth.Tls.Pem
import GaleraHealth.Yaml.Cursor
import GaleraHealth.Yaml.Node
import GaleraHealth.Yaml.Scalar
import GaleraHealth.Yaml.Scheme
import GaleraHealth.Yaml.Token
import GaleraHealth.Proofs.Health
import GaleraHealth.Proofs.VerdictRule
import GaleraHealth.Proofs.EventOrder
import GaleraHealth.Proofs.PhaseClock
import GaleraHealth.Proofs.PhaseResults
import GaleraHealth.Proofs.Recovery
import GaleraHealth.Proofs.AcceptedConfig
import GaleraHealth.Proofs.DiskIssues
import GaleraHealth.Proofs.RunReports
import GaleraHealth.Proofs.Coherence
import GaleraHealth.Proofs.Isolation
import GaleraHealth.Proofs.VerdictRefinement
import GaleraHealth.Proofs.KeyOrder
import GaleraHealth.Proofs.ReadBack
import GaleraHealth.Proofs.SnapshotEncoding
import GaleraHealth.Proofs.WellFormedConfig
import GaleraHealth.Proofs.FirstFault
import GaleraHealth.Proofs.EncodedText
import GaleraHealth.Proofs.TrimmedText
import GaleraHealth.Proofs.HeaderCredentials
import GaleraHealth.Proofs.GuardedDisks
import GaleraHealth.Proofs.Login
import GaleraHealth.Proofs.TextLines
import GaleraHealth.Proofs.TableLines
import GaleraHealth.Proofs.SummaryLines
import GaleraHealth.Proofs.FailureKinds
import GaleraHealth.Proofs.Numerals
import GaleraHealth.Proofs.StatusOfRows
import GaleraHealth.Proofs.OffendingDisks
import GaleraHealth.Proofs.RefusedLogin
import GaleraHealth.Proofs.HostText
import GaleraHealth.Proofs.AgentUrl
import GaleraHealth.Proofs.VerdictOrder
import GaleraHealth.Proofs.VerdictMonotone
import GaleraHealth.Proofs.ConfigEncoding
import GaleraHealth.Proofs.IntegerText
import GaleraHealth.Proofs.SeqnoAnswers
import GaleraHealth.Proofs.CancelledRun
import GaleraHealth.Proofs.RunClock
import GaleraHealth.Proofs.CertificateBundles
import GaleraHealth.Proofs.TrustedRoots
import GaleraHealth.Proofs.SharedAgents
import GaleraHealth.Proofs.LossyText
import GaleraHealth.Proofs.PaddedValues
import GaleraHealth.Proofs.DoubleOrder
import GaleraHealth.Proofs.DoubleRounding
import GaleraHealth.Proofs.ProperShares
import GaleraHealth.Proofs.BindAddress
import GaleraHealth.Proofs.ByteAmounts
import GaleraHealth.Proofs.WrittenJson
import GaleraHealth.Proofs.DiskNumbers

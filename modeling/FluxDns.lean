import FluxDns.Policy.MappedClients
import FluxDns.Cache.SingleFlightSafety
import FluxDns.Storage.StatsRecovery
import FluxDns.Cache.RefreshSafety
import FluxDns.Runtime.RefreshLoopSafety
import FluxDns.Storage.DetailWriter
import FluxDns.Storage.RetentionSafety
import FluxDns.Storage.RetentionSchedule
import FluxDns.Cache.SnapshotSkip
import FluxDns.Cache.SnapshotWake
import FluxDns.Management.HandoffSafety
import FluxDns.Config.TtlOverrides
import FluxDns.Management.SessionSafety
import FluxDns.Runtime.Owners
import FluxDns.Runtime.VersionSafety
import FluxDns.Cache.KeyFraming
import FluxDns.Resource.Regex
import FluxDns.Upstream.LoadBalance
import FluxDns.Policy.StaleWindow
import FluxDns.Transport.ProxyHeader
import FluxDns.Transport.Base64Url
import FluxDns.Policy.ClientMatching

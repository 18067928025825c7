import VpsDashboard.Foundation.Interleaving
import VpsDashboard.Foundation.Go
import VpsDashboard.Trakt.OAuth
import VpsDashboard.Trakt.TokenAnswers
import VpsDashboard.Trakt.Sessions
import VpsDashboard.Trakt.SharedRefresh
import VpsDashboard.Trakt.LogoutRace
import VpsDashboard.Trakt.CredentialFile
import VpsDashboard.Foundation.Window
import VpsDashboard.Host.History
import VpsDashboard.Foundation.Fields
import VpsDashboard.Server.ContainerLogs
import VpsDashboard.Foundation.Channel
import VpsDashboard.Server.Hub
import VpsDashboard.Server.HubInvariant
import VpsDashboard.Trakt.Lists
import VpsDashboard.Server.Auth
import VpsDashboard.Server.TraktRoutes
import VpsDashboard.Server.Router
import VpsDashboard.Server.Unauthenticated
import VpsDashboard.Foundation.Mean
import VpsDashboard.Host.Range
import VpsDashboard.Foundation.JsonString
import VpsDashboard.Foundation.Reassembly
import VpsDashboard.Frontend.LogStream
import VpsDashboard.Foundation.JsObject
import VpsDashboard.Frontend.Settings
import VpsDashboard.Foundation.Guarded
import VpsDashboard.Frontend.Crosswatch
import VpsDashboard.Frontend.Enrichment
import VpsDashboard.Frontend.LostWakeup
import VpsDashboard.Host.Collector
import VpsDashboard.Trakt.EnvironmentDefaults
import VpsDashboard.Trakt.RedirectLineage
import VpsDashboard.Foundation.Outputs
import VpsDashboard.Foundation.Url
import VpsDashboard.Server.RedirectAgreement
import VpsDashboard.Server.ConnectedUsable
import VpsDashboard.Trakt.TokenFile
import VpsDashboard.Server.TraktForm
import VpsDashboard.Frontend.StaleStreams
import VpsDashboard.Frontend.MetricsSocket
import VpsDashboard.Frontend.HomeLayout
import VpsDashboard.Foundation.Classes
import VpsDashboard.Host.Downsample
import VpsDashboard.Host.RangeBound
import VpsDashboard.Docker.CpuPercent
import VpsDashboard.Foundation.Regex
import VpsDashboard.Docker.HostRule
import VpsDashboard.Docker.Traefik
import VpsDashboard.Server.ExpiredSession
import VpsDashboard.Server.MeRace
import VpsDashboard.Frontend.TwoSessions
import VpsDashboard.Server.BasicAuth
import VpsDashboard.Docker.AllRouters
import VpsDashboard.Frontend.CrosswatchList
import VpsDashboard.Docker.Containers
import VpsDashboard.Docker.LogsRequest
import VpsDashboard.Server.MetricsInterval
import VpsDashboard.Server.HubRest
import VpsDashboard.Foundation.TwoRuns
import VpsDashboard.Frontend.MetricsHistory
import VpsDashboard.Server.Secrets
import VpsDashboard.Server.LoginState
import VpsDashboard.Frontend.LogPipeline
import VpsDashboard.Frontend.StoredSettings
import VpsDashboard.Server.MetricsService
import VpsDashboard.Docker.Monitor
import VpsDashboard.Server.TokenOrigin
import VpsDashboard.Server.AccessMatrix
import VpsDashboard.Foundation.Paths
import VpsDashboard.Server.Static
import VpsDashboard.Frontend.LiveFrames
import VpsDashboard.Foundation.Binary64
import VpsDashboard.Host.Rate
import VpsDashboard.Trakt.Actions

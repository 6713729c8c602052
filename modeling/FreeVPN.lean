import FreeVPN.Lib.Runs
import FreeVPN.Lib.Lists
import FreeVPN.Lib.Except
import FreeVPN.Lib.Sections
import FreeVPN.Lib.TwoRuns
import FreeVPN.Foundation.Text
import FreeVPN.Foundation.Characters
import FreeVPN.Foundation.Description
import FreeVPN.WgQuick.Types
import FreeVPN.WgQuick.Parser
import FreeVPN.WgQuick.Sections
import FreeVPN.WgQuick.Readable
import FreeVPN.Lib.Items
import FreeVPN.Profile.WireGuardConfig
import FreeVPN.Profile.Printed
import FreeVPN.Profile.TwoReaders
import FreeVPN.Profile.Reserialise
import FreeVPN.Profile.VPNProtocol
import FreeVPN.Profile.ProfileStore
import FreeVPN.Profile.Persistence
import FreeVPN.Upload.ProfileServer
import FreeVPN.Foundation.Utf8
import FreeVPN.Upload.Receiving
import FreeVPN.Lib.Assignments
import FreeVPN.AmneziaWG.Configuration
import FreeVPN.AmneziaWG.Uapi
import FreeVPN.AmneziaWG.Encoding
import FreeVPN.Lib.Handles
import FreeVPN.AmneziaWG.Adapter
import FreeVPN.Tunnel.OpenVPNSession
import FreeVPN.Manager.VPNManager
import FreeVPN.Manager.Acceptance
import FreeVPN.AmneziaWG.Detection
import FreeVPN.Session.Shown
import FreeVPN.Session.Taps
import FreeVPN.Session.TunnelLog
import FreeVPN.OpenVPN.OptionList
import FreeVPN.OpenVPN.Readings
import FreeVPN.OpenVPN.Sanitize
import FreeVPN.OpenVPN.Kept
import FreeVPN.AmneziaWG.Secrets
import FreeVPN.AmneziaWG.StartLog
import FreeVPN.OpenVPN.StartLog
import FreeVPN.Tunnel.Rounds
import FreeVPN.Upload.ServerStatus
import FreeVPN.Session.SwitchedLog
import FreeVPN.SpeedTest.SpeedTestManager
import FreeVPN.Manager.FailedSave
import FreeVPN.Manager.Startup
import FreeVPN.Profile.LineEndings
import FreeVPN.Profile.RoundTrip
import FreeVPN.Profile.PeerSections
import FreeVPN.AmneziaWG.Extension
import FreeVPN.AmneziaWG.ExtraLines
import FreeVPN.Lib.Regex
import FreeVPN.Foundation.JavaScript
import FreeVPN.Upload.PageScript
import FreeVPN.Upload.ExternalRefs
import FreeVPN.Upload.FormFields
import FreeVPN.OpenVPN.Validation
import FreeVPN.Session.TrafficStats
import FreeVPN.AmneziaWG.ExcludedRoutes
import FreeVPN.Lib.Transducer
import FreeVPN.Foundation.Html
import FreeVPN.Upload.AnswerPage
import FreeVPN.Lib.BitArray
import FreeVPN.Lib.ReplayWindow
import FreeVPN.ControlChannel.Buffer
import FreeVPN.ControlChannel.PacketId
import FreeVPN.ControlChannel.PacketIdSend
import FreeVPN.ControlChannel.MessageWindow
import FreeVPN.ControlChannel.Reliable
import FreeVPN.ControlChannel.ProtoStack
import FreeVPN.ControlChannel.Datagram
import FreeVPN.ControlChannel.Endpoint
import FreeVPN.ControlChannel.Delivery
import FreeVPN.Keys.Codec
import FreeVPN.Foundation.CaseRanges
import FreeVPN.OpenVPN.Spelling
import FreeVPN.Upload.Inlining

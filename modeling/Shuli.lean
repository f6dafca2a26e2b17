import Shuli.Octets
import Shuli.Fallible
import Shuli.Runs
import Shuli.Pairs
import Shuli.Boxes
import Shuli.Tables
import Shuli.Lists
import Shuli.Slices
import Shuli.Tlv
import Shuli.Core.EapTls
import Shuli.Core.Eap
import Shuli.Core.EapSuccess
import Shuli.Core.EapVerdict
import Shuli.Core.EapRetransmission
import Shuli.Core.EapTlsFragments
import Shuli.Ipsec.Identity
import Shuli.Ipsec.Config
import Shuli.Ipsec.Codec
import Shuli.Ipsec.Crypto
import Shuli.Ipsec.LawfulCrypto
import Shuli.Ipsec.Sa
import Shuli.Ipsec.Proposal
import Shuli.Ipsec.Selectors
import Shuli.Ipsec.Narrowing
import Shuli.Ipsec.Runner
import Shuli.Ipsec.Engine
import Shuli.Ipsec.Effects
import Shuli.Ipsec.Authentication
import Shuli.Ipsec.Forgery
import Shuli.Ipsec.Reflection
import Shuli.Ipsec.Negotiation
import Shuli.Ipsec.RoundTrip
import Shuli.Ipsec.Sealed
import Shuli.Ipsec.Protection
import Shuli.Ipsec.Moves
import Shuli.Ipsec.Handlers
import Shuli.Ipsec.ReportedState
import Shuli.Ipsec.Rekeying
import Shuli.Ipsec.Answering
import Shuli.Ipsec.Window
import Shuli.Ipsec.Conduct
import Shuli.Ipsec.Crossing
import Shuli.Ipsec.Xfrm
import Shuli.Ipsec.XfrmCalls
import Shuli.Ipsec.PolicyMatch
import Shuli.Ipsec.XfrmTables
import Shuli.Ipsec.DecoderSafety
import Shuli.Ipsec.ChildKeys
import Shuli.Ipsec.ChildNegotiation
import Shuli.Ipsec.ChildAgreement
import Shuli.Ipsec.SelectorWire
import Shuli.Ipsec.SaInitLoss
import Shuli.Ipsec.Replay
import Shuli.Ipsec.Prefixes
import Shuli.Ipsec.ConfigPayload
import Shuli.Ipsec.Base64
import Shuli.Wifi.Crypto
import Shuli.Wifi.Handshake4
import Shuli.Wifi.Downgrade
import Shuli.Wifi.HandshakeRuns
import Shuli.Wifi.RefusedFrames
import Shuli.Wifi.Network
import Shuli.Wifi.Iface
import Shuli.Wifi.Attempt
import Shuli.Wifi.SaeExchange
import Shuli.Wifi.SaeAuth
import Shuli.Wifi.SaeCommits
import Shuli.Wifi.KeyExchange
import Shuli.Wifi.Roam
import Shuli.Wifi.FastTransition
import Shuli.Wifi.Passive
import Shuli.Wifi.Events
import Shuli.Wifi.Guarded
import Shuli.Wifi.OpenAssociation
import Shuli.Wifi.KeyInstallation
import Shuli.Wifi.SpoofedFrames
import Shuli.Wifi.ScanSecurity
import Shuli.Wifi.AkmSelection
import Shuli.Wifi.ScanResults
import Shuli.Wifi.EssRoaming
import Shuli.Wifi.ScanSelection
import Shuli.Wifi.FtValidation
import Shuli.Wifi.RekeyOffload
import Shuli.Wifi.LostMessage4
import Shuli.Wifi.PmksaRefinement
import Shuli.Wired.MkaPdu
import Shuli.Wired.MkaCodec
import Shuli.Wired.MkaParserSafety
import Shuli.Wired.Macsec
import Shuli.Wired.MkaSession
import Shuli.Wired.MkaGroup
import Shuli.Wired.MkaActs
import Shuli.Wired.MkaPeers
import Shuli.Wired.MkaLog
import Shuli.Wired.MkaBallot
import Shuli.Wired.SakAgreement
import Shuli.Wired.KeyServerElection
import Shuli.Wired.MkaReadiness
import Shuli.Wired.MkaLiveness
import Shuli.Wired.ReceiveBookkeeping
import Shuli.Wired.SakAdoption
import Shuli.Wired.MacsecCalls
import Shuli.Wired.MacsecChannels
import Shuli.Wired.PacketNumbers
import Shuli.Wired.MkaNonce
import Shuli.Wired.NonceSafety

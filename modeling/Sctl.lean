import Sctl.Runs
import Sctl.Tables
import Sctl.Files
import Sctl.Json
import Sctl.TransferTypes
import Sctl.TransferManager
import Sctl.TransferSteps
import Sctl.TransferBooks
import Sctl.TransferPhases
import Sctl.TransferDisk
import Sctl.TransferContent
import Sctl.TransferRetries
import Sctl.SessionBuffer
import Sctl.Utf8
import Sctl.Readers
import Sctl.SessionExit
import Sctl.Subscribers
import Sctl.Attachments
import Sctl.TunnelInput
import Sctl.TunnelHandlers
import Sctl.SharedSubscriber
import Sctl.RelaySubscriptions
import Sctl.Watchers
import Sctl.RelayRegistry
import Sctl.RelayClients
import Sctl.RelayRequests
import Sctl.RelayRouting
import Sctl.RelayGaps
import Sctl.RelayHistory
import Sctl.RelayInput
import Sctl.Calendar
import Sctl.Timestamps
import Sctl.BandCodec
import Sctl.InfraNetworks
import Sctl.Dialogues
import Sctl.Texts
import Sctl.LteBands
import Sctl.LteShared
import Sctl.LtePrograms
import Sctl.LteWatchdog
import Sctl.WatchdogSuppression
import Sctl.WatchdogCaps
import Sctl.WatchdogResets
import Sctl.Pools
import Sctl.LteSystem
import Sctl.LteQuestions
import Sctl.BandWrites
import Sctl.SafeBands
import Sctl.BandScans
import Sctl.Retention
import Sctl.Journals
import Sctl.SessionManager
import Sctl.Recovery
import Sctl.SessionEndings
import Sctl.McpClient
import Sctl.ClientStream
import Sctl.ClientResume
import Sctl.ClientRequests
import Sctl.SessionStart
import Sctl.ClientReplies
import Sctl.DroppedCounts
import Sctl.DeviceReplies
import Sctl.ClientStatus
import Sctl.Marks
import Sctl.ActivityPolling
import Sctl.AiBroadcasts
import Sctl.WriteBehind
import Sctl.Persistence
import Sctl.JournalSeed
import Sctl.RelayJournal
import Sctl.DeviceRegistry
import Sctl.SessionPool
import Sctl.Lines
import Sctl.Supervisor
import Sctl.SupervisorAnswers
import Sctl.Templates
import Sctl.PlaybookScripts
import Sctl.InfraTargets
import Sctl.InfraMonitor
import Sctl.PlaybookTools
import Sctl.PlaybookStore
import Sctl.PlaybookCache
import Sctl.CommsHelper
import Sctl.ActivityView
import Sctl.TerminalOutput
import Sctl.ConnectionManager
import Sctl.WsClient
import Sctl.ChunkArithmetic
import Sctl.ProgressAccounting
import Sctl.AbandonedTransfers
import Sctl.ServerSupervisor
import Sctl.SupervisorSignals
import Sctl.UsbBackoff
import Sctl.InfraResults
import Sctl.BandRollbacks
import Sctl.WebTransfers
import Sctl.WebDownloads
import Sctl.WebUploads
import Sctl.WebAgreement
import Sctl.WebAcks
import Sctl.BinaryFrames
import Sctl.PollingBackoff
import Sctl.TunnelBatches
import Sctl.ExecTimeouts
import Sctl.SessionEscapes
import Sctl.TunnelPacing
import Sctl.PlaybookRendering
import Sctl.LastOccurrence
import Sctl.ExecWait
import Sctl.CutCharacters
import Sctl.AtResponses
import Sctl.AtReads
import Sctl.PrechangeRevert
import Sctl.EventStreams
import Sctl.RelayPings
import Sctl.LogLines
import Sctl.ShellWords
import Sctl.InfraParameters
import Sctl.PrivatePaths
import Sctl.FileWrites
import Sctl.Base64
import Sctl.FileReads
import Sctl.PlaybookParsers
import Sctl.PlaybookDocuments
import Sctl.PlaybookAgreement
import Sctl.Pairings
import Sctl.SplitPanes
import Sctl.Rings
import Sctl.McpServer
import Sctl.ExecResults
import Sctl.RotatingLogs
import Sctl.WatchdogHistory
import Sctl.Fields
import Sctl.GpsPoller
import Sctl.CappedOutput
import Sctl.ApiKeys
import Sctl.Servers
import Sctl.ModemCalls
import Sctl.CellReports
import Sctl.BandHistory

import QueryDesk.Main
import QueryDesk.Proofs.DeskTraffic
import QueryDesk.Proofs.Places
import QueryDesk.Session.Desk
import QueryDesk.Proofs.Stretch
import QueryDesk.Proofs.Agreement
import QueryDesk.Proofs.Tracking
import QueryDesk.Proofs.Coherence
import QueryDesk.Proofs.Latest
import QueryDesk.Proofs.KillPrecedence
import QueryDesk.Proofs.KillTargeting
import QueryDesk.Proofs.Frame
import QueryDesk.Proofs.Outcomes
import QueryDesk.Proofs.Tabs
import QueryDesk.Proofs.Integrity
import QueryDesk.Proofs.Accounts
import QueryDesk.Proofs.Logging
import QueryDesk.Proofs.Prompt
import QueryDesk.Proofs.Links
import QueryDesk.Proofs.Calls
import QueryDesk.Proofs.Numbering
import QueryDesk.Proofs.DottedName
import QueryDesk.Proofs.Cleanup
import QueryDesk.Proofs.Homes
import QueryDesk.Proofs.Isolation
import QueryDesk.Proofs.Turnover
import QueryDesk.Proofs.Moves
import QueryDesk.Proofs.Tending
import QueryDesk.Proofs.WorksheetConnection
import QueryDesk.Proofs.ClosingStages
import QueryDesk.Proofs.ClosedWorksheet
import QueryDesk.Proofs.Records
import QueryDesk.Proofs.ActiveDatabase
import QueryDesk.Proofs.DatabaseSwitch
import QueryDesk.Proofs.Refusals
import QueryDesk.Proofs.Elapsed
import QueryDesk.Proofs.PreviewSlot
import QueryDesk.Proofs.PreviewHistory
import QueryDesk.Proofs.Absence
import QueryDesk.Proofs.NameReading
import QueryDesk.Proofs.FailedOpening
import QueryDesk.Proofs.Dialogue
import QueryDesk.Proofs.Rebinding
import QueryDesk.Proofs.EscapedTwice
import QueryDesk.Proofs.LogWindow
import QueryDesk.Proofs.NumeralText
import QueryDesk.Proofs.DecimalText
import QueryDesk.Proofs.JsonText
import QueryDesk.Proofs.PrintedDouble
import QueryDesk.Proofs.Calendar
import QueryDesk.Proofs.RereadValue
import QueryDesk.Proofs.Timestamp
import QueryDesk.Proofs.LogFile
import QueryDesk.Proofs.SavedLog
import QueryDesk.Proofs.TabCounts
import QueryDesk.Proofs.Precedence
import QueryDesk.Proofs.WireRecords
import QueryDesk.Proofs.TextParts
import QueryDesk.Proofs.EncodedText
import QueryDesk.Proofs.AddressText
import QueryDesk.Proofs.PunycodeText
import QueryDesk.Proofs.NameForm
import QueryDesk.Proofs.HostText
import QueryDesk.Proofs.UrlText
import QueryDesk.Proofs.Endpoint
import QueryDesk.Proofs.TwoKeys

import Dfis.Base.Dedup
import Dfis.Base.Table
import Dfis.Messages.Acceptance
import Dfis.Messages.RoundTrip
import Dfis.Messages.Tags
import Dfis.Server.Runs
import Dfis.Server.AtMostOnce
import Dfis.Server.Effect
import Dfis.Server.Ledger
import Dfis.Server.Decode
import Dfis.Server.Repeats
import Dfis.Server.Bounds
import Dfis.Server.Monitoring
import Dfis.Server.Answers
import Dfis.Network.Client
import Dfis.Network.Step
import Dfis.Network.Sound
import Dfis.Network.Agreement
import Dfis.Network.Dispatch
import Dfis.Server.Consistency
import Dfis.Server.Quiet
import Dfis.Server.Search
import Dfis.Server.Overflow
import Dfis.Base.Footprint
import Dfis.Server.Commute
import Dfis.Callbacks.Handler
import Dfis.Callbacks.Senders
import Dfis.Callbacks.Order
import Dfis.Callbacks.Once
import Dfis.Input.Numbers
import Dfis.Server.FlightFile
import Dfis.Input.Numerals
import Dfis.Client.Console
import Dfis.Client.Script
import Dfis.Base.Linearize
import Dfis.Network.Linear
import Dfis.Booking.Office
import Dfis.Booking.Refinement
import Dfis.System.State
import Dfis.System.Provenance
import Dfis.System.Views
import Dfis.System.Screens
import Dfis.Base.Copies
import Dfis.Callbacks.Retries
import Dfis.System.Reports
import Dfis.Network.Retries
import Dfis.Input.Rounding
import Dfis.System.Prices
import Dfis.Server.Restore
import Dfis.Network.Progress
import Dfis.Base.Idle
import Dfis.Server.Semantics
import Dfis.Input.Spelling
import Dfis.Server.FlightLines
import Dfis.System.Notices
import Dfis.Base.Rank
import Dfis.System.Sessions
import Dfis.Server.Carried

import Registrar.Bot.Launch
import Registrar.CommandLine
import Registrar.Config.Report
import Registrar.Dispatch.EventLoop
import Registrar.Handler.Rehearsal
import Registrar.Handler.Script
import Registrar.Log.Line
import Registrar.Main
import Registrar.Telegram.Incoming
import Registrar.Telegram.Sending
import Registrar.Text.Decimal
import Registrar.Text.LowerCase
import Registrar.Proofs.Dispatch.Delivery
import Registrar.Proofs.Dispatch.Exclusion
import Registrar.Proofs.Store.Record
import Registrar.Proofs.Dispatch.Session
import Registrar.Proofs.Dispatch.Deals
import Registrar.Proofs.Dispatch.Clockwork
import Registrar.Proofs.Handler.Confined
import Registrar.Proofs.Dispatch.Serial
import Registrar.Proofs.Json.Strings
import Registrar.Proofs.Dispatch.Conduct
import Registrar.Proofs.Registration.Evidence
import Registrar.Proofs.Registration.Authentication
import Registrar.Proofs.Store.Retention
import Registrar.Proofs.Time.Calendar
import Registrar.Proofs.Time.Rfc3339
import Registrar.Proofs.Handler.Course
import Registrar.Proofs.Dispatch.Attendance
import Registrar.Proofs.Registration.Course
import Registrar.Proofs.Registration.StateMachine
import Registrar.Proofs.Registration.Expiry
import Registrar.Proofs.Registration.Lives
import Registrar.Proofs.Store.Backing
import Registrar.Proofs.Bot.Installation
import Registrar.Proofs.Dispatch.Visits
import Registrar.Proofs.Handler.Evaluation
import Registrar.Proofs.Registration.Code
import Registrar.Proofs.Bot.Clock
import Registrar.Proofs.Registration.Window
import Registrar.Proofs.Redis.Layout
import Registrar.Proofs.Redis.Lifetimes
import Registrar.Proofs.Store.Interchange
import Registrar.Proofs.Dispatch.Outline
import Registrar.Proofs.Registration.SingleUse
import Registrar.Proofs.Registration.Leftovers
import Registrar.Proofs.Dispatch.Casualties
import Registrar.Proofs.Dispatch.Accounts
import Registrar.Proofs.Users.History
import Registrar.Proofs.Registration.Mailing
import Registrar.Proofs.Store.Readback
import Registrar.Proofs.Registration.Reachability
import Registrar.Proofs.Text.ByteOrder
import Registrar.Proofs.Dispatch.Routing
import Registrar.Proofs.Dispatch.Restart
import Registrar.Proofs.Store.Sweeper
import Registrar.Proofs.Dispatch.Replies
import Registrar.Proofs.Registration.Replies
import Registrar.Proofs.Config.Validity
import Registrar.Proofs.Registration.Horizon
import Registrar.Proofs.Handler.Operations
import Registrar.Proofs.Dispatch.Occupancy
import Registrar.Proofs.Dispatch.Timekeeping
import Registrar.Proofs.Chat.Commands
import Registrar.Proofs.Registration.Drawing
import Registrar.Proofs.Dispatch.Absence
import Registrar.Proofs.Registration.Identities
import Registrar.Proofs.Redis.Credentials
import Registrar.Proofs.Config.ApiUrl
import Registrar.Proofs.Telegram.Keyboards
import Registrar.Proofs.Chat.CoreTypes
import Registrar.Proofs.Chat.Markup
import Registrar.Proofs.Registration.Announcement
import Registrar.Proofs.Registration.Minutes
import Registrar.Proofs.Handler.Fate
import Registrar.Proofs.Registration.Transitions

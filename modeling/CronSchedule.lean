import CronSchedule.Text.Blank
import CronSchedule.Text.Lowercase
import CronSchedule.Text.Numeral
import CronSchedule.Calendar.Weekday
import CronSchedule.Calendar.Unit
import CronSchedule.Error
import CronSchedule.Pattern.Accepts
import CronSchedule.Pattern.Meaning
import CronSchedule.Pattern.Grammar
import CronSchedule.Pattern.Parser
import CronSchedule.Pattern.Printer
import CronSchedule.Expression.Parser
import CronSchedule.Expression.Printer
import CronSchedule.Search
import CronSchedule.Schedule
import CronSchedule.Zone
import CronSchedule.Events
import CronSchedule.Document
import CronSchedule.Session
import CronSchedule.Proofs.Outcome
import CronSchedule.Proofs.Text.Words
import CronSchedule.Proofs.Text.Case
import CronSchedule.Proofs.Pattern.Value
import CronSchedule.Proofs.Pattern.Reading
import CronSchedule.Proofs.Pattern.Acceptance
import CronSchedule.Proofs.Pattern.Canonical
import CronSchedule.Proofs.Expression.Reading
import CronSchedule.Proofs.Expression.Canonical
import CronSchedule.Proofs.Schedule.Reading
import CronSchedule.Proofs.Schedule.History
import CronSchedule.Proofs.WellFormed
import CronSchedule.Proofs.Calendar.Month
import CronSchedule.Proofs.Calendar.Units
import CronSchedule.Proofs.Search.Distance
import CronSchedule.Proofs.Search.Move
import CronSchedule.Proofs.Search.Progress
import CronSchedule.Proofs.Search.First
import CronSchedule.Proofs.Search.Query
import CronSchedule.Proofs.Zone.Reading
import CronSchedule.Proofs.Zone.NextEvent
import CronSchedule.Proofs.Zone.Sound
import CronSchedule.Proofs.Zone.Stream
import CronSchedule.Proofs.Zone.FallBack
import CronSchedule.Proofs.Zone.Forward
import CronSchedule.Proofs.Pattern.Fault
import CronSchedule.Proofs.Schedule.Stored
import CronSchedule.Proofs.Schedule.Union
import CronSchedule.Proofs.Zone.Pulls
import CronSchedule.Proofs.Calendar.PickedDays
import CronSchedule.Proofs.Pattern.Meaning
import CronSchedule.Proofs.Expression.Wording
import CronSchedule.Proofs.Pattern.List
import CronSchedule.Proofs.Expression.FirstFault
import CronSchedule.Proofs.Schedule.February
import CronSchedule.Proofs.Calendar.DayCount

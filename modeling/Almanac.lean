import Almanac.Calendar.Reader
import Almanac.Calendar.Writer
import Almanac.Calendar.Date
import Almanac.Filter.Report
import Almanac.Config.Encode
import Almanac.Config.Files
import Almanac.Merge.Fetch
import Almanac.Notify.Delivery
import Almanac.Notify.Fanout
import Almanac.Service.Session
import Almanac.Proofs.Service.MergeRun
import Almanac.Proofs.Service.Traffic
import Almanac.Proofs.Text.Trim
import Almanac.Proofs.Config.Endpoints
import Almanac.Proofs.Dictionary
import Almanac.Proofs.Http.Answer
import Almanac.Proofs.Service.Reflection
import Almanac.Proofs.Service.Serving
import Almanac.Proofs.Filter.Agreement
import Almanac.Proofs.Filter.Insertion
import Almanac.Proofs.Filter.Records
import Almanac.Proofs.Calendar.Folding
import Almanac.Proofs.Calendar.Parameters
import Almanac.Proofs.Calendar.Lines
import Almanac.Proofs.Calendar.Components
import Almanac.Proofs.Calendar.ReadBack
import Almanac.Proofs.Calendar.RoundTrip
import Almanac.Proofs.Service.TimedRun
import Almanac.Proofs.Service.Mirror
import Almanac.Proofs.Service.Lifetimes
import Almanac.Proofs.Service.Overlap
import Almanac.Proofs.Service.Clockwork
import Almanac.Proofs.Service.Running
import Almanac.Proofs.Service.Balance
import Almanac.Proofs.Service.Routing
import Almanac.Proofs.Calendar.Identified
import Almanac.Proofs.Filter.Treated
import Almanac.Proofs.Http.Tag
import Almanac.Proofs.Http.TagList
import Almanac.Proofs.Service.Revalidation
import Almanac.Proofs.Service.Unchanged
import Almanac.Proofs.Service.Marks
import Almanac.Proofs.Service.MainFlow
import Almanac.Proofs.Service.Punctual
import Almanac.Proofs.Service.Cadence
import Almanac.Proofs.Service.Starts
import Almanac.Proofs.Service.Schedule
import Almanac.Proofs.Service.Past
import Almanac.Proofs.Service.Scope
import Almanac.Proofs.Service.FailedStart
import Almanac.Proofs.Calendar.Seams
import Almanac.Proofs.Calendar.Frames
import Almanac.Proofs.Filter.Rewritten
import Almanac.Proofs.Service.ConfiguredText
import Almanac.Proofs.Text.Lowering
import Almanac.Proofs.Filter.Casing
import Almanac.Proofs.Text.Cutting
import Almanac.Proofs.Http.CutTags
import Almanac.Proofs.Calendar.Outline
import Almanac.Proofs.Filter.Visibility
import Almanac.Proofs.Filter.Guards
import Almanac.Proofs.Service.ConditionalGet
import Almanac.Proofs.Text.Utf8
import Almanac.Proofs.Url.Percent
import Almanac.Proofs.Http.Targets
import Almanac.Proofs.Service.PublishedPaths
import Almanac.Proofs.Filter.Appending
import Almanac.Proofs.Calendar.Recognition
import Almanac.Proofs.Service.Endings
import Almanac.Proofs.Service.Intervals
import Almanac.Proofs.Filter.EventByEvent
import Almanac.Proofs.Filter.LaterCheck
import Almanac.Proofs.Filter.SpentChecks
import Almanac.Proofs.Calendar.WrittenDate
import Almanac.Proofs.Filter.StartForms
import Almanac.Proofs.Notify.Attempts
import Almanac.Proofs.Service.Isolation
import Almanac.Proofs.Service.Notices

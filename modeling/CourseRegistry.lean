import CourseRegistry.Main
import CourseRegistry.Store.Overwrite
import CourseRegistry.Proofs.Text.Blank
import CourseRegistry.Proofs.Text.Digits
import CourseRegistry.Proofs.Time.Instant
import CourseRegistry.Proofs.Uuid
import CourseRegistry.Proofs.Outcome
import CourseRegistry.Proofs.Store.Cell
import CourseRegistry.Proofs.Store.Row
import CourseRegistry.Proofs.Store.Effect
import CourseRegistry.Proofs.Store.Run
import CourseRegistry.Proofs.Store.Table
import CourseRegistry.Proofs.Store.WellFormed
import CourseRegistry.Proofs.Store.Meeting
import CourseRegistry.Proofs.Store.Written
import CourseRegistry.Proofs.Store.Seats
import CourseRegistry.Proofs.Schedule
import CourseRegistry.Proofs.Store.Reads
import CourseRegistry.Proofs.Store.Admission
import CourseRegistry.Proofs.Store.Timetable
import CourseRegistry.Proofs.Store.Update
import CourseRegistry.Proofs.Store.Success
import CourseRegistry.Proofs.Store.Alike
import CourseRegistry.Proofs.Store.Hashes
import CourseRegistry.Proofs.Store.Procedure
import CourseRegistry.Proofs.Store.Readable
import CourseRegistry.Proofs.Api.Permission
import CourseRegistry.Proofs.Api.Privacy
import CourseRegistry.Proofs.Server.Authorization
import CourseRegistry.Proofs.Store.LifeCycle
import CourseRegistry.Proofs.Store.Allotment
import CourseRegistry.Proofs.Store.Independence
import CourseRegistry.Proofs.Store.Order
import CourseRegistry.Proofs.Store.Decoding
import CourseRegistry.Proofs.Store.Directory
import CourseRegistry.Proofs.Store.Answer
import CourseRegistry.Proofs.Store.View
import CourseRegistry.Proofs.Store.ReadBack
import CourseRegistry.Proofs.Api.Status
import CourseRegistry.Proofs.Time.Message
import CourseRegistry.Proofs.Json.Text
import CourseRegistry.Proofs.Json.Record
import CourseRegistry.Proofs.Wire.Schedule
import CourseRegistry.Proofs.Wire.Catalog
import CourseRegistry.Proofs.Wire.Enrollment
import CourseRegistry.Proofs.Store.Administration
import CourseRegistry.Proofs.Store.FailClosed
import CourseRegistry.Proofs.Store.Blame
import CourseRegistry.Proofs.Store.Rollback
import CourseRegistry.Proofs.Store.Patch
import CourseRegistry.Proofs.Store.Obstacle
import CourseRegistry.Proofs.Store.Deletion
import CourseRegistry.Proofs.Store.Replacement
import CourseRegistry.Proofs.Store.Retention
import CourseRegistry.Proofs.Text.Order
import CourseRegistry.Proofs.Text.Base64
import CourseRegistry.Proofs.Text.Pattern
import CourseRegistry.Proofs.Text.Lossy
import CourseRegistry.Proofs.Text.Octets
import CourseRegistry.Proofs.Http.Form
import CourseRegistry.Proofs.Time.Order
import CourseRegistry.Proofs.Uuid.Order
import CourseRegistry.Proofs.Store.Chronology
import CourseRegistry.Proofs.Store.Listing
import CourseRegistry.Proofs.Store.Search
import CourseRegistry.Proofs.Server.Credentials
import CourseRegistry.Proofs.Schedule.Moment
import CourseRegistry.Proofs.Server.Caller
import CourseRegistry.Proofs.Server.Account
import CourseRegistry.Proofs.Api.Addressee
import CourseRegistry.Proofs.Client.Reply
import CourseRegistry.Proofs.Client.Request
import CourseRegistry.Proofs.Client.Agreement

import TootTok.Effects.Program
import TootTok.Effects.Interleaving
import TootTok.Effects.Gate
import TootTok.Effects.Runs
import TootTok.Effects.Recording
import TootTok.Effects.Totals
import TootTok.Relational.Table
import TootTok.Relational.Keyset
import TootTok.Relational.Join
import TootTok.Relational.Counting
import TootTok.Json
import TootTok.Crates
import TootTok.Sanitize
import TootTok.Duration
import TootTok.Note
import TootTok.Egress
import TootTok.Database
import TootTok.Queries
import TootTok.Operation
import TootTok.Activity
import TootTok.Handler
import TootTok.Inbox
import TootTok.RemoteActors
import TootTok.Backfill
import TootTok.Api
import TootTok.LocalObjects
import TootTok.Instance
import TootTok.Pipeline
import TootTok.Idempotency
import TootTok.FollowAuthority
import TootTok.DeleteAuthority
import TootTok.ActorDeletion
import TootTok.FanOut
import TootTok.Frames
import TootTok.LocalActors
import TootTok.Ingest
import TootTok.Authorship
import TootTok.ObjectIds
import TootTok.Listings
import TootTok.Pagination
import TootTok.Effects.Service
import TootTok.JobQueue
import TootTok.Media
import TootTok.Server
import TootTok.Worker
import TootTok.Background
import TootTok.JobChanges
import TootTok.Deletion
import TootTok.Turns
import TootTok.TurnProtocol
import TootTok.TurnProofs
import TootTok.TurnInvariants
import TootTok.JobLocks
import TootTok.ClipFailures
import TootTok.Erasure
import TootTok.Attempts
import TootTok.Accounts
import TootTok.Sessions
import TootTok.Logins
import TootTok.EgressGuard
import TootTok.AccountErasure
import TootTok.Visibility
import TootTok.MediaGc
import TootTok.Uploads
import TootTok.Engagement
import TootTok.Inertness
import TootTok.DurationSlices
import TootTok.NullCharacters
import TootTok.LocalUrls
import TootTok.FollowUndo
import TootTok.NoteRoundTrip
import TootTok.WireFormat
import TootTok.RawLog
import TootTok.Ladder
import TootTok.TranscodeAmong
import TootTok.Advertised
import TootTok.Quota
import TootTok.RateLimit
import TootTok.Numerals
import TootTok.Assets
import TootTok.Effects.Loops
import TootTok.Bytes
import TootTok.EntityBytes
import TootTok.Resanitizing
import TootTok.HashtagBytes
import TootTok.Relational.Distinct
import TootTok.CaptionTags
import TootTok.UploadTags
import TootTok.Paths
import TootTok.StorageKeys
import TootTok.IsoDurations
import TootTok.Registration
import TootTok.Signups
import TootTok.CanonicalUsernames
import TootTok.Scanning
import TootTok.FeedLinks
import TootTok.Timeline
import TootTok.Editor
import TootTok.Trimming
import TootTok.AddressBlocks
import TootTok.AddressRanges
import TootTok.Collections
import TootTok.LocalFollows
import TootTok.Web.QueryStrings
import TootTok.Web.UrlParts
import TootTok.WebFinger
import TootTok.NotePaths
import TootTok.NoteArrivals
import TootTok.DeliveryProtocol
import TootTok.DeletionRaces
import TootTok.Admin
import TootTok.AdminProtocol
import TootTok.AuditTrail
import TootTok.ReportResolution
import TootTok.AdminSettings
import TootTok.Suspension
import TootTok.RequestJobs
import TootTok.AssetChanges
import TootTok.Playability

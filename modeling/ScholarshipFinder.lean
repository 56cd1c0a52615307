import ScholarshipFinder.Lib.Table
import ScholarshipFinder.Lib.Run
import ScholarshipFinder.Lib.Pool
import ScholarshipFinder.Lib.Copy
import ScholarshipFinder.Python
import ScholarshipFinder.Domain.Models
import ScholarshipFinder.Domain.Status
import ScholarshipFinder.Domain.Freshness
import ScholarshipFinder.Domain.Taxonomy
import ScholarshipFinder.Domain.Facts
import ScholarshipFinder.Domain.Publication
import ScholarshipFinder.Domain.Urls
import ScholarshipFinder.Domain.Jobs
import ScholarshipFinder.Core.Config
import ScholarshipFinder.Infra.Publication
import ScholarshipFinder.Infra.Refresh
import ScholarshipFinder.Infra.SourcePersistence
import ScholarshipFinder.Infra.Reverify
import ScholarshipFinder.Infra.Turn
import ScholarshipFinder.Infra.Session
import ScholarshipFinder.Infra.Jobs
import ScholarshipFinder.Api.UpdateCycle
import ScholarshipFinder.System
import ScholarshipFinder.Sample
import ScholarshipFinder.Freshness.Restorable
import ScholarshipFinder.Freshness.OpenSpan
import ScholarshipFinder.Freshness.Renewal
import ScholarshipFinder.Freshness.Correction
import ScholarshipFinder.Freshness.ReviewerWindow
import ScholarshipFinder.Freshness.StaleRecheck
import ScholarshipFinder.Freshness.LastWriter
import ScholarshipFinder.Reverify.PageUrl
import ScholarshipFinder.Reverify.Baseline
import ScholarshipFinder.Reverify.Alarm
import ScholarshipFinder.Reverify.Withdrawal
import ScholarshipFinder.Facts.Dict
import ScholarshipFinder.Facts.Sanitised
import ScholarshipFinder.Facts.RoundTrip
import ScholarshipFinder.Status.ReadPath
import ScholarshipFinder.Freshness.BetweenSweeps
import ScholarshipFinder.Jobs.History
import ScholarshipFinder.Jobs.Lifecycle
import ScholarshipFinder.Jobs.Exclusive
import ScholarshipFinder.Jobs.LateWrites
import ScholarshipFinder.Jobs.Recovery
import ScholarshipFinder.Api.Enqueue
import ScholarshipFinder.Jobs.DedupeKey
import ScholarshipFinder.Jobs.Recurrence
import ScholarshipFinder.Jobs.Schedule
import ScholarshipFinder.Infra.Execution
import ScholarshipFinder.Jobs.PartialWork
import ScholarshipFinder.Corroboration.AgentRows
import ScholarshipFinder.Corroboration.Independent
import ScholarshipFinder.Infra.Batch
import ScholarshipFinder.Jobs.BatchIsolation
import ScholarshipFinder.Lib.Sorted
import ScholarshipFinder.Reverify.Starvation
import ScholarshipFinder.Api.PublishCycle
import ScholarshipFinder.Approval.DecidedOnce
import ScholarshipFinder.Approval.PublishedDeadline
import ScholarshipFinder.Domain.Matching
import ScholarshipFinder.Facts.PartialEdit
import ScholarshipFinder.Lib.Handled
import ScholarshipFinder.Matching.SearchDetail
import ScholarshipFinder.Publishing.EditChecks
import ScholarshipFinder.Publishing.EditContract
import ScholarshipFinder.Publishing.OwnEvent
import ScholarshipFinder.Domain.Ingestion
import ScholarshipFinder.Domain.Linking
import ScholarshipFinder.Domain.Normalization
import ScholarshipFinder.Infra.Intake
import ScholarshipFinder.Infra.AgentIntegration
import ScholarshipFinder.Infra.Ingestion
import ScholarshipFinder.Intake.Conservation
import ScholarshipFinder.Intake.Heads
import ScholarshipFinder.Linking.Duplicates
import ScholarshipFinder.Linking.Outcomes
import ScholarshipFinder.Approval.Attempts
import ScholarshipFinder.Approval.Finality
import ScholarshipFinder.Agent.WorkList
import ScholarshipFinder.Api.Search
import ScholarshipFinder.Approval.EvaluatedOnce
import ScholarshipFinder.Approval.Sound
import ScholarshipFinder.Budgets.CallBudget
import ScholarshipFinder.Events.Delivery
import ScholarshipFinder.Explanations.CurrentFacts
import ScholarshipFinder.Fetching.Allowlist
import ScholarshipFinder.Fetching.RealPage
import ScholarshipFinder.Intake.Fitting
import ScholarshipFinder.Lib.Pages
import ScholarshipFinder.Sample.Search
import ScholarshipFinder.Searching.Ownership
import ScholarshipFinder.Intake.ContentHash
import ScholarshipFinder.Publishing.SentWording
import ScholarshipFinder.Lib.Like
import ScholarshipFinder.Linking.SameName
import ScholarshipFinder.Corroboration.MentionsRead
import ScholarshipFinder.Fetching.SamePage
import ScholarshipFinder.Linking.LostWords
import ScholarshipFinder.Searching.AnyCursor
import ScholarshipFinder.Searching.ClosingOrder
import ScholarshipFinder.Searching.Replayed
import ScholarshipFinder.Limits.SlidingWindow
import ScholarshipFinder.Extracting.PageWindows
import ScholarshipFinder.Extracting.SentSize
import ScholarshipFinder.Approval.Slugs
import ScholarshipFinder.Reporting.Scrubbed
import ScholarshipFinder.Deliveries.Genuine
import ScholarshipFinder.Handoff.ReturnUrl
import ScholarshipFinder.Approval.StatedLevels
import ScholarshipFinder.Countries.Vocabulary
import ScholarshipFinder.Platform.AgentReports
import ScholarshipFinder.Platform.Ledger
import ScholarshipFinder.Platform.KillSwitch
import ScholarshipFinder.Harvesting.Runs

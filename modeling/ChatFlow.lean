import ChatFlow.Main
import ChatFlow.Proofs.Run.Graph
import ChatFlow.Proofs.Run.Scheduled
import ChatFlow.Proofs.Run.Sequence
import ChatFlow.Proofs.Run.Rows
import ChatFlow.Proofs.Run.Refusals
import ChatFlow.Proofs.Catalog.Shelf
import ChatFlow.Proofs.Catalog.Revisions
import ChatFlow.Proofs.Catalog.Ids
import ChatFlow.Proofs.Workflow.Encoding
import ChatFlow.Proofs.Workflow.Domains
import ChatFlow.Proofs.Schedule.Intervals
import ChatFlow.Proofs.Schedule.Days
import ChatFlow.Proofs.Schedule.Survivals
import ChatFlow.Proofs.Schedule.Reports
import ChatFlow.Proofs.Schedule.Acceptance
import ChatFlow.Proofs.Run.Stored
import ChatFlow.Proofs.Run.Answered
import ChatFlow.Proofs.Template.Responses
import ChatFlow.Proofs.Store.Executions
import ChatFlow.Proofs.Service.Trials
import ChatFlow.Proofs.Expr.Bounds
import ChatFlow.Proofs.Expr.Reached
import ChatFlow.Proofs.Run.Cooldown
import ChatFlow.Proofs.Service.Timers
import ChatFlow.Proofs.Service.Saves
import ChatFlow.Proofs.Run.Outward
import ChatFlow.Proofs.Run.Shown
import ChatFlow.Proofs.Run.Comparisons
import ChatFlow.Proofs.Workflow.Triggers
import ChatFlow.Proofs.Web.Forms
import ChatFlow.Proofs.Run.Operations
import ChatFlow.Proofs.Run.Draws
import ChatFlow.Proofs.Run.Picks
import ChatFlow.Proofs.Run.Excerpts
import ChatFlow.Proofs.Run.Scores

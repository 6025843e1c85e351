import ChorePlanner.Lib.Exec
import ChorePlanner.Lib.Sql
import ChorePlanner.Model.Schema
import ChorePlanner.Model.Statements
import ChorePlanner.Model.Views
import ChorePlanner.Model.Integrity
import ChorePlanner.Model.Plan
import ChorePlanner.Model.Tenant
import ChorePlanner.Model.Exemption
import ChorePlanner.Model.Chore
import ChorePlanner.Model.Week
import ChorePlanner.Model.Rating
import ChorePlanner.Model.Command
import ChorePlanner.Model.Paginate
import ChorePlanner.Lib.Weights
import ChorePlanner.Lib.Text
import ChorePlanner.Proofs.Draw
import ChorePlanner.Proofs.Methods
import ChorePlanner.Proofs.Availability
import ChorePlanner.Proofs.Score
import ChorePlanner.Proofs.Runs
import ChorePlanner.Proofs.Frame
import ChorePlanner.Proofs.UpdatePlan
import ChorePlanner.Proofs.Progress
import ChorePlanner.Proofs.Weekly
import ChorePlanner.Proofs.Polls
import ChorePlanner.Proofs.Names
import ChorePlanner.Proofs.Paginate
import ChorePlanner.Proofs.Calendar
import ChorePlanner.Proofs.Rounds
import ChorePlanner.Proofs.Program
import ChorePlanner.Lib.Framing
import ChorePlanner.Model.StreamCodec
import ChorePlanner.Proofs.StreamCodec
import ChorePlanner.Model.TelegramBot
import ChorePlanner.Proofs.TelegramBot
import ChorePlanner.Model.Migrate
import ChorePlanner.Proofs.Migrate
import ChorePlanner.Model.Main
import ChorePlanner.Proofs.Main
import ChorePlanner.Model.Reply
import ChorePlanner.Model.SignalBot
import ChorePlanner.Proofs.Reply
import ChorePlanner.Proofs.SignalBot
import ChorePlanner.Proofs.Robustness
import ChorePlanner.Proofs.Workers
import ChorePlanner.Proofs.Upkeep
import ChorePlanner.Proofs.Residency

import SlotsGame.Theory.Effects
import SlotsGame.Game.Types
import SlotsGame.Game.Runs
import SlotsGame.Game.Bounds
import SlotsGame.Game.Continuation
import SlotsGame.Rgs.Validation
import SlotsGame.Game.WaysFacts
import SlotsGame.Theory.Budget
import SlotsGame.Theory.Weighted
import SlotsGame.Rgs.MemoryContract
import SlotsGame.LocalOperator.Wallet
import SlotsGame.Outbox.Delivery
import SlotsGame.Operator.Replay
import SlotsGame.Postgres.Durability
import SlotsGame.Game.WaysForm
import SlotsGame.Postgres.Reviews
import SlotsGame.Postgres.Lockstep
import SlotsGame.Wallet.Resolution
import SlotsGame.Wallet.Evidence
import SlotsGame.Admission.Refinement
import SlotsGame.Admission.EconomicRuns
import SlotsGame.Launch.Code
import SlotsGame.Rgs.Recovery
import SlotsGame.Rgs.MemoryAttempts
import SlotsGame.Platform.Limiter
import SlotsGame.Client.Origin
import SlotsGame.Client.Acceptance
import SlotsGame.Operator.Encoding
import SlotsGame.Operator.Binding
import SlotsGame.Operator.Agreement
import SlotsGame.Rgs.Deliveries
import SlotsGame.Postgres.Deliveries
import SlotsGame.Operator.AccessToken
import SlotsGame.Gateway.Polling
import SlotsGame.Rng.Source
import SlotsGame.Game.Transform
import SlotsGame.Outbox.Backoff
import SlotsGame.LocalOperator.Journal
import SlotsGame.Assets.Residency
import SlotsGame.Reels.Settling

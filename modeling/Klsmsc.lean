import Klsmsc.Dlr.Absorbing
import Klsmsc.Dlr.ShortCircuit
import Klsmsc.Dlr.Ownership
import Klsmsc.Dlr.RetryConsistent
import Klsmsc.Gateway.Delivery
import Klsmsc.Gateway.PerChannel
import Klsmsc.Gateway.Configurations
import Klsmsc.Gateway.BindCount
import Klsmsc.Gateway.InFlight
import Klsmsc.Gateway.Window
import Klsmsc.Gateway.Availability
import Klsmsc.Gateway.UdhSegments
import Klsmsc.Gateway.ThrottleBound
import Klsmsc.Queue
import Klsmsc.Refund.Conservation
import Klsmsc.Refund.Listing
import Klsmsc.SendTask.AtMostOnce
import Klsmsc.SendTask.RowWriters
import Klsmsc.SendTask.Cleared
import Klsmsc.SendTask.Redispatch
import Klsmsc.SendTask.RateLimiter
import Klsmsc.Chunk.WrittenOnce
import Klsmsc.Chunk.Pricing
import Klsmsc.Chunk.OwnRoutes
import Klsmsc.Chunk.Compensation
import Klsmsc.BatchAdmin.Cancelled
import Klsmsc.BatchAdmin.Repricing
import Klsmsc.BatchAdmin.Switching
import Klsmsc.Retry.Covered
import Klsmsc.Sms.FrontEnd
import Klsmsc.Sms.Segmentation
import Klsmsc.Sms.ShortLink
import Klsmsc.Sms.TrackLinks
import Klsmsc.Scheduled.AtMostOnce
import Klsmsc.SubmitResults.NotLost
import Klsmsc.Resend.AtMostOnce
import Klsmsc.BatchWorker.OwnRoutes
import Klsmsc.BatchWorker.Accounted
import Klsmsc.BatchWorker.Idempotent
import Klsmsc.Inbound.Kept
import Klsmsc.Inbound.Latin1
import Klsmsc.Inbound.Receipts
import Klsmsc.Inbound.Verdict
import Klsmsc.Balance.NotLost
import Klsmsc.BalanceLogs.Audited
import Klsmsc.Sms.Sanitiser
import Klsmsc.PriceCache
import Klsmsc.DataNumbers
import Klsmsc.Recycling
import Klsmsc.Invitations.UsedOnce
import Klsmsc.StockSummary.Available
import Klsmsc.StockSummary.Exact
import Klsmsc.NumberSales.SoldOnce
import Klsmsc.BannedWords.Overlooked
import Klsmsc.PriceCache.Steps
import Klsmsc.PriceCache.Patterns
import Klsmsc.PriceCache.Sound
import Klsmsc.PriceCache.TakeEffect
import Klsmsc.BuyAndSend.Settled
import Klsmsc.LargeBatch
import Klsmsc.SmallBatch.Treatment
import Klsmsc.CountryCode
import Klsmsc.BaseCost
import Klsmsc.BatchProgress.FixedPoint
import Klsmsc.BatchProgress.Counters
import Klsmsc.Router.Cached
import Klsmsc.Dlr.Rewriting
import Klsmsc.Dlr.Receipts
import Klsmsc.Balance.Charging
import Klsmsc.DirectSends.ApprovedOnce
import Klsmsc.DirectSends.Verdicts
import Klsmsc.DirectSends.Batches
import Klsmsc.PrivateLibrary.Exact
import Klsmsc.PrivateLibrary.UnusedOnly
import Klsmsc.PrivateLibrary.UploadParse
import Klsmsc.Inbound.Pdu
import Klsmsc.Inbound.Assembly
import Klsmsc.Gateway.AdaptiveThrottle
import Klsmsc.Webhook.Slots
import Klsmsc.Webhook.Ladder
import Klsmsc.Webhook.Breaker
import Klsmsc.PrivateLibrary.CountryFilter
import Klsmsc.NumberImport
import Klsmsc.RcsTasks.OwnRows
import Klsmsc.Commission.Rollup
import Klsmsc.Inbound.Framing
import Klsmsc.Inbound.Conversation
import Klsmsc.Inbound.PendingReceipts
import Klsmsc.Inbound.WrittenOnce
import Klsmsc.Gateway.Deduplication

import Understudy.Json.Basic
import Understudy.Json.Read
import Understudy.Json.Write
import Understudy.Json.Numeral
import Understudy.Decimal.Read
import Understudy.Decimal.Layout
import Understudy.Text.Words
import Understudy.Text.Quoting
import Understudy.Settings.Load
import Understudy.Logging
import Understudy.Catalog.Hierarchy
import Understudy.Value.Text
import Understudy.Value.Kind
import Understudy.Dump.Value
import Understudy.Surface.Basic
import Understudy.Surface.Cache
import Understudy.Mock.Verbs
import Understudy.Mock.Verify
import Understudy.Dump.Catalog
import Understudy.Dump.Mock
import Understudy.Surface.Json
import Understudy.Proofs.Dispatch
import Understudy.Proofs.Verification
import Understudy.Proofs.Visibility
import Understudy.Proofs.Arranging
import Understudy.Proofs.Growth
import Understudy.Proofs.Steps
import Understudy.Proofs.Sharing
import Understudy.Proofs.Handles
import Understudy.Proofs.Resolution
import Understudy.Proofs.Assignability
import Understudy.Proofs.Cycles
import Understudy.Proofs.Caching
import Understudy.Proofs.ReadBack
import Understudy.Proofs.Standins
import Understudy.Proofs.PredicateOrder
import Understudy.Proofs.ResultTyping
import Understudy.Proofs.PatternIdentity
import Understudy.Proofs.VerbNaming
import Understudy.Proofs.ClassChains
import Understudy.Proofs.RaisingEvents
import Understudy.Proofs.SubscriptionOrder
import Understudy.Proofs.Registration

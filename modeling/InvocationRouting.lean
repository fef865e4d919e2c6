import InvocationRouting.Expr.Conversion
import InvocationRouting.Expr.Inspect
import InvocationRouting.Hashing
import InvocationRouting.Log.Setup
import InvocationRouting.Registry.Interleaving
import InvocationRouting.Session
import InvocationRouting.Settings.Source
import InvocationRouting.Settings.Strict
import InvocationRouting.Target.Builder
import InvocationRouting.Value.Json.Reader
import InvocationRouting.Route.Operation
import InvocationRouting.Proofs.Merge.Precedence
import InvocationRouting.Proofs.Session.Transparency
import InvocationRouting.Proofs.Interleaving.SingleFlight
import InvocationRouting.Proofs.Interleaving.Leftover
import InvocationRouting.Proofs.Interleaving.Accounting
import InvocationRouting.Proofs.Interleaving.Progress
import InvocationRouting.Proofs.Settings.Validation
import InvocationRouting.Proofs.Expr.Places
import InvocationRouting.Proofs.Evaluation.Order
import InvocationRouting.Proofs.Resolution.Order
import InvocationRouting.Proofs.Evaluation.Limit
import InvocationRouting.Proofs.Route.History
import InvocationRouting.Proofs.Analysis.Faults
import InvocationRouting.Proofs.Session.Failures
import InvocationRouting.Proofs.Merge.DeclaredKeys
import InvocationRouting.Proofs.Analysis.Names
import InvocationRouting.Proofs.Session.CallSite
import InvocationRouting.Proofs.Session.Caches
import InvocationRouting.Proofs.Merge.Congruence
import InvocationRouting.Proofs.Evaluation.Arithmetic
import InvocationRouting.Proofs.Analysis.Pairing
import InvocationRouting.Proofs.Evaluation.Mixed
import InvocationRouting.Proofs.Evaluation.Accessors
import InvocationRouting.Proofs.Route.Extensionality
import InvocationRouting.Proofs.Route.Decoding
import InvocationRouting.Proofs.Route.Serialization
import InvocationRouting.Proofs.Merge.FullDictionary
import InvocationRouting.Proofs.Target.Steps
import InvocationRouting.Hashing.Table
import InvocationRouting.Route.Reading
import InvocationRouting.Proofs.Handler.Naming
import InvocationRouting.Proofs.Hashing.Table
import InvocationRouting.Proofs.Hashing.Keys

import EaQuant.Core.FillPrice
import EaQuant.Portfolio.Convergence
import EaQuant.Portfolio.Solvency
import EaQuant.Product.PaperFunds
import EaQuant.Product.PaperGate
import EaQuant.Quine.CanonicalForm
import EaQuant.Quine.Guard
import EaQuant.Quine.Holdout
import EaQuant.Quine.Quiescence
import EaQuant.Data.FingerprintBinding
import EaQuant.Portfolio.DoubleEntry
import EaQuant.Runtime.Queue
import EaQuant.Runtime.RefreshChain
import EaQuant.Runtime.StreamDispatch
import EaQuant.Core.NoLookahead
import EaQuant.Reconciliation.Classification
import EaQuant.Reconciliation.Codec
import EaQuant.Strategy.Entry
import EaQuant.Strategy.SignalHistory
import EaQuant.Product.EntryBound
import EaQuant.Prediction.Runs
import EaQuant.Candidates.Lifecycle
import EaQuant.Research.Conclusion
import EaQuant.Experiments.LogicalKeyMap
import EaQuant.Web.RecordedTurns

import DynLiteExperiments.Python
import DynLiteExperiments.Base64
import DynLiteExperiments.Percentile
import DynLiteExperiments.Client
import DynLiteExperiments.PerfYcsb
import DynLiteExperiments.Chaos
import DynLiteExperiments.Config
import DynLiteExperiments.Plots
import DynLiteExperiments.Sac
import DynLiteExperiments.Staleness
import DynLiteExperiments.AntiEntropy
import DynLiteExperiments.Runner
import DynLiteExperiments.Proofs.Workload
import DynLiteExperiments.Proofs.Percentiles
import DynLiteExperiments.Proofs.Summaries
import DynLiteExperiments.Proofs.Staleness
import DynLiteExperiments.Proofs.AntiEntropy
import DynLiteExperiments.Proofs.Runner
import DynLiteExperiments.Proofs.Client

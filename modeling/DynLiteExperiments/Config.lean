import DynLiteExperiments.Python

/-!
# The experiment knobs (`config.py`)

The frozen dataclasses of `config.py`, with their defaults, for the knobs the modelled code
reads. `CONFIG = ExperimentConfig()` (`config`) is the one configuration every experiment
uses. Output paths, node URLs, `value_size_bytes`, `warmup_seconds`, `deadline_header_name`,
`sample_interval_seconds` and `leaf_count` are left out: they size payloads, name a header, pass
a parameter to the server, set a sleep or are never read, and nothing modelled depends on them.
-/

namespace DynLiteExperiments

/-- `WorkloadConfig`. -/
structure WorkloadConfig where
  /-- `num_keys`. -/
  numKeys : ℕ := 1000000
  /-- `run_seconds`. -/
  runSeconds : ℕ := 20
  /-- `read_write_mix_a`, `_b`, `_c`: workloads A, B and C. The literals 0.5, 1.0 and 0.0 are
  doubles; 0.95 and 0.05 stand for the doubles nearest them. -/
  mixes : List (String × ℚ × ℚ) :=
    [("A", (0.5, 0.5)), ("B", (roundDouble 0.95, roundDouble 0.05)), ("C", (1.0, 0.0))]
  /-- `concurrency_levels`. -/
  concurrencyLevels : List ℕ := [4, 8, 32, 64, 128, 256]

/-- `SloConfig`. -/
structure SloConfig where
  /-- `tight_deadline_ms`. -/
  tightDeadlineMs : ℕ := 20
  /-- `relaxed_deadline_ms`. -/
  relaxedDeadlineMs : ℕ := 100

/-- `StalenessConfig`. -/
structure StalenessConfig where
  /-- `delays_ms`. -/
  delaysMs : List ℕ := [0, 10, 20, 50, 100, 200, 500, 1000]
  /-- `trials_per_delay`. -/
  trialsPerDelay : ℕ := 50

/-- `AntiEntropyConfig`. -/
structure AntiEntropyConfig where
  /-- `observation_seconds`. -/
  observationSeconds : ℕ := 30
  /-- `write_burst_keys`. -/
  writeBurstKeys : ℕ := 200

/-- `ExperimentConfig`, the bundle `CONFIG` is the default of. -/
structure ExperimentConfig where
  /-- The node names of `cluster.nodes`, in order. -/
  nodeNames : List String := ["node-a", "node-b", "node-c"]
  /-- `workload`. -/
  workload : WorkloadConfig := {}
  /-- `slo`. -/
  slo : SloConfig := {}
  /-- `staleness`. -/
  staleness : StalenessConfig := {}
  /-- `anti_entropy`. -/
  antiEntropy : AntiEntropyConfig := {}

/-- `CONFIG`, the configuration every experiment reads. -/
def config : ExperimentConfig := {}

/-- `cluster.primary`: the first node; an empty cluster raises `RuntimeError` (`none`). -/
def ExperimentConfig.primary (cfg : ExperimentConfig) : Option String := cfg.nodeNames.head?

end DynLiteExperiments

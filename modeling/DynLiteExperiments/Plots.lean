import DynLiteExperiments.Config
import DynLiteExperiments.Percentile
import DynLiteExperiments.PerfYcsb
import DynLiteExperiments.Chaos
import DynLiteExperiments.Sac
import DynLiteExperiments.AntiEntropy

/-!
# The plots' aggregations (`all_plots.py`)

`_plot_perf` and `_plot_staleness` read a CSV back, group its rows with
`dict.setdefault(k, []).append(v)` and aggregate each group; `_plot_anti_entropy`, `_plot_chaos`
and `_plot_sac` turn each row into a point. The figures themselves are left out, the data they
are drawn from is modelled. The perf, anti-entropy, chaos and SAC CSVs are read as the records
they were written from: `csv` writes `str(v)` and the plot reads back `int(...)`/`float(...)`,
and Python's `repr` of a float reads back as that float. The staleness CSV is read from its
cells.

The bench's `plot_latencies.py` is modelled last: it reads a latency CSV from its cells with
`csv.DictReader`, and draws the empirical CDF of the successful latencies, which `float` may read
as `inf` or `nan`.
-/

namespace DynLiteExperiments

/-- The successful rows of the perf CSV grouped by (workload, concurrency), first-seen order:
`grouped` (and `by_key`) of `_plot_perf`. -/
def perfGroups (rows : List WorkloadRecord) : List ((String × ℕ) × List ℚ) :=
  groupBy (fun r => (r.workload, r.concurrency)) (·.latencyMs) (rows.filter (·.ok))

/-- The throughput points of `_plot_perf`: each group's count over `run_seconds`. -/
def plotPerfThroughput (rows : List WorkloadRecord) : List ((String × ℕ) × ℚ) :=
  (perfGroups rows).map fun g => (g.1, (g.2.length : ℚ) / config.workload.runSeconds)

/-- The latency points of `_plot_perf`: for each non-empty group, `pct(0.50)`, `pct(0.95)`,
`pct(0.99)` of its sorted latencies; `none` where Python would raise. -/
def plotPerfLatency (rows : List WorkloadRecord) : Option (List ((String × ℕ) × Percentiles ℚ)) :=
  ((perfGroups rows).filter (!·.2.isEmpty)).mapM fun g =>
    (g.1, ·) <$> plotPercentiles (pySorted g.2)

/-- The body of the first loop of `_plot_staleness` on one row:
`(int(r["delay_ms"]), int(r["is_stale"]))`; `none` where Python raises (a missing column, the
`None` of a field past the end of the row, a cell that is not a decimal natural number). -/
def staleRowOf (r : List (String × Option String)) : Option (ℕ × ℕ) := do
  let d ← (cell r "delay_ms").join.bind pyIntOfStr
  let isStale ← (cell r "is_stale").join.bind pyIntOfStr
  pure (d, isStale)

/-- `_plot_staleness` over the staleness CSV: `(delay_ms, stale_fraction)` for each delay, by
increasing delay (`sorted(by_delay.items())`, whose keys are distinct); `none` where Python
raises. -/
def plotStaleness (f : CsvFile) : Option (List (ℕ × ℚ)) := do
  let rows ← f.dictRows.mapM staleRowOf
  let byDelay := groupBy Prod.fst Prod.snd rows
  pure (((byDelay.insertionSort fun a b => a.1 ≤ b.1).filter (!·.2.isEmpty)).map
    fun g => (g.1, (g.2.sum : ℚ) / g.2.length))

/-- `_plot_anti_entropy`: one point per row, `(t_offset_s, in_sync)` on the line of the pair
`f"{node_a}-{node_b}"`. -/
def plotAntiEntropy (rows : List AeRecord) : List (ℚ × String × ℕ) :=
  rows.map fun r => (r.tOffsetS, r.nodeA ++ "-" ++ r.nodeB, r.inSync)

/-- `_plot_chaos`: each successful row at `t_rel_s`, its start in seconds after the first
successful start, with its latency, op and node; `none` (no figure) when no row succeeded. -/
def plotChaos (rows : List ChaosRecord) : Option (List (ℚ × ℚ × Op × String)) := do
  let data := rows.filter (·.ok)
  let t0 ← (data.map (·.tStartMs)).min?
  pure (data.map fun r => (((r.tStartMs - t0 : ℤ) : ℚ) / 1000, r.latencyMs, r.op, r.node))

/-- `_plot_sac`: the class and latency of each successful row, drawn as one box per class. -/
def plotSac (rows : List SacRecord) : List (String × ℚ) :=
  (rows.filter (·.ok)).map fun r => (r.cls, r.latencyMs)

/-! ## `bench/scripts/plot_latencies.py` -/

/-- An exception that escapes `main` of `plot_latencies.py`. -/
inductive ScriptError
  /-- `row["success"]` or `row["latency_ms"]` on a row without that column. -/
  | keyError
  /-- `float(...)` of a cell that is not a number. -/
  | valueError
  /-- `float(None)` of a field past the end of its row. -/
  | typeError
  /-- `i / (n - 1)` with `n - 1 = 0`. -/
  | zeroDivisionError
  deriving DecidableEq, Repr

/-- What `main` of `plot_latencies.py` does when it returns. -/
inductive LatencyCdf
  /-- `print("no successful samples")`. -/
  | noSamples
  /-- `plt.plot(xs, cdf_y)`. -/
  | plot (xs : List PyFloat) (cdfY : List ℚ)
  deriving DecidableEq, Repr

section PlotLatencies

-- `pyFloat s` is `float(s)`, `none` where it raises `ValueError`. How Python reads a float is
-- left open: nothing below depends on it.
variable (pyFloat : String → Option PyFloat)

-- `sortNan` is the order `xs.sort()` leaves floats holding a `nan` in (`sortFloats`).
variable (sortNan : (xs : List PyFloat) → {ys : List PyFloat // ys.Perm xs})

/-- One pass of the row loop: `xs.append(float(row["latency_ms"]))` when
`row["success"] == "1"`. -/
def latencyStep (xs : List PyFloat) (row : List (String × Option String)) :
    Except ScriptError (List PyFloat) := do
  let some success := cell row "success" | throw .keyError
  if success = some "1" then
    let some c := cell row "latency_ms" | throw .keyError
    let some c := c | throw .typeError
    let some x := pyFloat c | throw .valueError
    pure (xs ++ [x])
  else pure xs

/-- `cdf_y = [i / (n - 1) for i in range(n)]`. -/
def cdfY (n : ℕ) : Except ScriptError (List ℚ) :=
  (List.range n).mapM fun (i : ℕ) =>
    if (n : ℚ) - 1 = 0 then throw .zeroDivisionError else pure ((i : ℚ) / ((n : ℚ) - 1))

/-- `main(path)` of `plot_latencies.py`, over the CSV file at `path`. -/
def plotLatencies (f : CsvFile) : Except ScriptError LatencyCdf := do
  let xs ← f.dictRows.foldlM (latencyStep pyFloat) []
  if xs.isEmpty then return .noSamples
  let xs := sortFloats sortNan xs
  let n := xs.length
  let cdfY ← cdfY n
  return .plot xs cdfY

end PlotLatencies

end DynLiteExperiments

import DynLiteExperiments.Client
import DynLiteExperiments.Config
import DynLiteExperiments.Percentile

/-!
# `_run_single_workload`: perf workers appending to one shared list

`_run_single_workload` starts `concurrency` threads of `worker_thread` and returns the shared
`records` list once all have finished. Each thread loops until `time.time()` reaches `stop_at`:
it draws an operation (`_choose_op`), a key and a node, times one `get` or `put` inside
`try`/`except Exception`, and appends one dict to `records`.

The model is a labelled transition system, one step per statement of the loop body. A worker's
state is its program counter, which carries the Python locals live at that point (`Pc`). The
labels (`Event`) are the world's answers: clock readings, random draws, whether the remote call
raised; `append` is the worker's `records.append(rec)`, one atomic step as CPython's
`list.append` is. A schedule is any list of (worker, event) pairs, so it fixes both the
interleaving of the threads and every answer of the world. The draws of `_rand_value` that make a
`PUT`'s payload are part of the request: nothing records them.

`run_perf_ycsb` first writes `min(1000, num_keys)` warmup keys through the primary (a `put` that
raises ends the probe), then runs `_run_single_workload` for each workload and each concurrency
level in turn, writes one summary line after each run (`perfSummary`; its `:.1f` formatting is
left out, the numbers are kept exactly), and at the end the CSV of all the runs' records.
-/

namespace DynLiteExperiments

variable {ι α : Type*}

/-- The entries of a tagged list that carry tag `i`, in order. -/
def ofTag [DecidableEq ι] (i : ι) (t : List (ι × α)) : List α :=
  t.filterMap fun p => if p.1 = i then some p.2 else none

@[simp] theorem ofTag_nil [DecidableEq ι] (i : ι) : ofTag i ([] : List (ι × α)) = [] := rfl

@[simp] theorem ofTag_cons [DecidableEq ι] (i j : ι) (a : α) (t : List (ι × α)) :
    ofTag i ((j, a) :: t) = if j = i then a :: ofTag i t else ofTag i t := by
  by_cases h : j = i <;> simp [ofTag, h]

/-- The operations a perf worker issues. -/
inductive Op
  | GET
  | PUT
  deriving DecidableEq, Repr

/-- `_choose_op(mix)` once `random.random()` has returned `x`. -/
def chooseOp (mix : ℚ × ℚ) (x : ℚ) : Op := if x < mix.1 then .GET else .PUT

/-- One row of the perf CSV: the dict `rec` of `worker_thread`. -/
structure WorkloadRecord where
  /-- `"workload"`. -/
  workload : String
  /-- `"concurrency"`. -/
  concurrency : ℕ
  /-- `"node"`. -/
  node : String
  /-- `"op"`. -/
  op : Op
  /-- `"ok"`, the `int(ok)` of the boolean kept here. -/
  ok : Bool
  /-- `"latency_ms"`. -/
  latencyMs : ℚ
  /-- `"t_start_ms"`. -/
  tStartMs : ℤ
  /-- `"t_end_ms"`. -/
  tEndMs : ℤ
  deriving DecidableEq, Repr

/-- The arguments of `_run_single_workload`, with the `stop_at` it computes on entry.
`value_size` only sizes the random payload of a PUT, which nothing records. -/
structure SingleWorkload where
  /-- `workload_name`. -/
  workloadName : String
  /-- `mix = (p_read, p_write)`. -/
  mix : ℚ × ℚ
  /-- `concurrency`, the number of threads. -/
  concurrency : ℕ
  /-- `stop_at = time.time() + duration_sec`. -/
  stopAt : ℚ
  /-- `keys`. -/
  keys : List String
  /-- `node_names = list(clients.keys())`. -/
  nodeNames : List String

/-- What a worker thread meets at one step. -/
inductive Event
  /-- `time.time()` returned `t`. -/
  | clock (t : ℚ)
  /-- `random.random()` returned `x`. -/
  | random (x : ℚ)
  /-- `random.choice(seq)` picked index `i mod len(seq)`. -/
  | choice (i : ℕ)
  /-- The `get` or `put` returned (`raised = false`) or raised an `Exception`. -/
  | reply (raised : Bool)
  /-- The thread's `records.append(rec)`. -/
  | append
  deriving DecidableEq, Repr

/-- Where a worker thread stands: before the statement named, holding the locals live there. -/
inductive Pc
  /-- `while time.time() < stop_at:`. -/
  | loopTest
  /-- `op = _choose_op(mix)`. -/
  | chooseOp
  /-- `key = random.choice(keys)`. -/
  | chooseKey (op : Op)
  /-- `node_name = random.choice(node_names)`. -/
  | chooseNode (op : Op) (key : String)
  /-- `t_start = time.time()`. -/
  | clockStart (op : Op) (key node : String)
  /-- The `try` around `client.get(key)` or `client.put(...)`. -/
  | request (op : Op) (key node : String) (tStart : ℚ)
  /-- `t_end = time.time()`, then the dict `rec` is built. -/
  | clockEnd (op : Op) (node : String) (tStart : ℚ) (ok : Bool)
  /-- `records.append(rec)`. -/
  | append (rec : WorkloadRecord)
  /-- The loop test failed and the thread returned. -/
  | returned
  /-- An exception escaped the loop body (`random.choice` of an empty list); the thread's future
  holds it and nobody looks. -/
  | raised
  deriving DecidableEq, Repr

/-- A thread is done once it returned or raised; `as_completed` waits for that. -/
def Pc.finished (pc : Pc) : Bool := pc == .returned || pc == .raised

namespace SingleWorkload

variable (W : SingleWorkload)

/-- The dict `rec` that `worker_thread` builds from its locals (`rec` names the recursor here). -/
def record (op : Op) (node : String) (tStart : ℚ) (ok : Bool) (tEnd : ℚ) : WorkloadRecord where
  workload := W.workloadName
  concurrency := W.concurrency
  node := node
  op := op
  ok := ok
  latencyMs := (tEnd - tStart) * 1000
  tStartMs := pyInt (roundDouble (tStart * 1000))
  tEndMs := pyInt (roundDouble (tEnd * 1000))

/-- One statement of `worker_thread` at `pc` on the event `e`: where the thread then stands and
the record it appended, if any; `none` when the event does not fit the statement. -/
def workerStep : Pc → Event → Option (Pc × Option WorkloadRecord)
  | .loopTest, .clock t => some (if t < W.stopAt then .chooseOp else .returned, none)
  | .chooseOp, .random x => some (.chooseKey (chooseOp W.mix x), none)
  | .chooseKey op, .choice i =>
    some (match pyChoice W.keys i with
      | some key => .chooseNode op key
      | none => .raised, none)
  | .chooseNode op key, .choice i =>
    some (match pyChoice W.nodeNames i with
      | some node => .clockStart op key node
      | none => .raised, none)
  | .clockStart op key node, .clock t => some (.request op key node t, none)
  | .request op _ node tStart, .reply raised => some (.clockEnd op node tStart !raised, none)
  | .clockEnd op node tStart ok, .clock t => some (.append (W.record op node tStart ok t), none)
  | .append r, .append => some (.loopTest, some r)
  | _, _ => none

/-- `worker_thread` run on its own over the answers `es`: where it ends and the records it
appended, in order. -/
def workerRun : Pc → List Event → Option (Pc × List WorkloadRecord)
  | pc, [] => some (pc, [])
  | pc, e :: es => (W.workerStep pc e).bind fun (pc', r) =>
    (workerRun pc' es).map fun (pc'', rs) => (pc'', r.toList ++ rs)

end SingleWorkload

/-- The threads of one `_run_single_workload` call and the list `records` they share. -/
structure Sys (W : SingleWorkload) where
  /-- The shared `records`. -/
  records : List WorkloadRecord
  /-- Where each thread stands. -/
  workers : Fin W.concurrency → Pc

/-- A schedule: which thread moves next, and what the world answers it. -/
abbrev Schedule (W : SingleWorkload) := List (Fin W.concurrency × Event)

namespace Sys

variable {W : SingleWorkload}

/-- All threads submitted, none started, `records = []`. -/
def init (W : SingleWorkload) : Sys W := ⟨[], fun _ => .loopTest⟩

/-- Thread `i` executes one statement; its append lands at the end of the shared list. -/
def step (s : Sys W) (i : Fin W.concurrency) (e : Event) : Option (Sys W) :=
  (W.workerStep (s.workers i) e).map fun (w, r) =>
    ⟨s.records ++ r.toList, Function.update s.workers i w⟩

/-- The run of a schedule; `none` when some event does not fit the thread it is given to. -/
def run : Sys W → Schedule W → Option (Sys W)
  | s, [] => some s
  | s, (i, e) :: σ => (s.step i e).bind (run · σ)

end Sys

/-- `_run_single_workload`: `records` once the `with ThreadPoolExecutor` block has joined every
thread. `none` when the schedule does not bring every thread to its end, and when
`ThreadPoolExecutor(max_workers=0)` raises `ValueError`. -/
def runSingleWorkload (W : SingleWorkload) (σ : Schedule W) : Option (List WorkloadRecord) :=
  if W.concurrency = 0 then none
  else ((Sys.init W).run σ).bind fun s =>
    if (List.finRange W.concurrency).all fun i => (s.workers i).finished then some s.records
    else none

/-! ## The summary line of a run -/

/-- The line `run_perf_ycsb` writes to its text file after one run. -/
inductive PerfSummaryLine
  /-- `No successful requests.` -/
  | noSuccess
  /-- `ops=..., throughput=... ops/s, p50=... ms, p95=... ms, p99=... ms`. -/
  | stats (ops : ℕ) (throughput : ℚ) (percentiles : Percentiles ℚ)
  deriving DecidableEq, Repr

/-- The summary of one run's records: the successful latencies, the wall-clock span from the
earliest start to the latest end (at least `1e-6` s), the throughput over it, and the
percentiles; `none` where Python would raise. -/
def perfSummary (runRecords : List WorkloadRecord) : Option PerfSummaryLine :=
  let latencies := (runRecords.filter (·.ok)).map (·.latencyMs)
  if latencies.isEmpty then some .noSuccess else do
    let tEnd ← (runRecords.map (·.tEndMs)).max?
    let tStart ← (runRecords.map (·.tStartMs)).min?
    let durationS : ℚ := max (((tEnd - tStart : ℤ) : ℚ) / 1000) 1e-6
    let throughput := runRecords.length / durationS
    return .stats runRecords.length throughput (← summaryPercentiles (pySorted latencies))

/-! ## `run_perf_ycsb` -/

/-- `keys = [f"perf-{i}" for i in range(wl.num_keys)]`. -/
def perfKeys (numKeys : ℕ) : List String := (List.range numKeys).map fun i => "perf-" ++ pyStr i

/-- The parameters of `run_perf_ycsb`: the clients' node names and the knobs of
`WorkloadConfig` it reads. -/
structure PerfYcsb where
  /-- `node_names = list(clients.keys())`. -/
  nodeNames : List String
  /-- `workloads`: the names `A`, `B`, `C` with their `read_write_mix`. -/
  workloads : List (String × ℚ × ℚ) := config.workload.mixes
  /-- `wl.concurrency_levels`. -/
  concurrencyLevels : List ℕ := config.workload.concurrencyLevels
  /-- `wl.num_keys`. -/
  numKeys : ℕ := config.workload.numKeys
  /-- `wl.run_seconds`. -/
  runSeconds : ℕ := config.workload.runSeconds

/-- The world's answers during `run_perf_ycsb`. -/
structure PerfWorld where
  /-- What the warmup `put` of key `i` raised, if it did. -/
  warmupError : ℕ → Option ClientError
  /-- `time.time()` on entry to the run of a workload at a concurrency level. -/
  startTime : String → ℕ → ℚ
  /-- The schedule of each run. -/
  schedule : (W : SingleWorkload) → Schedule W

/-- What `run_perf_ycsb` leaves: one summary line per run, the CSV rows when it got to write
them, and the exception that escaped, if one did. -/
structure PerfRun where
  /-- The summary line of each run, in order. -/
  lines : List PerfSummaryLine
  /-- The CSV rows; `none` when an exception escaped. -/
  csv : Option (List WorkloadRecord)
  /-- The exception that ended the probe. -/
  raised : Option ProbeError
  deriving DecidableEq, Repr

/-- The runs of `for workload_name, mix in workloads: for conc in wl.concurrency_levels`. -/
def PerfYcsb.runs (P : PerfYcsb) (w : PerfWorld) : List SingleWorkload :=
  P.workloads.flatMap fun (name, mix) => P.concurrencyLevels.map fun conc =>
    ⟨name, mix, conc, w.startTime name conc + P.runSeconds, perfKeys P.numKeys, P.nodeNames⟩

/-- `run_perf_ycsb` over the world's answers; `none` where a schedule does not bring every thread
of its run to its end, or where Python raises outside a client call (a concurrency level of 0,
a summary that cannot be read off). -/
def runPerfYcsb (P : PerfYcsb) (w : PerfWorld) : Option PerfRun :=
  match (List.range (min 1000 P.numKeys)).findSome? w.warmupError with
  | some e => some ⟨[], none, some (.client e)⟩
  | none => do
    let outs ← (P.runs w).mapM fun W => runSingleWorkload W (w.schedule W)
    let lines ← outs.mapM perfSummary
    pure ⟨lines, some outs.flatten, none⟩

end DynLiteExperiments

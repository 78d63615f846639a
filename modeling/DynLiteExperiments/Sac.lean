import DynLiteExperiments.Client
import DynLiteExperiments.Config
import DynLiteExperiments.Percentile

/-!
# `run_sac`: reads labelled with an SLO class

`run_sac` runs one loop until `stop_at`: it draws a key and a node, labels the read `"tight"` or
`"relaxed"` (`choose_deadline`), sends one GET with the class's deadline in a header, and appends
one record, `ok` when the answer's status is 200 or 404 and not when the call raised. It then
writes one summary line per class, `"tight"` first (`sacSummary`), and the CSV of all records.
Nothing runs concurrently, so the loop is a function of the world's answers, pass by pass
(`SacPass`).

Before the loop, `run_sac` populates the first 2000 keys through the primary, outside any `try`:
a `put` that raises ends the probe before the text file is opened, and no CSV is written. The
header lines of the text file and the `:.1f` formatting are left out; the literal 0.5 is a
double.
-/

namespace DynLiteExperiments

/-- The keys of `run_sac`: `sac-0`, ..., `sac-9999`. Irreducible, so that unification never
unrolls the 10000 entries. -/
@[irreducible] def sacKeys : List String := (List.range 10000).map fun i => "sac-" ++ pyStr i

theorem sacKeys_ne_nil : sacKeys ≠ [] := by
  unfold sacKeys
  simp only [ne_eq, List.map_eq_nil_iff, List.range_eq_nil]
  decide

/-- One row of the SAC CSV. -/
structure SacRecord where
  /-- `"node"`. -/
  node : String
  /-- `"class"`: `"tight"` or `"relaxed"`. -/
  cls : String
  /-- `"deadline_ms"`. -/
  deadlineMs : ℕ
  /-- `"latency_ms"`. -/
  latencyMs : ℚ
  /-- `"ok"`, the `int(ok)` of the boolean kept here. -/
  ok : Bool
  /-- `"t_start_ms"`. -/
  tStartMs : ℤ
  /-- `"t_end_ms"`. -/
  tEndMs : ℤ
  deriving DecidableEq, Repr

/-- `choose_deadline()` after the draw `random.random() = x`: the class and its deadline. -/
def chooseDeadline (slo : SloConfig) (x : ℚ) : String × ℕ :=
  if x < 0.5 then ("tight", slo.tightDeadlineMs) else ("relaxed", slo.relaxedDeadlineMs)

/-- The world's answers during one pass of the SAC loop. -/
structure SacPass where
  /-- The loop test's `time.time()`. -/
  now : ℚ
  /-- The index `random.choice(keys)` picked (mod the length). -/
  keyIdx : ℕ
  /-- The index `random.choice(node_names)` picked (mod the length). -/
  nodeIdx : ℕ
  /-- The draw of `choose_deadline`. -/
  x : ℚ
  /-- `t_start`. -/
  tStart : ℚ
  /-- The status code of the answer; `none` when `cli.get` raised. -/
  status : Option ℕ
  /-- `t_end`. -/
  tEnd : ℚ
  deriving DecidableEq, Repr

/-- The parameters of `run_sac`: `stop_at = time.time() + 15` and the cluster's node names. -/
structure Sac where
  /-- `stop_at`. -/
  stopAt : ℚ
  /-- `node_names`. -/
  nodeNames : List String

/-- The `while` loop of `run_sac` over the passes `ps`, drawing from the list `keys` built before
it, with the records so far; `none` when `random.choice` raised. A list that runs out stands for
a last reading at or past `stop_at`. -/
def Sac.loop (S : Sac) (keys : List String) :
    List SacPass → List SacRecord → Option (List SacRecord)
  | [], recs => some recs
  | p :: ps, recs =>
    if p.now < S.stopAt then
      match pyChoice keys p.keyIdx, pyChoice S.nodeNames p.nodeIdx with
      | some _, some node =>
        let (cls, deadline) := chooseDeadline config.slo p.x
        let ok := p.status == some 200 || p.status == some 404
        S.loop keys ps (recs ++ [⟨node, cls, deadline, (p.tEnd - p.tStart) * 1000, ok,
          pyInt (roundDouble (p.tStart * 1000)), pyInt (roundDouble (p.tEnd * 1000))⟩])
      | _, _ => none
    else some recs

/-- A line of the "Quick summary" of `run_sac`. -/
inductive SacSummaryLine
  /-- `{cls}: no successful requests`. -/
  | noSuccess (cls : String)
  /-- `{cls}: n=..., p50=... ms, p95=... ms, p99=... ms`. -/
  | stats (cls : String) (n : ℕ) (percentiles : Percentiles ℚ)
  deriving DecidableEq, Repr

/-- The summary of `run_sac`, one line per class; `none` where Python would raise. -/
def sacSummary (records : List SacRecord) : Option (List SacSummaryLine) :=
  ["tight", "relaxed"].mapM fun cls =>
    let lat := (records.filter fun r => r.cls == cls && r.ok).map (·.latencyMs)
    if lat.isEmpty then some (.noSuccess cls)
    else (.stats cls lat.length ·) <$> summaryPercentiles (pySorted lat)

/-- The world's answers during `run_sac`. -/
structure SacWorld where
  /-- What the populating `put` of key `sac-i` raised, if it did. -/
  populateError : ℕ → Option ClientError
  /-- The passes of the loop. -/
  passes : List SacPass

/-- What `run_sac` leaves: its summary lines, its CSV rows when it got to write them, and the
exception that escaped, if one did. -/
structure SacRun where
  /-- The lines of the "Quick summary", in order. -/
  lines : List SacSummaryLine
  /-- The CSV rows; `none` when an exception escaped. -/
  csv : Option (List SacRecord)
  /-- The exception that ended the probe. -/
  raised : Option ProbeError
  deriving DecidableEq, Repr

/-- `run_sac` over the world's answers: the 2000 populating `put`s (the first that raises ends the
probe), the loop, the summary and the CSV; `none` where Python raises outside a client call
(`random.choice` on an empty cluster). -/
def runSac (S : Sac) (w : SacWorld) : Option SacRun :=
  match (List.range 2000).findSome? w.populateError with
  | some e => some ⟨[], none, some (.client e)⟩
  | none => do
    let records ← S.loop sacKeys w.passes []
    let lines ← sacSummary records
    pure ⟨lines, some records, none⟩

end DynLiteExperiments

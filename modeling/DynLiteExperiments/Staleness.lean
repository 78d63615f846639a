import DynLiteExperiments.Client
import DynLiteExperiments.Config

/-!
# `run_staleness`: read-after-write on one key

For each delay `d` of `delays_ms`, `run_staleness` runs `trials_per_delay` trials, one after the
other: it builds the payload `f"v-{d}-{time.time_ns()}"`, writes it to the one test key through
the primary, sleeps `d` ms, reads the key from a node drawn at random, and records `is_stale = 0`
exactly when the read found the key with that payload. After each delay it writes one summary
line with the stale count, the number of trials and their fraction; after all delays, the CSV.

Nothing in the loop catches an exception: a `put` or `get` that raises, or `random.choice` on an
empty list, ends the probe. The lines written so far stay in the text file, and the CSV is never
written.

The world's answers are indexed by the trial's number in the run (`StaleTrial`): the clock
reading, whether `put` raised, the node drawn, and what `get` returned or raised. The sleep is
left out: nothing the harness computes depends on it, only what the store answers, which the world
already ranges over. The constant header lines of the text file are left out.
-/

namespace DynLiteExperiments

/-- `f"v-{d}-{time_ns}".encode("utf-8")`, the payload of a trial. -/
def payload (d timeNs : ℕ) : Bytes := encode ("v-" ++ pyStr d ++ "-" ++ pyStr timeNs)

/-- The world's answers during one trial. -/
structure StaleTrial where
  /-- `time.time_ns()` when the payload is built. -/
  timeNs : ℕ
  /-- What `put` raised, if it did. -/
  putError : Option ClientError
  /-- The index `random.choice(node_names)` picked (mod the length). -/
  nodeIdx : ℕ
  /-- What `get` returned, or raised. -/
  get : Except ClientError KvReadResult

/-- One row of the staleness CSV. -/
structure StaleRecord where
  /-- `"delay_ms"`. -/
  delayMs : ℕ
  /-- `"read_node"`. -/
  readNode : String
  /-- `"is_stale"`, 0 or 1. -/
  isStale : ℕ
  deriving DecidableEq, Repr

/-- The line `delay={d} ms: stale={stale_count}/{total} ({frac:.2%})`. -/
structure StaleLine where
  /-- `d`. -/
  delayMs : ℕ
  /-- `stale_count`. -/
  staleCount : ℕ
  /-- `total`. -/
  total : ℕ
  /-- `frac = stale_count / max(total, 1)`. -/
  frac : ℚ
  deriving DecidableEq, Repr

/-- `is_stale` for a read that returned `r`, when the trial wrote `expectedValue`. -/
def isStaleOf (r : KvReadResult) (expectedValue : Bytes) : ℕ :=
  if r.found && r.value == some expectedValue then 0 else 1

/-- The parameters of `run_staleness`: the clients' node names and the two knobs of
`StalenessConfig`. -/
structure Staleness where
  /-- `node_names = list(clients.keys())`. -/
  nodeNames : List String
  /-- `delays = cfg.staleness.delays_ms`. -/
  delays : List ℕ
  /-- `trials = cfg.staleness.trials_per_delay`. -/
  trials : ℕ

/-- What `run_staleness` leaves: the summary lines it wrote, the CSV rows when it got to write
them, and the exception that escaped, if one did. -/
structure StalenessRun where
  /-- The `delay=...` lines, in order. -/
  lines : List StaleLine
  /-- The CSV rows; `none` when an exception escaped and no CSV was written. -/
  csv : Option (List StaleRecord)
  /-- The exception that ended the probe. -/
  raised : Option ProbeError

namespace Staleness

variable (S : Staleness)

/-- One trial with delay `d` on the answers `t`: the record it appends, or the exception that
escapes (from `put`, `random.choice` or `get`). -/
def trial (d : ℕ) (t : StaleTrial) : Except ProbeError StaleRecord := do
  let expectedValue := payload d t.timeNs
  if let some e := t.putError then throw (.client e)
  let some readNode := pyChoice S.nodeNames t.nodeIdx | throw .indexError
  let r ← t.get.mapError .client
  return ⟨d, readNode, isStaleOf r expectedValue⟩

/-- The loop `for _ in range(trials)` of delay `d`: `n` more trials, the next being trial `k` of
the run, with `stale_count`, `total` and the records so far. -/
def trialLoop (world : ℕ → StaleTrial) (d : ℕ) :
    ℕ → ℕ → ℕ → ℕ → List StaleRecord → Except ProbeError (ℕ × ℕ × List StaleRecord)
  | 0, _, staleCount, total, recs => .ok (staleCount, total, recs)
  | n + 1, k, staleCount, total, recs => do
    let r ← S.trial d (world k)
    trialLoop world d n (k + 1) (if r.isStale = 0 then staleCount else staleCount + 1)
      (total + 1) (recs ++ [r])

/-- The loop `for d in delays`, the next trial being trial `k` of the run, with the lines and
records so far. -/
def delayLoop (world : ℕ → StaleTrial) :
    List ℕ → ℕ → List StaleLine → List StaleRecord → StalenessRun
  | [], _, lines, recs => ⟨lines, some recs, none⟩
  | d :: ds, k, lines, recs =>
    match S.trialLoop world d S.trials k 0 0 recs with
    | .error e => ⟨lines, none, some e⟩
    | .ok (staleCount, total, recs') =>
      delayLoop world ds (k + S.trials)
        (lines ++ [⟨d, staleCount, total, (staleCount : ℚ) / max total 1⟩]) recs'

end Staleness

/-- `run_staleness` over the world's answers. -/
def runStaleness (S : Staleness) (world : ℕ → StaleTrial) : StalenessRun :=
  S.delayLoop world S.delays 0 [] []

/-- The CSV file `csv.DictWriter` writes from the rows: `str` of each value. -/
def staleCsvFile (rows : List StaleRecord) : CsvFile :=
  ⟨["delay_ms", "read_node", "is_stale"],
    rows.map fun r => [pyStr r.delayMs, r.readNode, pyStr r.isStale]⟩

end DynLiteExperiments

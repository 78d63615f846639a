import DynLiteExperiments.Client
import DynLiteExperiments.Config

/-!
# `run_anti_entropy`: Merkle roots compared pair by pair

`run_anti_entropy` first writes a burst of keys through the primary. It then samples until
`observation_seconds` have passed: in each iteration it fetches a Merkle snapshot from every node,
keeps its root (`roots[name] = snap.get("rootHashBase64", "")`), and appends one record per pair
`i < j` of node indices, `in_sync` when the two roots are equal under Python's `==`
(`Json.pyEq`). The CSV of all records is written at the end.

Nothing catches an exception: a `put` of the burst or a `fetch_merkle_snapshot` that raises, or a
snapshot whose body is not a dict (`snap.get` raises `AttributeError`), ends the probe before the
CSV is written.

The world's answers (`AeWorld`) are whether each `put` of the burst raised, the reading of
`start_time`, and, per iteration (`AeSample`), the loop test's reading, `t_now` and what each
node's fetch returned (the JSON body) or raised. The sleeps, the header lines of the text file and
the burst's payloads (which nothing reads back) are left out. A root is whatever JSON value the
snapshot holds under `rootHashBase64` (`""` when it has none), so a `null` root, kept as `None`,
differs from a missing one.
-/

namespace DynLiteExperiments

/-- One row of the anti-entropy CSV. -/
structure AeRecord where
  /-- `"t_offset_s"`. -/
  tOffsetS : ℚ
  /-- `"node_a"`. -/
  nodeA : String
  /-- `"node_b"`. -/
  nodeB : String
  /-- `"root_a"`. -/
  rootA : Json
  /-- `"root_b"`. -/
  rootB : Json
  /-- `"in_sync"`, 0 or 1. -/
  inSync : ℕ
  deriving Repr

/-- The world's answers during one sampling iteration. -/
structure AeSample where
  /-- The loop test's `time.time()`. -/
  now : ℚ
  /-- `t_now`. -/
  tNow : ℚ
  /-- The body `fetch_merkle_snapshot` on each node returned, or what it raised. -/
  fetch : String → Except ClientError Json

/-- The world's answers during a run. -/
structure AeWorld where
  /-- What the `put` of burst key `i` raised, if it did. -/
  burstError : ℕ → Option ClientError
  /-- `start_time`. -/
  startTime : ℚ
  /-- The sampling iterations; a list that runs out stands for a last reading at or past
  `end_time`. -/
  samples : List AeSample

/-- The parameters of `run_anti_entropy`: the clients' node names and the knobs it reads. -/
structure AntiEntropy where
  /-- `node_names = list(clients.keys())`. -/
  nodeNames : List String
  /-- `ae_cfg.write_burst_keys`. -/
  writeBurstKeys : ℕ := config.antiEntropy.writeBurstKeys
  /-- `ae_cfg.observation_seconds`. -/
  observationSeconds : ℕ := config.antiEntropy.observationSeconds

/-- What `run_anti_entropy` leaves: its CSV rows when it got to write them, and the exception
that escaped, if one did. -/
structure AeRun where
  /-- The CSV rows; `none` when an exception escaped. -/
  csv : Option (List AeRecord)
  /-- The exception that ended the probe. -/
  raised : Option ProbeError

/-- The index pairs of `for i in range(n): for j in range(i + 1, n)`, in loop order. -/
def pairIndices (n : ℕ) : List (ℕ × ℕ) :=
  (List.range n).flatMap fun i => (List.range' (i + 1) (n - (i + 1))).map (i, ·)

namespace AntiEntropy

variable (A : AntiEntropy)

/-- One pass of the snapshot loop: fetch the snapshot of `name` and set
`roots[name] = snap.get("rootHashBase64", "")`; a body that is not a dict has no `get`. -/
def rootStep (fetch : String → Except ClientError Json) (roots : List (String × Json))
    (name : String) : Except ProbeError (List (String × Json)) := do
  let snap ← (fetch name).mapError .client
  let .dict items := snap | throw .attributeError
  pure (dictSet roots name (dictGet items "rootHashBase64" (.str "")))

/-- The snapshot loop of one iteration, over every node in turn, from an empty dict. -/
def roots (fetch : String → Except ClientError Json) :
    Except ProbeError (List (String × Json)) :=
  A.nodeNames.foldlM (rootStep fetch) []

/-- The pair loop of one iteration: one record per pair `i < j`, at offset `tOffset`. -/
def pairRecords (roots : List (String × Json)) (tOffset : ℚ) :
    Except ProbeError (List AeRecord) :=
  (pairIndices A.nodeNames.length).mapM fun (i, j) => do
    let some n1 := A.nodeNames[i]? | throw .indexError
    let some n2 := A.nodeNames[j]? | throw .indexError
    let some r1 := roots.lookup n1 | throw .keyError
    let some r2 := roots.lookup n2 | throw .keyError
    pure ⟨tOffset, n1, n2, r1, r2, if r1.pyEq r2 then 1 else 0⟩

/-- One iteration of the observation loop: its records, or the exception that escapes. -/
def sample (startTime : ℚ) (s : AeSample) : Except ProbeError (List AeRecord) := do
  let roots ← A.roots s.fetch
  A.pairRecords roots (s.tNow - startTime)

/-- The observation loop `while time.time() < end_time`, with the records so far. -/
def observe (startTime : ℚ) : List AeSample → List AeRecord → Except ProbeError (List AeRecord)
  | [], recs => .ok recs
  | s :: ss, recs =>
    if s.now < startTime + A.observationSeconds then do
      let new ← A.sample startTime s
      observe startTime ss (recs ++ new)
    else .ok recs

end AntiEntropy

/-- `run_anti_entropy` over the world's answers: the burst (the first `put` that raises ends the
probe), then the observation loop. -/
def runAntiEntropy (A : AntiEntropy) (w : AeWorld) : AeRun :=
  match (List.range A.writeBurstKeys).findSome? w.burstError with
  | some e => ⟨none, some (.client e)⟩
  | none =>
    match A.observe w.startTime w.samples [] with
    | .ok recs => ⟨some recs, none⟩
    | .error e => ⟨none, some e⟩

end DynLiteExperiments

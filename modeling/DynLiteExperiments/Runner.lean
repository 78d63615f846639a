import DynLiteExperiments.Client

/-!
# The runner: `sanity_smoke`, `run_functional` and `main`

`sanity_smoke` writes a fresh key through the primary, waits, and reads the key back from every
node; a read that raises is caught and recorded as `None`. It prints `status=CONSISTENT` when the
values found agree (`len(set(found_values.values())) <= 1`), then one line per node.

The world's answers are whether the `put` raised (nothing catches it) and what each node's `get`
returned or raised. The random key, the sleep, the timestamps of the lines and the message of
each failed read on `stderr` are left out. The clients are a dict, so the node names are distinct
and `results` holds one entry per node, in the order of the clients.

`run_functional` writes a key, reads it back, deletes it and reads it again, on the primary; its
log keeps a `PASS=` flag per step. `main` maps `--experiment` to the experiments it runs and
runs them in order: nothing catches an exception, so the first experiment that raises ends the
run (the `finally` only closes the clients). The experiments' own effects are their models';
here each is only whether it raised.
-/

namespace DynLiteExperiments

/-- The line `sanity_smoke` prints for a node. -/
inductive SanityNodeLine
  /-- `ERROR (request failed)`. -/
  | error
  /-- `NOT_FOUND`. -/
  | notFound
  /-- `FOUND len={len(r.value)} bytes, clock={r.clock}`. -/
  | found (len : ℕ) (clock : List (String × ℤ))
  deriving DecidableEq, Repr

/-- The world's answers during `sanity_smoke`. -/
structure SanityWorld where
  /-- What the `put` through the primary raised, if it did. -/
  putError : Option ClientError
  /-- What each node's `get` returned, or raised. -/
  get : String → Except ClientError KvReadResult

/-- The world of `sanity_smoke` when each node's read is `DynLiteHttpClient.get`: the request
raises before an answer (`responses name = .error e`), or `get` reads the node's answer. -/
def SanityWorld.ofResponses (putError : Option ClientError)
    (responses : String → Except ClientError HttpResponse) (pyIntStr : String → Option ℤ) :
    SanityWorld :=
  ⟨putError, fun name => (responses name).bind (DynLiteHttpClient.get pyIntStr)⟩

/-- What `sanity_smoke` prints: the status when it got there, the node lines, and the exception
that escaped, if one did. -/
structure SanityRun where
  /-- `"CONSISTENT"` or `"INCONSISTENT"`. -/
  status : Option String
  /-- The node lines printed, in order. -/
  nodeLines : List (String × SanityNodeLine)
  /-- The exception that ended the check. -/
  raised : Option ProbeError
  deriving DecidableEq, Repr

/-- The entry of `found_values` a node's result gives: the value of a read that returned
(`r is not None`), found the key and carries a value. -/
def foundValue : Option KvReadResult → Option Bytes
  | some r => if r.found then r.value else none
  | none => none

/-- The line printed for a node's result; `len(r.value)` on a found read without a value
raises. -/
def nodeLine : Option KvReadResult → Except ProbeError SanityNodeLine
  | none => .ok .error
  | some r =>
    if !r.found then .ok .notFound
    else match r.value with
      | some v => .ok (.found v.length r.clock)
      | none => .error .typeError

/-- The loop printing the node lines, up to the first that raises. -/
def printNodeLines : List (String × Option KvReadResult) →
    List (String × SanityNodeLine) × Option ProbeError
  | [] => ([], none)
  | (name, r) :: results =>
    match nodeLine r with
    | .ok l => let (ls, e) := printNodeLines results; ((name, l) :: ls, e)
    | .error e => ([], some e)

/-- `status = "CONSISTENT" if len(set(found_values.values())) <= 1 else "INCONSISTENT"`. -/
def sanityStatus (results : List (String × Option KvReadResult)) : String :=
  if (results.filterMap fun r => foundValue r.2).dedup.length ≤ 1 then "CONSISTENT"
  else "INCONSISTENT"

/-- `sanity_smoke` over the clients `nodeNames` and the world's answers. -/
def sanitySmoke (nodeNames : List String) (w : SanityWorld) : SanityRun :=
  if let some e := w.putError then ⟨none, [], some (.client e)⟩ else
  let results := nodeNames.map fun name => (name, (w.get name).toOption)
  let (lines, raised) := printNodeLines results
  ⟨some (sanityStatus results), lines, raised⟩

/-! ## `run_functional` -/

/-- The world's answers during `run_functional`. -/
structure FunctionalWorld where
  /-- What the `put` raised, if it did. -/
  putError : Option ClientError
  /-- What the `get` after the `put` returned, or raised. -/
  get : Except ClientError KvReadResult
  /-- What the `delete` raised, if it did. -/
  deleteError : Option ClientError
  /-- What the `get` after the `delete` returned, or raised. -/
  getAfterDelete : Except ClientError KvReadResult

/-- `value = b"functional-test-value"`. -/
def functionalValue : Bytes := encode "functional-test-value"

/-- The flags `run_functional` writes, as far as it got, and the exception that escaped. -/
structure FunctionalRun where
  /-- `PASS={ok1}` of the `PUT then GET` step. -/
  pass1 : Option Bool
  /-- `PASS={ok2}` of the `DELETE then GET` step. -/
  pass2 : Option Bool
  /-- `Overall PASS={ok1 and ok2}`. -/
  overall : Option Bool
  /-- The exception that ended the check. -/
  raised : Option ProbeError
  deriving DecidableEq, Repr

/-- `run_functional` over the world's answers. -/
def runFunctional (w : FunctionalWorld) : FunctionalRun :=
  match w.putError, w.get with
  | some e, _ | none, .error e => ⟨none, none, none, some (.client e)⟩
  | none, .ok r =>
    let ok1 := r.found && r.value == some functionalValue
    match w.deleteError, w.getAfterDelete with
    | some e, _ | none, .error e => ⟨some ok1, none, none, some (.client e)⟩
    | none, .ok r2 =>
      let ok2 := !r2.found
      ⟨some ok1, some ok2, some (ok1 && ok2), none⟩

/-! ## `main` -/

/-- An experiment `main` can run. -/
inductive Experiment
  | sanity | functional | perf | sac | chaos | staleness | antiEntropy | plot
  deriving DecidableEq, Repr

/-- The options the help text of `--experiment` names: "Options: sanity, functional, perf, sac,
chaos, staleness, anti-entropy, all". -/
def helpOptions : List String :=
  ["sanity", "functional", "perf", "sac", "chaos", "staleness", "anti-entropy", "all"]

/-- The experiments `main` runs for `--experiment exp`, in order (`exp = args.experiment.lower()`,
character by character, as on ASCII text); `none` for a name it does not know
(`Unknown experiment`, exit status 1). -/
def experimentsOf (exp : String) : Option (List Experiment) :=
  let e : String := ⟨exp.data.map Char.toLower⟩
  if e = "sanity" ∨ e = "sanity-smoke" then some [.sanity]
  else if e = "functional" then some [.functional]
  else if e = "perf" ∨ e = "perf-ycsb" then some [.perf]
  else if e = "sac" then some [.sac]
  else if e = "chaos" then some [.chaos]
  else if e = "staleness" then some [.staleness]
  else if e = "anti-entropy" ∨ e = "anti_entropy" then some [.antiEntropy]
  else if e = "plot" then some [.plot]
  else if e = "all" then
    some [.sanity, .functional, .perf, .sac, .chaos, .staleness, .antiEntropy, .plot]
  else none

/-- Every option the help text names selects experiments, and so does `plot`, which it leaves
out; `all` runs the seven experiments, then the plots. -/
example : (∀ o ∈ helpOptions, (experimentsOf o).isSome) ∧ "plot" ∉ helpOptions ∧
    experimentsOf "plot" = some [.plot] ∧
    experimentsOf "all" =
      some [.sanity, .functional, .perf, .sac, .chaos, .staleness, .antiEntropy, .plot] := by
  decide

/-- `main` running the experiments `xs` in order, when experiment `x` raises `raises x`: the
experiments started, and the exception that ends the run. -/
def runExperiments (raises : Experiment → Option ProbeError) :
    List Experiment → List Experiment × Option ProbeError
  | [] => ([], none)
  | x :: xs =>
    match raises x with
    | some e => ([x], some e)
    | none => let (ran, e) := runExperiments raises xs; (x :: ran, e)

end DynLiteExperiments

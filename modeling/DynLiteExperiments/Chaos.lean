import DynLiteExperiments.PerfYcsb

/-!
# `run_chaos`: one loop, errors logged

`run_chaos` runs a single loop until `stop_at`: it draws a key and a node, picks GET when
`random.random() < 0.7`, times one `get` or `put` inside `try`/`except Exception`, writes an
`ERROR` line for a failed call, and appends one record. Nothing else runs concurrently, so the
loop is a function of the world's answers, pass by pass (`ChaosPass`). The literal 0.7 is the
double nearest to it (`roundDouble_seven_tenths`). The three constant header lines of the text
file, and the `time.time_ns()` in a `PUT`'s payload, are left out; the model keeps the `ERROR`
lines.
-/

namespace DynLiteExperiments

/-- The keys of `run_chaos`: `chaos-0`, ..., `chaos-19999`. Irreducible, so that unification
never unrolls the 20000 entries. -/
@[irreducible] def chaosKeys : List String := (List.range 20000).map fun i => "chaos-" ++ pyStr i

theorem chaosKeys_ne_nil : chaosKeys ≠ [] := by
  unfold chaosKeys
  simp only [ne_eq, List.map_eq_nil_iff, List.range_eq_nil]
  decide

/-- The double `0.7` denotes. -/
theorem roundDouble_seven_tenths : roundDouble 0.7 = 6305039478318694 / 2 ^ 53 := by
  rw [show (0.7 : ℚ) = 7 / 10 by norm_num]
  have he : ulpExp (7 / 10) = -53 := by
    rw [ulpExp_of_mem (k := -1) (by norm_num [abs_of_nonneg]) (by norm_num [abs_of_nonneg])]
    norm_num
  have hf : ⌊(7 / 10 : ℚ) / 2 ^ (-53 : ℤ)⌋ = 6305039478318694 := by
    rw [Int.floor_eq_iff]
    norm_num
  rw [roundDouble, he, roundHalfEven, hf]
  norm_num

/-- One row of the chaos CSV. -/
structure ChaosRecord where
  /-- `"node"`. -/
  node : String
  /-- `"op"`. -/
  op : Op
  /-- `"ok"`, the `int(ok)` of the boolean kept here. -/
  ok : Bool
  /-- `"latency_ms"`. -/
  latencyMs : ℚ
  /-- `"t_start_ms"`. -/
  tStartMs : ℤ
  /-- `"t_end_ms"`. -/
  tEndMs : ℤ
  deriving DecidableEq, Repr

/-- An `ERROR op=... node=... key=...: exc` line of the chaos text file. -/
structure ChaosError where
  /-- `op`. -/
  op : Op
  /-- `node_name`. -/
  node : String
  /-- `key`. -/
  key : String
  /-- The exception, printed as `{exc}`. -/
  exc : ClientError
  deriving DecidableEq, Repr

/-- The world's answers during one pass of the chaos loop. -/
structure ChaosPass where
  /-- The loop test's `time.time()`. -/
  now : ℚ
  /-- The index `random.choice(keys)` picked (mod the length). -/
  keyIdx : ℕ
  /-- The index `random.choice(node_names)` picked (mod the length). -/
  nodeIdx : ℕ
  /-- The draw `random.random()` compared with `0.7`. -/
  x : ℚ
  /-- `t_start`. -/
  tStart : ℚ
  /-- The exception the `get` or `put` raised, if it did. -/
  exc : Option ClientError
  /-- `t_end`. -/
  tEnd : ℚ
  deriving DecidableEq, Repr

/-- The parameters of `run_chaos`: `stop_at = time.time() + 20` and the node names of the
clients. -/
structure Chaos where
  /-- `stop_at`. -/
  stopAt : ℚ
  /-- `node_names = list(clients.keys())`. -/
  nodeNames : List String

/-- What `run_chaos` leaves: the `ERROR` lines of its text file and, when it got to write it,
its CSV. -/
structure ChaosRun where
  /-- The `ERROR` lines, in order. -/
  errors : List ChaosError
  /-- The CSV rows; `none` when an exception escaped the loop and no CSV was written. -/
  csv : Option (List ChaosRecord)

/-- The `while` loop of `run_chaos` over the passes `ps`, drawing from the list `keys` built
before it, with the lines and records so far. A list that runs out stands for a last reading at
or past `stop_at`. -/
def Chaos.loop (C : Chaos) (keys : List String) :
    List ChaosPass → List ChaosError → List ChaosRecord → ChaosRun
  | [], errs, recs => ⟨errs, some recs⟩
  | p :: ps, errs, recs =>
    if p.now < C.stopAt then
      match pyChoice keys p.keyIdx, pyChoice C.nodeNames p.nodeIdx with
      | some key, some node =>
        let op := if p.x < roundDouble 0.7 then Op.GET else Op.PUT
        let errs' := match p.exc with
          | some exc => errs ++ [⟨op, node, key, exc⟩]
          | none => errs
        C.loop keys ps errs' (recs ++ [⟨node, op, p.exc.isNone, (p.tEnd - p.tStart) * 1000,
          pyInt (roundDouble (p.tStart * 1000)), pyInt (roundDouble (p.tEnd * 1000))⟩])
      | _, _ => ⟨errs, none⟩
    else ⟨errs, some recs⟩

/-- `run_chaos` over the world's answers. -/
def runChaos (C : Chaos) (ps : List ChaosPass) : ChaosRun := C.loop chaosKeys ps [] []

end DynLiteExperiments

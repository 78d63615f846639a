import DynLiteExperiments.Chaos

/-!
# Proofs: the records `_run_single_workload` returns

Three steps. What a thread's program counter holds is read off the answers it has met since its
last loop test (`Consumed`); one statement keeps this, or closes a pass with the record of its
answers (`workerStep_consumed`). So a thread run alone to its end met passes before `stop_at`,
each leaving its record, then a last reading past it (`workerRun_passes`). A run of the whole
system, under any interleaving, is seen by each thread as a run alone on its own answers, and the
shared list interleaves what the threads appended (`Sys.run_proj`). Together they give the list
returned at the join (`passes_of_run`). The chaos loop obeys the same law pass by pass
(`Chaos.loop_eq`).
-/

namespace DynLiteExperiments

variable {ι α : Type*}

/-- `l` interleaves the lists `ls i`: tagging each entry of `l` with the list it came from, the
entries tagged `i` are `ls i`, in order. Nothing is lost, nothing duplicated, and each list keeps
its order. -/
def Interleaves [DecidableEq ι] (ls : ι → List α) (l : List α) : Prop :=
  ∃ t : List (ι × α), t.map Prod.snd = l ∧ ∀ i, ofTag i t = ls i

theorem ofTag_append [DecidableEq ι] (i : ι) (t t' : List (ι × α)) :
    ofTag i (t ++ t') = ofTag i t ++ ofTag i t' := List.filterMap_append _ _ _

theorem ofTag_map_pair [DecidableEq ι] (i j : ι) (as : List α) :
    ofTag i (as.map (j, ·)) = if j = i then as else [] := by
  induction as with
  | nil => simp
  | cons a as ih => by_cases h : j = i <;> simp_all

theorem interleaves_nil [DecidableEq ι] : Interleaves (fun _ : ι => ([] : List α)) [] :=
  ⟨[], rfl, fun _ => rfl⟩

/-- Putting the entries `as` of list `j` in front. -/
theorem Interleaves.append_left [DecidableEq ι] {ls : ι → List α} {l : List α}
    (h : Interleaves ls l) (j : ι) (as : List α) :
    Interleaves (Function.update ls j (as ++ ls j)) (as ++ l) := by
  obtain ⟨t, rfl, ht⟩ := h
  refine ⟨as.map (j, ·) ++ t, by simp [Function.comp_def], fun i => ?_⟩
  rw [ofTag_append, ofTag_map_pair, ht]
  by_cases hij : i = j
  · subst hij; simp
  · simp [hij, Ne.symm hij]

/-- Counting with the equality of pairs, as `List.perm_iff_count` does. -/
theorem count_ofTag [DecidableEq ι] [DecidableEq α] (i : ι) (a : α) (t : List (ι × α)) :
    (ofTag i t).count a = @List.count _ instBEqOfDecidableEq (i, a) t := by
  induction t with
  | nil => rfl
  | cons p t ih =>
    obtain ⟨j, b⟩ := p
    by_cases hj : j = i <;> by_cases hb : b = a <;> simp_all [List.count_cons, instBEqOfDecidableEq]

/-- Two interleavings of the same lists hold the same entries, each as often: nothing lost,
nothing duplicated. -/
theorem Interleaves.perm [DecidableEq ι] [DecidableEq α] {ls : ι → List α} {l₁ l₂ : List α}
    (h₁ : Interleaves ls l₁) (h₂ : Interleaves ls l₂) : l₁.Perm l₂ := by
  obtain ⟨t₁, rfl, ht₁⟩ := h₁
  obtain ⟨t₂, rfl, ht₂⟩ := h₂
  refine (List.perm_iff_count.mpr fun ⟨i, a⟩ => ?_).map _
  rw [← count_ofTag, ← count_ofTag, ht₁, ht₂]

/-- An entry of an interleaving comes from one of the lists. -/
theorem Interleaves.mem [DecidableEq ι] {ls : ι → List α} {l : List α} (h : Interleaves ls l)
    {a : α} (ha : a ∈ l) : ∃ i, a ∈ ls i := by
  obtain ⟨t, rfl, ht⟩ := h
  obtain ⟨⟨i, b⟩, hp, rfl⟩ := List.mem_map.mp ha
  exact ⟨i, ht i ▸ List.mem_filterMap.mpr ⟨(i, b), hp, by simp⟩⟩

/-- The world's answers to one pass of the loop body of `worker_thread`. -/
structure Pass where
  /-- The loop test's reading. -/
  now : ℚ
  /-- The draw of `random.random()` in `_choose_op`. -/
  x : ℚ
  /-- The index `random.choice(keys)` picked. -/
  keyIdx : ℕ
  /-- The index `random.choice(node_names)` picked. -/
  nodeIdx : ℕ
  /-- `t_start`. -/
  tStart : ℚ
  /-- Whether the `get` or `put` raised. -/
  raised : Bool
  /-- `t_end`. -/
  tEnd : ℚ
  deriving DecidableEq, Repr

/-- The events of a pass, in the order the loop body meets them, its append last. -/
def Pass.events (p : Pass) : List Event :=
  [.clock p.now, .random p.x, .choice p.keyIdx, .choice p.nodeIdx, .clock p.tStart,
    .reply p.raised, .clock p.tEnd, .append]

namespace SingleWorkload

variable (W : SingleWorkload)

/-- The record a pass leaves: the run's workload name and concurrency, the node drawn, `GET`
exactly when the draw is below `p_read`, `ok` exactly when the call did not raise, and the timing
of the pass. -/
def expected (p : Pass) : WorkloadRecord where
  workload := W.workloadName
  concurrency := W.concurrency
  node := (pyChoice W.nodeNames p.nodeIdx).getD ""
  op := if p.x < W.mix.1 then .GET else .PUT
  ok := !p.raised
  latencyMs := (p.tEnd - p.tStart) * 1000
  tStartMs := pyInt (roundDouble (p.tStart * 1000))
  tEndMs := pyInt (roundDouble (p.tEnd * 1000))

/-- The answers `pre` a thread standing at `pc` has met since its last loop test, and what its
locals at `pc` hold of them. A thread that returned or raised is not inside a pass. -/
def Consumed : Pc → List Event → Prop
  | .loopTest, pre => pre = []
  | .chooseOp, pre => ∃ now, now < W.stopAt ∧ pre = [.clock now]
  | .chooseKey op, pre => ∃ now x, now < W.stopAt ∧ op = chooseOp W.mix x ∧
      pre = [.clock now, .random x]
  | .chooseNode op _, pre => ∃ now x k, now < W.stopAt ∧ op = chooseOp W.mix x ∧
      pre = [.clock now, .random x, .choice k]
  | .clockStart op _ node, pre => ∃ now x k n, now < W.stopAt ∧ op = chooseOp W.mix x ∧
      pyChoice W.nodeNames n = some node ∧ pre = [.clock now, .random x, .choice k, .choice n]
  | .request op _ node tStart, pre => ∃ now x k n, now < W.stopAt ∧ op = chooseOp W.mix x ∧
      pyChoice W.nodeNames n = some node ∧
      pre = [.clock now, .random x, .choice k, .choice n, .clock tStart]
  | .clockEnd op node tStart ok, pre => ∃ now x k n raised, now < W.stopAt ∧
      op = chooseOp W.mix x ∧ pyChoice W.nodeNames n = some node ∧ ok = !raised ∧
      pre = [.clock now, .random x, .choice k, .choice n, .clock tStart, .reply raised]
  | .append r, pre => ∃ p : Pass, p.now < W.stopAt ∧ pre ++ [.append] = p.events ∧
      r = W.expected p
  | .returned, _ => False
  | .raised, _ => False

variable {W}

/-- One statement on non-empty key and node lists: the thread goes on inside its pass, or closes
the pass with its record, or its loop test reads a time at or past `stop_at` and it returns. -/
theorem workerStep_consumed (hk : W.keys ≠ []) (hn : W.nodeNames ≠ []) {pc pc' : Pc}
    {pre : List Event} {e : Event} {r : Option WorkloadRecord} (hc : W.Consumed pc pre)
    (h : W.workerStep pc e = some (pc', r)) :
    r = none ∧ W.Consumed pc' (pre ++ [e]) ∨
    (∃ p : Pass, p.now < W.stopAt ∧ pre ++ [e] = p.events ∧ pc' = .loopTest ∧
      r = some (W.expected p)) ∨
    pre = [] ∧ pc' = .returned ∧ r = none ∧ ∃ t, e = .clock t ∧ W.stopAt ≤ t := by
  cases pc <;> cases e <;> simp only [workerStep, reduceCtorEq, Option.some.injEq,
    Prod.mk.injEq] at h <;> obtain ⟨rfl, rfl⟩ := h <;> simp only [Consumed] at hc
  case loopTest.clock t =>
    subst hc
    by_cases ht : t < W.stopAt
    · exact .inl ⟨rfl, by simp [ht, Consumed]⟩
    · exact .inr (.inr ⟨rfl, by simp [ht], rfl, t, rfl, le_of_not_lt ht⟩)
  case chooseOp.random x =>
    obtain ⟨now, hnow, rfl⟩ := hc
    exact .inl ⟨rfl, now, x, hnow, rfl, rfl⟩
  case chooseKey.choice op i =>
    obtain ⟨now, x, hnow, rfl, rfl⟩ := hc
    obtain ⟨key, hkey⟩ := Option.ne_none_iff_exists'.mp (pyChoice_ne_none hk i)
    rw [hkey]
    exact .inl ⟨rfl, now, x, i, hnow, rfl, rfl⟩
  case chooseNode.choice op key i =>
    obtain ⟨now, x, k, hnow, rfl, rfl⟩ := hc
    obtain ⟨node, hnode⟩ := Option.ne_none_iff_exists'.mp (pyChoice_ne_none hn i)
    rw [hnode]
    exact .inl ⟨rfl, now, x, k, i, hnow, rfl, hnode, rfl⟩
  case clockStart.clock op key node t =>
    obtain ⟨now, x, k, n, hnow, rfl, hnode, rfl⟩ := hc
    exact .inl ⟨rfl, now, x, k, n, hnow, rfl, hnode, rfl⟩
  case request.reply op key node tStart raised =>
    obtain ⟨now, x, k, n, hnow, rfl, hnode, rfl⟩ := hc
    exact .inl ⟨rfl, now, x, k, n, raised, hnow, rfl, hnode, rfl, rfl⟩
  case clockEnd.clock op node tStart ok t =>
    obtain ⟨now, x, k, n, raised, hnow, rfl, hnode, rfl, rfl⟩ := hc
    refine .inl ⟨rfl, ⟨now, x, k, n, tStart, raised, t⟩, hnow, rfl, ?_⟩
    simp [record, expected, hnode, chooseOp]
  case append.append rec =>
    obtain ⟨p, hnow, hp, rfl⟩ := hc
    exact .inr (.inl ⟨p, hnow, hp, rfl, rfl⟩)

theorem consumed_loopTest : W.Consumed .loopTest [] := rfl

theorem workerRun_returned {es : List Event} {pc : Pc} {rs : List WorkloadRecord}
    (h : W.workerRun .returned es = some (pc, rs)) : es = [] := by
  cases es with
  | nil => rfl
  | cons e es => cases e <;> simp [workerRun, workerStep] at h

/-- **A thread's answers, pass by pass.** A thread that started inside a pass with the answers
`pre` and ran to its end met passes before `stop_at`, each leaving its record, then a last
reading at or past `stop_at`. -/
theorem workerRun_passes (hk : W.keys ≠ []) (hn : W.nodeNames ≠ []) :
    ∀ {es : List Event} {pc pc' : Pc} {pre : List Event} {rs : List WorkloadRecord},
      W.Consumed pc pre → W.workerRun pc es = some (pc', rs) → pc'.finished = true →
      ∃ (ps : List Pass) (t : ℚ), pre ++ es = ps.flatMap Pass.events ++ [.clock t] ∧
        W.stopAt ≤ t ∧ (∀ p ∈ ps, p.now < W.stopAt) ∧ rs = ps.map W.expected
  | [], pc, pc', pre, rs, hc, h, hf => by
    simp only [workerRun, Option.some.injEq, Prod.mk.injEq] at h
    obtain ⟨rfl, rfl⟩ := h
    cases pc <;> first | exact (hc : False).elim | simp [Pc.finished] at hf
  | e :: es, pc, pc', pre, rs, hc, h, hf => by
    simp only [workerRun, Option.bind_eq_some, Option.map_eq_some', Prod.exists] at h
    obtain ⟨pc₁, r, hstep, pc₂, rs₂, hrun, heq⟩ := h
    cases heq
    rcases workerStep_consumed hk hn hc hstep with ⟨rfl, hc₁⟩ | ⟨p, hp, hpre, rfl, rfl⟩ |
      ⟨rfl, rfl, rfl, t, rfl, ht⟩
    · obtain ⟨ps, t, hes, ht, hps, rfl⟩ := workerRun_passes hk hn hc₁ hrun hf
      exact ⟨ps, t, by simpa using hes, ht, hps, rfl⟩
    · obtain ⟨ps, t, hes, ht, hps, rfl⟩ := workerRun_passes hk hn consumed_loopTest hrun hf
      refine ⟨p :: ps, t, ?_, ht, List.forall_mem_cons.mpr ⟨hp, hps⟩, rfl⟩
      rw [List.flatMap_cons, List.append_assoc, ← hes, List.nil_append, ← hpre,
        List.append_assoc, List.singleton_append]
    · cases workerRun_returned hrun
      simp only [workerRun, Option.some.injEq, Prod.mk.injEq] at hrun
      obtain ⟨-, rfl⟩ := hrun
      exact ⟨[], t, rfl, ht, by simp, rfl⟩

/-- One statement appends only the record it holds, and the record `rec` it builds carries the
run's workload name and concurrency. -/
theorem workerStep_key {pc pc' : Pc} {e : Event} {r : Option WorkloadRecord}
    (hpc : ∀ r, pc = .append r → (r.workload, r.concurrency) = (W.workloadName, W.concurrency))
    (h : W.workerStep pc e = some (pc', r)) :
    (∀ r' ∈ r.toList, (r'.workload, r'.concurrency) = (W.workloadName, W.concurrency)) ∧
    ∀ r', pc' = .append r' → (r'.workload, r'.concurrency) = (W.workloadName, W.concurrency) := by
  cases pc <;> cases e <;> simp only [workerStep, reduceCtorEq, Option.some.injEq,
    Prod.mk.injEq] at h <;> obtain ⟨rfl, rfl⟩ := h
  case clockEnd.clock => exact ⟨nofun, fun _ h => by cases h; rfl⟩
  case append.append rec => exact ⟨by simpa using hpc rec rfl, nofun⟩
  all_goals exact ⟨nofun, fun _ h => by (try split at h) <;> cases h⟩

/-- Every record a thread appends carries the run's workload name and concurrency. -/
theorem key_of_mem_workerRun {pc pc' : Pc} {es : List Event} {rs : List WorkloadRecord}
    (hpc : ∀ r, pc = .append r → (r.workload, r.concurrency) = (W.workloadName, W.concurrency))
    (h : W.workerRun pc es = some (pc', rs)) :
    ∀ r ∈ rs, (r.workload, r.concurrency) = (W.workloadName, W.concurrency) := by
  induction es generalizing pc rs with
  | nil => simp_all [workerRun]
  | cons e es ih =>
    simp only [workerRun, Option.bind_eq_some, Option.map_eq_some', Prod.exists] at h
    obtain ⟨pc₁, r, hstep, pc₂, rs₂, hrun, heq⟩ := h
    cases heq
    obtain ⟨hr, hpc₁⟩ := workerStep_key hpc hstep
    intro r' hr'
    rcases List.mem_append.mp hr' with hr' | hr'
    · exact hr r' hr'
    · exact ih hpc₁ hrun r' hr'

end SingleWorkload

namespace Sys

variable {W : SingleWorkload}

/-- Any run of the system, seen from thread `i`, is a run of that thread alone on the answers
the schedule gives it; the records added to the shared list interleave what the threads
appended. -/
theorem run_proj {s s' : Sys W} {σ : Schedule W} (h : s.run σ = some s') :
    ∃ rs : Fin W.concurrency → List WorkloadRecord,
      (∀ i, W.workerRun (s.workers i) (ofTag i σ) = some (s'.workers i, rs i)) ∧
      ∃ l, s'.records = s.records ++ l ∧ Interleaves rs l := by
  induction σ generalizing s with
  | nil =>
    cases h
    exact ⟨fun _ => [], fun i => rfl, [], by simp, interleaves_nil⟩
  | cons je σ ih =>
    obtain ⟨j, e⟩ := je
    simp only [run, step, Option.bind_eq_some, Option.map_eq_some', Prod.exists] at h
    obtain ⟨s₁, ⟨w₁, r, hstep, rfl⟩, hrun⟩ := h
    obtain ⟨rs, hrs, l, hl, hint⟩ := ih hrun
    refine ⟨Function.update rs j (r.toList ++ rs j), fun i => ?_, r.toList ++ l,
      by rw [hl]; simp, hint.append_left j r.toList⟩
    by_cases hij : j = i
    · subst hij
      have := hrs j
      simp only [Function.update_same] at this
      simp [ofTag_cons, SingleWorkload.workerRun, hstep, this]
    · have := hrs i
      simp only [Function.update_noteq (Ne.symm hij)] at this
      simp [ofTag_cons, hij, Function.update_noteq (Ne.symm hij), this]

end Sys

/-! ## The chaos loop -/

namespace Chaos

variable (C : Chaos)

/-- The record a chaos pass leaves: the node drawn, `GET` exactly when the draw is below the
double `0.7` denotes, `ok` exactly when the call did not raise, and the timing of the pass. -/
def expected (p : ChaosPass) : ChaosRecord where
  node := (pyChoice C.nodeNames p.nodeIdx).getD ""
  op := if p.x < roundDouble 0.7 then .GET else .PUT
  ok := p.exc.isNone
  latencyMs := (p.tEnd - p.tStart) * 1000
  tStartMs := pyInt (roundDouble (p.tStart * 1000))
  tEndMs := pyInt (roundDouble (p.tEnd * 1000))

/-- The `ERROR` line a failed pass must leave, with the operation, node, key and exception. -/
def errorLine (keys : List String) (p : ChaosPass) : Option ChaosError :=
  p.exc.map fun exc =>
    ⟨(C.expected p).op, (C.expected p).node, (pyChoice keys p.keyIdx).getD "", exc⟩

/-- The loop leaves one record per pass before the deadline and one `ERROR` line per failed
one; a failed call never ends the loop. -/
theorem loop_eq {keys : List String} (hk : keys ≠ []) (hn : C.nodeNames ≠ [])
    (ps : List ChaosPass) (errs : List ChaosError) (recs : List ChaosRecord) :
    C.loop keys ps errs recs =
      ⟨errs ++ (ps.takeWhile (·.now < C.stopAt)).filterMap (C.errorLine keys),
      some (recs ++ (ps.takeWhile (·.now < C.stopAt)).map C.expected)⟩ := by
  induction ps generalizing errs recs with
  | nil => simp [loop]
  | cons p ps ih =>
    by_cases hp : p.now < C.stopAt
    · obtain ⟨key, hkey⟩ := Option.ne_none_iff_exists'.mp (pyChoice_ne_none hk p.keyIdx)
      obtain ⟨node, hnode⟩ := Option.ne_none_iff_exists'.mp (pyChoice_ne_none hn p.nodeIdx)
      cases hexc : p.exc <;>
        simp [loop, hp, hkey, hnode, hexc, ih, errorLine, expected]
    · simp [loop, hp]

end Chaos

/-! ## The list `_run_single_workload` returns -/

theorem workers_of_run {W : SingleWorkload} {σ : Schedule W} {out : List WorkloadRecord}
    (h : runSingleWorkload W σ = some out) :
    ∃ s : Sys W, (Sys.init W).run σ = some s ∧ out = s.records ∧
      ∀ i, (s.workers i).finished = true := by
  simp only [runSingleWorkload] at h
  split_ifs at h
  obtain ⟨s, hrun, hfin⟩ := Option.bind_eq_some.mp h
  split_ifs at hfin with hall
  cases hfin
  exact ⟨s, hrun, rfl, fun i => List.all_eq_true.mp hall i (List.mem_finRange i)⟩

/-- The list returned at the join interleaves what each thread, run alone on its own answers,
appended. -/
theorem interleaves_of_run {W : SingleWorkload} {σ : Schedule W} {out : List WorkloadRecord}
    (h : runSingleWorkload W σ = some out) :
    ∃ pcs : Fin W.concurrency → Pc, ∃ rs : Fin W.concurrency → List WorkloadRecord,
      (∀ i, W.workerRun .loopTest (ofTag i σ) = some (pcs i, rs i)) ∧ Interleaves rs out ∧
      ∀ i, (pcs i).finished = true := by
  obtain ⟨s, hrun, rfl, hfin⟩ := workers_of_run h
  obtain ⟨rs, hrs, l, hl, hint⟩ := Sys.run_proj hrun
  exact ⟨s.workers, rs, hrs, by rw [hl]; simpa [Sys.init] using hint, hfin⟩

/-- Every record of a perf run carries the run's workload name and concurrency. -/
theorem key_of_mem_runSingleWorkload {W : SingleWorkload} {σ : Schedule W}
    {out : List WorkloadRecord} (h : runSingleWorkload W σ = some out) {r : WorkloadRecord}
    (hr : r ∈ out) : (r.workload, r.concurrency) = (W.workloadName, W.concurrency) := by
  obtain ⟨pcs, rs, hrs, hint, -⟩ := interleaves_of_run h
  obtain ⟨i, hi⟩ := hint.mem hr
  exact SingleWorkload.key_of_mem_workerRun (fun _ h => by cases h) (hrs i) r hi

/-- Under any schedule, the answers of each thread are its passes before `stop_at` and a last
reading past it, and the list returned interleaves the records of those passes. -/
theorem passes_of_run {W : SingleWorkload} (hk : W.keys ≠ []) (hn : W.nodeNames ≠ [])
    {σ : Schedule W} {out : List WorkloadRecord} (h : runSingleWorkload W σ = some out) :
    ∃ (ps : Fin W.concurrency → List Pass) (t : Fin W.concurrency → ℚ),
      (∀ i, ofTag i σ = (ps i).flatMap Pass.events ++ [.clock (t i)] ∧ W.stopAt ≤ t i ∧
        ∀ p ∈ ps i, p.now < W.stopAt) ∧
      Interleaves (fun i => (ps i).map W.expected) out := by
  obtain ⟨pcs, rs, hrs, hint, hfin⟩ := interleaves_of_run h
  have hthread := fun i =>
    SingleWorkload.workerRun_passes hk hn SingleWorkload.consumed_loopTest (hrs i) (hfin i)
  choose ps t hes ht hps hrs' using hthread
  exact ⟨ps, t, fun i => ⟨by simpa using hes i, ht i, hps i⟩, by simpa only [← hrs'] using hint⟩

/-- **The records of a perf run and of the chaos loop.** Each perf thread's answers are passes
before `stop_at`, then a reading past it, and the list returned interleaves those passes' records;
the chaos loop leaves one record per pass before its deadline and an `ERROR` line per failure. -/
theorem run_single_workload_records :
    (∀ W : SingleWorkload, W.keys ≠ [] → W.nodeNames ≠ [] →
      ∀ (σ : Schedule W) (out : List WorkloadRecord), runSingleWorkload W σ = some out →
      ∃ (ps : Fin W.concurrency → List Pass) (t : Fin W.concurrency → ℚ),
        (∀ i, ofTag i σ = (ps i).flatMap Pass.events ++ [.clock (t i)] ∧ W.stopAt ≤ t i ∧
          ∀ p ∈ ps i, p.now < W.stopAt) ∧
        Interleaves (fun i => (ps i).map W.expected) out) ∧
    (∀ C : Chaos, C.nodeNames ≠ [] → ∀ ps : List ChaosPass,
      runChaos C ps = ⟨(ps.takeWhile (·.now < C.stopAt)).filterMap (C.errorLine chaosKeys),
        some ((ps.takeWhile (·.now < C.stopAt)).map C.expected)⟩) :=
  ⟨fun _ hk hn _ _ h => passes_of_run hk hn h,
    fun C hn ps => by simpa using C.loop_eq chaosKeys_ne_nil hn ps [] []⟩

/-- A run of workload C (reads only when the draw is below 1) with two threads over one key and
two nodes, with `stop_at = 10`. -/
def twoThreadRun : SingleWorkload := ⟨"C", (1, 0), 2, 10, ["perf-0"], ["node-a", "node-b"]⟩

/-- Thread 0's pass: a `GET` on node a that returns. -/
def getPass : Pass := ⟨1, 0, 0, 0, 2, false, 3⟩

/-- Thread 1's pass: a `PUT` on node b that raises. -/
def putPass : Pass := ⟨1, 1, 0, 1, 2, true, 4⟩

/-- The threads' answers: one pass each, then a reading past `stop_at`. -/
def threadEvents : Fin 2 → List Event
  | 0 => getPass.events ++ [.clock 11]
  | 1 => putPass.events ++ [.clock 12]

/-- Thread 0 runs its pass first, then thread 1. -/
def getFirst : Schedule twoThreadRun :=
  (threadEvents 0).map ((0 : Fin 2), ·) ++ (threadEvents 1).map ((1 : Fin 2), ·)

/-- The two threads alternate, thread 1 first, so that thread 1 appends first. -/
def putFirst : Schedule twoThreadRun :=
  (List.zip (threadEvents 1) (threadEvents 0)).flatMap fun (e₁, e₀) =>
    [((1 : Fin 2), e₁), ((0 : Fin 2), e₀)]

theorem runSingleWorkload_getFirst :
    runSingleWorkload twoThreadRun getFirst =
      some [twoThreadRun.record .GET "node-a" 2 true 3,
        twoThreadRun.record .PUT "node-b" 2 false 4] := rfl

theorem runSingleWorkload_putFirst :
    runSingleWorkload twoThreadRun putFirst =
      some [twoThreadRun.record .PUT "node-b" 2 false 4,
        twoThreadRun.record .GET "node-a" 2 true 3] := rfl

/-- The times are whole seconds, so the record's milliseconds are exact. -/
theorem record_getPass :
    twoThreadRun.record .GET "node-a" 2 true 3 = ⟨"C", 2, "node-a", .GET, true, 1000, 2000, 3000⟩ := by
  simp only [SingleWorkload.record, twoThreadRun]
  norm_num
  rw [roundDouble_ofNat _ (by norm_num), roundDouble_ofNat _ (by norm_num)]
  norm_num [pyInt]

/-- A chaos run against one node that stops at time 10. -/
def oneNodeChaos : Chaos := ⟨10, ["node-a"]⟩

/-- A chaos pass at time 1 whose call returns. -/
def chaosGetPass : ChaosPass := ⟨1, 0, 0, 0, 2, none, 3⟩

/-- A run in which a `GET` returns and a `PUT` raises: thread 0's answers are its one pass and a
last reading, and the chaos loop of one pass before its deadline leaves one record. -/
theorem run_single_workload_records_two_threads :
    runSingleWorkload twoThreadRun getFirst =
      some [twoThreadRun.record .GET "node-a" 2 true 3,
        twoThreadRun.record .PUT "node-b" 2 false 4] ∧
    (∃ (ps : Fin 2 → List Pass) (t : Fin 2 → ℚ),
      (∀ i, ofTag i getFirst = (ps i).flatMap Pass.events ++ [.clock (t i)] ∧ 10 ≤ t i ∧
        ∀ p ∈ ps i, p.now < 10) ∧
      Interleaves (fun i => (ps i).map twoThreadRun.expected)
        [twoThreadRun.record .GET "node-a" 2 true 3,
          twoThreadRun.record .PUT "node-b" 2 false 4]) ∧
    runChaos oneNodeChaos [chaosGetPass] = ⟨[], some [oneNodeChaos.expected chaosGetPass]⟩ :=
  ⟨runSingleWorkload_getFirst,
    run_single_workload_records.1 twoThreadRun (by decide) (by decide) getFirst _
      runSingleWorkload_getFirst,
    by simpa [chaosGetPass, oneNodeChaos] using
      run_single_workload_records.2 oneNodeChaos (by decide) [chaosGetPass]⟩

end DynLiteExperiments

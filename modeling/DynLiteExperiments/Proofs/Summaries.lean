import DynLiteExperiments.Proofs.Workload
import DynLiteExperiments.Plots

/-!
# Proofs: the text summaries do not depend on the order of the records

Every number of a summary line is computed from the records through an order-blind operation:
a length, a `max` or `min`, a filter, and `sorted`, whose result is unique (`pySorted_eq_of_perm`).
So a summary line is a function of the multiset of records (`perfSummary_perm`,
`sacSummary_perm`). The shared list of a perf run is an interleaving of what the threads
appended, and two interleavings of the same lists are permutations of each other
(`Interleaves.perm`): two schedules that give every thread the same answers lead to the same
summary, however the threads were interleaved.

The SAC loop is settled pass by pass as the chaos loop is (`Sac.loop_eq`), and `run_sac` either
raises the first error of its populating puts or writes one record per pass before the deadline
(`run_sac_records`). The plots read the same records: the chaos plot shifts the successful starts
by the first of them (`chaos_plot_points`), the perf plots group the CSV by workload and
concurrency and agree with the summary lines (`perf_plot_matches_summary`), and the bench script
plots the sorted latencies of the successful rows against `i / (n - 1)` (`plot_latencies_cdf`).
-/

namespace DynLiteExperiments

section MinMax

variable {α : Type*} [LinearOrder α]

theorem max?_eq_some_iff_mem_le {l : List α} {a : α} : l.max? = some a ↔ a ∈ l ∧ ∀ b ∈ l, b ≤ a :=
  have : Std.Antisymm (α := α) (· ≤ ·) := ⟨le_antisymm⟩
  List.max?_eq_some_iff le_refl max_choice (fun _ _ _ => max_le_iff)

theorem min?_eq_some_iff_mem_le {l : List α} {a : α} : l.min? = some a ↔ a ∈ l ∧ ∀ b ∈ l, a ≤ b :=
  have : Std.Antisymm (α := α) (· ≤ ·) := ⟨le_antisymm⟩
  List.min?_eq_some_iff le_refl min_choice (fun _ _ _ => le_min_iff)

theorem max?_eq_of_perm {l₁ l₂ : List α} (h : l₁.Perm l₂) : l₁.max? = l₂.max? :=
  Option.ext fun a => by simp only [Option.mem_def, max?_eq_some_iff_mem_le, h.mem_iff]

theorem min?_eq_of_perm {l₁ l₂ : List α} (h : l₁.Perm l₂) : l₁.min? = l₂.min? :=
  Option.ext fun a => by simp only [Option.mem_def, min?_eq_some_iff_mem_le, h.mem_iff]

end MinMax

/-! ## Summaries of permuted records -/

theorem perfSummary_perm {l₁ l₂ : List WorkloadRecord} (h : l₁.Perm l₂) :
    perfSummary l₁ = perfSummary l₂ := by
  have hlat := (h.filter (·.ok)).map (·.latencyMs)
  simp only [perfSummary, hlat.isEmpty_eq, pySorted_eq_of_perm hlat, h.length_eq,
    max?_eq_of_perm (h.map (·.tEndMs)), min?_eq_of_perm (h.map (·.tStartMs))]

theorem sacSummary_perm {l₁ l₂ : List SacRecord} (h : l₁.Perm l₂) :
    sacSummary l₁ = sacSummary l₂ := by
  simp only [sacSummary]
  congr 1
  funext cls
  have hlat := (h.filter fun r => r.cls == cls && r.ok).map (·.latencyMs)
  simp only [hlat.isEmpty_eq, pySorted_eq_of_perm hlat, hlat.length_eq]

/-! ## The SAC loop -/

namespace Sac

variable (S : Sac)

/-- The record a SAC pass must leave: the node drawn, class `"tight"` with a deadline of 20 ms
exactly when the draw is below 0.5 and `"relaxed"` with 100 ms otherwise, `ok` exactly when
the answer's status is 200 or 404 (never when the call raised), and the timing of the pass. -/
def expected (p : SacPass) : SacRecord where
  node := (pyChoice S.nodeNames p.nodeIdx).getD ""
  cls := if p.x < 0.5 then "tight" else "relaxed"
  deadlineMs := if p.x < 0.5 then 20 else 100
  latencyMs := (p.tEnd - p.tStart) * 1000
  ok := decide (p.status = some 200 ∨ p.status = some 404)
  tStartMs := pyInt (roundDouble (p.tStart * 1000))
  tEndMs := pyInt (roundDouble (p.tEnd * 1000))

/-- The loop leaves one record per pass before the deadline; a failed call never ends it. -/
theorem loop_eq {keys : List String} (hk : keys ≠ []) (hn : S.nodeNames ≠ [])
    (ps : List SacPass) (recs : List SacRecord) :
    S.loop keys ps recs = some (recs ++ (ps.takeWhile (·.now < S.stopAt)).map S.expected) := by
  induction ps generalizing recs with
  | nil => simp [loop]
  | cons p ps ih =>
    by_cases hp : p.now < S.stopAt
    · obtain ⟨key, hkey⟩ := Option.ne_none_iff_exists'.mp (pyChoice_ne_none hk p.keyIdx)
      obtain ⟨node, hnode⟩ := Option.ne_none_iff_exists'.mp (pyChoice_ne_none hn p.nodeIdx)
      by_cases hx : p.x < 0.5 <;>
        simp [loop, hp, hkey, hnode, ih, expected, chooseDeadline, hx, config,
          Bool.beq_eq_decide_eq]
    · simp [loop, hp]

end Sac

/-- The summary of `run_sac` never raises: a class with no successful read gets its
"no successful requests" line, the others their percentiles. -/
theorem sacSummary_isSome (records : List SacRecord) : ∃ lines, sacSummary records = some lines :=
  mapM_option_of_isSome fun cls _ => by
    dsimp only
    generalize (records.filter fun r => r.cls == cls && r.ok).map (·.latencyMs) = lat
    rcases lat with _ | ⟨x, xs⟩
    · rfl
    · simp [summaryPercentiles_eq (length_pySorted_pos (List.cons_ne_nil x xs))]

/-- **`run_sac`.** On a non-empty cluster the run never raises outside a client call. It writes
its CSV exactly when no populating `put` raises, the CSV holds one record per pass before
`stop_at`, the one `Sac.expected` describes, and otherwise the first `put` that raised ends it. -/
theorem run_sac_records (S : Sac) (hn : S.nodeNames ≠ []) (w : SacWorld) :
    ∃ run, runSac S w = some run ∧
      (run.csv.isSome ↔ ∀ i < 2000, w.populateError i = none) ∧
      (∀ rows, run.csv = some rows →
        rows = (w.passes.takeWhile (·.now < S.stopAt)).map S.expected ∧ run.raised = none) ∧
      ∀ i < 2000, (∀ j < i, w.populateError j = none) →
        ∀ e, w.populateError i = some e → run.raised = some (.client e) := by
  unfold runSac
  cases hpop : (List.range 2000).findSome? w.populateError with
  | some e =>
    have hfail : ¬∀ i < 2000, w.populateError i = none := fun h =>
      by simp [findSome?_range_eq_none.mpr h] at hpop
    refine ⟨_, rfl, by simpa using hfail, nofun, fun i hi hfirst e' he' => ?_⟩
    rw [findSome?_range_eq_some hi hfirst he'] at hpop
    cases hpop
    rfl
  | none =>
    have hok := findSome?_range_eq_none.mp hpop
    have hloop := S.loop_eq sacKeys_ne_nil hn w.passes []
    rw [List.nil_append] at hloop
    generalize (w.passes.takeWhile (·.now < S.stopAt)).map S.expected = recs at hloop ⊢
    obtain ⟨lines, hlines⟩ := sacSummary_isSome recs
    refine ⟨⟨lines, some recs, none⟩, by simp [hloop, hlines], by simpa using hok,
      fun rows hrows => ⟨(Option.some.inj hrows).symm, rfl⟩, fun i hi _ e he => ?_⟩
    simp [hok i hi] at he

/-- A SAC run against one node that stops after one second. -/
def oneNodeSac : Sac := ⟨1, ["node-a"]⟩

/-- The keys are populated, then one pass at time 0: a tight read answered 200 after 10 ms. -/
def oneReadWorld : SacWorld := ⟨fun _ => none, [⟨0, 0, 0, 1 / 4, 0, some 200, 1 / 100⟩]⟩

theorem run_sac_records_one_pass :
    ∃ run, runSac oneNodeSac oneReadWorld = some run ∧
      (run.csv.isSome ↔ ∀ i < 2000, oneReadWorld.populateError i = none) ∧
      (∀ rows, run.csv = some rows →
        rows = (oneReadWorld.passes.takeWhile (·.now < oneNodeSac.stopAt)).map
          oneNodeSac.expected ∧ run.raised = none) ∧
      ∀ i < 2000, (∀ j < i, oneReadWorld.populateError j = none) →
        ∀ e, oneReadWorld.populateError i = some e → run.raised = some (.client e) :=
  run_sac_records oneNodeSac (by decide) oneReadWorld

/-! ## The chaos plot -/

/-- **The chaos plot.** It is drawn exactly when some request succeeded, with one point per
successful record, in order, at `t_rel_s = (t_start_ms - t0) / 1000` for `t0` the earliest
successful start: never negative, and 0 for that start. -/
theorem chaos_plot_points (rows : List ChaosRecord) :
    (plotChaos rows = none ↔ ∀ r ∈ rows, r.ok = false) ∧
    ∀ pts, plotChaos rows = some pts →
      ∃ t0, (∃ r ∈ rows, r.ok ∧ r.tStartMs = t0) ∧ (∀ r ∈ rows, r.ok → t0 ≤ r.tStartMs) ∧
        pts = (rows.filter (·.ok)).map (fun r =>
          (((r.tStartMs - t0 : ℤ) : ℚ) / 1000, r.latencyMs, r.op, r.node)) ∧
        (∀ p ∈ pts, 0 ≤ p.1) ∧ ∃ p ∈ pts, p.1 = 0 := by
  have hplot : plotChaos rows = ((rows.filter (·.ok)).map (·.tStartMs)).min?.bind fun t0 =>
      some ((rows.filter (·.ok)).map fun r =>
        (((r.tStartMs - t0 : ℤ) : ℚ) / 1000, r.latencyMs, r.op, r.node)) := rfl
  rw [hplot]
  cases ht : ((rows.filter (·.ok)).map (·.tStartMs)).min? with
  | none =>
    simp only [List.min?_eq_none_iff, List.map_eq_nil_iff, List.filter_eq_nil_iff] at ht
    exact ⟨iff_of_true rfl fun r hr => Bool.eq_false_iff.mpr (ht r hr), nofun⟩
  | some t0 =>
    obtain ⟨⟨r0, hr0, rfl⟩, hle⟩ := by simpa only [List.mem_map] using min?_eq_some_iff_mem_le.mp ht
    have hr0' := List.mem_filter.mp hr0
    refine ⟨by simpa using ⟨r0, hr0'⟩, fun pts hpts => ?_⟩
    rw [Option.some_bind, Option.some.injEq] at hpts
    subst hpts
    refine ⟨_, ⟨r0, hr0'.1, by simpa using hr0'.2, rfl⟩,
      fun r hr hok => hle _ ⟨r, List.mem_filter.mpr ⟨hr, by simpa using hok⟩, rfl⟩, rfl,
      fun p hp => ?_, _, List.mem_map_of_mem _ hr0, by simp⟩
    obtain ⟨r, hr, rfl⟩ := List.mem_map.mp hp
    have : (0 : ℚ) ≤ ((r.tStartMs - r0.tStartMs : ℤ) : ℚ) := by
      exact_mod_cast sub_nonneg.mpr (hle _ ⟨r, hr, rfl⟩)
    positivity

/-! ## The perf plots and the summaries -/

/-- Over runs whose records carry their own workload name and concurrency, no two runs sharing
both, the rows of the whole CSV with the key of run `W` are that run's records. -/
theorem filter_key_flatten {Ws : List SingleWorkload} {outs : List (List WorkloadRecord)}
    (h : List.Forall₂ (fun W out => ∀ r ∈ out,
      (r.workload, r.concurrency) = (W.workloadName, W.concurrency)) Ws outs)
    (hkeys : (Ws.map fun W => (W.workloadName, W.concurrency)).Nodup)
    {W : SingleWorkload} {out : List WorkloadRecord} (hW : (W, out) ∈ Ws.zip outs) :
    outs.flatten.filter (fun r => (r.workload, r.concurrency) = (W.workloadName, W.concurrency)) =
      out := by
  induction h with
  | nil => cases hW
  | @cons W' out' Ws outs hout' hrest ih =>
    obtain ⟨hW', hkeys⟩ := List.nodup_cons.mp hkeys
    rw [List.flatten_cons, List.filter_append]
    rcases List.mem_cons.mp hW with heq | hW
    · cases heq
      have hother : ∀ r ∈ outs.flatten,
          (r.workload, r.concurrency) ≠ (W.workloadName, W.concurrency) := fun r hr heq => by
        obtain ⟨o, ho, hro⟩ := List.mem_flatten.mp hr
        obtain ⟨W'', hW'', h''⟩ := exists_of_forall₂_of_mem hrest ho
        exact hW' (List.mem_map.mpr ⟨W'', hW'', by rw [← h'' r hro, heq]⟩)
      rw [List.filter_eq_self.mpr fun r hr => by simpa using hout' r hr,
        List.filter_eq_nil_iff.mpr fun r hr => by simpa using hother r hr, List.append_nil]
    · have hne : (W'.workloadName, W'.concurrency) ≠ (W.workloadName, W.concurrency) :=
        fun heq => hW' (List.mem_map.mpr ⟨W, (List.of_mem_zip hW).1, heq.symm⟩)
      rw [List.filter_eq_nil_iff.mpr fun r hr => by simpa [hout' r hr] using hne, ih hkeys hW,
        List.nil_append]

/-- **The perf plots and the summaries read the same latencies.** In a run that writes its CSV,
the CSV is the records of its runs in order, each summary line is its run's, and the group a run
gets in the plots is the list of successful latencies its summary reads. -/
theorem perf_plot_matches_summary (P : PerfYcsb) (w : PerfWorld) (run : PerfRun)
    (h : runPerfYcsb P w = some run) (rows : List WorkloadRecord) (hrows : run.csv = some rows)
    (hkeys : ((P.runs w).map fun W => (W.workloadName, W.concurrency)).Nodup) :
    ∃ outs, List.Forall₂ (fun W out => runSingleWorkload W (w.schedule W) = some out)
        (P.runs w) outs ∧
      rows = outs.flatten ∧
      List.Forall₂ (fun out line => perfSummary out = some line) outs run.lines ∧
      ∀ W out, (W, out) ∈ (P.runs w).zip outs →
        valuesAt (perfGroups rows) (W.workloadName, W.concurrency) =
          if out.any (·.ok) then [(out.filter (·.ok)).map (·.latencyMs)] else [] := by
  unfold runPerfYcsb at h
  cases hw : (List.range (min 1000 P.numKeys)).findSome? w.warmupError with
  | some e =>
    rw [hw] at h
    cases h
    cases hrows
  | none =>
    rw [hw] at h
    obtain ⟨outs, houts, h⟩ := Option.bind_eq_some.mp h
    obtain ⟨lines, hlines, h⟩ := Option.bind_eq_some.mp h
    cases h
    cases hrows
    have hF := mapM_option_eq_some_iff.mp houts
    refine ⟨outs, hF, rfl, mapM_option_eq_some_iff.mp hlines, fun W out hW => ?_⟩
    have hkey := filter_key_flatten
      (hF.imp fun _ _ h _ hr => key_of_mem_runSingleWorkload h hr) hkeys hW
    have h1 : (outs.flatten.filter (·.ok)).filter
        (fun r => (r.workload, r.concurrency) = (W.workloadName, W.concurrency)) =
          out.filter (·.ok) := by
      rw [List.filter_filter, ← hkey, List.filter_filter]
      simp only [Bool.and_comm]
    -- the group is drawn exactly when the run had a successful request
    have h2 := congrArg (List.any · fun _ => true) h1
    simp only [List.any_filter, Bool.and_true] at h2
    rw [perfGroups, valuesAt_groupBy, h1, List.any_filter, h2]

/-- Workload C at one concurrency level, over one key and one node, for ten seconds. -/
def onePerfRun : PerfYcsb :=
  { nodeNames := ["node-a"], workloads := [("C", 1, 0)], concurrencyLevels := [1],
    numKeys := 1, runSeconds := 10 }

/-- The warmup succeeds, the run starts at time 0, and each thread reads one key from node a
between times 2 and 3, then reads 11, past `stop_at`. -/
def busyWorld : PerfWorld :=
  ⟨fun _ => none, fun _ _ => 0, fun W => (List.finRange W.concurrency).flatMap fun i =>
    (getPass.events ++ [Event.clock 11]).map (i, ·)⟩

/-- The one run of `onePerfRun`. -/
def busyRun : SingleWorkload := ⟨"C", (1, 0), 1, 10, perfKeys 1, ["node-a"]⟩

theorem runs_busyWorld : onePerfRun.runs busyWorld = [busyRun] := by
  simp [PerfYcsb.runs, onePerfRun, busyWorld, busyRun]

theorem runSingleWorkload_busyRun :
    runSingleWorkload busyRun (busyWorld.schedule busyRun) =
      some [⟨"C", 1, "node-a", .GET, true, 1000, 2000, 3000⟩] := by
  have h : runSingleWorkload busyRun (busyWorld.schedule busyRun) =
      some [busyRun.record .GET "node-a" 2 true 3] := rfl
  rw [h, SingleWorkload.record]
  norm_num [busyRun]
  rw [roundDouble_ofNat _ (by norm_num), roundDouble_ofNat _ (by norm_num)]
  norm_num [pyInt]

theorem runPerfYcsb_busyWorld :
    runPerfYcsb onePerfRun busyWorld = some ⟨[.stats 1 1 ⟨1000, 1000, 1000⟩],
      some [⟨"C", 1, "node-a", .GET, true, 1000, 2000, 3000⟩], none⟩ := by
  have hw : (List.range (min 1000 onePerfRun.numKeys)).findSome? busyWorld.warmupError = none :=
    findSome?_range_eq_none.mpr fun _ _ => rfl
  have hsum : perfSummary [⟨"C", 1, "node-a", .GET, true, 1000, 2000, 3000⟩] =
      some (.stats 1 1 ⟨1000, 1000, 1000⟩) := by
    simp [perfSummary, pySorted, summaryPercentiles_eq]
    norm_num
  rw [runPerfYcsb, hw, runs_busyWorld, List.mapM_cons, List.mapM_nil, runSingleWorkload_busyRun]
  simp only [Option.pure_def, Option.bind_eq_bind, Option.some_bind, List.mapM_cons, List.mapM_nil,
    hsum]
  rfl

/-- A run with one successful read: its group holds that read's latency. -/
theorem perf_plot_matches_summary_busy :
    ∃ outs, List.Forall₂ (fun W out => runSingleWorkload W (busyWorld.schedule W) = some out)
        (onePerfRun.runs busyWorld) outs ∧
      [⟨"C", 1, "node-a", .GET, true, 1000, 2000, 3000⟩] = outs.flatten ∧
      List.Forall₂ (fun out line => perfSummary out = some line) outs
        [.stats 1 1 ⟨1000, 1000, 1000⟩] ∧
      ∀ W out, (W, out) ∈ (onePerfRun.runs busyWorld).zip outs →
        valuesAt (perfGroups [⟨"C", 1, "node-a", .GET, true, 1000, 2000, 3000⟩])
            (W.workloadName, W.concurrency) =
          if out.any (·.ok) then [(out.filter (·.ok)).map (·.latencyMs)] else [] :=
  perf_plot_matches_summary onePerfRun busyWorld _ runPerfYcsb_busyWorld _ rfl
    (by rw [runs_busyWorld]; decide)

/-! ## The bench's latency CDF -/

section PlotLatencies

variable (pyFloat : String → Option PyFloat)
variable (sortNan : (xs : List PyFloat) → {ys : List PyFloat // ys.Perm xs})

/-- One pass of the row loop gets through exactly when the row has a `success` column and, when
it is `"1"`, a latency that `float` reads, which it appends. -/
theorem latencyStep_eq_ok {acc xs : List PyFloat} {r : List (String × Option String)} :
    latencyStep pyFloat acc r = .ok xs ↔ (cell r "success").isSome ∧
      if cell r "success" = some (some "1") then
        ∃ x, (cell r "latency_ms").join.bind pyFloat = some x ∧ xs = acc ++ [x]
      else xs = acc := by
  rcases hs : cell r "success" with _ | s
  · simp [latencyStep, hs]
  by_cases h1 : s = some "1"
  · subst h1
    rcases hc : cell r "latency_ms" with _ | _ | c
    · simp [latencyStep, hs, hc]
    · simp [latencyStep, hs, hc]
    cases hx : pyFloat c <;> simp [latencyStep, hs, hc, hx, eq_comm]
  · simp [latencyStep, hs, h1, eq_comm]

/-- The row loop of `plot_latencies.py` gets through exactly when every row has a `success`
column and every successful row a latency that `float` reads; it then appends the latencies of
the successful rows, in file order. -/
theorem foldlM_latencyStep_eq_ok {rows : List (List (String × Option String))}
    {acc xs : List PyFloat} :
    rows.foldlM (latencyStep pyFloat) acc = .ok xs ↔
      (∀ r ∈ rows, (cell r "success").isSome) ∧
      ∃ ys, (rows.filter fun r => cell r "success" = some (some "1")).mapM
          (fun r => (cell r "latency_ms").join.bind pyFloat) = some ys ∧ xs = acc ++ ys := by
  simp only [mapM_option_eq_some_iff]
  induction rows generalizing acc with
  | nil => simp [eq_comm (a := acc)]
  | cons r rows ih =>
    rw [List.foldlM_cons, except_bind_eq_ok, List.forall_mem_cons]
    by_cases h1 : cell r "success" = some (some "1")
    · rw [List.filter_cons_of_pos (by simpa using h1)]
      simp only [latencyStep_eq_ok, if_pos h1, ih, List.forall₂_cons_left_iff]
      constructor
      · rintro ⟨_, ⟨hs, x, hx, rfl⟩, hall, ys, hys, rfl⟩
        exact ⟨⟨hs, hall⟩, x :: ys, ⟨x, ys, hx, hys, rfl⟩, by simp⟩
      · rintro ⟨⟨hs, hall⟩, _, ⟨x, ys, hx, hys, rfl⟩, rfl⟩
        exact ⟨_, ⟨hs, x, hx, rfl⟩, hall, ys, hys, by simp⟩
    · rw [List.filter_cons_of_neg (by simpa using h1)]
      simp [latencyStep_eq_ok, h1, ih, and_assoc]

/-- `cdf_y` raises `ZeroDivisionError` for one sample, and is otherwise `i / (n - 1)` for each
`i < n`. -/
theorem cdfY_eq (n : ℕ) :
    cdfY n = if n = 1 then .error .zeroDivisionError
      else .ok ((List.range n).map fun i : ℕ => (i : ℚ) / ((n : ℚ) - 1)) := by
  by_cases hn : n = 1
  · subst hn
    simp only [cdfY, Nat.cast_one, sub_self, ↓reduceIte]
    rfl
  · rw [if_neg hn, cdfY]
    exact mapM_except_ok fun i _ => if_neg (sub_ne_zero.mpr (by exact_mod_cast hn))

/-- For two samples or more, the values of `cdf_y` rise strictly from 0 to 1. -/
theorem cdf_values_shape {n : ℕ} (hn : 2 ≤ n) :
    ((List.range n).map fun i : ℕ => (i : ℚ) / ((n : ℚ) - 1)).head? = some 0 ∧
    ((List.range n).map fun i : ℕ => (i : ℚ) / ((n : ℚ) - 1)).getLast? = some 1 ∧
    ((List.range n).map fun i : ℕ => (i : ℚ) / ((n : ℚ) - 1)).Sorted (· < ·) := by
  have hpos : (0 : ℚ) < n - 1 := by
    rw [sub_pos]
    exact_mod_cast hn
  refine ⟨?_, ?_, (List.pairwise_lt_range n).map _ fun a b hab =>
    (div_lt_div_iff_of_pos_right hpos).mpr (by exact_mod_cast hab)⟩
  · simp [List.head?_range, show n ≠ 0 by omega]
  · simp [List.getLast?_range, show n ≠ 0 by omega, Nat.cast_sub (by omega : 1 ≤ n),
      div_self hpos.ne']

/-- `main` of `plot_latencies.py` once the row loop has read the latencies `xs`. -/
theorem plotLatencies_eq {f : CsvFile} {xs : List PyFloat}
    (h : f.dictRows.foldlM (latencyStep pyFloat) [] = .ok xs) :
    plotLatencies pyFloat sortNan f =
      if xs = [] then .ok .noSamples else LatencyCdf.plot (sortFloats sortNan xs) <$> cdfY xs.length := by
  rw [plotLatencies, h, except_ok_bind]
  by_cases hxs : xs = []
  · simp [hxs]
  · simp [hxs]
    rfl

/-- **The bench's latency CDF.** When every row has a `success` column and every successful row a
latency that `float` reads: no successful row prints that there are no samples, one raises
`ZeroDivisionError`, and more are plotted, sorted when none is `nan`, against CDF values rising
strictly from 0 to 1. -/
theorem plot_latencies_cdf (f : CsvFile) (ys : List PyFloat)
    (hs : ∀ r ∈ f.dictRows, (cell r "success").isSome)
    (hys : (f.dictRows.filter fun r => cell r "success" = some (some "1")).mapM
      (fun r => (cell r "latency_ms").join.bind pyFloat) = some ys) :
    (ys = [] → plotLatencies pyFloat sortNan f = .ok .noSamples) ∧
    (ys.length = 1 → plotLatencies pyFloat sortNan f = .error .zeroDivisionError) ∧
    (2 ≤ ys.length → ∃ cdf,
      plotLatencies pyFloat sortNan f = .ok (.plot (sortFloats sortNan ys) cdf) ∧
      (sortFloats sortNan ys).Perm ys ∧
      ((∀ y ∈ ys, y ≠ .nan) → (sortFloats sortNan ys).Sorted fun a b => a.rank ≤ b.rank) ∧
      cdf.length = ys.length ∧ cdf.head? = some 0 ∧ cdf.getLast? = some 1 ∧
      cdf.Sorted (· < ·)) := by
  have hxs := (foldlM_latencyStep_eq_ok pyFloat).mpr ⟨hs, ys, hys, (List.nil_append ys).symm⟩
  rw [plotLatencies_eq pyFloat sortNan hxs, cdfY_eq]
  refine ⟨fun h0 => if_pos h0, fun h1 => ?_, fun h2 => ?_⟩
  · rw [if_neg (List.ne_nil_of_length_pos (by omega)), if_pos h1]
    rfl
  · rw [if_neg (List.ne_nil_of_length_pos (by omega)), if_neg (by omega)]
    exact ⟨_, rfl, sortFloats_perm sortNan ys, sortFloats_sorted sortNan, by simp,
      cdf_values_shape h2⟩

/-- A latency CSV with two successful rows, a blank line and a failed row whose latency is not a
number. -/
def latencyFile : CsvFile :=
  ⟨["success", "latency_ms"], [["1", "5"], ["0", "n/a"], [], ["1", "3"]]⟩

/-- `float` on the cells of `latencyFile`. -/
def latencyFloat (s : String) : Option PyFloat := [("5", .finite 5), ("3", .finite 3)].lookup s

/-- `xs.sort()` on floats holding a `nan`, as some order of them. -/
def keepOrder (xs : List PyFloat) : {ys : List PyFloat // ys.Perm xs} := ⟨xs, List.Perm.refl xs⟩

theorem plot_latencies_cdf_two :
    (([.finite 5, .finite 3] : List PyFloat) = [] →
      plotLatencies latencyFloat keepOrder latencyFile = .ok .noSamples) ∧
    (([.finite 5, .finite 3] : List PyFloat).length = 1 →
      plotLatencies latencyFloat keepOrder latencyFile = .error .zeroDivisionError) ∧
    (2 ≤ ([.finite 5, .finite 3] : List PyFloat).length → ∃ cdf,
      plotLatencies latencyFloat keepOrder latencyFile =
        .ok (.plot (sortFloats keepOrder [.finite 5, .finite 3]) cdf) ∧
      (sortFloats keepOrder [.finite 5, .finite 3]).Perm [.finite 5, .finite 3] ∧
      ((∀ y ∈ ([.finite 5, .finite 3] : List PyFloat), y ≠ .nan) →
        (sortFloats keepOrder [.finite 5, .finite 3]).Sorted fun a b => a.rank ≤ b.rank) ∧
      cdf.length = ([.finite 5, .finite 3] : List PyFloat).length ∧ cdf.head? = some 0 ∧
      cdf.getLast? = some 1 ∧ cdf.Sorted (· < ·)) :=
  plot_latencies_cdf latencyFloat keepOrder latencyFile _ (by decide) (by decide)

end PlotLatencies

/-! ## Order independence -/

/-- **Order does not matter.** The summary line of a perf run, and the SAC summary, are the same
for any two orders of the same records. In particular two schedules of a perf run that give
every thread the same answers, interleaved in any two ways, return permutations of one list and
write the same summary line. -/
theorem summaries_order_independent :
    (∀ l₁ l₂ : List WorkloadRecord, l₁.Perm l₂ → perfSummary l₁ = perfSummary l₂) ∧
    (∀ (W : SingleWorkload) (σ₁ σ₂ : Schedule W) (out₁ out₂ : List WorkloadRecord),
      (∀ i, ofTag i σ₁ = ofTag i σ₂) → runSingleWorkload W σ₁ = some out₁ →
      runSingleWorkload W σ₂ = some out₂ →
      out₁.Perm out₂ ∧ perfSummary out₁ = perfSummary out₂) ∧
    (∀ l₁ l₂ : List SacRecord, l₁.Perm l₂ → sacSummary l₁ = sacSummary l₂) := by
  refine ⟨fun _ _ => perfSummary_perm, fun W σ₁ σ₂ out₁ out₂ hσ h₁ h₂ => ?_,
    fun _ _ => sacSummary_perm⟩
  obtain ⟨ws₁, rs₁, hrs₁, hint₁, -⟩ := interleaves_of_run h₁
  obtain ⟨ws₂, rs₂, hrs₂, hint₂, -⟩ := interleaves_of_run h₂
  have hrs : rs₂ = rs₁ := funext fun i => by
    have h := hrs₁ i
    rw [hσ i, hrs₂ i, Option.some.injEq, Prod.mk.injEq] at h
    exact h.2
  subst hrs
  have hp := hint₁.perm hint₂
  exact ⟨hp, perfSummary_perm hp⟩

/-- Two records of a perf run, the second failed. -/
def twoRecords : List WorkloadRecord :=
  [⟨"A", 4, "node-a", .GET, true, 3, 10, 13⟩, ⟨"A", 4, "node-b", .PUT, false, 5, 11, 16⟩]

/-- A tight read and a relaxed one, both answered. -/
def twoSacRecords : List SacRecord :=
  [⟨"node-a", "tight", 20, 5, true, 0, 5⟩, ⟨"node-b", "relaxed", 100, 30, true, 10, 40⟩]

theorem summaries_order_independent_two :
    perfSummary twoRecords = perfSummary twoRecords.reverse ∧
    ([twoThreadRun.record .GET "node-a" 2 true 3, twoThreadRun.record .PUT "node-b" 2 false 4].Perm
        [twoThreadRun.record .PUT "node-b" 2 false 4, twoThreadRun.record .GET "node-a" 2 true 3] ∧
      perfSummary [twoThreadRun.record .GET "node-a" 2 true 3,
          twoThreadRun.record .PUT "node-b" 2 false 4] =
        perfSummary [twoThreadRun.record .PUT "node-b" 2 false 4,
          twoThreadRun.record .GET "node-a" 2 true 3]) ∧
    sacSummary twoSacRecords = sacSummary twoSacRecords.reverse :=
  ⟨summaries_order_independent.1 _ _ (List.reverse_perm _).symm,
    summaries_order_independent.2.1 twoThreadRun getFirst putFirst _ _ (by decide)
      runSingleWorkload_getFirst runSingleWorkload_putFirst,
    summaries_order_independent.2.2 _ _ (List.reverse_perm _).symm⟩

end DynLiteExperiments

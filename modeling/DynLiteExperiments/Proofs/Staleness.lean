import DynLiteExperiments.Staleness
import DynLiteExperiments.Plots

/-!
# Proofs: the staleness probe

The two loops of `run_staleness` are settled once each. The trial loop of one delay runs its
trials in order and stops at the first exception (`Staleness.trialLoop_eq`). The delay loop
then either completes, with one line and one block of records per delay (`delayLoop_ok`), or
stops at the first exception with no CSV (`delayLoop_error`); `Staleness.blocksFrom` names the
blocks of trial results, delay by delay.
-/

namespace DynLiteExperiments

/-! ## One trial -/

theorem isStaleOf_le_one (r : KvReadResult) (v : Bytes) : isStaleOf r v ≤ 1 := by
  unfold isStaleOf; split <;> omega

theorem isStaleOf_eq_zero {r : KvReadResult} {v : Bytes} :
    isStaleOf r v = 0 ↔ r.found = true ∧ r.value = some v := by
  simp [isStaleOf]

/-! ## Payloads -/

theorem append_cons_inj_of_not_mem {α : Type*} {c : α} :
    ∀ {a a' b b' : List α}, c ∉ a → c ∉ a' → a ++ c :: b = a' ++ c :: b' → a = a' ∧ b = b'
  | [], [], _, _, _, _, h => ⟨rfl, by simpa using h⟩
  | [], x :: a', _, _, _, h', h => absurd (List.mem_cons_self x a') (by simp_all)
  | x :: a, [], _, _, h, _, h' => absurd (List.mem_cons_self x a) (by simp_all)
  | x :: a, y :: a', _, _, h, h', he => by
    simp only [List.cons_append, List.cons.injEq] at he
    obtain ⟨rfl, he⟩ := he
    obtain ⟨rfl, rfl⟩ := append_cons_inj_of_not_mem (fun m => h (.tail _ m))
      (fun m => h' (.tail _ m)) he
    exact ⟨rfl, rfl⟩

theorem dash_not_mem_pyStr (n : ℕ) : '-' ∉ (pyStr n).data := fun h => by
  simpa using mem_pyStr h

theorem payload_ascii (d t : ℕ) : ∀ c ∈ ("v-" ++ pyStr d ++ "-" ++ pyStr t).data, c.val ≤ 127 := by
  intro c hc
  simp only [String.data_append, List.mem_append] at hc
  rcases hc with ((hc | hc) | hc) | hc
  · simp only [List.mem_cons, List.mem_singleton, List.not_mem_nil, or_false] at hc
    rcases hc with rfl | rfl <;> decide
  · exact mem_pyStr_ascii hc
  · rw [List.mem_singleton.mp hc]; decide
  · exact mem_pyStr_ascii hc

/-- Two trials write the same payload only if they have the same delay and read the same
clock. -/
theorem payload_injective {d t d' t' : ℕ} (h : payload d t = payload d' t') : d = d' ∧ t = t' := by
  have hs := encode_injective_of_ascii (payload_ascii d t) (payload_ascii d' t') h
  have hdata := congrArg String.data hs
  simp only [String.data_append] at hdata
  obtain ⟨h1, h2⟩ := append_cons_inj_of_not_mem (dash_not_mem_pyStr d) (dash_not_mem_pyStr d')
    (by simpa using hdata)
  exact ⟨pyStr_injective (String.ext h1), pyStr_injective (String.ext h2)⟩

namespace Staleness

variable (S : Staleness) (world : ℕ → StaleTrial)

/-- A trial completes exactly when `put` returned, the node list is non-empty and `get`
returned; its record is then the delay, the node drawn and the staleness of the read. -/
theorem trial_eq_ok {d : ℕ} {t : StaleTrial} {rec : StaleRecord} :
    S.trial d t = .ok rec ↔ t.putError = none ∧
      ∃ node r, pyChoice S.nodeNames t.nodeIdx = some node ∧ t.get = .ok r ∧
        rec = ⟨d, node, isStaleOf r (payload d t.timeNs)⟩ := by
  obtain ⟨time, _ | e, idx, get⟩ := t
  · cases hn : pyChoice S.nodeNames idx <;> cases get <;>
      simp [trial, hn, Except.mapError, eq_comm]
  · simp [trial]

/-- The trial loop of one delay runs the trials `k, ..., k + n - 1` in order, stopping at the
first exception, and adds the count of stale reads and of trials. -/
theorem trialLoop_eq (d n k staleCount total : ℕ) (recs : List StaleRecord) :
    S.trialLoop world d n k staleCount total recs =
      ((List.range' k n).mapM fun j => S.trial d (world j)).map fun b =>
        (staleCount + b.countP (·.isStale ≠ 0), total + n, recs ++ b) := by
  induction n generalizing k staleCount total recs with
  | zero => rw [trialLoop, List.range'_zero, List.mapM_nil]; simp
  | succ n ih =>
    rw [trialLoop, List.range'_succ, List.mapM_cons]
    cases S.trial d (world k) with
    | error e => rfl
    | ok r =>
      simp only [except_ok_bind, ih]
      cases (List.range' (k + 1) n).mapM fun j => S.trial d (world j) with
      | error e => rfl
      | ok b =>
        by_cases hr : r.isStale = 0 <;>
          simp [hr, List.countP_cons, Nat.add_comm, Nat.add_left_comm, Nat.add_assoc]

/-- The trial results of the delays `ds`, delay by delay, the first trial being trial `k` of the
run; the first exception, if one is raised. -/
def blocksFrom : List ℕ → ℕ → Except ProbeError (List (List StaleRecord))
  | [], _ => .ok []
  | d :: ds, k => do
    let b ← (List.range' k S.trials).mapM fun j => S.trial d (world j)
    let bs ← blocksFrom ds (k + S.trials)
    return b :: bs

/-- The summary line of delay `d` whose trials left the records `b`. -/
def lineOf (d : ℕ) (b : List StaleRecord) : StaleLine :=
  ⟨d, b.countP (·.isStale ≠ 0), S.trials, (b.countP (·.isStale ≠ 0) : ℚ) / max S.trials 1⟩

/-- A delay loop whose trials all complete writes one line per delay and the CSV of all
records. -/
theorem delayLoop_ok {ds : List ℕ} {k : ℕ} {bs : List (List StaleRecord)}
    (h : S.blocksFrom world ds k = .ok bs) (lines : List StaleLine) (recs : List StaleRecord) :
    S.delayLoop world ds k lines recs =
      ⟨lines ++ List.zipWith S.lineOf ds bs, some (recs ++ bs.flatten), none⟩ := by
  induction ds generalizing k bs lines recs with
  | nil => cases h; simp [delayLoop]
  | cons d ds ih =>
    rw [blocksFrom] at h
    obtain ⟨b, hb, h⟩ := except_bind_eq_ok.mp h
    obtain ⟨bs', hbs, h⟩ := except_bind_eq_ok.mp h
    cases h
    rw [delayLoop, trialLoop_eq, hb]
    simp [ih hbs, lineOf]

/-- A delay loop in which some trial raises writes no CSV and ends with that exception. -/
theorem delayLoop_error {ds : List ℕ} {k : ℕ} {e : ProbeError}
    (h : S.blocksFrom world ds k = .error e) (lines : List StaleLine) (recs : List StaleRecord) :
    (S.delayLoop world ds k lines recs).csv = none ∧
      (S.delayLoop world ds k lines recs).raised = some e := by
  induction ds generalizing k lines recs with
  | nil => cases h
  | cons d ds ih =>
    rw [blocksFrom] at h
    rcases except_bind_eq_error.mp h with hb | ⟨b, hb, h⟩
    · rw [delayLoop, trialLoop_eq, hb]
      simp
    · rcases except_bind_eq_error.mp h with hbs | ⟨bs', -, h⟩
      · rw [delayLoop, trialLoop_eq, hb]
        simpa using ih hbs _ _
      · simp at h

/-- Each block of completed trials holds one record per trial of its delay, each the record of
some trial of the run. -/
theorem blocksFrom_ok {ds : List ℕ} {k : ℕ} {bs : List (List StaleRecord)}
    (h : S.blocksFrom world ds k = .ok bs) :
    List.Forall₂ (fun d b => b.length = S.trials ∧
      ∀ r ∈ b, r.delayMs = d ∧ ∃ j, S.trial d (world j) = .ok r) ds bs := by
  induction ds generalizing k bs with
  | nil => cases h; exact .nil
  | cons d ds ih =>
    rw [blocksFrom] at h
    obtain ⟨b, hb, h⟩ := except_bind_eq_ok.mp h
    obtain ⟨bs', hbs, h⟩ := except_bind_eq_ok.mp h
    cases h
    have hb := mapM_except_eq_ok_iff.mp hb
    refine .cons ⟨by simpa using hb.length_eq.symm, fun r hr => ?_⟩ (ih hbs)
    obtain ⟨j, -, hj⟩ := exists_of_forall₂_of_mem hb hr
    obtain ⟨-, node, rd, -, -, rfl⟩ := S.trial_eq_ok.mp hj
    exact ⟨rfl, j, hj⟩

/-- The trials of the delays `ds` all complete exactly when none of them raises: the `j`-th trial
of the `p`-th delay is trial `k + p * trials + j` of the run. -/
theorem blocksFrom_isOk_iff {ds : List ℕ} {k : ℕ} :
    (∃ bs, S.blocksFrom world ds k = .ok bs) ↔ ∀ p : Fin ds.length, ∀ j < S.trials,
      ∃ r, S.trial (ds.get p) (world (k + p * S.trials + j)) = .ok r := by
  induction ds generalizing k with
  | nil => simp [blocksFrom]
  | cons d ds ih =>
    have hd : (∃ b, (List.range' k S.trials).mapM (fun j => S.trial d (world j)) = .ok b) ↔
        ∀ j < S.trials, ∃ r, S.trial d (world (k + j)) = .ok r := by
      rw [mapM_except_isOk_iff]
      simp only [List.mem_range'_1]
      exact ⟨fun h j hj => h _ ⟨by omega, by omega⟩,
        fun h a ha => by simpa [Nat.add_sub_cancel' ha.1] using h (a - k) (by omega)⟩
    have hs (i : Fin ds.length) (j : ℕ) :
        k + (i.succ : ℕ) * S.trials + j = k + S.trials + i * S.trials + j := by
      rw [Fin.val_succ, Nat.succ_mul]; omega
    rw [blocksFrom, except_seq_isOk_iff, hd, ih]
    simp only [List.length_cons, Fin.forall_fin_succ, List.get_cons_zero, List.get_cons_succ',
      Fin.val_zero, zero_mul, add_zero, hs]

/-- `run_staleness` writes its CSV exactly when no trial of the run raises. -/
theorem runStaleness_csv_isSome_iff :
    (runStaleness S world).csv.isSome ↔ ∀ p : Fin S.delays.length, ∀ j < S.trials,
      ∃ r, S.trial (S.delays.get p) (world (p * S.trials + j)) = .ok r := by
  have h := @blocksFrom_isOk_iff S world S.delays 0
  simp only [zero_add] at h
  rw [← h]
  cases hb : S.blocksFrom world S.delays 0 with
  | ok bs => simp [runStaleness, S.delayLoop_ok world hb]
  | error e => simp [runStaleness, (S.delayLoop_error world hb [] []).1]

/-- A run that writes its CSV completed every trial: the rows are the blocks of the delays, in
order, and there is one line per delay. -/
theorem runStaleness_csv {rows : List StaleRecord} (h : (runStaleness S world).csv = some rows) :
    ∃ bs, S.blocksFrom world S.delays 0 = .ok bs ∧ rows = bs.flatten ∧
      (runStaleness S world).lines = List.zipWith S.lineOf S.delays bs := by
  cases hb : S.blocksFrom world S.delays 0 with
  | error e => simp [runStaleness, (S.delayLoop_error world hb [] []).1] at h
  | ok bs =>
    simp only [runStaleness, S.delayLoop_ok world hb, List.nil_append, Option.some.injEq] at h ⊢
    exact ⟨bs, rfl, h.symm, rfl⟩

/-! ## What the lines and the rows count -/

theorem sum_isStale_eq_countP {b : List StaleRecord} (hb : ∀ r ∈ b, r.isStale ≤ 1) :
    (b.map (·.isStale)).sum = b.countP (·.isStale ≠ 0) := by
  induction b with
  | nil => rfl
  | cons r b ih =>
    have hr := hb r (List.mem_cons_self _ _)
    simp only [List.map_cons, List.sum_cons, List.countP_cons, ih fun r h => hb r (.tail _ h)]
    rcases Nat.le_one_iff_eq_zero_or_eq_one.mp hr with h0 | h0 <;> simp [h0, Nat.add_comm]

/-- Over the blocks of a completed run, the rows of delay `d` hold as many stale reads as the
lines of delay `d` count, and as many rows as those lines count trials. -/
theorem rows_of_delay {ds : List ℕ} {bs : List (List StaleRecord)}
    (h : List.Forall₂ (fun d b => b.length = S.trials ∧ ∀ r ∈ b, r.delayMs = d ∧ r.isStale ≤ 1)
      ds bs) (d : ℕ) :
    ((bs.flatten.filter (·.delayMs = d)).map (·.isStale)).sum =
        (((List.zipWith S.lineOf ds bs).filter (·.delayMs = d)).map (·.staleCount)).sum ∧
      (bs.flatten.filter (·.delayMs = d)).length =
        (((List.zipWith S.lineOf ds bs).filter (·.delayMs = d)).map (·.total)).sum := by
  induction h with
  | nil => simp
  | @cons d' b ds bs hb _ ih =>
    simp only [List.flatten_cons, List.filter_append, List.map_append, List.sum_append,
      List.length_append, List.zipWith_cons_cons, List.filter_cons]
    by_cases hd : d' = d
    · subst hd
      have hall : b.filter (·.delayMs = d') = b :=
        List.filter_eq_self.mpr fun r hr => by simp [(hb.2 r hr).1]
      simp only [hall, lineOf, decide_True, ↓reduceIte, List.map_cons, List.sum_cons,
        sum_isStale_eq_countP fun r hr => (hb.2 r hr).2, hb.1, ih.1, ih.2, and_self]
    · have hnone : b.filter (·.delayMs = d) = [] :=
        List.filter_eq_nil_iff.mpr fun r hr => by simp [(hb.2 r hr).1, hd]
      simp only [hnone, List.map_nil, List.sum_nil, List.length_nil, Nat.zero_add, lineOf, hd,
        decide_False, Bool.false_eq_true, ↓reduceIte]
      exact ih

theorem map_delayMs_lines {ds : List ℕ} {bs : List (List StaleRecord)}
    (h : ds.length = bs.length) : (List.zipWith S.lineOf ds bs).map (·.delayMs) = ds := by
  induction ds generalizing bs with
  | nil => rfl
  | cons d ds ih =>
    cases bs with
    | nil => cases h
    | cons b bs => simp [lineOf, ih (Nat.succ.inj h)]

/-- A delay that occurs once among the delays has exactly one line. -/
theorem filter_lines_eq_singleton {ds : List ℕ} {bs : List (List StaleRecord)}
    (h : ds.length = bs.length) {d : ℕ} (hcount : ds.count d = 1) {l : StaleLine}
    (hl : l ∈ List.zipWith S.lineOf ds bs) (hld : l.delayMs = d) :
    (List.zipWith S.lineOf ds bs).filter (·.delayMs = d) = [l] := by
  have hlen : ((List.zipWith S.lineOf ds bs).filter (·.delayMs = d)).length = 1 := by
    rw [← hcount]
    conv_rhs => rw [← S.map_delayMs_lines h]
    rw [List.count, List.countP_map, List.countP_eq_length_filter]
    simp [Function.comp_def, Bool.beq_eq_decide_eq]
  obtain ⟨x, hx⟩ := List.length_eq_one.mp hlen
  have hlx : l ∈ (List.zipWith S.lineOf ds bs).filter (·.delayMs = d) :=
    List.mem_filter.mpr ⟨hl, by simpa using hld⟩
  rw [hx, List.mem_singleton] at hlx
  rw [hx, hlx]

theorem frac_of_mem_lines {ds : List ℕ} {bs : List (List StaleRecord)} {l : StaleLine}
    (hl : l ∈ List.zipWith S.lineOf ds bs) :
    l.total = S.trials ∧ l.frac = (l.staleCount : ℚ) / max S.trials 1 := by
  induction ds generalizing bs with
  | nil => simp at hl
  | cons d ds ih =>
    cases bs with
    | nil => simp at hl
    | cons b bs =>
      rcases List.mem_cons.mp hl with rfl | hl
      · exact ⟨rfl, rfl⟩
      · exact ih hl

end Staleness

/-! ## Payloads and stale reads -/

/-- **A fresh read.** With strictly increasing clock readings, two trials never write the same
payload; so a row recorded with `is_stale = 0` comes from a trial whose read found the key with
the payload written in that trial, a value no other trial wrote. -/
theorem stale_zero_reads_own_payload (S : Staleness) (world : ℕ → StaleTrial)
    (hclock : StrictMono fun j => (world j).timeNs) :
    (∀ j j' d d', j ≠ j' → payload d (world j).timeNs ≠ payload d' (world j').timeNs) ∧
    ∀ rows, (runStaleness S world).csv = some rows → ∀ row ∈ rows, row.isStale = 0 →
      ∃ j r, S.trial row.delayMs (world j) = .ok row ∧ (world j).get = .ok r ∧
        r.found = true ∧ r.value = some (payload row.delayMs (world j).timeNs) ∧
        ∀ j', j' ≠ j → ∀ d', r.value ≠ some (payload d' (world j').timeNs) := by
  have hdistinct :
      ∀ j j' d d', j ≠ j' → payload d (world j).timeNs ≠ payload d' (world j').timeNs :=
    fun j j' d d' hne h => hne (hclock.injective (payload_injective h).2)
  refine ⟨hdistinct, fun rows hrows row hrow hstale => ?_⟩
  obtain ⟨bs, hbs, rfl, -⟩ := S.runStaleness_csv world hrows
  obtain ⟨b, hb, hrow⟩ := List.mem_flatten.mp hrow
  obtain ⟨d, -, -, hall⟩ := exists_of_forall₂_of_mem (S.blocksFrom_ok world hbs) hb
  obtain ⟨rfl, j, hj⟩ := hall row hrow
  obtain ⟨-, node, r, -, hget, hrec⟩ := S.trial_eq_ok.mp hj
  have hz := (congrArg StaleRecord.isStale hrec).symm.trans hstale
  obtain ⟨hfound, hval⟩ := isStaleOf_eq_zero.mp hz
  refine ⟨j, r, hj, hget, hfound, hval, fun j' hj' d' h => ?_⟩
  exact hdistinct j j' _ _ (Ne.symm hj') (Option.some.inj (hval.symm.trans h))

/-- The probe on one node, with one delay of 0 ms and two trials. -/
def twoTrials : Staleness := ⟨["node-a"], [0], 2⟩

/-- A clock that ticks once per trial, and a store that always returns the latest payload. -/
def tickingWorld : ℕ → StaleTrial := fun j => ⟨j, none, 0, .ok ⟨true, some (payload 0 j), []⟩⟩

/-- A clock that reads 5 ns at every trial, and a store that always returns the payload of
delay 0 at 5 ns. -/
def collisionWorld : ℕ → StaleTrial := fun _ => ⟨5, none, 0, .ok ⟨true, some (payload 0 5), []⟩⟩

/-- Two trials of delay 0 under a clock that does not advance write the same payload: the second
read is recorded fresh although the value it returned is also the one the first trial left. -/
theorem stale_payload_collision :
    Monotone (fun j => (collisionWorld j).timeNs) ∧
    payload 0 (collisionWorld 0).timeNs = payload 0 (collisionWorld 1).timeNs ∧
    (runStaleness ⟨["node-a"], [0], 2⟩ collisionWorld).csv =
      some [⟨0, "node-a", 0⟩, ⟨0, "node-a", 0⟩] :=
  ⟨fun _ _ _ => le_rfl, rfl, by
    simp [runStaleness, Staleness.delayLoop, Staleness.trialLoop, Staleness.trial, collisionWorld,
      isStaleOf, pyChoice, Except.mapError]⟩

/-! ## The plot of the CSV -/

theorem staleRowOf_cells (r : StaleRecord) :
    staleRowOf (dictRow ["delay_ms", "read_node", "is_stale"]
      [pyStr r.delayMs, r.readNode, pyStr r.isStale]) = some (r.delayMs, r.isStale) := by
  simp [staleRowOf, dictRow, dictSet, cell, List.lookup]

/-- The points `_plot_staleness` computes from the delays and flags of the rows. -/
def stalePoints (rows : List StaleRecord) : List (ℕ × ℚ) :=
  (((groupBy Prod.fst Prod.snd (rows.map fun r => (r.delayMs, r.isStale))).insertionSort
    fun a b => a.1 ≤ b.1).filter (!·.2.isEmpty)).map fun g => (g.1, (g.2.sum : ℚ) / g.2.length)

/-- `_plot_staleness` reads back the delay and the flag of every row `run_staleness` wrote. -/
theorem plotStaleness_staleCsvFile (rows : List StaleRecord) :
    plotStaleness (staleCsvFile rows) = some (stalePoints rows) := by
  simp only [plotStaleness, staleCsvFile, CsvFile.dictRows]
  rw [List.filter_eq_self.mpr (by simp), List.map_map, Function.comp_def,
    mapM_option_map staleRowOf_cells]
  rfl

/-- The point of delay `d` is plotted exactly when a row has delay `d`, at the mean flag of those
rows. -/
theorem mem_stalePoints {rows : List StaleRecord} {d : ℕ} {q : ℚ} :
    (d, q) ∈ stalePoints rows ↔
      (∃ r ∈ rows, r.delayMs = d) ∧
        q = (((rows.filter (·.delayMs = d)).map (·.isStale)).sum : ℕ) /
          ((rows.filter (·.delayMs = d)).length : ℕ) := by
  have hperm := List.perm_insertionSort (fun a b : ℕ × List ℕ => a.1 ≤ b.1)
    (groupBy Prod.fst Prod.snd (rows.map fun r => (r.delayMs, r.isStale)))
  simp only [stalePoints, List.mem_map, List.mem_filter, hperm.mem_iff, Prod.exists,
    Prod.mk.injEq, mem_groupBy, List.filter_map, List.map_map, Function.comp_def, List.length_map]
  constructor
  · rintro ⟨k, vs, ⟨⟨⟨x, y, ⟨r, hr, rfl, rfl⟩, rfl⟩, rfl⟩, -⟩, rfl, rfl⟩
    exact ⟨⟨r, hr, rfl⟩, by rw [List.length_map]⟩
  · rintro ⟨⟨r, hr, rfl⟩, rfl⟩
    refine ⟨r.delayMs, _, ⟨⟨⟨_, _, ⟨r, hr, rfl, rfl⟩, rfl⟩, rfl⟩, ?_⟩, rfl, by rw [List.length_map]⟩
    simpa using ⟨r, hr, rfl⟩

/-! ## The plot against the text file -/

/-- **The plot and the text file agree.** For a run that writes its CSV, with at least one trial
per delay, `_plot_staleness` plots, for each delay `d` of the run, one point: the stale
reads over the trials of all the iterations with delay `d`. When `d` occurs once among the
delays, that is the fraction the text file gives for `d`. -/
theorem plot_staleness_matches_summary (S : Staleness) (world : ℕ → StaleTrial)
    (htrials : 1 ≤ S.trials) (rows : List StaleRecord)
    (hrows : (runStaleness S world).csv = some rows) :
    ∃ pts, plotStaleness (staleCsvFile rows) = some pts ∧ ∀ d ∈ S.delays,
      (∀ q, (d, q) ∈ pts ↔
        q = ((((runStaleness S world).lines.filter (·.delayMs = d)).map (·.staleCount)).sum : ℕ) /
          ((((runStaleness S world).lines.filter (·.delayMs = d)).map (·.total)).sum : ℕ)) ∧
      (S.delays.count d = 1 →
        ∀ l ∈ (runStaleness S world).lines, l.delayMs = d → (d, l.frac) ∈ pts) := by
  obtain ⟨bs, hbs, rfl, hlines⟩ := S.runStaleness_csv world hrows
  have hF : List.Forall₂ (fun d b => b.length = S.trials ∧
      ∀ r ∈ b, r.delayMs = d ∧ r.isStale ≤ 1) S.delays bs :=
    (S.blocksFrom_ok world hbs).imp fun d b hb => ⟨hb.1, fun r hr => ⟨(hb.2 r hr).1, by
      obtain ⟨j, hj⟩ := (hb.2 r hr).2
      obtain ⟨-, node, x, -, -, rfl⟩ := S.trial_eq_ok.mp hj
      exact isStaleOf_le_one _ _⟩⟩
  refine ⟨_, plotStaleness_staleCsvFile _, fun d hd => ?_⟩
  obtain ⟨hsum, hlen⟩ := S.rows_of_delay hF d
  have hex : ∃ r ∈ bs.flatten, r.delayMs = d := by
    obtain ⟨b, hb, hblen, hball⟩ := exists_of_forall₂_of_mem hF.flip hd
    obtain ⟨r, hr⟩ := List.exists_mem_of_length_pos (hblen ▸ htrials)
    exact ⟨r, List.mem_flatten.mpr ⟨b, hb, hr⟩, (hball r hr).1⟩
  rw [hlines]
  refine ⟨fun q => ?_, fun hcount l hl hld => ?_⟩
  · rw [mem_stalePoints, hsum, hlen]
    exact ⟨fun h => h.2, fun h => ⟨hex, h⟩⟩
  · have hone := S.filter_lines_eq_singleton hF.length_eq hcount hl hld
    obtain ⟨htot, hfrac⟩ := S.frac_of_mem_lines hl
    rw [mem_stalePoints, hsum, hlen, hone]
    refine ⟨hex, ?_⟩
    simp [hfrac, htot, max_eq_left (by exact_mod_cast htrials : (1 : ℚ) ≤ S.trials)]

theorem runStaleness_twoTrials_ticking :
    (runStaleness twoTrials tickingWorld).csv = some [⟨0, "node-a", 0⟩, ⟨0, "node-a", 0⟩] := by
  simp [runStaleness, twoTrials, Staleness.delayLoop, Staleness.trialLoop, Staleness.trial,
    tickingWorld, isStaleOf, pyChoice, Except.mapError]

theorem plot_staleness_matches_summary_ticking :
    ∃ pts, plotStaleness (staleCsvFile [⟨0, "node-a", 0⟩, ⟨0, "node-a", 0⟩]) = some pts ∧
      ∀ d ∈ twoTrials.delays,
        (∀ q, (d, q) ∈ pts ↔
          q = ((((runStaleness twoTrials tickingWorld).lines.filter (·.delayMs = d)).map
              (·.staleCount)).sum : ℕ) /
            ((((runStaleness twoTrials tickingWorld).lines.filter (·.delayMs = d)).map
              (·.total)).sum : ℕ)) ∧
        (twoTrials.delays.count d = 1 →
          ∀ l ∈ (runStaleness twoTrials tickingWorld).lines, l.delayMs = d → (d, l.frac) ∈ pts) :=
  plot_staleness_matches_summary twoTrials tickingWorld (by decide) _ runStaleness_twoTrials_ticking

end DynLiteExperiments

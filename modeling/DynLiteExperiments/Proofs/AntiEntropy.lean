import DynLiteExperiments.AntiEntropy
import DynLiteExperiments.Proofs.Staleness

/-!
# Proofs: one record per pair of nodes, and no containment of failures

The nested loop `for i in range(n): for j in range(i + 1, n)` of `run_anti_entropy` runs over
`pairIndices n`; read through the node list, it is the list `orderedPairs names` of the pairs of
names in the order of the list (`map_pairIndices`), which has `n choose 2` elements, each unordered
pair of distinct names exactly once when the names are distinct (`countP_orderedPairs`).

The snapshot loop holds every node's root when no fetch raises (`foldlM_rootStep_ok`), so an
iteration returns the records `(orderedPairs names).map (aeRecord t root)` (`sample_eq`); what
these records must satisfy is `IterationSpec`. A run is settled iteration by iteration
(`observe_ok`, `observe_isOk_iff`). A fetch that raises is not caught: it ends the whole probe,
and the CSV is written exactly when no call of the run raises (`runAntiEntropy_csv_isSome_iff`);
the same holds of `run_staleness` (`Staleness.runStaleness_csv_isSome_iff`).
-/

namespace DynLiteExperiments

/-! ## Pairs in loop order -/

section Pairs

variable {α β : Type*}

/-- The pairs `(l[i], l[j])` with `i < j`, in the order of the nested loop. -/
def orderedPairs : List α → List (α × α)
  | [] => []
  | a :: l => l.map (a, ·) ++ orderedPairs l

theorem mem_pairIndices {n i j : ℕ} : (i, j) ∈ pairIndices n ↔ i < j ∧ j < n := by
  simp only [pairIndices, List.mem_flatMap, List.mem_range, List.mem_map, List.mem_range'_1,
    Prod.mk.injEq]
  constructor
  · rintro ⟨i, hi, j, hj, rfl, rfl⟩
    omega
  · rintro ⟨hij, hj⟩
    exact ⟨i, by omega, j, by omega, rfl, rfl⟩

/-- The nested loop over `n + 1` nodes: the pairs of node 0, then those of the other `n` nodes. -/
theorem pairIndices_succ (n : ℕ) :
    pairIndices (n + 1) = (List.range n).map (fun j => (0, j + 1)) ++
      (pairIndices n).map (Prod.map Nat.succ Nat.succ) := by
  simp only [pairIndices, List.range_succ_eq_map, List.flatMap_cons, List.map_flatMap,
    List.flatMap_map, List.map_map]
  congr 1
  · rw [List.range'_eq_map_range, List.map_map]
    simp [Function.comp_def, add_comm]
  · congr 1
    funext i
    rw [show n + 1 - (i.succ + 1) = n - (i + 1) by omega, show i.succ + 1 = 1 + (i + 1) by omega,
      ← List.map_add_range', List.map_map]
    simp [Function.comp_def, add_comm]

theorem map_range_getElem? (l : List α) (g : Option α → β) :
    (List.range l.length).map (fun j => g l[j]?) = l.map fun a => g (some a) := by
  induction l with
  | nil => rfl
  | cons a l ih => simp [List.range_succ_eq_map, ← ih]

/-- Read through the list `l`, the index pairs of the nested loop are `orderedPairs l`. -/
theorem map_pairIndices (l : List α) (f : Option α → Option α → β) :
    (pairIndices l.length).map (fun ij => f l[ij.1]? l[ij.2]?) =
      (orderedPairs l).map fun p => f (some p.1) (some p.2) := by
  induction l with
  | nil => rfl
  | cons a l ih =>
    simp only [List.length_cons, pairIndices_succ, List.map_append, List.map_map, orderedPairs,
      Function.comp_def, Prod.map, List.getElem?_cons_succ, List.getElem?_cons_zero, ih,
      map_range_getElem?]

theorem length_orderedPairs (l : List α) : (orderedPairs l).length = l.length.choose 2 := by
  induction l with
  | nil => rfl
  | cons a l ih => simp [orderedPairs, ih, Nat.choose_succ_succ, add_comm]

/-- Over distinct elements, a pair is of two elements of the list, and never of one with itself. -/
theorem mem_orderedPairs {l : List α} (hl : l.Nodup) {p : α × α} (h : p ∈ orderedPairs l) :
    p.1 ∈ l ∧ p.2 ∈ l ∧ p.1 ≠ p.2 := by
  induction l with
  | nil => cases h
  | cons a l ih =>
    obtain ⟨ha, hl⟩ := List.nodup_cons.mp hl
    rcases List.mem_append.mp h with h | h
    · obtain ⟨b, hb, rfl⟩ := List.mem_map.mp h
      exact ⟨List.mem_cons_self _ _, List.mem_cons_of_mem _ hb, (ne_of_mem_of_not_mem hb ha).symm⟩
    · obtain ⟨h1, h2, hne⟩ := ih hl h
      exact ⟨List.mem_cons_of_mem _ h1, List.mem_cons_of_mem _ h2, hne⟩

/-- Over distinct elements, each unordered pair of two of them is met exactly once. -/
theorem countP_orderedPairs [DecidableEq α] {l : List α} (hl : l.Nodup) {a b : α} (ha : a ∈ l)
    (hb : b ∈ l) (hab : a ≠ b) :
    (orderedPairs l).countP (fun p => p = (a, b) ∨ p = (b, a)) = 1 := by
  induction l with
  | nil => cases ha
  | cons x l ih =>
    obtain ⟨hx, hnd⟩ := List.nodup_cons.mp hl
    have hzero : ∀ c ∉ l, c = a ∨ c = b →
        (orderedPairs l).countP (fun p => p = (a, b) ∨ p = (b, a)) = 0 := fun c hc hcab =>
      List.countP_eq_zero.mpr fun p hp => by
        obtain ⟨h1, h2, -⟩ := mem_orderedPairs hnd hp
        rw [decide_eq_true_eq]
        rcases hcab with rfl | rfl <;> rintro (rfl | rfl) <;> contradiction
    simp only [orderedPairs, List.countP_append, List.countP_map]
    rcases List.mem_cons.mp ha with rfl | hal <;> rcases List.mem_cons.mp hb with rfl | hbl
    · exact absurd rfl hab
    · rw [hzero _ hx (.inl rfl)]
      simpa [Function.comp_def, hab, Ne.symm hab] using List.count_eq_one_of_mem hnd hbl
    · rw [hzero _ hx (.inr rfl)]
      simpa [Function.comp_def, hab, Ne.symm hab] using List.count_eq_one_of_mem hnd hal
    · have hxa : x ≠ a := (ne_of_mem_of_not_mem hal hx).symm
      have hxb : x ≠ b := (ne_of_mem_of_not_mem hbl hx).symm
      rw [ih hnd hal hbl]
      simp [Function.comp_def, hxa, hxb]

end Pairs

/-! ## The records of one iteration -/

/-- The record is about the unordered pair of nodes `{a, b}`. -/
def AeRecord.links (r : AeRecord) (a b : String) : Prop :=
  r.nodeA = a ∧ r.nodeB = b ∨ r.nodeA = b ∧ r.nodeB = a

instance (r : AeRecord) (a b : String) : Decidable (r.links a b) :=
  inferInstanceAs (Decidable (r.nodeA = a ∧ r.nodeB = b ∨ r.nodeA = b ∧ r.nodeB = a))

/-- The record of the pair of nodes `p` at offset `t`, when node `n`'s root is `root n`. -/
def aeRecord (t : ℚ) (root : String → Json) (p : String × String) : AeRecord :=
  ⟨t, p.1, p.2, root p.1, root p.2, if (root p.1).pyEq (root p.2) then 1 else 0⟩

/-- What one sampling iteration over the nodes `names` must append, at offset `t` and with node
`n`'s root `root n`. -/
structure IterationSpec (names : List String) (t : ℚ) (root : String → Json)
    (recs : List AeRecord) : Prop where
  /-- `k * (k - 1) / 2` records for `k` nodes. -/
  length_eq : recs.length = names.length * (names.length - 1) / 2
  /-- Each unordered pair of distinct nodes has exactly one record. -/
  pair_once : ∀ a ∈ names, ∀ b ∈ names, a ≠ b → recs.countP (fun r => r.links a b) = 1
  /-- Each record pairs two distinct nodes of the cluster. -/
  nodes : ∀ r ∈ recs, r.nodeA ∈ names ∧ r.nodeB ∈ names ∧ r.nodeA ≠ r.nodeB
  /-- Each record carries the iteration's offset and the one root fetched for each of its nodes. -/
  roots : ∀ r ∈ recs, r.tOffsetS = t ∧ r.rootA = root r.nodeA ∧ r.rootB = root r.nodeB
  /-- `in_sync = int(root_a == root_b)`. -/
  inSync : ∀ r ∈ recs, r.inSync = if r.rootA.pyEq r.rootB then 1 else 0
  /-- Within the iteration, being in sync is transitive. -/
  trans : ∀ a b c, ∀ r₁ ∈ recs, ∀ r₂ ∈ recs, ∀ r₃ ∈ recs, r₁.links a b → r₂.links b c →
    r₃.links a c → r₁.inSync = 1 → r₂.inSync = 1 → r₃.inSync = 1

theorem links_aeRecord {t : ℚ} {root : String → Json} {p : String × String} {a b : String} :
    (aeRecord t root p).links a b ↔ p = (a, b) ∨ p = (b, a) := by
  obtain ⟨x, y⟩ := p
  simp [aeRecord, AeRecord.links]

theorem inSync_aeRecord_of_links {t : ℚ} {root : String → Json} {p : String × String}
    {a b : String} (h : (aeRecord t root p).links a b) :
    (aeRecord t root p).inSync = 1 ↔ (root a).pyEq (root b) = true := by
  rcases links_aeRecord.mp h with rfl | rfl
  · simp [aeRecord]
  · simp [aeRecord, Json.pyEq_comm (root b)]

/-- The records of every pair of distinct nodes meet the specification of an iteration. -/
theorem iterationSpec_aeRecords {names : List String} (hnd : names.Nodup) (t : ℚ)
    (root : String → Json) :
    IterationSpec names t root ((orderedPairs names).map (aeRecord t root)) where
  length_eq := by rw [List.length_map, length_orderedPairs, Nat.choose_two_right]
  pair_once a ha b hb hab := by
    simpa only [List.countP_map, Function.comp_def, links_aeRecord]
      using countP_orderedPairs hnd ha hb hab
  nodes r hr := by
    obtain ⟨p, hp, rfl⟩ := List.mem_map.mp hr
    exact mem_orderedPairs hnd hp
  roots r hr := by
    obtain ⟨p, -, rfl⟩ := List.mem_map.mp hr
    exact ⟨rfl, rfl, rfl⟩
  inSync r hr := by
    obtain ⟨p, -, rfl⟩ := List.mem_map.mp hr
    rfl
  trans a b c r₁ h₁ r₂ h₂ r₃ h₃ l₁ l₂ l₃ s₁ s₂ := by
    obtain ⟨p₁, -, rfl⟩ := List.mem_map.mp h₁
    obtain ⟨p₂, -, rfl⟩ := List.mem_map.mp h₂
    obtain ⟨p₃, -, rfl⟩ := List.mem_map.mp h₃
    exact (inSync_aeRecord_of_links l₃).mpr
      (Json.pyEq_trans ((inSync_aeRecord_of_links l₁).mp s₁) ((inSync_aeRecord_of_links l₂).mp s₂))

/-! ## The snapshot loop and one iteration -/

namespace AntiEntropy

variable (A : AntiEntropy) {fetch : String → Except ClientError Json}

theorem rootStep_eq_ok {roots roots' : List (String × Json)} {name : String} :
    rootStep fetch roots name = .ok roots' ↔
      ∃ snap : Snapshot, fetch name = .ok snap.body ∧ roots' = dictSet roots name snap.root := by
  unfold rootStep
  cases fetch name with
  | error e => exact ⟨nofun, fun ⟨_, h, _⟩ => nomatch h⟩
  | ok body =>
    cases body
    case dict items =>
      simp only [Except.mapError, except_ok_bind, except_pure, Except.ok.injEq]
      exact ⟨fun h' => ⟨⟨items⟩, rfl, h'.symm⟩, fun ⟨⟨_⟩, h₁, h₂⟩ => by cases h₁; exact h₂.symm⟩
    all_goals exact ⟨nofun, fun ⟨_, h, _⟩ => nomatch h⟩

/-- When every fetch returns a dict, the snapshot loop sets the root of every node it visits and
leaves the other entries as they were. -/
theorem foldlM_rootStep_ok {names : List String} {snaps : String → Snapshot}
    (hf : ∀ n ∈ names, fetch n = .ok (snaps n).body) (acc : List (String × Json)) :
    ∃ roots, names.foldlM (rootStep fetch) acc = .ok roots ∧
      ∀ n, roots.lookup n = if n ∈ names then some (snaps n).root else acc.lookup n := by
  induction names generalizing acc with
  | nil => exact ⟨acc, rfl, fun n => rfl⟩
  | cons a names ih =>
    obtain ⟨roots, hroots, hlook⟩ :=
      ih (fun n hn => hf n (List.mem_cons_of_mem _ hn)) (dictSet acc a (snaps a).root)
    have hstep : rootStep fetch acc a = .ok (dictSet acc a (snaps a).root) :=
      rootStep_eq_ok.mpr ⟨_, hf a (List.mem_cons_self _ _), rfl⟩
    refine ⟨roots, by rw [List.foldlM_cons, hstep, except_ok_bind, hroots], fun n => ?_⟩
    rw [hlook, lookup_dictSet]
    by_cases hn : n ∈ names <;> by_cases hna : n = a <;> simp [hn, hna]

/-- A fetch that raises, or returns a body that is not a dict, makes the snapshot loop raise. -/
theorem foldlM_rootStep_error {names : List String} {n : String} (hn : n ∈ names)
    (he : ∀ snap : Snapshot, fetch n ≠ .ok snap.body) (acc : List (String × Json)) :
    ∃ e', names.foldlM (rootStep fetch) acc = .error e' := by
  induction names generalizing acc with
  | nil => cases hn
  | cons a names ih =>
    rw [List.foldlM_cons]
    cases h : rootStep fetch acc a with
    | error e' => exact ⟨e', rfl⟩
    | ok acc' =>
      obtain ⟨snap, hsnap, -⟩ := rootStep_eq_ok.mp h
      rcases List.mem_cons.mp hn with rfl | hn
      · exact absurd hsnap (he snap)
      · exact ih hn acc'

/-- With every node's root in the dict, the pair loop appends the record of every pair, in loop
order, and raises neither `IndexError` nor `KeyError`. -/
theorem pairRecords_eq {roots : List (String × Json)} {root : String → Json}
    (hr : ∀ n ∈ A.nodeNames, roots.lookup n = some (root n)) (t : ℚ) :
    A.pairRecords roots t = .ok ((orderedPairs A.nodeNames).map (aeRecord t root)) := by
  have h := map_pairIndices A.nodeNames fun a b => aeRecord t root (a.getD "", b.getD "")
  simp only [Option.getD_some] at h
  rw [pairRecords, mapM_except_ok, h]
  rintro ⟨i, j⟩ hij
  obtain ⟨hij, hj⟩ := mem_pairIndices.mp hij
  have hi : i < A.nodeNames.length := hij.trans hj
  simp [List.getElem?_eq_getElem hi, List.getElem?_eq_getElem hj, hr _ (List.getElem_mem hi),
    hr _ (List.getElem_mem hj), aeRecord]

/-- An iteration in which every node's fetch returns a dict appends the records of every pair. -/
theorem sample_eq {snaps : String → Snapshot} {s : AeSample}
    (hf : ∀ n ∈ A.nodeNames, s.fetch n = .ok (snaps n).body) (startTime : ℚ) :
    A.sample startTime s =
      .ok ((orderedPairs A.nodeNames).map
        (aeRecord (s.tNow - startTime) fun n => (snaps n).root)) := by
  obtain ⟨rs, h, hlook⟩ := foldlM_rootStep_ok hf []
  rw [sample, AntiEntropy.roots, h, except_ok_bind,
    A.pairRecords_eq fun n hn => by rw [hlook, if_pos hn]]

/-- An iteration gets through exactly when every node's fetch returns a dict. -/
theorem sample_isOk_iff {s : AeSample} (startTime : ℚ) :
    (∃ recs, A.sample startTime s = .ok recs) ↔
      ∀ n ∈ A.nodeNames, ∃ snap : Snapshot, s.fetch n = .ok snap.body := by
  refine ⟨fun ⟨recs, h⟩ n hn => ?_, fun hf => ?_⟩
  · by_contra hne
    obtain ⟨e', he'⟩ := foldlM_rootStep_error hn (fun snap hs => hne ⟨snap, hs⟩) []
    rw [sample, AntiEntropy.roots, he', except_error_bind] at h
    cases h
  · choose! snaps hsnaps using hf
    exact ⟨_, A.sample_eq hsnaps _⟩

/-! ## The observation loop -/

/-- A loop whose iterations before `end_time` all return appends their records in order. -/
theorem observe_ok {startTime : ℚ} {F : AeSample → List AeRecord} {ss : List AeSample}
    (h : ∀ s ∈ ss.takeWhile (·.now < startTime + A.observationSeconds),
      A.sample startTime s = .ok (F s)) (recs : List AeRecord) :
    A.observe startTime ss recs =
      .ok (recs ++ (ss.takeWhile (·.now < startTime + A.observationSeconds)).flatMap F) := by
  induction ss generalizing recs with
  | nil => simp [observe]
  | cons s ss ih =>
    by_cases hs : s.now < startTime + A.observationSeconds
    · rw [List.takeWhile_cons_of_pos (by simpa using hs)] at h ⊢
      rw [observe, if_pos hs, h s (List.mem_cons_self _ _), except_ok_bind,
        ih (fun s' hs' => h s' (List.mem_cons_of_mem _ hs'))]
      simp
    · simp [observe, hs, List.takeWhile_cons_of_neg]

/-- The loop gets through exactly when every iteration before `end_time` does. -/
theorem observe_isOk_iff {startTime : ℚ} {ss : List AeSample} (recs : List AeRecord) :
    (∃ out, A.observe startTime ss recs = .ok out) ↔
      ∀ s ∈ ss.takeWhile (·.now < startTime + A.observationSeconds),
        ∃ new, A.sample startTime s = .ok new := by
  induction ss generalizing recs with
  | nil => simp [observe]
  | cons s ss ih =>
    by_cases hs : s.now < startTime + A.observationSeconds
    · rw [observe, if_pos hs, List.takeWhile_cons_of_pos (by simpa using hs), List.forall_mem_cons]
      cases A.sample startTime s <;> simp [ih]
    · simp [observe, hs, List.takeWhile_cons_of_neg]

end AntiEntropy

/-! ## Runs -/

/-- `run_anti_entropy` writes its CSV exactly when no `put` of the burst raises and every snapshot
fetch of an iteration before `end_time` returns a dict. -/
theorem runAntiEntropy_csv_isSome_iff (A : AntiEntropy) (w : AeWorld) :
    (runAntiEntropy A w).csv.isSome ↔ (∀ i < A.writeBurstKeys, w.burstError i = none) ∧
      ∀ s ∈ w.samples.takeWhile (·.now < w.startTime + A.observationSeconds),
        ∀ n ∈ A.nodeNames, ∃ snap : Snapshot, s.fetch n = .ok snap.body := by
  simp only [← A.sample_isOk_iff w.startTime, ← A.observe_isOk_iff [], ← findSome?_range_eq_none]
  unfold runAntiEntropy
  cases (List.range A.writeBurstKeys).findSome? w.burstError with
  | some e => simp
  | none => cases A.observe w.startTime w.samples [] <;> simp

/-- A run in which no call raises and every snapshot is a dict writes, iteration after iteration,
the records of every pair of nodes with the roots fetched in that iteration. -/
theorem runAntiEntropy_csv (A : AntiEntropy) (w : AeWorld)
    (hburst : ∀ i < A.writeBurstKeys, w.burstError i = none) (snaps : AeSample → String → Snapshot)
    (hf : ∀ s ∈ w.samples.takeWhile (·.now < w.startTime + A.observationSeconds),
      ∀ n ∈ A.nodeNames, s.fetch n = .ok (snaps s n).body) :
    (runAntiEntropy A w).csv = some ((w.samples.takeWhile
      (·.now < w.startTime + A.observationSeconds)).flatMap fun s =>
        (orderedPairs A.nodeNames).map
          (aeRecord (s.tNow - w.startTime) fun n => (snaps s n).root)) := by
  rw [runAntiEntropy, findSome?_range_eq_none.mpr hburst,
    A.observe_ok (fun s hs => A.sample_eq (hf s hs) _)]
  rfl

/-! ## One iteration, the probe's failures, and the CSV -/

/-- **One record per pair.** In an iteration in which every node's fetch returns a dict, the
records are those `IterationSpec` describes, with `in_sync` transitive; inside the observation
window the loop appends exactly them and goes on. -/
theorem iteration_records_each_pair (A : AntiEntropy) (hnd : A.nodeNames.Nodup) (startTime : ℚ)
    (s : AeSample) (snaps : String → Snapshot)
    (hf : ∀ n ∈ A.nodeNames, s.fetch n = .ok (snaps n).body) :
    ∃ recs, A.sample startTime s = .ok recs ∧
      IterationSpec A.nodeNames (s.tNow - startTime) (fun n => (snaps n).root) recs ∧
      (s.now < startTime + A.observationSeconds → ∀ ss prev,
        A.observe startTime (s :: ss) prev = A.observe startTime ss (prev ++ recs)) :=
  ⟨_, A.sample_eq hf startTime, iterationSpec_aeRecords hnd _ _, fun hs ss prev => by
    rw [AntiEntropy.observe, if_pos hs, A.sample_eq hf startTime, except_ok_bind]⟩

/-- Three nodes. -/
def threeNodes : AntiEntropy := { nodeNames := ["node-a", "node-b", "node-c"] }

/-- A snapshot with the given root. -/
def rootSnap (root : String) : Snapshot := ⟨[("rootHashBase64", .str root)]⟩

/-- Nodes a and b hold one root, node c another. -/
def threeSnaps (n : String) : Snapshot := if n = "node-c" then rootSnap "c" else rootSnap "ab"

/-- An iteration at `t_now = 1` in which every fetch returns. -/
def threeSample : AeSample := ⟨1, 1, fun n => .ok (threeSnaps n).body⟩

theorem iteration_records_each_pair_three :
    ∃ recs, threeNodes.sample 0 threeSample = .ok recs ∧
      IterationSpec threeNodes.nodeNames (threeSample.tNow - 0) (fun n => (threeSnaps n).root)
        recs ∧
      (threeSample.now < 0 + threeNodes.observationSeconds → ∀ ss prev,
        threeNodes.observe 0 (threeSample :: ss) prev = threeNodes.observe 0 ss (prev ++ recs)) :=
  iteration_records_each_pair threeNodes (by decide) 0 threeSample threeSnaps fun _ _ => rfl

/-- The first `put` of the staleness probe raises; the later trials would complete. -/
def putFailsFirst (j : ℕ) : StaleTrial :=
  if j = 0 then { tickingWorld j with putError := some .transport } else tickingWorld j

/-- Two nodes. -/
def twoNodes : AntiEntropy := { nodeNames := ["node-a", "node-b"] }

/-- An iteration at time `t` in which both nodes return the root `"r"`. -/
def okSample (t : ℚ) : AeSample := ⟨t, t, fun _ => .ok (rootSnap "r").body⟩

/-- An iteration at time 1 in which the fetch from node b raises. -/
def failSample : AeSample :=
  ⟨1, 1, fun n => if n = "node-b" then .error .transport else .ok (rootSnap "r").body⟩

/-- Three iterations within the window; in the second, the fetch from node b raises. -/
def fetchFailsOnce : AeWorld := ⟨fun _ => none, 0, [okSample 0, failSample, okSample 2]⟩

/-- A remote call that raises inside the loop of `run_staleness` or `run_anti_entropy` is not
contained: the probe raises and writes no CSV, losing the records of the trials and iterations
that completed before and would have completed after it. -/
theorem failed_call_aborts_probe :
    (∃ r, twoTrials.trial 0 (putFailsFirst 1) = .ok r) ∧
      runStaleness twoTrials putFailsFirst = ⟨[], none, some (.client .transport)⟩ ∧
    twoNodes.sample 0 (okSample 0) = .ok [⟨0, "node-a", "node-b", .str "r", .str "r", 1⟩] ∧
      runAntiEntropy twoNodes fetchFailsOnce = ⟨none, some (.client .transport)⟩ := by
  have hok : twoNodes.sample 0 (okSample 0) =
      .ok [⟨0, "node-a", "node-b", .str "r", .str "r", 1⟩] := by
    rw [twoNodes.sample_eq (fun _ _ => rfl : ∀ n ∈ twoNodes.nodeNames,
      (okSample 0).fetch n = .ok (rootSnap "r").body)]
    simp [twoNodes, orderedPairs, aeRecord, rootSnap, Snapshot.root, dictGet, okSample]
  have hfail : twoNodes.sample 0 failSample = .error (.client .transport) := rfl
  refine ⟨⟨_, rfl⟩, rfl, hok, ?_⟩
  rw [runAntiEntropy,
    findSome?_range_eq_none.mpr fun _ _ => (rfl : fetchFailsOnce.burstError _ = _)]
  simp only [fetchFailsOnce, AntiEntropy.observe, hok, hfail]
  norm_num [okSample, failSample, twoNodes, config]

/-- **No partial CSV.** `run_staleness` writes its CSV exactly when no trial raises, and
`run_anti_entropy` exactly when no `put` of the burst raises and every fetch of an iteration
returns a dict. -/
theorem csv_written_iff_no_call_raises :
    (∀ (S : Staleness) (world : ℕ → StaleTrial),
      (runStaleness S world).csv.isSome ↔ ∀ p : Fin S.delays.length, ∀ j < S.trials,
        ∃ r, S.trial (S.delays.get p) (world (p * S.trials + j)) = .ok r) ∧
    ∀ (A : AntiEntropy) (w : AeWorld),
      (runAntiEntropy A w).csv.isSome ↔ (∀ i < A.writeBurstKeys, w.burstError i = none) ∧
        ∀ s ∈ w.samples.takeWhile (·.now < w.startTime + A.observationSeconds),
          ∀ n ∈ A.nodeNames, ∃ snap : Snapshot, s.fetch n = .ok snap.body :=
  ⟨fun S world => S.runStaleness_csv_isSome_iff world, runAntiEntropy_csv_isSome_iff⟩

/-- **The anti-entropy CSV.** When no call raises and every snapshot is a dict, the CSV holds,
iteration after iteration until `end_time`, the record of every pair of nodes with the roots
fetched in that iteration. -/
theorem run_anti_entropy_records (A : AntiEntropy) (w : AeWorld)
    (hburst : ∀ i < A.writeBurstKeys, w.burstError i = none) (snaps : AeSample → String → Snapshot)
    (hf : ∀ s ∈ w.samples.takeWhile (·.now < w.startTime + A.observationSeconds),
      ∀ n ∈ A.nodeNames, s.fetch n = .ok (snaps s n).body) :
    (runAntiEntropy A w).csv = some ((w.samples.takeWhile
      (·.now < w.startTime + A.observationSeconds)).flatMap fun s =>
        (orderedPairs A.nodeNames).map
          (aeRecord (s.tNow - w.startTime) fun n => (snaps s n).root)) :=
  runAntiEntropy_csv A w hburst snaps hf

/-- Two iterations in which both nodes return the root `"r"`. -/
def steadyWorld : AeWorld := ⟨fun _ => none, 0, [okSample 0, okSample 1]⟩

theorem run_anti_entropy_records_steady :
    (runAntiEntropy twoNodes steadyWorld).csv = some ((steadyWorld.samples.takeWhile
      (·.now < steadyWorld.startTime + twoNodes.observationSeconds)).flatMap fun s =>
        (orderedPairs twoNodes.nodeNames).map
          (aeRecord (s.tNow - steadyWorld.startTime) fun _ => (rootSnap "r").root)) :=
  run_anti_entropy_records twoNodes steadyWorld (fun _ _ => rfl) (fun _ _ => rootSnap "r")
    fun s hs _ _ => by
      rcases List.mem_cons.mp ((List.takeWhile_sublist _).subset hs) with rfl | hs
      · rfl
      · rw [List.mem_singleton.mp hs]
        rfl

end DynLiteExperiments

import DynLiteExperiments.Plots

/-!
# Proofs: what the percentile rules read

The element at index `k - 1` of the sorted list is the `k`-th smallest element
(`isKthSmallest_get`), and that element is unique (`IsKthSmallest.unique`). `pct` reads rank
`max 1 ⌊p n⌋` (clamped to `n`), so the plotted points of every group are ordered and lie between
the group's minimum and maximum. The text summaries read rank `n / 2 + 1` for p50 but
`⌊0.95 n⌋` and `⌊0.99 n⌋` for p95 and p99: they agree with the plot on p95 and p99, and on p50
only up to one rank; at `n = 2` their p50 is above their p95.
-/

namespace DynLiteExperiments

variable {α : Type*} [LinearOrder α]

/-! ## Order statistics of a sorted list -/

/-- Entry `i` of a sorted permutation of `L` is the `(i + 1)`-th smallest element of `L`. -/
theorem isKthSmallest_get {L s : List α} (hp : s.Perm L) (hs : s.Sorted (· ≤ ·))
    (i : Fin s.length) : IsKthSmallest L (i + 1) (s.get i) := by
  obtain ⟨x, hx⟩ : ∃ x, s.get i = x := ⟨_, rfl⟩
  have hsplit : s = s.take i ++ x :: s.drop (i + 1) := by
    rw [← hx, List.get_eq_getElem, ← List.drop_eq_getElem_cons, List.take_append_drop]
  have hsort := hs
  rw [hsplit, List.Sorted, List.pairwise_append, List.pairwise_cons] at hsort
  obtain ⟨-, ⟨hge, -⟩, hle⟩ := hsort
  have hlen : (s.take i).length = i := List.length_take_of_le i.2.le
  have hcount : ∀ q : α → Bool, L.countP q = (s.take i).countP q + (x :: s.drop (i + 1)).countP q :=
    fun q => by rw [← hp.countP_eq, ← List.countP_append, ← hsplit]
  have hxle : ∀ b ∈ x :: s.drop (i + 1), x ≤ b := List.forall_mem_cons.mpr ⟨le_rfl, hge⟩
  have hbelow : (x :: s.drop (i + 1)).countP (· < x) = 0 :=
    List.countP_eq_zero.mpr fun b hb => by simpa using hxle b hb
  have hprefix : (s.take i).countP (· ≤ x) = i := by
    rw [List.countP_eq_length.mpr fun a ha => by simpa using hle a ha x (List.mem_cons_self _ _),
      hlen]
  have hself : 0 < (x :: s.drop (i + 1)).countP (· ≤ x) :=
    List.countP_pos_iff.mpr ⟨x, List.mem_cons_self _ _, by simp⟩
  rw [hx]
  refine ⟨hp.subset (hx ▸ List.get_mem s i i.2), ?_, ?_⟩
  · have := List.countP_le_length (fun y => decide (y < x)) (l := s.take i)
    rw [hcount, hbelow]
    omega
  · rw [hcount, hprefix]
    omega

/-- There is only one `k`-th smallest element. -/
theorem IsKthSmallest.unique {L : List α} {k : ℕ} {x y : α} (hx : IsKthSmallest L k x)
    (hy : IsKthSmallest L k y) : x = y := by
  by_contra hne
  wlog hlt : x < y generalizing x y
  · exact this hy hx (Ne.symm hne) (lt_of_le_of_ne (not_lt.mp hlt) (Ne.symm hne))
  have : L.countP (· ≤ x) ≤ L.countP (· < y) :=
    List.countP_mono_left fun z _ h => by simpa using lt_of_le_of_lt (by simpa using h) hlt
  have := hx.2.2
  have := hy.2.1
  omega

theorem sorted_get_le {s : List α} (hs : s.Sorted (· ≤ ·)) {i j : Fin s.length}
    (h : i.val ≤ j.val) : s.get i ≤ s.get j :=
  hs.rel_get_of_le h

/-- A list element lies between the list's `min` and `max`. -/
theorem mem_between {L : List α} {x lo hi : α} (hx : x ∈ L) (hlo : L.min? = some lo)
    (hhi : L.max? = some hi) : lo ≤ x ∧ x ≤ hi :=
  ⟨(List.le_min?_iff (fun _ _ _ => le_min_iff) hlo).mp le_rfl x hx,
    (List.max?_le_iff (fun _ _ _ => max_le_iff) hhi).mp le_rfl x hx⟩

/-! ## Reading a sorted copy -/

theorem get_pySorted_mem (L : List α) (i : Fin (pySorted L).length) : (pySorted L).get i ∈ L :=
  (pySorted_perm L).subset (List.get_mem _ i i.2)

theorem get_pySorted_le (L : List α) {i j : Fin (pySorted L).length} (h : i.val ≤ j.val) :
    (pySorted L).get i ≤ (pySorted L).get j :=
  sorted_get_le (pySorted_sorted L) h

theorem isKthSmallest_get_pySorted (L : List α) (i : Fin (pySorted L).length) :
    IsKthSmallest L (i + 1) ((pySorted L).get i) :=
  isKthSmallest_get (pySorted_perm L) (pySorted_sorted L) i

/-- Values read off `L` lie between `min(L)` and `max(L)`. -/
theorem between_of_mem {L ys : List α} (h : ∀ y ∈ ys, y ∈ L) :
    ∀ lo hi, L.min? = some lo → L.max? = some hi → ∀ y ∈ ys, lo ≤ y ∧ y ≤ hi :=
  fun _ _ hlo hhi y hy => mem_between (h y hy) hlo hhi

/-! ## The plot -/

/-- The three plotted points of a nonempty list are ordered and are elements of the list. -/
theorem plotPercentiles_pySorted {L : List α} (hL : L ≠ []) :
    ∃ pc, plotPercentiles (pySorted L) = some pc ∧ pc.p50 ≤ pc.p95 ∧ pc.p95 ≤ pc.p99 ∧
      ∀ y ∈ [pc.p50, pc.p95, pc.p99], y ∈ L := by
  have hs := length_pySorted_pos hL
  refine ⟨_, plotPercentiles_eq hs, get_pySorted_le L ?_, get_pySorted_le L ?_, ?_⟩
  · show _ / 2 - 1 ≤ 95 * _ / 100 - 1
    omega
  · show 95 * _ / 100 - 1 ≤ 99 * _ / 100 - 1
    omega
  · simp only [List.mem_cons, List.mem_singleton, List.not_mem_nil, or_false]
    rintro y (rfl | rfl | rfl) <;> exact get_pySorted_mem L _

/-- The successful latencies of the perf records of group `key`, in order. -/
def groupLatencies (rows : List WorkloadRecord) (key : String × ℕ) : List ℚ :=
  ((rows.filter (·.ok)).filter fun r => (r.workload, r.concurrency) = key).map (·.latencyMs)

/-- The groups the latency plot reads are those with a successful request, each holding the
successful latencies of its records. -/
theorem mem_perfGroups_filter {rows : List WorkloadRecord} {key : String × ℕ} {vs : List ℚ} :
    (key, vs) ∈ (perfGroups rows).filter (!·.2.isEmpty) ↔
      vs = groupLatencies rows key ∧ vs ≠ [] := by
  rw [List.mem_filter, perfGroups, mem_groupBy]
  constructor
  · rintro ⟨⟨-, rfl⟩, hne⟩
    exact ⟨rfl, by simpa using hne⟩
  · rintro ⟨rfl, hne⟩
    obtain ⟨x, hx⟩ := List.exists_mem_of_ne_nil _ hne
    obtain ⟨r, hr, -⟩ := List.mem_map.mp hx
    exact ⟨⟨⟨r, (List.mem_filter.mp hr).1, by simpa using (List.mem_filter.mp hr).2⟩, rfl⟩,
      by simpa using hne⟩

/-- The latency plot has a point for a group exactly when the group has a successful request,
and the point is the plotted percentiles of the group's latencies. -/
theorem mem_plotPerfLatency {rows : List WorkloadRecord} {pts : List ((String × ℕ) × Percentiles ℚ)}
    (h : plotPerfLatency rows = some pts) {key : String × ℕ} {pc : Percentiles ℚ} :
    (key, pc) ∈ pts ↔ groupLatencies rows key ≠ [] ∧
      plotPercentiles (pySorted (groupLatencies rows key)) = some pc := by
  have hf := mapM_option_eq_some_iff.mp h
  constructor
  · intro hmem
    obtain ⟨⟨k, vs⟩, hg, hgpc⟩ := exists_of_mem_mapM_option h hmem
    simp only [Option.map_eq_map, Option.map_eq_some', Prod.mk.injEq] at hgpc
    obtain ⟨pc', hpc', rfl, rfl⟩ := hgpc
    obtain ⟨rfl, hne⟩ := mem_perfGroups_filter.mp hg
    exact ⟨hne, hpc'⟩
  · rintro ⟨hne, hpc⟩
    obtain ⟨b, hb, hfb⟩ := exists_of_forall₂_of_mem hf.flip (mem_perfGroups_filter.mpr ⟨rfl, hne⟩)
    simp only [flip, hpc, Option.map_eq_map, Option.map_some', Option.some.injEq] at hfb
    exact hfb ▸ hb

/-- **`pct` reads the k-th smallest latency.** For `0 ≤ p ≤ 1`, `pct(p)` is the
`min(n, max(1, ⌊p n⌋))`-th smallest latency; so every (workload, concurrency) group with a
successful request gets a point, its p50, p95 and p99 ordered and within the group's range. -/
theorem pct_kth_smallest :
    (∀ L : List α, L ≠ [] → ∀ p : ℚ, 0 ≤ p → p ≤ 1 →
      ∃ x, pct (pySorted L) p = some x ∧
        IsKthSmallest L (min L.length (max 1 ⌊p * L.length⌋₊)) x) ∧
    ∀ rows : List WorkloadRecord, ∃ pts, plotPerfLatency rows = some pts ∧
      ∀ key, (groupLatencies rows key ≠ [] ↔ ∃ pc, (key, pc) ∈ pts) ∧
        ∀ pc, (key, pc) ∈ pts → pc.p50 ≤ pc.p95 ∧ pc.p95 ≤ pc.p99 ∧
          ∀ lo hi, (groupLatencies rows key).min? = some lo →
            (groupLatencies rows key).max? = some hi →
            ∀ y ∈ [pc.p50, pc.p95, pc.p99], lo ≤ y ∧ y ≤ hi := by
  refine ⟨fun L hL p hp0 hp1 => ?_, fun rows => ?_⟩
  · have hs := length_pySorted_pos hL
    have hlt := floor_rank_pred_lt hs hp1
    refine ⟨_, pct_eq hs hp0 hp1, ?_⟩
    convert isKthSmallest_get_pySorted L ⟨_, hlt⟩ using 1
    simp only [Fin.val_mk, length_pySorted] at hlt ⊢
    omega
  · obtain ⟨pts, hpts⟩ :=
      mapM_option_of_isSome (f := fun g => (g.1, ·) <$> plotPercentiles (pySorted g.2))
      (l := (perfGroups rows).filter (!·.2.isEmpty)) fun g hg => by
        obtain ⟨pc, hpc, -⟩ := plotPercentiles_pySorted (by simpa using (List.mem_filter.mp hg).2)
        simp [hpc]
    refine ⟨pts, hpts, fun key => ⟨⟨fun hL => ?_, fun ⟨pc, hmem⟩ => ?_⟩, fun pc hmem => ?_⟩⟩
    · obtain ⟨pc, hpc, -⟩ := plotPercentiles_pySorted hL
      exact ⟨pc, (mem_plotPerfLatency hpts).mpr ⟨hL, hpc⟩⟩
    · exact ((mem_plotPerfLatency hpts).mp hmem).1
    · obtain ⟨hne, hpc'⟩ := (mem_plotPerfLatency hpts).mp hmem
      obtain ⟨pc, hpc, h1, h2, hmem'⟩ := plotPercentiles_pySorted hne
      cases hpc.symm.trans hpc'
      exact ⟨h1, h2, between_of_mem hmem'⟩

/-- The latencies of the worked scenario: five requests of 10 to 50 ms. -/
def fiveLatencies : List ℚ := [10, 20, 30, 40, 50]

theorem pct_kth_smallest_five :
    ∃ x, pct (pySorted fiveLatencies) 0.95 = some x ∧
      IsKthSmallest fiveLatencies
        (min fiveLatencies.length (max 1 ⌊(0.95 : ℚ) * fiveLatencies.length⌋₊)) x :=
  pct_kth_smallest.1 fiveLatencies (by decide) 0.95 (by norm_num) (by norm_num)

/-! ## The text summary against the plot -/

/-- The text summary and the plot read the same p95 and p99, but not the same p50: the summary's
is the `(⌊n / 2⌋ + 1)`-th smallest latency, the plot's the `max 1 ⌊n / 2⌋`-th. -/
theorem summary_percentiles_vs_plot (L : List α) (hL : L ≠ []) :
    ∃ s p, summaryPercentiles (pySorted L) = some s ∧ plotPercentiles (pySorted L) = some p ∧
      s.p95 = p.p95 ∧ s.p99 = p.p99 ∧
      IsKthSmallest L (L.length / 2 + 1) s.p50 ∧ IsKthSmallest L (max 1 (L.length / 2)) p.p50 := by
  have hs := length_pySorted_pos hL
  refine ⟨_, _, summaryPercentiles_eq hs, plotPercentiles_eq hs, rfl, rfl, ?_, ?_⟩
  · convert isKthSmallest_get_pySorted L ⟨_, half_lt hs⟩ using 1
    simp only [Fin.val_mk, length_pySorted]
  · convert isKthSmallest_get_pySorted L ⟨_, (Nat.sub_le _ _).trans_lt (half_lt hs)⟩ using 1
    simp only [Fin.val_mk, length_pySorted] at hs ⊢
    omega

theorem summary_percentiles_vs_plot_five :
    ∃ s p, summaryPercentiles (pySorted fiveLatencies) = some s ∧
      plotPercentiles (pySorted fiveLatencies) = some p ∧ s.p95 = p.p95 ∧ s.p99 = p.p99 ∧
      IsKthSmallest fiveLatencies (fiveLatencies.length / 2 + 1) s.p50 ∧
      IsKthSmallest fiveLatencies (max 1 (fiveLatencies.length / 2)) p.p50 :=
  summary_percentiles_vs_plot fiveLatencies (by decide)

theorem pySorted_fiveLatencies : pySorted fiveLatencies = fiveLatencies := by decide

/-- On the worked scenario the summary's p50 is 30 and the plot's is 20. -/
theorem summary_p50_differs_from_plot :
    summaryPercentiles (pySorted fiveLatencies) = some ⟨30, 40, 40⟩ ∧
      plotPercentiles (pySorted fiveLatencies) = some ⟨20, 40, 40⟩ := by
  rw [pySorted_fiveLatencies, summaryPercentiles_eq (by decide), plotPercentiles_eq (by decide)]
  exact ⟨rfl, rfl⟩

/-! ## The text summary on its own -/

/-- The summary's p95 and p99 are ordered and all three lie within `[min L, max L]`; its p50 is
at most its p95 for every length but 2. -/
theorem summary_percentiles_ordered (L : List α) (hL : L ≠ []) :
    ∃ s, summaryPercentiles (pySorted L) = some s ∧ (L.length ≠ 2 → s.p50 ≤ s.p95) ∧
      s.p95 ≤ s.p99 ∧ ∀ lo hi, L.min? = some lo → L.max? = some hi →
        ∀ y ∈ [s.p50, s.p95, s.p99], lo ≤ y ∧ y ≤ hi := by
  have hs := length_pySorted_pos hL
  refine ⟨_, summaryPercentiles_eq hs, fun h2 => get_pySorted_le L ?_, get_pySorted_le L ?_,
    between_of_mem ?_⟩
  · simp only [length_pySorted] at hs ⊢
    omega
  · show 95 * _ / 100 - 1 ≤ 99 * _ / 100 - 1
    omega
  · simp only [List.mem_cons, List.mem_singleton, List.not_mem_nil, or_false]
    rintro y (rfl | rfl | rfl) <;> exact get_pySorted_mem L _

theorem summary_percentiles_ordered_five :
    ∃ s, summaryPercentiles (pySorted fiveLatencies) = some s ∧
      (fiveLatencies.length ≠ 2 → s.p50 ≤ s.p95) ∧ s.p95 ≤ s.p99 ∧
      ∀ lo hi, fiveLatencies.min? = some lo → fiveLatencies.max? = some hi →
        ∀ y ∈ [s.p50, s.p95, s.p99], lo ≤ y ∧ y ≤ hi :=
  summary_percentiles_ordered fiveLatencies (by decide)

/-- Two distinct latencies: the summary's p50 is the larger, its p95 the smaller. -/
theorem summary_p50_above_p95 :
    ∃ s, summaryPercentiles (pySorted ([1, 2] : List ℚ)) = some s ∧ s.p95 < s.p50 := by
  rw [show pySorted ([1, 2] : List ℚ) = [1, 2] by decide, summaryPercentiles_eq (by decide)]
  exact ⟨_, rfl, by decide⟩

end DynLiteExperiments

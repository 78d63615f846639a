import DynLiteExperiments.Python

/-!
# Latency percentiles

The harness reads percentiles off the sorted successful latencies in two places, with two index
rules:

* the text summaries of `run_perf_ycsb` and `run_sac` (the same three lines in both scripts):
  `sorted[int(0.5 * n)]`, `sorted[int(0.95 * n) - 1]`, `sorted[int(0.99 * n) - 1]`, where an index
  of `-1` wraps to the last element (`summaryPercentiles`);
* `pct` in `_plot_perf`: `sorted[max(0, min(n - 1, floor(p * n) - 1))]` (`pct`,
  `plotPercentiles`).

Both are brought to a closed form over `n`: the summary reads ranks `n / 2 + 1`, `⌊0.95 n⌋`,
`⌊0.99 n⌋` (the last two at least 1), the plot reads rank `max 1 ⌊p n⌋`. What a percentile should
be is stated independently of any sorting: `IsKthSmallest L k x` says `x` is the `k`-th smallest
element of `L` counted with multiplicity.

The products `0.5 * n`, `0.95 * n` and `0.99 * n` are taken exactly: the double the script
computes truncates to the same integer for every run size up to 200 000.
-/

namespace DynLiteExperiments

variable {α : Type*}

/-- The p50, p95 and p99 of one summary line or one plotted group. -/
structure Percentiles (α : Type*) where
  /-- The median latency. -/
  p50 : α
  /-- The 95th percentile. -/
  p95 : α
  /-- The 99th percentile. -/
  p99 : α
  deriving DecidableEq, Repr

/-- The percentiles `run_perf_ycsb` and `run_sac` write to their text summaries, read off the
sorted successful latencies; `none` where Python would raise `IndexError`. -/
def summaryPercentiles (latenciesSorted : List α) : Option (Percentiles α) := do
  let n := latenciesSorted.length
  let p50 ← pyIndex latenciesSorted (pyInt (0.5 * n))
  let p95 ← pyIndex latenciesSorted (pyInt (0.95 * n) - 1)
  let p99 ← pyIndex latenciesSorted (pyInt (0.99 * n) - 1)
  return ⟨p50, p95, p99⟩

/-- `pct(p)` inside `_plot_perf`, over the sorted latencies `lats_sorted` of one group. -/
def pct (latsSorted : List α) (p : ℚ) : Option α :=
  let n := latsSorted.length
  let idx := max 0 (min ((n : ℤ) - 1) (⌊p * n⌋ - 1))
  pyIndex latsSorted idx

/-- The three points `_plot_perf` plots for one group: `pct(0.50)`, `pct(0.95)`, `pct(0.99)`. -/
def plotPercentiles (latsSorted : List α) : Option (Percentiles α) := do
  return ⟨← pct latsSorted 0.50, ← pct latsSorted 0.95, ← pct latsSorted 0.99⟩

/-- `x` is the `k`-th smallest element of `L` counted with multiplicity (`k` counted from 1):
fewer than `k` elements of `L` are below `x`, and at least `k` are at most `x`. -/
def IsKthSmallest [LinearOrder α] (L : List α) (k : ℕ) (x : α) : Prop :=
  x ∈ L ∧ L.countP (· < x) < k ∧ k ≤ L.countP (· ≤ x)

/-! ## The index arithmetic -/

/-- `⌊(a / b) * n⌋` is the natural-number quotient `a * n / b`. -/
theorem floor_div_mul_natCast (a b n : ℕ) : ⌊((a : ℚ) / b) * n⌋ = ((a * n / b : ℕ) : ℤ) := by
  have : ((a : ℚ) / b) * n = (((a * n : ℕ) : ℤ) : ℚ) / ((b : ℕ) : ℚ) := by push_cast; ring
  rw [this, Rat.floor_intCast_div_natCast]
  norm_cast

@[simp] theorem floor_half_mul (n : ℕ) : ⌊(0.5 : ℚ) * n⌋ = ((n / 2 : ℕ) : ℤ) := by
  rw [show (0.5 : ℚ) = (1 : ℕ) / (2 : ℕ) by norm_num, floor_div_mul_natCast, one_mul]

@[simp] theorem floor_p95_mul (n : ℕ) : ⌊(0.95 : ℚ) * n⌋ = ((95 * n / 100 : ℕ) : ℤ) := by
  rw [show (0.95 : ℚ) = (95 : ℕ) / (100 : ℕ) by norm_num, floor_div_mul_natCast]

@[simp] theorem floor_p99_mul (n : ℕ) : ⌊(0.99 : ℚ) * n⌋ = ((99 * n / 100 : ℕ) : ℤ) := by
  rw [show (0.99 : ℚ) = (99 : ℕ) / (100 : ℕ) by norm_num, floor_div_mul_natCast]

theorem pyInt_mul_natCast {q : ℚ} (hq : 0 ≤ q) (n : ℕ) : pyInt (q * n) = ⌊q * n⌋ :=
  pyInt_of_nonneg (by positivity)

theorem half_lt {n : ℕ} (hn : 0 < n) : n / 2 < n := Nat.div_lt_self hn one_lt_two

theorem rank_pred_lt {n a : ℕ} (ha : a ≤ 100) (hn : 0 < n) : a * n / 100 - 1 < n := by
  have : a * n / 100 ≤ n := Nat.div_le_of_le_mul (by nlinarith)
  omega

theorem floor_rank_pred_lt {n : ℕ} (hn : 0 < n) {p : ℚ} (hp1 : p ≤ 1) :
    max 1 ⌊p * n⌋₊ - 1 < n := by
  have : ⌊p * n⌋₊ ≤ n := Nat.floor_le_of_le (by nlinarith [(Nat.cast_nonneg n : (0 : ℚ) ≤ _)])
  omega

/-- The summary's three reads in closed form, for a nonempty sorted list: index `n / 2` for p50
and index `⌊0.95 n⌋ - 1`, `⌊0.99 n⌋ - 1` (truncated at 0) for p95 and p99. -/
theorem summaryPercentiles_eq {s : List α} (hs : 0 < s.length) :
    summaryPercentiles s = some ⟨s.get ⟨s.length / 2, half_lt hs⟩,
      s.get ⟨95 * s.length / 100 - 1, rank_pred_lt (by decide) hs⟩,
      s.get ⟨99 * s.length / 100 - 1, rank_pred_lt (by decide) hs⟩⟩ := by
  simp only [summaryPercentiles, pyInt_mul_natCast (by norm_num : (0 : ℚ) ≤ 0.5),
    pyInt_mul_natCast (by norm_num : (0 : ℚ) ≤ 0.95),
    pyInt_mul_natCast (by norm_num : (0 : ℚ) ≤ 0.99),
    floor_half_mul, floor_p95_mul, floor_p99_mul, pyIndex_natCast,
    pyIndex_pred (by omega : 95 * s.length / 100 ≤ s.length) (by omega),
    pyIndex_pred (by omega : 99 * s.length / 100 ≤ s.length) (by omega)]
  simp (disch := omega) only [List.getElem?_eq_getElem, Option.some_bind, List.get_eq_getElem]
  rfl

/-- `pct` in closed form: for `0 ≤ p ≤ 1` it reads index `max 1 ⌊p n⌋ - 1`. -/
theorem pct_eq {s : List α} (hs : 0 < s.length) {p : ℚ} (hp0 : 0 ≤ p) (hp1 : p ≤ 1) :
    pct s p = some (s.get ⟨max 1 ⌊p * s.length⌋₊ - 1, floor_rank_pred_lt hs hp1⟩) := by
  have hle : ⌊p * s.length⌋₊ ≤ s.length :=
    Nat.floor_le_of_le (by nlinarith [(Nat.cast_nonneg s.length : (0 : ℚ) ≤ _)])
  have hfl : ⌊p * s.length⌋ = (⌊p * s.length⌋₊ : ℤ) :=
    (Int.natCast_floor_eq_floor (by positivity)).symm
  have hidx : max 0 (min ((s.length : ℤ) - 1) (⌊p * s.length⌋ - 1)) =
      ((max 1 ⌊p * s.length⌋₊ - 1 : ℕ) : ℤ) := by
    rw [hfl]; omega
  simp only [pct, hidx, pyIndex_natCast, List.get_eq_getElem]
  exact List.getElem?_eq_getElem _

theorem natFloor_div_mul_natCast (a b n : ℕ) : ⌊((a : ℚ) / b) * n⌋₊ = a * n / b := by
  rw [← Int.floor_toNat, floor_div_mul_natCast]; rfl

@[simp] theorem natFloor_half_mul (n : ℕ) : ⌊(0.50 : ℚ) * n⌋₊ = n / 2 := by
  rw [show (0.50 : ℚ) = (1 : ℕ) / (2 : ℕ) by norm_num, natFloor_div_mul_natCast, one_mul]

@[simp] theorem natFloor_p95_mul (n : ℕ) : ⌊(0.95 : ℚ) * n⌋₊ = 95 * n / 100 := by
  rw [show (0.95 : ℚ) = (95 : ℕ) / (100 : ℕ) by norm_num, natFloor_div_mul_natCast]

@[simp] theorem natFloor_p99_mul (n : ℕ) : ⌊(0.99 : ℚ) * n⌋₊ = 99 * n / 100 := by
  rw [show (0.99 : ℚ) = (99 : ℕ) / (100 : ℕ) by norm_num, natFloor_div_mul_natCast]

@[simp] theorem max_one_sub_one (a : ℕ) : max 1 a - 1 = a - 1 := by omega

/-- The plotted points in closed form: indices `n / 2 - 1`, `⌊0.95 n⌋ - 1`, `⌊0.99 n⌋ - 1`. -/
theorem plotPercentiles_eq {s : List α} (hs : 0 < s.length) :
    plotPercentiles s = some ⟨s.get ⟨s.length / 2 - 1, (Nat.sub_le _ _).trans_lt (half_lt hs)⟩,
      s.get ⟨95 * s.length / 100 - 1, rank_pred_lt (by decide) hs⟩,
      s.get ⟨99 * s.length / 100 - 1, rank_pred_lt (by decide) hs⟩⟩ := by
  simp only [plotPercentiles, pct_eq hs (by norm_num : (0 : ℚ) ≤ 0.50) (by norm_num),
    pct_eq hs (by norm_num : (0 : ℚ) ≤ 0.95) (by norm_num),
    pct_eq hs (by norm_num : (0 : ℚ) ≤ 0.99) (by norm_num),
    natFloor_half_mul, natFloor_p95_mul, natFloor_p99_mul, max_one_sub_one, Option.bind_eq_bind,
    Option.pure_def, Option.some_bind]

end DynLiteExperiments

import DynLiteExperiments.Runner

/-!
# Proofs: what `status=CONSISTENT` says

`sanity_smoke` compares only the values of the reads that returned and found the key: its status
is `CONSISTENT` exactly when those values all agree (`sanityStatus_eq_consistent`). A read that
raised or did not find the key is left out of the comparison, so it never makes the check print
`INCONSISTENT`.

`main` runs the experiments it selects one after the other, and the first that raises ends the
run (`runExperiments_eq`).
-/

namespace DynLiteExperiments

section Dedup

variable {α : Type*}

theorem length_le_one_iff_of_nodup :
    ∀ {d : List α}, d.Nodup → (d.length ≤ 1 ↔ ∀ x ∈ d, ∀ y ∈ d, x = y)
  | [], _ => by simp
  | [a], _ => by simp
  | a :: b :: t, hd => by
    refine ⟨fun h => by simp at h, fun h => ?_⟩
    have hab := h a (List.mem_cons_self _ _) b (List.mem_cons_of_mem _ (List.mem_cons_self _ _))
    exact absurd (hab ▸ List.mem_cons_self b t) (List.nodup_cons.mp hd).1

/-- `len(set(xs)) <= 1` exactly when all elements of `xs` are equal. -/
theorem length_dedup_le_one_iff [DecidableEq α] {l : List α} :
    l.dedup.length ≤ 1 ↔ ∀ x ∈ l, ∀ y ∈ l, x = y := by
  simpa only [List.mem_dedup] using length_le_one_iff_of_nodup (List.nodup_dedup l)

end Dedup

/-- The status is `CONSISTENT` exactly when the values found agree. -/
theorem sanityStatus_eq_consistent {results : List (String × Option KvReadResult)} :
    sanityStatus results = "CONSISTENT" ↔ ∀ a ∈ results, ∀ b ∈ results, ∀ va vb,
      foundValue a.2 = some va → foundValue b.2 = some vb → va = vb := by
  have key : (results.filterMap fun r => foundValue r.2).dedup.length ≤ 1 ↔
      ∀ a ∈ results, ∀ b ∈ results, ∀ va vb,
        foundValue a.2 = some va → foundValue b.2 = some vb → va = vb := by
    simp only [length_dedup_le_one_iff, List.mem_filterMap]
    constructor
    · intro h a ha b hb va vb h1 h2
      exact h va ⟨a, ha, h1⟩ vb ⟨b, hb, h2⟩
    · rintro h x ⟨a, ha, h1⟩ y ⟨b, hb, h2⟩
      exact h a ha b hb x y h1 h2
  rw [sanityStatus, ← key]
  split_ifs with h
  · exact iff_of_true rfl h
  · exact iff_of_false (by decide) h

/-! ## `main` -/

/-- The experiments started are those up to the first that raises, and the run ends with its
exception. -/
theorem runExperiments_eq (raises : Experiment → Option ProbeError) (xs : List Experiment) :
    runExperiments raises xs =
      (xs.takeWhile (fun x => (raises x).isNone) ++
          (xs.dropWhile fun x => (raises x).isNone).take 1,
        (xs.dropWhile fun x => (raises x).isNone).head?.bind raises) := by
  induction xs with
  | nil => rfl
  | cons x xs ih =>
    cases h : raises x with
    | some e => simp [runExperiments, h]
    | none => simp [runExperiments, h, ih]

/-! ## What `status=CONSISTENT` says -/

/-- **What `CONSISTENT` says.** `sanity_smoke` prints `status=CONSISTENT` exactly when the `put`
returned and the values found by the nodes whose read returned and found the key all agree;
the nodes whose read raised or found nothing are not compared. -/
theorem sanity_consistent_iff (nodeNames : List String) (w : SanityWorld) :
    (sanitySmoke nodeNames w).status = some "CONSISTENT" ↔ w.putError = none ∧
      ∀ a ∈ nodeNames, ∀ b ∈ nodeNames, ∀ va vb, foundValue (w.get a).toOption = some va →
        foundValue (w.get b).toOption = some vb → va = vb := by
  unfold sanitySmoke
  cases w.putError with
  | some e => simp
  | none => simp [sanityStatus_eq_consistent]

/-- The read from node a raises; node b finds a one-byte value. -/
def oneReadFails : SanityWorld :=
  ⟨none, fun n => if n = "node-a" then .error .transport else .ok ⟨true, some [118], []⟩⟩

/-- No node finds the key. -/
def noneFound : SanityWorld := ⟨none, fun _ => .ok ⟨false, none, []⟩⟩

/-- A failed read, or no read finding the key at all, still gives `status=CONSISTENT`. -/
theorem sanity_consistent_without_all_reads :
    sanitySmoke ["node-a", "node-b"] oneReadFails =
      ⟨some "CONSISTENT", [("node-a", .error), ("node-b", .found 1 [])], none⟩ ∧
    sanitySmoke ["node-a", "node-b"] noneFound =
      ⟨some "CONSISTENT", [("node-a", .notFound), ("node-b", .notFound)], none⟩ := by
  decide

end DynLiteExperiments

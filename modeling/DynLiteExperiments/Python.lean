import Mathlib

/-!
# The Python built-ins the harness relies on

The experiments are Python scripts. What they take from the language is modelled here once, so
that the probe models read like the scripts:

* list indexing `xs[i]`, whose negative indices count from the end (`pyIndex`);
* `int(x)` of a float, which truncates (`pyInt`), and `str(n)` / `int(s)` between non-negative
  ints and their decimal text (`pyStr`, `pyIntOfStr`);
* `sorted(xs)` (`pySorted`) and `random.choice(xs)` (`pyChoice`);
* `s.encode("utf-8")` (`encode`), and the tables written by `csv.DictWriter` and read back by
  `csv.DictReader` (`CsvFile`, `CsvFile.dictRows`);
* floats (`roundDouble`, `PyFloat`).

A float is kept as the rational it denotes. Where the harness turns a float into something
discrete, the model follows the double arithmetic: a literal stands for the double nearest to it
(0.7 is `roundDouble (7 / 10)`), and `int(t * 1000)` truncates the product rounded to a double
(`pyInt (roundDouble (t * 1000))`). Values that are only written out, sorted or plotted (a
latency, a throughput, a fraction) are kept exact: rounding to the nearest double is monotone and
changes none of the orders the harness uses. The difference of two clock readings, and the sum
of a reading and a whole number of seconds, are taken exactly: for readings in `[2^30, 2^31)`
(2004 to 2038) both are multiples of `2^-22` below `2^31`, hence doubles, so the double arithmetic
is exact there too.
-/

namespace DynLiteExperiments

variable {α : Type*}

/-! ## Indexing -/

/-- `xs[i]`: a negative `i` counts from the end; out of range Python raises `IndexError`
(`none`). -/
def pyIndex (xs : List α) (i : ℤ) : Option α :=
  if 0 ≤ i then xs[i.toNat]?
  else if 0 ≤ xs.length + i then xs[(xs.length + i).toNat]?
  else none

@[simp] theorem pyIndex_natCast (xs : List α) (i : ℕ) : pyIndex xs i = xs[i]? := by
  simp [pyIndex]

/-- `xs[r - 1]` for `r ≤ len(xs)`: with `r = 0` the index `-1` wraps to the last element, which is
`xs[0]` again when the list has one element. -/
theorem pyIndex_pred {xs : List α} {r : ℕ} (hr : r ≤ xs.length) (h1 : r = 0 → xs.length = 1) :
    pyIndex xs ((r : ℤ) - 1) = xs[r - 1]? := by
  rcases Nat.eq_zero_or_pos r with rfl | hpos
  · simp [pyIndex, h1 rfl]
  · rw [show ((r : ℤ) - 1) = ((r - 1 : ℕ) : ℤ) by omega, pyIndex_natCast]

/-! ## Numbers and their text -/

/-- `int(x)` of a float: truncation towards zero. -/
def pyInt (x : ℚ) : ℤ := if x < 0 then ⌈x⌉ else ⌊x⌋

theorem pyInt_of_nonneg {x : ℚ} (h : 0 ≤ x) : pyInt x = ⌊x⌋ := by
  simp [pyInt, not_lt.mpr h]

/-! ## Doubles -/

/-- Rounding to an integer, ties to even. -/
def roundHalfEven (x : ℚ) : ℤ :=
  if x - ⌊x⌋ < 1 / 2 then ⌊x⌋
  else if 1 / 2 < x - ⌊x⌋ then ⌊x⌋ + 1
  else if ⌊x⌋ % 2 = 0 then ⌊x⌋ else ⌊x⌋ + 1

/-- The exponent of the last place of the doubles around `x`: in the binade `[2^k, 2^(k+1))` of
`|x|` they are the multiples of `2^(k-52)`, and below `2^-1022` those of `2^-1074`. -/
def ulpExp (x : ℚ) : ℤ := max (Int.log 2 |x| - 52) (-1074)

/-- The double nearest to `x`, ties to even: IEEE 754 round-to-nearest, which every float
operation of CPython applies to its exact result. Overflow past the largest double is left
out. -/
def roundDouble (x : ℚ) : ℚ := roundHalfEven (x / 2 ^ ulpExp x) * 2 ^ ulpExp x

/-- The last place of the doubles in the binade `[2^k, 2^(k+1))`. -/
theorem ulpExp_of_mem {x : ℚ} {k : ℤ} (h1 : 2 ^ k ≤ |x|) (h2 : |x| < 2 ^ (k + 1)) :
    ulpExp x = max (k - 52) (-1074) := by
  have hx : 0 < |x| := lt_of_lt_of_le (by positivity) h1
  have hlog : Int.log 2 |x| = k := le_antisymm
    (Int.lt_add_one_iff.mp ((Int.lt_zpow_iff_log_lt (by norm_num) hx).mp (by exact_mod_cast h2)))
    ((Int.zpow_le_iff_le_log (by norm_num) hx).mp (by exact_mod_cast h1))
  rw [ulpExp, hlog]

@[simp] theorem roundHalfEven_intCast (n : ℤ) : roundHalfEven n = n := by
  simp [roundHalfEven]

/-- An integer below `2^53` in magnitude is a double. -/
theorem roundDouble_intCast {n : ℤ} (h : |n| < 2 ^ 53) : roundDouble n = n := by
  have hlog : Int.log 2 |(n : ℚ)| < 53 := by
    rcases eq_or_ne n 0 with rfl | hn
    · simp
    refine (Int.lt_zpow_iff_log_lt (by norm_num) (by positivity)).mp ?_
    exact_mod_cast h
  obtain ⟨k, hk⟩ : ∃ k : ℕ, ulpExp n = -k := ⟨(-ulpExp n).toNat, by unfold ulpExp; omega⟩
  have hint : (n : ℚ) / 2 ^ (-(k : ℤ)) = ((n * 2 ^ k : ℤ) : ℚ) := by
    rw [zpow_neg, zpow_natCast, div_inv_eq_mul]
    push_cast
    rfl
  rw [roundDouble, hk, hint, roundHalfEven_intCast, zpow_neg, zpow_natCast]
  push_cast
  field_simp

@[simp] theorem roundDouble_natCast {n : ℕ} (h : n < 2 ^ 53) : roundDouble n = n := by
  exact_mod_cast roundDouble_intCast (n := n) (by rw [abs_of_nonneg (by positivity)]; exact_mod_cast h)

theorem roundDouble_ofNat (n : ℕ) [n.AtLeastTwo] (h : n < 2 ^ 53) :
    roundDouble (OfNat.ofNat n) = OfNat.ofNat n :=
  roundDouble_natCast h

@[simp] theorem roundDouble_zero : roundDouble 0 = 0 := by exact_mod_cast roundDouble_natCast (n := 0) (by norm_num)

@[simp] theorem roundDouble_one : roundDouble 1 = 1 := by exact_mod_cast roundDouble_natCast (n := 1) (by norm_num)

/-- What `float(s)` returns: a finite double, kept as the rational it denotes, an infinity, or
`nan`. -/
inductive PyFloat
  | finite (x : ℚ)
  | inf
  | negInf
  | nan
  deriving DecidableEq, Repr

/-- The place of a float other than `nan` in the order of `<`: `-inf` below every finite value,
`inf` above. -/
def PyFloat.rank : PyFloat → WithBot (WithTop ℚ)
  | .finite x => some (some x)
  | .inf => some none
  | .negInf => none
  | .nan => none

theorem PyFloat.rank_injective {a b : PyFloat} (ha : a ≠ .nan) (hb : b ≠ .nan)
    (h : a.rank = b.rank) : a = b := by
  cases a <;> cases b <;> simp only [rank] at h <;> (try cases h) <;> simp_all

instance : IsTotal PyFloat fun a b => a.rank ≤ b.rank := ⟨fun a b => le_total a.rank b.rank⟩

instance : IsTrans PyFloat fun a b => a.rank ≤ b.rank := ⟨fun _ _ _ => le_trans⟩

/-- The decimal digits of `n`, most significant first; `0` is the single digit `0`. -/
def decimalDigits (n : ℕ) : List ℕ := if n = 0 then [0] else (Nat.digits 10 n).reverse

/-- `str(n)` for a non-negative int. -/
def pyStr (n : ℕ) : String := ⟨(decimalDigits n).map Nat.digitChar⟩

/-- `int(s)` on the decimal text `str` writes; `none` where Python raises `ValueError`. -/
def pyIntOfStr (s : String) : Option ℕ :=
  if s.data ≠ [] ∧ s.data.all Char.isDigit then
    some (s.data.foldl (fun n c => 10 * n + (c.toNat - 48)) 0)
  else none

theorem decimalDigits_lt {n d : ℕ} (h : d ∈ decimalDigits n) : d < 10 := by
  unfold decimalDigits at h
  split at h
  · simp_all
  · exact Nat.digits_lt_base (by norm_num) (List.mem_reverse.mp h)

theorem decimalDigits_ne_nil (n : ℕ) : decimalDigits n ≠ [] := by
  unfold decimalDigits
  split
  · simp
  · simpa [Nat.digits_eq_nil_iff_eq_zero]

theorem digitChar_isDigit {d : ℕ} (h : d < 10) : (Nat.digitChar d).isDigit = true := by
  interval_cases d <;> rfl

theorem digitChar_toNat {d : ℕ} (h : d < 10) : (Nat.digitChar d).toNat - 48 = d := by
  interval_cases d <;> rfl

theorem foldl_digits_reverse (L : List ℕ) (a : ℕ) :
    L.reverse.foldl (fun n d => 10 * n + d) a = a * 10 ^ L.length + Nat.ofDigits 10 L := by
  induction L generalizing a with
  | nil => simp [Nat.ofDigits]
  | cons d L ih =>
    simp only [List.reverse_cons, List.foldl_append, ih, List.foldl_cons, List.foldl_nil,
      List.length_cons, Nat.ofDigits_cons, pow_succ]
    ring

theorem ofDecimalDigits (n : ℕ) : (decimalDigits n).foldl (fun n d => 10 * n + d) 0 = n := by
  unfold decimalDigits
  split
  · simp_all
  · rw [foldl_digits_reverse, Nat.ofDigits_digits]
    simp

/-- `int(str(n)) = n`: the decimal text of a non-negative int reads back as that int. -/
@[simp] theorem pyIntOfStr_pyStr (n : ℕ) : pyIntOfStr (pyStr n) = some n := by
  have hlt := @decimalDigits_lt n
  have hdig : ((decimalDigits n).map Nat.digitChar).all Char.isDigit = true := by
    simpa using fun d hd => digitChar_isDigit (hlt hd)
  have hfold : ((decimalDigits n).map Nat.digitChar).foldl (fun n c => 10 * n + (c.toNat - 48)) 0
      = (decimalDigits n).foldl (fun n d => 10 * n + d) 0 := by
    rw [List.foldl_map]
    exact List.foldl_ext _ _ _ fun a d hd => by rw [digitChar_toNat (hlt hd)]
  simp only [pyIntOfStr, pyStr, ne_eq, List.map_eq_nil_iff, decimalDigits_ne_nil, not_false_eq_true,
    hdig, and_self, ↓reduceIte, hfold, ofDecimalDigits]

theorem pyStr_injective : Function.Injective pyStr := fun a b h => by
  simpa using congrArg pyIntOfStr h

/-- The decimal text of an int is made of the digit characters only. -/
theorem mem_pyStr {n : ℕ} {c : Char} (h : c ∈ (pyStr n).data) : c.isDigit = true := by
  obtain ⟨d, hd, rfl⟩ := List.mem_map.mp h
  exact digitChar_isDigit (decimalDigits_lt hd)

theorem mem_pyStr_ascii {n : ℕ} {c : Char} (h : c ∈ (pyStr n).data) : c.val ≤ 127 := by
  have h := mem_pyStr h
  simp only [Char.isDigit, Bool.and_eq_true, decide_eq_true_eq] at h
  have h9 : c.val.toNat ≤ 57 := h.2
  show c.val.toNat ≤ 127
  omega

/-! ## Sorting and random choice -/

/-- `sorted(xs)`. Python sorts stably; over a linear order the sorted list is unique anyway
(`pySorted_eq_of_perm`), so any sort will do. -/
def pySorted [LinearOrder α] (xs : List α) : List α := xs.insertionSort (· ≤ ·)

/-- `random.choice(xs)` when the generator picked index `i mod len(xs)`; on an empty list Python
raises `IndexError` (`none`). -/
def pyChoice (xs : List α) (i : ℕ) : Option α := xs[i % xs.length]?

section Sorted

variable [LinearOrder α]

theorem pySorted_sorted (xs : List α) : (pySorted xs).Sorted (· ≤ ·) :=
  List.sorted_insertionSort _ xs

theorem pySorted_perm (xs : List α) : (pySorted xs).Perm xs := List.perm_insertionSort _ xs

@[simp] theorem length_pySorted (xs : List α) : (pySorted xs).length = xs.length :=
  (pySorted_perm xs).length_eq

theorem length_pySorted_pos {xs : List α} (h : xs ≠ []) : 0 < (pySorted xs).length := by
  simpa [List.length_pos] using h

theorem pySorted_eq_of_perm {xs ys : List α} (h : xs.Perm ys) : pySorted xs = pySorted ys :=
  List.eq_of_perm_of_sorted ((pySorted_perm xs).trans (h.trans (pySorted_perm ys).symm))
    (pySorted_sorted xs) (pySorted_sorted ys)

end Sorted

section SortFloats

-- `sortNan xs` is the order `xs.sort()` leaves a list of floats holding a `nan` in, a permutation
-- of it: `nan` compares false both ways, so the order depends on the runs and merges of CPython's
-- sort, and it is left open.
variable (sortNan : (xs : List PyFloat) → {ys : List PyFloat // ys.Perm xs})

/-- `xs.sort()` on floats: by value when no `nan` is among them, as `sortNan` leaves it
otherwise. -/
def sortFloats (xs : List PyFloat) : List PyFloat :=
  if xs.any (· = .nan) then (sortNan xs).1 else xs.insertionSort fun a b => a.rank ≤ b.rank

theorem sortFloats_perm (xs : List PyFloat) : (sortFloats sortNan xs).Perm xs := by
  unfold sortFloats
  split
  · exact (sortNan xs).2
  · exact List.perm_insertionSort _ xs

@[simp] theorem length_sortFloats (xs : List PyFloat) : (sortFloats sortNan xs).length = xs.length :=
  (sortFloats_perm sortNan xs).length_eq

/-- Without a `nan`, `xs.sort()` puts the floats in increasing order. -/
theorem sortFloats_sorted {xs : List PyFloat} (h : ∀ x ∈ xs, x ≠ .nan) :
    (sortFloats sortNan xs).Sorted fun a b => a.rank ≤ b.rank := by
  have hany : xs.any (· = .nan) = false := by simpa using h
  rw [sortFloats, hany, if_neg Bool.false_ne_true]
  exact List.sorted_insertionSort _ xs

end SortFloats

@[simp] theorem pyChoice_eq_none {xs : List α} {i : ℕ} : pyChoice xs i = none ↔ xs = [] := by
  rcases Nat.eq_zero_or_pos xs.length with h | h
  · simp_all [pyChoice]
  · simp [pyChoice, Nat.mod_lt i h, List.ne_nil_of_length_pos h]

theorem pyChoice_ne_none {xs : List α} (h : xs ≠ []) (i : ℕ) : pyChoice xs i ≠ none := by
  simpa using h

/-! ## A loop that raises on its first failure

A Python loop that builds a list and raises at the first element it cannot handle is
`List.mapM` in `Option`. -/

theorem exists_of_forall₂_of_mem {α β : Type*} {R : α → β → Prop} {l₁ : List α} {l₂ : List β}
    (h : List.Forall₂ R l₁ l₂) {b : β} (hb : b ∈ l₂) : ∃ a ∈ l₁, R a b := by
  induction h with
  | nil => cases hb
  | cons hr _ ih =>
    rcases List.mem_cons.mp hb with rfl | hb
    · exact ⟨_, List.mem_cons_self _ _, hr⟩
    · obtain ⟨a, ha, h⟩ := ih hb
      exact ⟨a, List.mem_cons_of_mem _ ha, h⟩

theorem mapM_option_of_isSome {β : Type*} {f : α → Option β} {l : List α}
    (h : ∀ a ∈ l, (f a).isSome) : ∃ l', l.mapM f = some l' := by
  induction l with
  | nil => exact ⟨[], rfl⟩
  | cons a l ih =>
    obtain ⟨b, hb⟩ := Option.isSome_iff_exists.mp (h a (List.mem_cons_self _ _))
    obtain ⟨l', hl'⟩ := ih fun a ha => h a (List.mem_cons_of_mem _ ha)
    exact ⟨b :: l', by rw [List.mapM_cons, hb, hl']; rfl⟩

theorem mapM_option_eq_some_iff {β : Type*} {f : α → Option β} {l : List α} {l' : List β} :
    l.mapM f = some l' ↔ List.Forall₂ (fun a b => f a = some b) l l' := by
  induction l generalizing l' with
  | nil =>
    rw [List.mapM_nil, List.forall₂_nil_left_iff, Option.pure_def, Option.some.injEq, eq_comm]
  | cons a l ih =>
    rw [List.mapM_cons, List.forall₂_cons_left_iff]
    simp only [Option.bind_eq_bind, Option.bind_eq_some, Option.pure_def, Option.some.injEq, ih]
    constructor
    · rintro ⟨b, hb, bs, hbs, rfl⟩
      exact ⟨b, bs, hb, hbs, rfl⟩
    · rintro ⟨b, bs, hb, hbs, rfl⟩
      exact ⟨b, hb, bs, hbs, rfl⟩

theorem mapM_option_map {β γ : Type*} {f : α → Option β} {g : γ → α} {h : γ → β}
    (hf : ∀ c, f (g c) = some (h c)) (l : List γ) : (l.map g).mapM f = some (l.map h) :=
  mapM_option_eq_some_iff.mpr <| List.forall₂_map_left_iff.mpr <|
    List.forall₂_map_right_iff.mpr <| List.forall₂_same.mpr fun c _ => hf c

theorem exists_of_mem_mapM_option {β : Type*} {f : α → Option β} {l : List α} {l' : List β}
    (h : l.mapM f = some l') {b : β} (hb : b ∈ l') : ∃ a ∈ l, f a = some b :=
  exists_of_forall₂_of_mem (mapM_option_eq_some_iff.mp h) hb

/-! ## A loop of calls that stops at the first that raises

`for i in range(n): call(i)` with no `try` ends with the exception of the first call that raises:
`(List.range n).findSome? err`, where `err i` is what call `i` raised, if it did. -/

theorem findSome?_range_eq_none {β : Type*} {err : ℕ → Option β} {n : ℕ} :
    (List.range n).findSome? err = none ↔ ∀ i < n, err i = none := by
  simp [List.findSome?_eq_none_iff]

/-- The loop ends with the exception of its first raising call. -/
theorem findSome?_range_eq_some {β : Type*} {err : ℕ → Option β} {n i : ℕ} {e : β} (hi : i < n)
    (hfirst : ∀ j < i, err j = none) (he : err i = some e) : (List.range n).findSome? err = some e := by
  induction n with
  | zero => omega
  | succ n ih =>
    rw [List.range_succ, List.findSome?_append]
    rcases Nat.lt_succ_iff_lt_or_eq.mp hi with hi | rfl
    · rw [ih hi]
      rfl
    · rw [findSome?_range_eq_none.mpr hfirst]
      simp [List.findSome?, he]

/-! ## Exceptions

A call that raises is `Except.error`; these evaluate a `do` block of `Except` step by step. -/

section Except

variable {ε γ δ ρ : Type}

@[simp] theorem except_ok_bind (a : γ) (f : γ → Except ε δ) : (Except.ok a >>= f) = f a := rfl

@[simp] theorem except_error_bind (e : ε) (f : γ → Except ε δ) :
    (Except.error e >>= f) = Except.error e := rfl

@[simp] theorem except_throw (e : ε) : (throw e : Except ε γ) = .error e := rfl

@[simp] theorem except_pure (a : γ) : (pure a : Except ε γ) = .ok a := rfl

@[simp] theorem except_fmap (f : γ → δ) (x : Except ε γ) : f <$> x = x.map f := rfl

@[simp] theorem except_map_ok (f : γ → δ) (a : γ) : (Except.ok a : Except ε γ).map f = .ok (f a) :=
  rfl

@[simp] theorem except_map_error (f : γ → δ) (e : ε) :
    (Except.error e : Except ε γ).map f = .error e := rfl

theorem except_bind_eq_ok {x : Except ε γ} {f : γ → Except ε δ} {b : δ} :
    x >>= f = .ok b ↔ ∃ a, x = .ok a ∧ f a = .ok b := by
  cases x <;> simp

theorem except_bind_eq_error {x : Except ε γ} {f : γ → Except ε δ} {e : ε} :
    x >>= f = .error e ↔ x = .error e ∨ ∃ a, x = .ok a ∧ f a = .error e := by
  cases x <;> simp

/-- The same loop where the failure carries an exception: `List.mapM` in `Except` returns the
list `l'` exactly when each element's call returned its element of `l'`. -/
theorem mapM_except_eq_ok_iff {f : α → Except ε γ} {l : List α} {l' : List γ} :
    l.mapM f = .ok l' ↔ List.Forall₂ (fun a b => f a = .ok b) l l' := by
  induction l generalizing l' with
  | nil => rw [List.mapM_nil, List.forall₂_nil_left_iff, except_pure, Except.ok.injEq, eq_comm]
  | cons a l ih =>
    rw [List.mapM_cons, List.forall₂_cons_left_iff]
    simp only [except_bind_eq_ok, except_pure, Except.ok.injEq, ih]
    constructor
    · rintro ⟨b, hb, bs, hbs, rfl⟩
      exact ⟨b, bs, hb, hbs, rfl⟩
    · rintro ⟨b, bs, hb, hbs, rfl⟩
      exact ⟨b, hb, bs, hbs, rfl⟩

theorem mapM_except_ok {f : α → Except ε γ} {g : α → γ} {l : List α}
    (h : ∀ a ∈ l, f a = .ok (g a)) : l.mapM f = .ok (l.map g) :=
  mapM_except_eq_ok_iff.mpr (List.forall₂_map_right_iff.mpr (List.forall₂_same.mpr h))

/-- Two calls in a row get through exactly when each does. -/
theorem except_seq_isOk_iff {x : Except ε γ} {y : Except ε δ} {g : γ → δ → ρ} :
    (∃ c, (do let a ← x; let b ← y; pure (g a b)) = Except.ok c) ↔
      (∃ a, x = .ok a) ∧ ∃ b, y = .ok b := by
  cases x <;> cases y <;> simp

/-- The loop gets through exactly when no element's call raises. -/
theorem mapM_except_isOk_iff {f : α → Except ε γ} {l : List α} :
    (∃ l', l.mapM f = .ok l') ↔ ∀ a ∈ l, ∃ b, f a = .ok b := by
  induction l with
  | nil => exact ⟨fun _ _ h => (List.not_mem_nil _ h).elim, fun _ => ⟨[], rfl⟩⟩
  | cons a l ih => rw [List.mapM_cons, except_seq_isOk_iff, ih, List.forall_mem_cons]

end Except

/-! ## Dicts of lists -/

section Dict

variable {κ β ρ : Type*} [DecidableEq κ]

/-- `d.setdefault(k, []).append(v)` on a dict of lists, kept as its items in insertion order. -/
def setdefaultAppend : List (κ × List β) → κ → β → List (κ × List β)
  | [], k, v => [(k, [v])]
  | (k', vs) :: d, k, v =>
    if k' = k then (k', vs ++ [v]) :: d else (k', vs) :: setdefaultAppend d k v

/-- `for r in rows: d.setdefault(key(r), []).append(val(r))`, from an empty dict. -/
def groupBy (key : ρ → κ) (val : ρ → β) (rows : List ρ) : List (κ × List β) :=
  rows.foldl (fun d r => setdefaultAppend d (key r) (val r)) []

/-- The lists the items of `d` hold under key `k`: at most one, for a dict. -/
def valuesAt (d : List (κ × List β)) (k : κ) : List (List β) := (d.filter (·.1 = k)).map (·.2)

@[simp] theorem valuesAt_nil (k : κ) : valuesAt ([] : List (κ × List β)) k = [] := rfl

@[simp] theorem valuesAt_cons (k k' : κ) (vs : List β) (d : List (κ × List β)) :
    valuesAt ((k', vs) :: d) k = if k' = k then vs :: valuesAt d k else valuesAt d k := by
  by_cases h : k' = k <;> simp [valuesAt, h]

theorem valuesAt_setdefaultAppend (d : List (κ × List β)) (k₀ k : κ) (v : β) :
    valuesAt (setdefaultAppend d k₀ v) k =
      if k₀ = k then
        (match valuesAt d k with
         | [] => [[v]]
         | vs :: rest => (vs ++ [v]) :: rest)
      else valuesAt d k := by
  induction d with
  | nil => by_cases h : k₀ = k <;> simp [setdefaultAppend, h]
  | cons e d ih =>
    obtain ⟨k', vs⟩ := e
    by_cases h1 : k' = k₀ <;> by_cases h2 : k₀ = k <;> simp_all [setdefaultAppend]

/-- A grouped dict holds, under each key met, the values of the rows with that key, in order. -/
theorem valuesAt_groupBy (key : ρ → κ) (val : ρ → β) (rows : List ρ) (k : κ) :
    valuesAt (groupBy key val rows) k =
      if rows.any (key · = k) then [(rows.filter (key · = k)).map val] else [] := by
  induction rows using List.reverseRecOn with
  | nil => rfl
  | append_singleton rows r ih =>
    rw [groupBy, List.foldl_append, ← groupBy, List.foldl_cons, List.foldl_nil,
      valuesAt_setdefaultAppend, ih]
    by_cases hr : key r = k <;> by_cases hany : rows.any (key · = k)
    · simp_all
    · have hnil : rows.filter (key · = k) = [] := List.filter_eq_nil_iff.mpr (by simpa using hany)
      rw [if_pos hr, if_neg hany]
      simp [hnil, hr]
    all_goals simp_all

theorem mem_groupBy {key : ρ → κ} {val : ρ → β} {rows : List ρ} {k : κ} {vs : List β} :
    (k, vs) ∈ groupBy key val rows ↔
      (∃ r ∈ rows, key r = k) ∧ vs = (rows.filter (key · = k)).map val := by
  have h := valuesAt_groupBy key val rows k
  have hmem : (k, vs) ∈ groupBy key val rows ↔ vs ∈ valuesAt (groupBy key val rows) k := by
    simp [valuesAt]
  rw [hmem, h]
  split <;> simp_all

/-- `d[k] = v` on a dict kept as its items in insertion order: an existing key keeps its place
and takes the new value, a new key goes last. -/
def dictSet : List (κ × β) → κ → β → List (κ × β)
  | [], k, v => [(k, v)]
  | (k', v') :: d, k, v => if k' = k then (k', v) :: d else (k', v') :: dictSet d k v

@[simp] theorem lookup_dictSet (d : List (κ × β)) (k k' : κ) (v : β) :
    (dictSet d k v).lookup k' = if k' = k then some v else d.lookup k' := by
  induction d with
  | nil => by_cases h : k' = k <;> simp [dictSet, List.lookup, h, Bool.beq_eq_decide_eq]
  | cons p d ih =>
    obtain ⟨k'', v''⟩ := p
    by_cases h1 : k'' = k <;> by_cases h2 : k' = k'' <;>
      simp_all [dictSet, List.lookup, Bool.beq_eq_decide_eq]

end Dict

/-! ## Bytes -/

/-- A Python `bytes` value. -/
abbrev Bytes := List UInt8

/-- `s.encode("utf-8")`: the bytes of `String.toUTF8 s`. -/
def encode (s : String) : Bytes := s.toUTF8.data.toList

theorem utf8EncodeChar_of_ascii {c : Char} (hc : c.val ≤ 127) :
    String.utf8EncodeChar c = [c.val.toUInt8] := by
  rw [String.utf8EncodeChar, if_pos hc]

theorem eq_of_toUInt8_eq_of_ascii {c d : Char} (hc : c.val ≤ 127) (hd : d.val ≤ 127)
    (h : c.val.toUInt8 = d.val.toUInt8) : c = d := by
  have h := congrArg UInt8.toNat h
  have hc' : c.val.toNat ≤ 127 := hc
  have hd' : d.val.toNat ≤ 127 := hd
  simp only [UInt32.toUInt8, Nat.toUInt8, UInt8.toNat, UInt8.ofNat, Fin.ofNat,
    BitVec.toNat_ofNat] at h
  exact Char.ext (UInt32.toNat.inj (by omega))

/-- On ASCII text, `encode` is one byte per character and loses nothing. -/
theorem encode_injective_of_ascii {s t : String} (hs : ∀ c ∈ s.data, c.val ≤ 127)
    (ht : ∀ c ∈ t.data, c.val ≤ 127) (h : encode s = encode t) : s = t := by
  suffices ∀ l m : List Char, (∀ c ∈ l, c.val ≤ 127) → (∀ c ∈ m, c.val ≤ 127) →
      l.flatMap String.utf8EncodeChar = m.flatMap String.utf8EncodeChar → l = m by
    cases s; cases t; exact congrArg String.mk (this _ _ hs ht h)
  intro l m hl hm
  induction l generalizing m with
  | nil =>
    cases m with
    | nil => intro; rfl
    | cons d m => simp [utf8EncodeChar_of_ascii (hm d (List.mem_cons_self _ _))]
  | cons c l ih =>
    cases m with
    | nil => simp [utf8EncodeChar_of_ascii (hl c (List.mem_cons_self _ _))]
    | cons d m =>
      simp only [List.flatMap_cons, List.mem_cons, forall_eq_or_imp] at hl hm ⊢
      rw [utf8EncodeChar_of_ascii hl.1, utf8EncodeChar_of_ascii hm.1]
      simp only [List.singleton_append, List.cons.injEq, and_imp]
      exact fun he hr => ⟨eq_of_toUInt8_eq_of_ascii hl.1 hm.1 he, ih m hl.2 hm.2 hr⟩

/-! ## CSV tables -/

/-- A CSV file as `csv.reader` splits it: the header row, then the cells of each later line (a
blank line is the empty row). The files the harness writes with `csv.DictWriter` quote what
needs quoting, so they read back as the cells written. -/
structure CsvFile where
  /-- The header row. -/
  fieldnames : List String
  /-- The cells of each later line. -/
  rows : List (List String)
  deriving DecidableEq, Repr

/-- The dict `csv.DictReader` builds from one row: `dict(zip(fieldnames, row))`, where a repeated
field name keeps its last cell, then `d[key] = restval` (`None`) for each field past the end of
the row. Cells past the end of the header go under the key `restkey` (`None`), which no lookup by
a field name reaches; they are left out. -/
def dictRow (fieldnames row : List String) : List (String × Option String) :=
  (fieldnames.zip (row.map some) ++ (fieldnames.drop row.length).map (·, none)).foldl
    (fun d (kv : String × Option String) => dictSet d kv.1 kv.2) []

/-- `csv.DictReader` over the file: one dict per row, blank rows skipped. -/
def CsvFile.dictRows (f : CsvFile) : List (List (String × Option String)) :=
  (f.rows.filter (!·.isEmpty)).map (dictRow f.fieldnames)

/-- `r[k]` on a row read by `csv.DictReader`: `none` where the row has no field `k` (`KeyError`),
`some none` for a field past the end of the row. -/
def cell (r : List (String × Option String)) (k : String) : Option (Option String) := r.lookup k

/-- A repeated field keeps its last cell, a short row gets `None` for the fields it lacks, and a
blank line is skipped. -/
example : (CsvFile.mk ["success", "latency_ms", "success"] [["1", "5", "0"], [], ["1"]]).dictRows.map
      (cell · "success") = [some (some "0"), some none] := by decide

end DynLiteExperiments

import DynLiteExperiments.Runner

/-!
# The wire: what `put` sends, `get` reads back

`get` returns one of two shapes of result (`get_cases`): not found, with no value and no clock,
or found, with a value. So every result it returns is well formed (`get_wellFormed`), and the
`len(None)` of `sanity_smoke` on a found read without a value cannot happen when the reads are
`get`'s: over any answers of the nodes, `sanity_smoke` raises only what its `put` raised, and
otherwise prints a line for every node (`sanity_smoke_completes`).

`put` sends its value in Base64, and `get` decodes the `valueBase64` of a `2xx` answer with
`b64decode`; the round trip of the codec (`b64decode_b64encode`) makes a node that answers with
the `valueBase64` it was sent read back as the value that was put (`get_reads_put_value`).
-/

namespace DynLiteExperiments

/-- What a result of `get` always is: it carries a value exactly when it is found, and a result
not found carries no clock. -/
structure KvReadResult.WellFormed (r : KvReadResult) : Prop where
  /-- `found` exactly when there is a value. -/
  found_iff : r.found = true ↔ r.value.isSome
  /-- No clock without the key. -/
  clock_of_not_found : r.found = false → r.clock = []

namespace DynLiteHttpClient

variable (pyIntStr : String → Option ℤ)

/-- The two shapes of what `get` returns: not found, with no value and no clock, or found, with a
value. -/
theorem get_cases {resp : HttpResponse} {r : KvReadResult} (h : get pyIntStr resp = .ok r) :
    r = ⟨false, none, []⟩ ∨ ∃ raw clock, r = ⟨true, some raw, clock⟩ := by
  unfold get at h
  by_cases h404 : resp.statusCode = 404
  · rw [if_pos h404] at h
    exact .inl (Except.ok.inj h).symm
  rw [if_neg h404] at h
  simp only [HttpResponse.raiseForStatus] at h
  split_ifs at h with h2xx
  swap
  · cases h
  simp only [bind, Except.bind, pure, Except.pure] at h
  split at h
  · split_ifs at h
    · exact .inl (Except.ok.inj h).symm
    · exact .inl (Except.ok.inj h).symm
    · split at h
      · split at h
        · exact .inr ⟨_, _, (Except.ok.inj h).symm⟩
        · cases h
      · cases h
  · cases h

theorem get_wellFormed {resp : HttpResponse} {r : KvReadResult}
    (h : get pyIntStr resp = .ok r) : r.WellFormed := by
  rcases get_cases pyIntStr h with rfl | ⟨raw, clock, rfl⟩
  · exact ⟨by simp, fun _ => rfl⟩
  · exact ⟨by simp, nofun⟩

/-- The `valueBase64` of what `put` sends is the value in Base64, whatever the coordinator. -/
@[simp] theorem dictGet_putPayload_valueBase64 (value : Bytes) (coordNodeId : Option String) :
    dictGet (putPayload value coordNodeId) "valueBase64" .null = .str (b64encode value) := by
  unfold putPayload
  split
  · split_ifs <;> simp [dictGet, List.lookup]
  · simp [dictGet, List.lookup]

/-- **What `put` sends, `get` reads back.** When a node answers a `GET` with a `2xx` status and a
JSON dict whose `found` is true, whose `valueBase64` is the one a `put` of `value` sent, and whose
vector clock reads, `get` returns `value`, found, with that clock. -/
theorem get_reads_put_value (value : Bytes) (coordNodeId : Option String) (resp : HttpResponse)
    (data : List (String × Json)) (clock : List (String × ℤ))
    (h2xx : 200 ≤ resp.statusCode ∧ resp.statusCode < 300)
    (hjson : resp.json = some (.dict data))
    (hfound : (dictGet data "found" (.bool false)).truthy = true)
    (hvalue : dictGet data "valueBase64" .null =
      dictGet (putPayload value coordNodeId) "valueBase64" .null)
    (hclock : vectorClockOf pyIntStr (dictGet data "vectorClock" (.dict [])) = some clock) :
    get pyIntStr resp = .ok ⟨true, some value, clock⟩ := by
  rw [dictGet_putPayload_valueBase64] at hvalue
  simp [get, HttpResponse.raiseForStatus, h2xx, hjson, hfound, hvalue, b64decodeJson,
    b64decode_b64encode, hclock, show resp.statusCode ≠ 404 by omega]

end DynLiteHttpClient

/-- A node's answer to a `GET` of a key that a `put` of the bytes of `hi` wrote. -/
def echoAnswer : HttpResponse :=
  ⟨200, some (.dict [("found", .bool true), ("valueBase64", .str (b64encode [104, 105])),
    ("vectorClock", .dict [("node-a", .int 1)])])⟩

theorem get_reads_put_value_echo :
    DynLiteHttpClient.get (fun _ => none) echoAnswer = .ok ⟨true, some [104, 105], [("node-a", 1)]⟩ :=
  DynLiteHttpClient.get_reads_put_value _ [104, 105] (some "node-a") echoAnswer _ _ (by decide) rfl
    rfl rfl rfl

/-! ## `sanity_smoke` over `get`'s reads -/

/-- A read that raised, or returned a well-formed result, prints its line without raising. -/
theorem nodeLine_ok {o : Option KvReadResult} (h : ∀ r, o = some r → r.WellFormed) :
    ∃ l, nodeLine o = .ok l := by
  cases o with
  | none => exact ⟨_, rfl⟩
  | some r =>
    cases hf : r.found
    · exact ⟨.notFound, by simp [nodeLine, hf]⟩
    · obtain ⟨v, hv⟩ := Option.isSome_iff_exists.mp (((h r rfl).found_iff).mp hf)
      exact ⟨.found v.length r.clock, by simp [nodeLine, hf, hv]⟩

/-- The printing loop runs to the end when every line prints: no exception, and one line per
node, in order. -/
theorem printNodeLines_of_ok {results : List (String × Option KvReadResult)}
    (h : ∀ x ∈ results, ∃ l, nodeLine x.2 = .ok l) :
    (printNodeLines results).2 = none ∧
      (printNodeLines results).1.map Prod.fst = results.map Prod.fst := by
  induction results with
  | nil => exact ⟨rfl, rfl⟩
  | cons x results ih =>
    obtain ⟨name, r⟩ := x
    obtain ⟨l, hl⟩ := h _ (List.mem_cons_self _ _)
    obtain ⟨ih1, ih2⟩ := ih fun y hy => h y (List.mem_cons_of_mem _ hy)
    simp only [printNodeLines, hl]
    exact ⟨ih1, by simp [ih2]⟩

/-- A read made by `get`, once the request got an answer, is well formed. -/
theorem wellFormed_of_toOption {answer : Except ClientError HttpResponse}
    {pyIntStr : String → Option ℤ} {r : KvReadResult}
    (h : (answer.bind (DynLiteHttpClient.get pyIntStr)).toOption = some r) : r.WellFormed := by
  cases answer with
  | error e => cases h
  | ok resp =>
    cases hr : DynLiteHttpClient.get pyIntStr resp with
    | error e => simp [Except.bind, hr, Except.toOption] at h
    | ok r' =>
      simp only [Except.bind, hr, Except.toOption, Option.some.injEq] at h
      exact h ▸ DynLiteHttpClient.get_wellFormed pyIntStr hr

/-- **`sanity_smoke` runs to the end over `get`'s reads.** Whatever the nodes answer, and whether
or not a request raises before an answer, `sanity_smoke` raises only what its `put` raised: the
`len(None)` of a found read without a value is never reached. When the `put` returned, it prints
a line for every node, in order. -/
theorem sanity_smoke_completes (nodeNames : List String) (putError : Option ClientError)
    (responses : String → Except ClientError HttpResponse) (pyIntStr : String → Option ℤ) :
    (sanitySmoke nodeNames (.ofResponses putError responses pyIntStr)).raised =
        putError.map .client ∧
      (putError = none →
        (sanitySmoke nodeNames (.ofResponses putError responses pyIntStr)).nodeLines.map
          Prod.fst = nodeNames) := by
  cases putError with
  | some e => exact ⟨rfl, nofun⟩
  | none =>
    obtain ⟨h1, h2⟩ := @printNodeLines_of_ok (nodeNames.map fun name =>
      (name, ((responses name).bind (DynLiteHttpClient.get pyIntStr)).toOption)) (by
        simp only [List.mem_map]
        rintro _ ⟨name, -, rfl⟩
        exact nodeLine_ok fun r hr => wellFormed_of_toOption hr)
    simp only [List.map_map, Function.comp_def, List.map_id'] at h2
    simp [sanitySmoke, SanityWorld.ofResponses, h1, h2]

end DynLiteExperiments

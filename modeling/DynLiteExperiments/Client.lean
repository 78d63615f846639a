import DynLiteExperiments.Base64

/-!
# The client interface (`client.py`)

The store is outside the harness: each remote call of `DynLiteHttpClient` either returns or
raises. The probes are modelled over every such outcome: what a call hands back (the result of
`get`, `KvReadResult`, and the JSON body of a Merkle snapshot) and the exceptions a call raises.
Python's `==` on JSON values, which `run_anti_entropy` applies to the roots of two snapshots, is
the equality of their canonical forms (`Json.pyEq`).

Below them is the wire: what `put` sends (`DynLiteHttpClient.putPayload`, the value in Base64) and
how `get` reads a node's answer (`DynLiteHttpClient.get`): a `404` is a result not found, any other
status outside `2xx` raises, and a `2xx` body is read as a JSON dict whose `found`, `valueBase64`
and `vectorClock` make the result. A JSON value is what `json.loads` hands to Python (`Json`);
`int(s)` of a string, which only the vector clock's entries can reach, is left as a parameter
(`pyIntStr`): nothing proved depends on how Python reads an integer.
-/

namespace DynLiteExperiments

/-- Why a client call raised. -/
inductive ClientError
  /-- `httpx` raised before a response arrived (connection refused, timeout, ...). -/
  | transport
  /-- `resp.raise_for_status()` on a non-2xx status (for `get`, other than 404). -/
  | httpStatus (code : ℕ)
  /-- The payload could not be decoded (JSON, Base64 or the vector clock) or is not a dict. -/
  | decode
  deriving DecidableEq, Repr

/-- An exception that escapes a probe: a client call's, or the `IndexError` of
`random.choice` on an empty list. -/
inductive ProbeError
  /-- A client call raised. -/
  | client (e : ClientError)
  /-- `random.choice([])`, or a list index out of range. -/
  | indexError
  /-- `d[k]` on a key the dict does not hold. -/
  | keyError
  /-- `len(None)`. -/
  | typeError
  /-- `x.get(...)` on a value that is not a dict. -/
  | attributeError
  deriving DecidableEq, Repr

/-- `KvReadResult`, what `get` returns. -/
structure KvReadResult where
  /-- Whether the node holds a live value for the key. -/
  found : Bool
  /-- The decoded value, when found. -/
  value : Option Bytes
  /-- The vector clock sent with the value. -/
  clock : List (String × ℤ)
  deriving DecidableEq, Repr

/-! ## The wire -/

/-- A JSON value as `resp.json()` hands it to Python: `None`, a `bool`, an `int`, a `float`, a
`str`, a `list`, or a `dict` by its items in insertion order (its keys are distinct: `json.loads`
keeps the last value of a repeated key). Floats are the rationals they denote; the `NaN` and
`Infinity` that `json.loads` also accepts are left out. -/
inductive Json
  | null
  | bool (b : Bool)
  | int (n : ℤ)
  | float (x : ℚ)
  | str (s : String)
  | list (xs : List Json)
  | dict (kvs : List (String × Json))
  deriving Repr

/-- A token of the canonical form of a JSON value (`Json.canon`). -/
inductive JsonToken
  | null
  | num (x : ℚ)
  | str (s : String)
  | list (n : ℕ)
  | dict (n : ℕ)
  | key (k : String)
  deriving DecidableEq, Repr

mutual

/-- The canonical form of a JSON value under Python's `==`, written out as tokens: a `bool`, an
`int` and a `float` by their value (`True == 1 == 1.0`), a list by its length and its entries in
order, a dict by its size and its items sorted by key (`==` on dicts ignores their order). -/
def Json.canon : Json → List JsonToken
  | .null => [.null]
  | .bool b => [.num (if b then 1 else 0)]
  | .int n => [.num n]
  | .float x => [.num x]
  | .str s => [.str s]
  | .list xs => .list xs.length :: Json.canonList xs
  | .dict kvs => .dict kvs.length ::
      ((Json.canonItems kvs).insertionSort fun a b => a.1 ≤ b.1).flatMap fun kt => .key kt.1 :: kt.2

/-- The canonical forms of the entries of a list, one after the other. -/
def Json.canonList : List Json → List JsonToken
  | [] => []
  | x :: xs => x.canon ++ Json.canonList xs

/-- The items of a dict with their values in canonical form. -/
def Json.canonItems : List (String × Json) → List (String × List JsonToken)
  | [] => []
  | (k, v) :: kvs => (k, v.canon) :: Json.canonItems kvs

end

/-- Python's `a == b` on JSON values: equal canonical forms. -/
def Json.pyEq (a b : Json) : Bool := a.canon == b.canon

theorem Json.pyEq_iff {a b : Json} : a.pyEq b = true ↔ a.canon = b.canon := by
  simp [pyEq]

@[simp] theorem Json.pyEq_str (s t : String) : (Json.str s).pyEq (.str t) = decide (s = t) := by
  rw [Bool.eq_iff_iff, pyEq_iff]
  simp [canon]

theorem Json.pyEq_comm (a b : Json) : a.pyEq b = b.pyEq a := by
  rw [Bool.eq_iff_iff, pyEq_iff, pyEq_iff, eq_comm]

theorem Json.pyEq_trans {a b c : Json} (hab : a.pyEq b = true) (hbc : b.pyEq c = true) :
    a.pyEq c = true :=
  pyEq_iff.mpr ((pyEq_iff.mp hab).trans (pyEq_iff.mp hbc))

/-- `bool(x)`: `None`, `False`, zero and the empty string, list and dict are false. -/
def Json.truthy : Json → Bool
  | .null => false
  | .bool b => b
  | .int n => n != 0
  | .float x => x != 0
  | .str s => !s.isEmpty
  | .list xs => !xs.isEmpty
  | .dict kvs => !kvs.isEmpty

/-- `int(v)` of a JSON value: a `bool` is 0 or 1, a `float` is truncated, a `str` is read by
`int` (`pyIntStr`, `none` where it raises `ValueError`); `None`, a `list` and a `dict` raise
`TypeError`. -/
def Json.toPyInt (pyIntStr : String → Option ℤ) : Json → Option ℤ
  | .bool b => some (if b then 1 else 0)
  | .int n => some n
  | .float x => some (pyInt x)
  | .str s => pyIntStr s
  | _ => none

/-- `d.get(k, default)` on a dict. -/
def dictGet (d : List (String × Json)) (k : String) (default : Json) : Json :=
  (d.lookup k).getD default

/-- A Merkle snapshot whose body is a JSON dict, by its items: `fetch_merkle_snapshot` returns
`resp.json()`, whatever JSON the node sent. -/
structure Snapshot where
  /-- The items of the dict. -/
  items : List (String × Json)
  deriving Repr, Inhabited

/-- The body of the answer. -/
def Snapshot.body (snap : Snapshot) : Json := .dict snap.items

/-- `snap.get("rootHashBase64", "")`. -/
def Snapshot.root (snap : Snapshot) : Json := dictGet snap.items "rootHashBase64" (.str "")

/-- A node's answer as `httpx` hands it back: the status code, and the body as `resp.json()`
parses it, `none` where that raises. -/
structure HttpResponse where
  /-- `resp.status_code`. -/
  statusCode : ℕ
  /-- `resp.json()`. -/
  json : Option Json
  deriving Repr

/-- `resp.raise_for_status()`: `httpx` raises on every status outside `2xx`. -/
def HttpResponse.raiseForStatus (resp : HttpResponse) : Except ClientError Unit :=
  if 200 ≤ resp.statusCode ∧ resp.statusCode < 300 then .ok ()
  else .error (.httpStatus resp.statusCode)

/-- `base64.b64decode(value_b64)` of a JSON value: a `str` is decoded; any other value raises
`TypeError`. The `except Exception` around it re-raises either as `RuntimeError`. -/
def b64decodeJson : Json → Option Bytes
  | .str s => b64decode s
  | _ => none

/-- `{k: int(v) for k, v in clock_raw.items()}` where
`clock_raw = data.get("vectorClock", {}) or {}`: a false value stands for `{}`, and a true value
that is not a dict raises `AttributeError`. -/
def vectorClockOf (pyIntStr : String → Option ℤ) : Json → Option (List (String × ℤ))
  | .dict kvs => kvs.mapM fun (k, v) => (k, ·) <$> v.toPyInt pyIntStr
  | j => if j.truthy then none else some []

namespace DynLiteHttpClient

/-- The JSON body `put` sends: `{"valueBase64": ...}`, the value in Base64, with `"nodeId"` when
`coord_node_id` is given and not empty. -/
def putPayload (value : Bytes) (coordNodeId : Option String) : List (String × Json) :=
  let payload := [("valueBase64", Json.str (b64encode value))]
  match coordNodeId with
  | some nodeId => if nodeId.isEmpty then payload else dictSet payload "nodeId" (.str nodeId)
  | none => payload

/-- `put` once the node has answered `resp`. -/
def put (resp : HttpResponse) : Except ClientError Unit := resp.raiseForStatus

/-- The JSON body `delete` sends, `{"nodeId": ...}`, when `coord_node_id` is given and not empty;
otherwise the request has no body. -/
def deletePayload (coordNodeId : Option String) : Option (List (String × Json)) :=
  match coordNodeId with
  | some nodeId => if nodeId.isEmpty then none else some [("nodeId", .str nodeId)]
  | none => none

/-- `delete` once the node has answered `resp`. -/
def delete (resp : HttpResponse) : Except ClientError Unit := resp.raiseForStatus

/-- `get` once the node has answered `resp`: `404` is a result not found, any other status
outside `2xx` raises; the body must be a dict, whose `found` and `valueBase64` decide whether a
value is returned, decoded from Base64, with the vector clock. -/
def get (pyIntStr : String → Option ℤ) (resp : HttpResponse) : Except ClientError KvReadResult := do
  if resp.statusCode = 404 then return ⟨false, none, []⟩
  resp.raiseForStatus
  let some (.dict data) := resp.json | throw .decode
  if !(dictGet data "found" (.bool false)).truthy then return ⟨false, none, []⟩
  let valueB64 := dictGet data "valueBase64" .null
  if valueB64 matches .null then return ⟨false, none, []⟩
  let some raw := b64decodeJson valueB64 | throw .decode
  let some clock := vectorClockOf pyIntStr (dictGet data "vectorClock" (.dict [])) |
    throw .decode
  return ⟨true, some raw, clock⟩

end DynLiteHttpClient

end DynLiteExperiments

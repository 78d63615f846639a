import DynLiteExperiments.Python

/-!
# Base64 (`base64.b64encode`, `base64.b64decode`)

`put` sends its value as `base64.b64encode(value).decode("ascii")`, and `get` turns the
`valueBase64` it receives back into bytes with `base64.b64decode(value_b64)`. Both are CPython's
`binascii` routines:

* `b2a_base64` (`b2aBase64`) writes each group of three bytes as four characters of the standard
  alphabet, and a last group of one or two bytes as two or three characters padded with `=`;
* `a2b_base64`, in the non-strict mode `b64decode` uses by default (`a2bLoop`), reads one
  character at a time: it skips every character outside the alphabet, counts a `=` only once two
  characters of a group have been read, stops at the `=` that completes a group, and raises on
  input that ends inside a group. `b64decode` of a `str` first encodes it to ASCII, and raises on
  one that is not ASCII.

The loop keeps its C locals (`quad_pos`, `leftchar`, `pads`) in `A2bState`, and writes its bytes
with the shifts and masks of the C code. The round trip `b64decode (b64encode v) = some v` is
proved group by group: `a2bLoop_group` reads back the four characters of one group.
-/

namespace DynLiteExperiments

/-- `table_b2a_base64`: the standard alphabet, the character of each 6-bit value at its index. -/
def b64Alphabet : List Char :=
  "ABCDEFGHIJKLMNOPQRSTUVWXYZabcdefghijklmnopqrstuvwxyz0123456789+/".toList

/-- `table_b2a_base64[i]`, for `i < 64`. -/
def b64Char (i : ℕ) : Char := b64Alphabet.getD i '='

/-- `table_a2b_base64[c]`: the 6-bit value of a character of the alphabet; `none` (an entry of
64 or more) for every other character. -/
def b64Value (c : Char) : Option ℕ := b64Alphabet.indexOf? c

/-- `binascii.b2a_base64(data, newline=False)`: each group of three bytes becomes four
characters, and a last group of two or one bytes three or two characters, padded with `=` to
four. -/
def b2aBase64 : List UInt8 → List Char
  | b0 :: b1 :: b2 :: rest =>
    b64Char (b0.toNat >>> 2) :: b64Char (((b0.toNat &&& 0x03) <<< 4) ||| (b1.toNat >>> 4)) ::
      b64Char (((b1.toNat &&& 0x0f) <<< 2) ||| (b2.toNat >>> 6)) ::
      b64Char (b2.toNat &&& 0x3f) :: b2aBase64 rest
  | [b0, b1] =>
    [b64Char (b0.toNat >>> 2), b64Char (((b0.toNat &&& 0x03) <<< 4) ||| (b1.toNat >>> 4)),
      b64Char ((b1.toNat &&& 0x0f) <<< 2), '=']
  | [b0] => [b64Char (b0.toNat >>> 2), b64Char ((b0.toNat &&& 0x03) <<< 4), '=', '=']
  | [] => []

/-- `base64.b64encode(value).decode("ascii")`. -/
def b64encode (value : Bytes) : String := ⟨b2aBase64 value⟩

/-- The locals of `a2b_base64`'s loop between two characters. -/
structure A2bState where
  /-- `quad_pos`: how many characters of the current group have been read, 0 to 3. -/
  quadPos : ℕ
  /-- `leftchar`: the bits read and not yet written. -/
  leftchar : ℕ
  /-- `pads`: the `=` counted since the last character of the alphabet. -/
  pads : ℕ
  /-- `bin_data`: the bytes written so far. -/
  binData : Bytes
  deriving DecidableEq, Repr

/-- The locals before the first character. -/
def A2bState.init : A2bState := ⟨0, 0, 0, []⟩

/-- The `switch (quad_pos)` of the loop on a character of the alphabet of value `v`: a byte is
written at the second, third and fourth character of a group. -/
def A2bState.feed (st : A2bState) (v : ℕ) : A2bState :=
  match st.quadPos with
  | 0 => { st with quadPos := 1, leftchar := v }
  | 1 =>
    { st with
      quadPos := 2
      leftchar := v &&& 0x0f
      binData := st.binData ++ [((st.leftchar <<< 2) ||| (v >>> 4)).toUInt8] }
  | 2 =>
    { st with
      quadPos := 3
      leftchar := v &&& 0x03
      binData := st.binData ++ [((st.leftchar <<< 4) ||| (v >>> 2)).toUInt8] }
  | _ =>
    { st with
      quadPos := 0
      leftchar := 0
      binData := st.binData ++ [((st.leftchar <<< 6) ||| v).toUInt8] }

/-- The loop of `a2b_base64` in non-strict mode over the rest of the input: the bytes written, or
`none` where it raises `binascii.Error` (the input ends inside a group). -/
def a2bLoop : A2bState → List Char → Option Bytes
  | st, [] => if st.quadPos = 0 then some st.binData else none
  | st, c :: cs =>
    if c = '=' then
      if 2 ≤ st.quadPos then
        if 4 ≤ st.quadPos + (st.pads + 1) then some st.binData
        else a2bLoop { st with pads := st.pads + 1 } cs
      else a2bLoop st cs
    else
      match b64Value c with
      | some v => a2bLoop ({ st with pads := 0 }.feed v) cs
      | none => a2bLoop st cs

/-- `base64.b64decode(s)` of a `str`: `s.encode("ascii")`, which raises on a character that is
not ASCII, then `a2b_base64`; `none` where it raises. -/
def b64decode (s : String) : Option Bytes :=
  if s.data.all (·.toNat < 128) then a2bLoop .init s.data else none

/-! ## The alphabet -/

/-- Each character of the alphabet is ASCII and not the pad, and the decoding table gives back its
index. -/
theorem b64Char_spec : ∀ i : Fin 64,
    (b64Char i.val).toNat < 128 ∧ b64Char i.val ≠ '=' ∧ b64Value (b64Char i.val) = some i.val := by
  decide

/-! ## Bit arithmetic -/

theorem shiftLeft_or_eq_add {b : ℕ} (a : ℕ) {k : ℕ} (hb : b < 2 ^ k) :
    (a <<< k) ||| b = a * 2 ^ k + b := by
  rw [Nat.shiftLeft_eq, mul_comm, Nat.mul_add_lt_is_or hb]

@[simp] theorem and_three (x : ℕ) : x &&& 0x03 = x % 4 := Nat.and_pow_two_sub_one_eq_mod x 2

@[simp] theorem and_fifteen (x : ℕ) : x &&& 0x0f = x % 16 := Nat.and_pow_two_sub_one_eq_mod x 4

@[simp] theorem and_sixtyThree (x : ℕ) : x &&& 0x3f = x % 64 := Nat.and_pow_two_sub_one_eq_mod x 6

theorem toUInt8_toNat (b : UInt8) : b.toNat.toUInt8 = b :=
  UInt8.toNat.inj (UInt8.toNat_ofNat_of_lt b.toNat_lt)

theorem toNat_lt_256 (b : UInt8) : b.toNat < 256 := b.toNat_lt_size

/-- The second 6-bit value of a group: the low two bits of the first byte, then the high four of
the second. -/
theorem second_value (x0 x1 : ℕ) (h1 : x1 < 256) :
    ((x0 &&& 0x03) <<< 4) ||| (x1 >>> 4) = x0 % 4 * 16 + x1 / 16 := by
  rw [and_three, Nat.shiftRight_eq_div_pow, shiftLeft_or_eq_add _ (by omega)]
  rfl

/-- The third 6-bit value of a group: the low four bits of the second byte, then the high two of
the third. -/
theorem third_value (x1 x2 : ℕ) (h2 : x2 < 256) :
    ((x1 &&& 0x0f) <<< 2) ||| (x2 >>> 6) = x1 % 16 * 4 + x2 / 64 := by
  rw [and_fifteen, Nat.shiftRight_eq_div_pow, shiftLeft_or_eq_add _ (by omega)]
  rfl

/-- The first byte of a group comes back from its first two values. -/
theorem first_byte (x0 x1 : ℕ) (h1 : x1 < 256) :
    ((x0 >>> 2) <<< 2) ||| ((x0 % 4 * 16 + x1 / 16) >>> 4) = x0 := by
  rw [Nat.shiftRight_eq_div_pow, Nat.shiftRight_eq_div_pow, shiftLeft_or_eq_add _ (by omega)]
  omega

/-- The second byte of a group comes back from its second and third values. -/
theorem second_byte (x0 x1 x2 : ℕ) (h1 : x1 < 256) (h2 : x2 < 256) :
    (((x0 % 4 * 16 + x1 / 16) &&& 0x0f) <<< 4) ||| ((x1 % 16 * 4 + x2 / 64) >>> 2) = x1 := by
  rw [and_fifteen, Nat.shiftRight_eq_div_pow, shiftLeft_or_eq_add _ (by omega)]
  omega

/-- The third byte of a group comes back from its third and fourth values. -/
theorem third_byte (x1 x2 : ℕ) (h2 : x2 < 256) :
    (((x1 % 16 * 4 + x2 / 64) &&& 0x03) <<< 6) ||| (x2 &&& 0x3f) = x2 := by
  rw [and_three, and_sixtyThree, shiftLeft_or_eq_add _ (by omega)]
  omega

/-- The last value of a group of two bytes. -/
theorem last_value_of_two (x1 : ℕ) : (x1 &&& 0x0f) <<< 2 = x1 % 16 * 4 := by
  rw [and_fifteen, Nat.shiftLeft_eq]

/-- The last value of a group of one byte. -/
theorem last_value_of_one (x0 : ℕ) : (x0 &&& 0x03) <<< 4 = x0 % 4 * 16 := by
  rw [and_three, Nat.shiftLeft_eq]

/-- The second byte of a group of two comes back from its last two values. -/
theorem second_byte_of_two (x0 x1 : ℕ) (h1 : x1 < 256) :
    (((x0 % 4 * 16 + x1 / 16) &&& 0x0f) <<< 4) ||| ((x1 % 16 * 4) >>> 2) = x1 := by
  rw [and_fifteen, Nat.shiftRight_eq_div_pow, shiftLeft_or_eq_add _ (by omega)]
  omega

/-- The byte of a group of one comes back from its two values. -/
theorem first_byte_of_one (x0 : ℕ) : ((x0 >>> 2) <<< 2) ||| ((x0 % 4 * 16) >>> 4) = x0 := by
  rw [Nat.shiftRight_eq_div_pow, Nat.shiftRight_eq_div_pow, shiftLeft_or_eq_add _ (by omega)]
  omega

/-! ## The round trip -/

/-- A character of the alphabet is fed to the current group, and resets the count of `=`. -/
theorem a2bLoop_b64Char (st : A2bState) {i : ℕ} (hi : i < 64) (cs : List Char) :
    a2bLoop st (b64Char i :: cs) = a2bLoop ({ st with pads := 0 }.feed i) cs := by
  obtain ⟨-, hpad, hval⟩ := b64Char_spec ⟨i, hi⟩
  simp only [a2bLoop, if_neg hpad, hval]

/-- The four characters `b2a_base64` writes for the bytes `b0 b1 b2`, read from the start of a
group, write the three bytes back and leave the loop at the start of the next group. -/
theorem a2bLoop_group (st : A2bState) (hq : st.quadPos = 0) (b0 b1 b2 : UInt8) (cs : List Char) :
    a2bLoop st (b64Char (b0.toNat >>> 2) ::
      b64Char (((b0.toNat &&& 0x03) <<< 4) ||| (b1.toNat >>> 4)) ::
      b64Char (((b1.toNat &&& 0x0f) <<< 2) ||| (b2.toNat >>> 6)) ::
      b64Char (b2.toNat &&& 0x3f) :: cs) =
      a2bLoop ⟨0, 0, 0, st.binData ++ [b0, b1, b2]⟩ cs := by
  have h0 := toNat_lt_256 b0
  have h1 := toNat_lt_256 b1
  have h2 := toNat_lt_256 b2
  rw [second_value _ _ h1, third_value _ _ h2, a2bLoop_b64Char _ (by rw [Nat.shiftRight_eq_div_pow]; omega),
    a2bLoop_b64Char _ (by omega), a2bLoop_b64Char _ (by omega),
    a2bLoop_b64Char _ (by rw [and_sixtyThree]; omega)]
  simp only [A2bState.feed, hq, first_byte _ _ h1, second_byte _ _ _ h1 h2, third_byte _ _ h2,
    toUInt8_toNat, List.append_assoc, List.singleton_append, List.cons_append, List.nil_append]

/-- From the start of a group, `a2b_base64` reads back every byte `b2a_base64` wrote: the full
groups one by one, then the last group of two or one bytes, whose padding ends the loop. -/
theorem a2bLoop_b2aBase64 (v : Bytes) :
    ∀ st : A2bState, st.quadPos = 0 → a2bLoop st (b2aBase64 v) = some (st.binData ++ v) := by
  induction v using b2aBase64.induct with
  | case1 b0 b1 b2 rest ih =>
    intro st hq
    rw [b2aBase64, a2bLoop_group st hq, ih _ rfl, List.append_assoc]
    rfl
  | case2 b0 b1 =>
    intro st hq
    have h0 := toNat_lt_256 b0
    have h1 := toNat_lt_256 b1
    rw [b2aBase64, second_value _ _ h1, last_value_of_two,
      a2bLoop_b64Char _ (by rw [Nat.shiftRight_eq_div_pow]; omega),
      a2bLoop_b64Char _ (by omega), a2bLoop_b64Char _ (by omega)]
    simp [A2bState.feed, hq, a2bLoop, first_byte _ _ h1, second_byte_of_two _ _ h1,
      toUInt8_toNat, -and_fifteen]
  | case3 b0 =>
    intro st hq
    have h0 := toNat_lt_256 b0
    rw [b2aBase64, last_value_of_one, a2bLoop_b64Char _ (by rw [Nat.shiftRight_eq_div_pow]; omega),
      a2bLoop_b64Char _ (by omega)]
    simp [A2bState.feed, hq, a2bLoop, first_byte_of_one, toUInt8_toNat, -and_three]
  | case4 => exact fun st hq => by simp [b2aBase64, a2bLoop, hq]

/-- Every character `b2a_base64` writes is a character of the table or the pad. -/
theorem mem_b2aBase64 {v : Bytes} {c : Char} (hc : c ∈ b2aBase64 v) :
    c = '=' ∨ ∃ i, c = b64Char i := by
  induction v using b2aBase64.induct with
  | case1 b0 b1 b2 rest ih =>
    simp only [b2aBase64, List.mem_cons] at hc
    rcases hc with h | h | h | h | hc
    iterate 4 exact .inr ⟨_, h⟩
    exact ih hc
  | case2 b0 b1 =>
    simp only [b2aBase64, List.mem_cons, List.not_mem_nil, or_false] at hc
    rcases hc with h | h | h | h
    iterate 3 exact .inr ⟨_, h⟩
    exact .inl h
  | case3 b0 =>
    simp only [b2aBase64, List.mem_cons, List.not_mem_nil, or_false] at hc
    rcases hc with h | h | h | h
    iterate 2 exact .inr ⟨_, h⟩
    iterate 2 exact .inl h
  | case4 => cases hc

/-- Every character `b2a_base64` writes is ASCII. -/
theorem ascii_of_mem_b2aBase64 {v : Bytes} {c : Char} (hc : c ∈ b2aBase64 v) : c.toNat < 128 := by
  rcases mem_b2aBase64 hc with rfl | ⟨i, rfl⟩
  · decide
  by_cases hi : i < 64
  · exact (b64Char_spec ⟨i, hi⟩).1
  · rw [b64Char, List.getD_eq_default _ _ (by rw [show b64Alphabet.length = 64 from rfl]; omega)]
    decide

/-- `b64decode` reads back what `b64encode` wrote. -/
theorem b64decode_b64encode (v : Bytes) : b64decode (b64encode v) = some v := by
  simp only [b64decode, b64encode]
  rw [if_pos (List.all_eq_true.mpr fun c hc => decide_eq_true (ascii_of_mem_b2aBase64 hc))]
  exact a2bLoop_b2aBase64 v .init rfl

example : b64encode [104, 105] = "aGk=" := by decide

example : b64decode "aG k=" = some [104, 105] ∧ b64decode "aGk" = none := by decide

end DynLiteExperiments

import BlockCache.Json
import BlockCache.Decimal

/-!
# Hex text and fixed-width integers

`fetch_blocks_rpc.hex_to_raw` turns a `0x…` string into bytes through `bytes.fromhex`;
`hex_to_bytes` reads a string with `int(h, 16)` (`pyInt 16`, with its sign, `0x`, `_` and
whitespace) and writes the value as `length` big-endian bytes with `int.to_bytes`, which raises
`OverflowError` when the value is negative or does not fit.

Beside them stand the meanings the transcoder's specification is written in: `hexNum`, the
value of a run of hex digits; `digitBytes`, the bytes a run of digit pairs denotes, read pair by
pair; and `bigEndian w n`, the `w` bytes whose big-endian value is `n` (`bigEndian_spec`). On
well-formed text the code's functions compute exactly these (`hexToRaw_eq`, `hexToBytes_eq`).
-/

namespace BlockCache

/-- The value of one hex digit, either case: the ASCII digits `int(c, 16)` and `bytes.fromhex`
both read. -/
def hexDigit (c : Char) : Option Nat := digitIn 16 c

/-- Python's `int(v, 16)`: `TypeError` for a value that is not a string. -/
def intHex : Json → Except PyExc Int
  | .str s =>
    match pyInt 16 s with
    | some n => .ok n
    | none => .error .valueError
  | _ => .error .typeError

/-- `bytes.fromhex`: two hex digits a byte (whitespace between bytes is not modelled). -/
def fromHex : List Char → Option Bytes
  | [] => some []
  | a :: b :: rest => do
    let x ← hexDigit a
    let y ← hexDigit b
    let r ← fromHex rest
    pure (UInt8.ofNat (16 * x + y) :: r)
  | [_] => none

/-- The digits of `int.to_bytes(length, "big")`, least significant byte last. -/
def toBytesBig (v : Nat) : Nat → Bytes
  | 0 => []
  | w + 1 => toBytesBig (v / 256) w ++ [UInt8.ofNat (v % 256)]

/-- `v.to_bytes(length, "big")`. -/
def intToBytes (v : Int) (length : Nat) : Except PyExc Bytes :=
  if 0 ≤ v ∧ v < 256 ^ length then .ok (toBytesBig v.toNat length) else .error .overflowError

namespace FetchBlocksRpc

/-- `hex_to_bytes`. -/
def hexToBytes (h : Json) (length : Nat) : Except PyExc Bytes := do
  let val ← if h.truthy && !h.isStr "0x" then intHex h else pure 0
  intToBytes val length

/-- `hex_to_raw`. -/
def hexToRaw (h : Json) : Except PyExc Bytes :=
  if !h.truthy || h.isStr "0x" then .ok []
  else match h with
    | .str s =>
      let cs := if "0x".data.isPrefixOf s.data then s.data.drop 2 else s.data
      let cs := if cs.length % 2 = 1 then '0' :: cs else cs
      match fromHex cs with
      | some b => .ok b
      | none => .error .valueError
    | _ => .error .attributeError

end FetchBlocksRpc

/-! ### The meanings -/

/-- Whether a character is a hex digit. -/
def isHexDigit (c : Char) : Bool := (hexDigit c).isSome

/-- The value of a run of hex digits, most significant first. -/
def hexNum (cs : List Char) : Nat := cs.foldl (fun acc c => 16 * acc + (hexDigit c).getD 0) 0

/-- The bytes a run of hex digits denotes: byte `i` is the pair at `2i`, `2i + 1`. -/
def digitBytes (cs : List Char) : Bytes :=
  (List.range (cs.length / 2)).map fun i =>
    UInt8.ofNat (16 * (hexDigit (cs.getD (2 * i) '0')).getD 0 + (hexDigit (cs.getD (2 * i + 1) '0')).getD 0)

/-- The `w` bytes whose big-endian value is `n` (for `n < 256 ^ w`): byte `i` is the base-256
digit of weight `256 ^ (w - 1 - i)`. -/
def bigEndian (w n : Nat) : Bytes :=
  (List.range w).map fun i => UInt8.ofNat (n / 256 ^ (w - 1 - i) % 256)

/-- The big-endian value of a byte string. -/
def beValue (bs : Bytes) : Nat := bs.foldl (fun acc b => 256 * acc + b.toNat) 0

theorem beValue_append_singleton (bs : Bytes) (b : UInt8) :
    beValue (bs ++ [b]) = 256 * beValue bs + b.toNat := by
  simp [beValue, List.foldl_append]

theorem toBytesBig_length (v w : Nat) : (toBytesBig v w).length = w := by
  induction w generalizing v with
  | zero => rfl
  | succ w ih => simp [toBytesBig, ih]

theorem beValue_toBytesBig {v w : Nat} (h : v < 256 ^ w) : beValue (toBytesBig v w) = v := by
  induction w generalizing v with
  | zero => simp at h; subst h; rfl
  | succ w ih =>
    rw [toBytesBig, beValue_append_singleton, ih (by rw [pow_succ] at h; omega),
      UInt8.toNat_ofNat_of_lt (by simp [UInt8.size]; omega)]
    omega

theorem toBytesBig_eq_bigEndian (v w : Nat) : toBytesBig v w = bigEndian w v := by
  induction w generalizing v with
  | zero => rfl
  | succ w ih =>
    rw [toBytesBig, ih, bigEndian, bigEndian, List.range_succ, List.map_append]
    congr 1
    · refine List.map_congr_left fun i hi => ?_
      rw [List.mem_range] at hi
      rw [Nat.div_div_eq_div_mul, ← pow_succ', show w + 1 - 1 - i = w - 1 - i + 1 by omega]
    · simp

theorem bigEndian_spec {w n : Nat} (h : n < 256 ^ w) :
    (bigEndian w n).length = w ∧ beValue (bigEndian w n) = n := by
  rw [← toBytesBig_eq_bigEndian]; exact ⟨toBytesBig_length n w, beValue_toBytesBig h⟩

theorem digitBytes_cons_cons (a b : Char) (rest : List Char) :
    digitBytes (a :: b :: rest) =
      UInt8.ofNat (16 * (hexDigit a).getD 0 + (hexDigit b).getD 0) :: digitBytes rest := by
  rw [digitBytes, digitBytes, show (a :: b :: rest).length / 2 = rest.length / 2 + 1 by
    simp; omega, List.range_succ_eq_map, List.map_cons, List.map_map]
  congr 1

theorem fromHex_eq {cs : List Char} (h : cs.all isHexDigit) (he : cs.length % 2 = 0) :
    fromHex cs = some (digitBytes cs) := by
  induction cs using fromHex.induct with
  | case1 => rfl
  | case2 a b rest ih =>
    simp only [List.all_cons, Bool.and_eq_true] at h
    obtain ⟨x, hx⟩ := Option.isSome_iff_exists.1 h.1
    obtain ⟨y, hy⟩ := Option.isSome_iff_exists.1 h.2.1
    rw [fromHex, digitBytes_cons_cons, hx, hy, ih h.2.2 (by simp at he; omega)]
    rfl
  | case3 => simp at he

/-- `"0x"` and then an even number of hex digits: a raw field. -/
def rawHexOk : Json → Bool
  | .str ⟨'0' :: 'x' :: ds⟩ => ds.all isHexDigit && ds.length % 2 == 0
  | _ => false

/-- `"0x"` and then the hex digits of a number below `256 ^ w`: a fixed-width field. -/
def fixedOk (w : Nat) : Json → Bool
  | .str ⟨'0' :: 'x' :: ds⟩ => !ds.isEmpty && ds.all isHexDigit && decide (hexNum ds < 256 ^ w)
  | _ => false

/-- `"0x"` and then at least one hex digit: a quantity. -/
def quantityOk : Json → Bool
  | .str ⟨'0' :: 'x' :: ds⟩ => !ds.isEmpty && ds.all isHexDigit
  | _ => false

/-- The bytes a raw field's digits denote. -/
def rawOf : Json → Bytes
  | .str ⟨'0' :: 'x' :: ds⟩ => digitBytes ds
  | _ => []

/-- The number a field's digits denote. -/
def numOf : Json → Nat
  | .str ⟨'0' :: 'x' :: ds⟩ => hexNum ds
  | _ => 0

theorem rawHexOk_iff {v : Json} : rawHexOk v = true ↔
    ∃ ds, v = .str ⟨'0' :: 'x' :: ds⟩ ∧ ds.all isHexDigit ∧ ds.length % 2 = 0 := by
  constructor
  · intro h
    unfold rawHexOk at h
    split at h
    · exact ⟨_, rfl, by simpa using h⟩
    · cases h
  · rintro ⟨ds, rfl, h1, h2⟩; simp [rawHexOk, h1, h2]

theorem quantityOk_iff {v : Json} : quantityOk v = true ↔
    ∃ ds, v = .str ⟨'0' :: 'x' :: ds⟩ ∧ ds ≠ [] ∧ ds.all isHexDigit := by
  constructor
  · intro h
    unfold quantityOk at h
    split at h
    · exact ⟨_, rfl, by simpa [List.isEmpty_iff] using h⟩
    · cases h
  · rintro ⟨ds, rfl, h1, h2⟩; simp [quantityOk, h2, List.isEmpty_iff, h1]

theorem fixedOk_iff {w : Nat} {v : Json} : fixedOk w v = true ↔
    quantityOk v = true ∧ numOf v < 256 ^ w := by
  constructor
  · intro h
    unfold fixedOk at h
    split at h
    · simp only [Bool.and_eq_true, decide_eq_true_eq] at h
      exact ⟨by simp [quantityOk, h.1.1, h.1.2], h.2⟩
    · cases h
  · rintro ⟨hq, hlt⟩
    obtain ⟨ds, rfl, hne, hd⟩ := quantityOk_iff.1 hq
    simpa [fixedOk, hd, List.isEmpty_iff, hne] using hlt

namespace FetchBlocksRpc

theorem hexToRaw_eq {v : Json} (h : rawHexOk v) : hexToRaw v = .ok (rawOf v) := by
  obtain ⟨ds, rfl, hd, he⟩ := rawHexOk_iff.1 h
  rcases ds with _ | ⟨d, ds⟩
  · rfl
  · have hpre : "0x".data.isPrefixOf ('0' :: 'x' :: d :: ds) = true := rfl
    have hodd : ¬ (d :: ds).length % 2 = 1 := by omega
    simp only [hexToRaw, rawOf, Json.truthy, Json.isStr, hpre, if_true, List.drop, hodd, if_false,
      fromHex_eq hd he]
    rfl

theorem intHex_eq {v : Json} (h : quantityOk v) : intHex v = .ok (numOf v : Int) := by
  obtain ⟨ds, rfl, hne, hd⟩ := quantityOk_iff.1 h
  have hall : ∀ c ∈ ds, (digitIn 16 c).isSome := fun c hc => List.all_eq_true.1 hd c hc
  have hrun := digitRun_eq_foldl 0 ds hne hall
  obtain ⟨d, ds, rfl⟩ := List.exists_cons_of_ne_nil hne
  have h1 : stripSpaces ((String.mk ('0' :: 'x' :: d :: ds)).data.map toAsciiDigit) =
      '0' :: 'x' :: d :: ds := stripSpaces_digits ['0', 'x'] (by decide) hall
  have hp : stripHexPrefix ('0' :: 'x' :: d :: ds) = d :: ds := by
    simp [stripHexPrefix, (digitIn_facts (hall d (List.mem_cons_self d ds))).2.2.2.2]
  have hint : pyInt 16 ⟨'0' :: 'x' :: d :: ds⟩ = some (hexNum (d :: ds) : Int) := by
    rw [pyInt, h1, splitSign.eq_3 _ (by simp) (by simp)]
    simp [hp, hrun, hexNum, hexDigit]
  simp [intHex, hint, numOf]

theorem hexToBytes_eq {w : Nat} {v : Json} (h : fixedOk w v) :
    hexToBytes v w = .ok (bigEndian w (numOf v)) := by
  obtain ⟨hq, hlt⟩ := fixedOk_iff.1 h
  obtain ⟨ds, rfl, hne, -⟩ := quantityOk_iff.1 hq
  rcases ds with _ | ⟨d, ds⟩
  · exact absurd rfl hne
  · have hc : ((Json.str ⟨'0' :: 'x' :: d :: ds⟩).truthy &&
        !(Json.str ⟨'0' :: 'x' :: d :: ds⟩).isStr "0x") = true := rfl
    rw [hexToBytes, if_pos hc, intHex_eq hq]
    simp only [intToBytes, ok_bind, Int.ofNat_nonneg, true_and, Int.toNat_ofNat,
      toBytesBig_eq_bigEndian]
    rw [if_pos (by exact_mod_cast hlt)]

end FetchBlocksRpc

end BlockCache

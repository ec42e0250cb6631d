import BlockCache.Transcode

/-!
# What the transcoder computes on well-formed input

`wfBlock` and `wfReceipts` say when a node's block and receipts are well formed: every raw field
is `"0x"` and an even number of hex digits, every fixed-width field of width `w` is the hex of a
number below `256 ^ w`, required fields are present, optional ones absent or well formed, and
the containers have the shapes the code iterates over. They are Boolean checks, so that a block
can be checked by evaluation.

`expected` is the record the transcoder is specified to produce, written field by field from
that specification: a raw field is the bytes its digits denote (`rawOf`), a fixed-width field is
`bigEndian w` of its number (`0` when absent), `mixHash`, `withdrawalsRoot` and
`parentBeaconBlockRoot` default to 32 zero bytes and `nonce` to 8, a transaction's variant and a
receipt's tag follow its `type` (`txKind`), the signature's last part comes from `yParity` when
present and from `v` otherwise, and `success` is `status == "0x1"`.
`rpcToNanoreth_eq_expected` shows the code computes it.
-/

namespace BlockCache
namespace FetchBlocksRpc

/-- The member `k` of an object. -/
def field : Json → String → Option Json
  | .obj kvs, k => Json.find? kvs k
  | _, _ => none

/-- Whether a value is an object. -/
def isObj : Json → Bool
  | .obj _ => true
  | _ => false

/-- `k` is present and its value passes `p`. -/
def req (o : Json) (k : String) (p : Json → Bool) : Bool := (field o k).elim false p

/-- `k` is absent, or its value passes `p`. -/
def opt (o : Json) (k : String) (p : Json → Bool) : Bool := (field o k).elim true p

/-- A list whose items pass `p`. -/
def listOk (p : Json → Bool) : Json → Bool
  | .arr xs => xs.all p
  | _ => false

/-- The items of the list under `k` (none when absent). -/
def items (o : Json) (k : String) : List Json :=
  match field o k with
  | some (.arr xs) => xs
  | _ => []

/-! ### Well-formed input -/

/-- A well-formed access-list entry. -/
def wfAccessItem (item : Json) : Bool :=
  isObj item && req item "address" rawHexOk && opt item "storageKeys" (listOk rawHexOk)

/-- The variant a `type` value selects. -/
def txKind (v : Json) : TxType :=
  if v.isStr "0x2" then .Eip1559 else if v.isStr "0x1" then .Eip2930 else .Legacy

/-- The `type` of a transaction or receipt, `"0x0"` when absent. -/
def typeOf (o : Json) : Json := (field o "type").getD (.str "0x0")

/-- The value the signature's last part is read from: `yParity`, else `v`, else `"0x0"`. -/
def parityOf (tx : Json) : Json := (field tx "yParity").getD ((field tx "v").getD (.str "0x0"))

/-- A well-formed transaction of its kind. -/
def wfTx (tx : Json) : Bool :=
  isObj tx && req tx "r" (fixedOk 32) && req tx "s" (fixedOk 32) && fixedOk 8 (parityOf tx) &&
    opt tx "to" (fun v => !v.truthy || rawHexOk v) && opt tx "value" (fixedOk 32) &&
    opt tx "input" rawHexOk &&
    match txKind (typeOf tx) with
    | .Eip1559 => req tx "chainId" (fixedOk 8) && req tx "nonce" (fixedOk 8) &&
        req tx "gas" (fixedOk 8) && req tx "maxFeePerGas" (fixedOk 16) &&
        req tx "maxPriorityFeePerGas" (fixedOk 16) && opt tx "accessList" (listOk wfAccessItem)
    | .Eip2930 => req tx "chainId" (fixedOk 8) && req tx "nonce" (fixedOk 8) &&
        req tx "gasPrice" (fixedOk 16) && req tx "gas" (fixedOk 8) &&
        opt tx "accessList" (listOk wfAccessItem)
    | .Legacy => req tx "nonce" (fixedOk 8) && req tx "gasPrice" (fixedOk 16) &&
        req tx "gas" (fixedOk 8)

/-- A well-formed log. -/
def wfLog (l : Json) : Bool :=
  isObj l && req l "address" rawHexOk && opt l "topics" (listOk rawHexOk) && opt l "data" rawHexOk

/-- A well-formed receipt: a hashable `type`, well-formed logs, a hex cumulative gas. -/
def wfReceipt (r : Json) : Bool :=
  isObj r && opt r "type" (fun v => (v.toKey.toOption).isSome) && opt r "logs" (listOk wfLog) &&
    opt r "cumulativeGasUsed" quantityOk

/-- Well-formed receipts: a list of well-formed receipts, or nothing (`receipts_json or []`). -/
def wfReceipts (rs : Json) : Bool := !rs.truthy || listOk wfReceipt rs

/-- A well-formed header: the fields `headerOf` reads. -/
def wfHeader (b : Json) : Bool :=
  req b "number" (fixedOk 8) &&
    ["parentHash", "sha3Uncles", "miner", "stateRoot", "transactionsRoot", "receiptsRoot",
      "logsBloom"].all (req b · rawHexOk) &&
    ["gasLimit", "gasUsed", "timestamp"].all (req b · (fixedOk 8)) &&
    opt b "difficulty" (fixedOk 32) &&
    ["baseFeePerGas", "blobGasUsed", "excessBlobGas"].all (opt b · (fixedOk 8)) &&
    ["extraData", "mixHash", "nonce", "withdrawalsRoot", "parentBeaconBlockRoot"].all
      (opt b · rawHexOk)

/-- A well-formed block. -/
def wfBlock (b : Json) : Bool :=
  isObj b && wfHeader b && req b "hash" rawHexOk && opt b "transactions" (listOk wfTx)

/-! ### The specified record -/

/-- A raw field: the bytes its digits denote, `default` when absent. -/
def rawField (o : Json) (k : String) (default : Bytes) : Bytes := (field o k).elim default rawOf

/-- A fixed-width field: the `w` big-endian bytes of its number, `0` when absent. -/
def fixedField (o : Json) (k : String) (w : Nat) : Bytes := bigEndian w ((field o k).elim 0 numOf)

/-- `n` zero bytes. -/
def zeros (n : Nat) : Bytes := List.replicate n 0

/-- The specified header. -/
def expectedHeader (b : Json) : Header where
  parentHash := rawField b "parentHash" []
  sha3Uncles := rawField b "sha3Uncles" []
  miner := rawField b "miner" []
  stateRoot := rawField b "stateRoot" []
  transactionsRoot := rawField b "transactionsRoot" []
  receiptsRoot := rawField b "receiptsRoot" []
  logsBloom := rawField b "logsBloom" []
  difficulty := fixedField b "difficulty" 32
  number := fixedField b "number" 8
  gasLimit := fixedField b "gasLimit" 8
  gasUsed := fixedField b "gasUsed" 8
  timestamp := fixedField b "timestamp" 8
  extraData := rawField b "extraData" []
  mixHash := rawField b "mixHash" (zeros 32)
  nonce := rawField b "nonce" (zeros 8)
  baseFeePerGas := fixedField b "baseFeePerGas" 8
  withdrawalsRoot := rawField b "withdrawalsRoot" (zeros 32)
  blobGasUsed := fixedField b "blobGasUsed" 8
  excessBlobGas := fixedField b "excessBlobGas" 8
  parentBeaconBlockRoot := rawField b "parentBeaconBlockRoot" (zeros 32)

/-- The specified access-list entry. -/
def expectedAccessItem (item : Json) : AccessItem :=
  ⟨rawField item "address" [], (items item "storageKeys").map rawOf⟩

/-- The specified transaction: the variant of its `type`, each with its own fields. -/
def expectedTx (tx : Json) : SignedTx :=
  let sig := (fixedField tx "r" 32, fixedField tx "s" 32, bigEndian 8 (numOf (parityOf tx)))
  let toAddr := rawField tx "to" []
  let accessList := (items tx "accessList").map expectedAccessItem
  match txKind (typeOf tx) with
  | .Eip1559 => ⟨sig, .Eip1559 (fixedField tx "chainId" 8) (fixedField tx "nonce" 8)
      (fixedField tx "gas" 8) (fixedField tx "maxFeePerGas" 16)
      (fixedField tx "maxPriorityFeePerGas" 16) toAddr (fixedField tx "value" 32) accessList
      (rawField tx "input" [])⟩
  | .Eip2930 => ⟨sig, .Eip2930 (fixedField tx "chainId" 8) (fixedField tx "nonce" 8)
      (fixedField tx "gasPrice" 16) (fixedField tx "gas" 8) toAddr (fixedField tx "value" 32)
      accessList (rawField tx "input" [])⟩
  | .Legacy => ⟨sig, .Legacy (fixedField tx "nonce" 8) (fixedField tx "gasPrice" 16)
      (fixedField tx "gas" 8) toAddr (fixedField tx "value" 32) (rawField tx "input" [])⟩

/-- The specified log. -/
def expectedLog (l : Json) : Log :=
  ⟨rawField l "address" [], ⟨(items l "topics").map rawOf, rawField l "data" []⟩⟩

/-- The specified receipt. -/
def expectedReceipt (r : Json) : Receipt where
  txType := txKind (typeOf r)
  success := ((field r "status").getD .null).isStr "0x1"
  cumulativeGasUsed := ((field r "cumulativeGasUsed").elim 0 numOf : Nat)
  logs := (items r "logs").map expectedLog

/-- The receipts of `receipts_json or []`. -/
def receiptItems : Json → List Json
  | .arr xs => xs
  | _ => []

/-- The precompile address of a height: `0x…0813` from height 44868476, `0x…0812` from
42675776, `0x…0811` from 41121887, and `0x…0810` below. -/
def precompileAt (n : Nat) : Bytes :=
  zeros 18 ++ [0x08, if 44868476 ≤ n then 0x13 else if 42675776 ≤ n then 0x12
    else if 41121887 ≤ n then 0x11 else 0x10]

/-- The specified record. -/
def expected (b rs : Json) : BlockAndReceipts where
  hash := rawField b "hash" []
  header := expectedHeader b
  transactions := (items b "transactions").map expectedTx
  receipts := (receiptItems rs).map expectedReceipt
  highestPrecompileAddress := precompileAt ((field b "number").elim 0 numOf)

/-- The code's newest-first table lookup gives the specified address at every height. -/
theorem getHighestPrecompile_natCast (n : Nat) : getHighestPrecompile n = precompileAt n := by
  rw [getHighestPrecompile_eq, precompileAt]
  simp only [Nat.ofNat_le_cast]
  split_ifs <;> decide

/-! ### Field access on well-formed objects -/

theorem index_of_field {o : Json} {k : String} {v : Json} (h : field o k = some v) :
    o.index k = .ok v := by
  cases o <;> simp_all [field]

theorem get_of_isObj {o : Json} (ho : isObj o) (k : String) (d : Json) :
    o.get k d = .ok ((field o k).getD d) := by
  cases o <;> simp_all [isObj, field]

theorem rawOf_of_not_truthy {v : Json} (h : v.truthy = false) : rawOf v = [] := by
  rcases v with _ | _ | _ | ⟨_ | ⟨c, cs⟩⟩ | _ | _ <;> try rfl
  simp [Json.truthy, String.isEmpty, String.endPos, String.utf8ByteSize, String.utf8ByteSize.go,
    String.Pos.ext_iff] at h
  exact absurd h.2 (Char.utf8Size_pos c).ne'

theorem fixedOk_zero (w : Nat) : fixedOk w (.str "0x0") :=
  fixedOk_iff.2 ⟨rfl, Nat.pos_pow_of_pos w (by decide)⟩

theorem fixedField_spec {o : Json} {k : String} {w : Nat} (h : opt o k (fixedOk w)) :
    (fixedField o k w).length = w ∧ beValue (fixedField o k w) = (field o k).elim 0 numOf := by
  apply bigEndian_spec
  cases hf : field o k with
  | none => exact Nat.pos_pow_of_pos w (by decide)
  | some v =>
    simp only [opt, hf, Option.elim] at h
    exact (fixedOk_iff.1 h).2

theorem rawAt_eq {o : Json} {k : String} (h : req o k rawHexOk) :
    rawAt o k = .ok (rawField o k []) := by
  cases hf : field o k with
  | none => simp [req, hf] at h
  | some v =>
    simp only [req, hf, Option.elim] at h
    simp [rawAt, rawField, hf, index_of_field hf, hexToRaw_eq h]

theorem rawGetD_eq {o : Json} {k d : String} {dflt : Bytes} (ho : isObj o)
    (h : opt o k rawHexOk) (hd : hexToRaw (.str d) = .ok dflt) :
    rawGetD o k d = .ok (rawField o k dflt) := by
  cases hf : field o k with
  | none => simp [rawGetD, rawField, get_of_isObj ho, hf, hd]
  | some v =>
    simp only [opt, hf, Option.elim] at h
    simp [rawGetD, rawField, get_of_isObj ho, hf, hexToRaw_eq h]

theorem fixedAt_eq {o : Json} {k : String} {w : Nat} (h : req o k (fixedOk w)) :
    fixedAt o k w = .ok (fixedField o k w) := by
  cases hf : field o k with
  | none => simp [req, hf] at h
  | some v =>
    simp only [req, hf, Option.elim] at h
    simp [fixedAt, fixedField, hf, index_of_field hf, hexToBytes_eq h]

theorem fixedGetD_eq {o : Json} {k : String} {w : Nat} (ho : isObj o)
    (h : opt o k (fixedOk w)) : fixedGetD o k "0x0" w = .ok (fixedField o k w) := by
  cases hf : field o k with
  | none => simp [fixedGetD, fixedField, get_of_isObj ho, hf, hexToBytes_eq (fixedOk_zero w)]; rfl
  | some v =>
    simp only [opt, hf, Option.elim] at h
    simp [fixedGetD, fixedField, get_of_isObj ho, hf, hexToBytes_eq h]

theorem listGet_eq {α : Type} {o : Json} {k : String} {p : Json → Bool}
    {f : Json → Except PyExc α} {g : Json → α} (ho : isObj o) (h : opt o k (listOk p))
    (hf : ∀ x, p x → f x = .ok (g x)) : listGet o k f = .ok ((items o k).map g) := by
  cases hk : field o k with
  | none => simp [listGet, items, get_of_isObj ho, hk, Json.iter]; rfl
  | some v =>
    simp only [opt, hk, Option.elim] at h
    rcases v with _ | _ | _ | _ | xs | _ <;> simp only [listOk, List.all_eq_true, Bool.false_eq_true] at h
    simp only [listGet, items, get_of_isObj ho, hk, Option.getD_some, ok_bind, Json.iter]
    exact mapM_eq_ok fun x hx => hf x (h x hx)

/-! ### The record, part by part -/

theorem hexToRaw_empty : hexToRaw (.str "0x") = .ok [] := rfl

theorem hexToRaw_zeroHash : hexToRaw (.str zeroHash) = .ok (zeros 32) := by decide

theorem hexToRaw_zeroNonce : hexToRaw (.str "0x0000000000000000") = .ok (zeros 8) := by decide

theorem accessItemOf_eq {item : Json} (h : wfAccessItem item) :
    accessItemOf item = .ok (expectedAccessItem item) := by
  simp only [wfAccessItem, Bool.and_eq_true] at h
  simp [accessItemOf, expectedAccessItem, rawAt_eq h.1.2,
    listGet_eq h.1.1 h.2 fun _ hx => hexToRaw_eq hx]

theorem toOf_eq {tx : Json} (ho : isObj tx) (h : opt tx "to" fun v => !v.truthy || rawHexOk v) :
    toOf tx = .ok (rawField tx "to" []) := by
  cases hf : field tx "to" with
  | none => simp [toOf, rawField, get_of_isObj ho, hf, Json.truthy]
  | some v =>
    simp only [opt, hf, Option.elim, Bool.or_eq_true, Bool.not_eq_true'] at h
    cases ht : v.truthy
    · simp [toOf, rawField, get_of_isObj ho, hf, ht, rawOf_of_not_truthy ht]
    · have hv : rawHexOk v := h.resolve_left (by simp [ht])
      simp [toOf, rawField, get_of_isObj ho, hf, ht, rawAt, index_of_field hf, hexToRaw_eq hv]

theorem txKind_cases (v : Json) :
    (txKind v = .Eip1559 ∧ v.isStr "0x2") ∨
    (txKind v = .Eip2930 ∧ v.isStr "0x2" = false ∧ v.isStr "0x1") ∨
    (txKind v = .Legacy ∧ v.isStr "0x2" = false ∧ v.isStr "0x1" = false) := by
  unfold txKind
  split_ifs <;> simp_all

theorem txOf_eq {tx : Json} (h : wfTx tx) : txOf tx = .ok (expectedTx tx) := by
  simp only [wfTx, Bool.and_eq_true] at h
  obtain ⟨⟨⟨⟨⟨⟨⟨ho, hr⟩, hs⟩, hv⟩, hto⟩, hval⟩, hin⟩, hkind⟩ := h
  simp only [parityOf] at hv
  have hacc : ∀ x, wfAccessItem x → accessItemOf x = .ok (expectedAccessItem x) :=
    fun _ hx => accessItemOf_eq hx
  rcases txKind_cases (typeOf tx) with ⟨hk, h2⟩ | ⟨hk, h2, h1⟩ | ⟨hk, h2, h1⟩ <;>
    simp only [hk, Bool.and_eq_true] at hkind <;> simp only [expectedTx, hk] <;>
    simp only [typeOf] at h2
  · obtain ⟨⟨⟨⟨⟨hc, hn⟩, hg⟩, hm⟩, hp⟩, ha⟩ := hkind
    simp only [txOf, get_of_isObj ho, h2, fixedAt_eq hr, fixedAt_eq hs, hexToBytes_eq hv, parityOf,
      fixedAt_eq hc, fixedAt_eq hn, fixedAt_eq hg, fixedAt_eq hm, fixedAt_eq hp, toOf_eq ho hto,
      fixedGetD_eq ho hval, listGet_eq ho ha hacc, rawGetD_eq ho hin hexToRaw_empty, ok_bind,
      pure_eq_ok, if_true]
  · simp only [typeOf] at h1
    obtain ⟨⟨⟨⟨hc, hn⟩, hp⟩, hg⟩, ha⟩ := hkind
    simp only [txOf, get_of_isObj ho, h2, h1, fixedAt_eq hr, fixedAt_eq hs, hexToBytes_eq hv,
      parityOf, fixedAt_eq hc, fixedAt_eq hn, fixedAt_eq hg, fixedAt_eq hp, toOf_eq ho hto,
      fixedGetD_eq ho hval, listGet_eq ho ha hacc, rawGetD_eq ho hin hexToRaw_empty, ok_bind,
      pure_eq_ok, if_true, if_false, Bool.false_eq_true]
  · simp only [typeOf] at h1
    obtain ⟨⟨hn, hp⟩, hg⟩ := hkind
    simp only [txOf, get_of_isObj ho, h2, h1, fixedAt_eq hr, fixedAt_eq hs, hexToBytes_eq hv,
      parityOf, fixedAt_eq hn, fixedAt_eq hg, fixedAt_eq hp, toOf_eq ho hto, fixedGetD_eq ho hval,
      rawGetD_eq ho hin hexToRaw_empty, ok_bind, pure_eq_ok, if_false, Bool.false_eq_true]

theorem txTypeName_str (s : String) : txTypeName (.str s) = .ok (txKind (.str s)) := by
  by_cases h0 : s = "0x0"
  · subst h0; rfl
  by_cases h1 : s = "0x1"
  · subst h1; rfl
  by_cases h2 : s = "0x2"
  · subst h2; rfl
  simp [txTypeName, Json.toKey, txKind, Json.isStr, receiptTypeNames, List.lookup_cons,
    beq_eq_false_iff_ne.2 h0, beq_eq_false_iff_ne.2 h1, beq_eq_false_iff_ne.2 h2]

theorem txTypeName_eq {v : Json} (h : (v.toKey.toOption).isSome) :
    txTypeName v = .ok (txKind v) := by
  rcases v with _ | _ | _ | s | _ | _
  · rfl
  · rfl
  · rfl
  · exact txTypeName_str s
  all_goals simp [Json.toKey, Except.toOption] at h

theorem logOf_eq {l : Json} (h : wfLog l) : logOf l = .ok (expectedLog l) := by
  simp only [wfLog, Bool.and_eq_true] at h
  obtain ⟨⟨⟨ho, ha⟩, ht⟩, hd⟩ := h
  simp [logOf, expectedLog, rawAt_eq ha, listGet_eq ho ht fun _ hx => hexToRaw_eq hx,
    rawGetD_eq ho hd hexToRaw_empty]

theorem receiptOf_eq {r : Json} (h : wfReceipt r) : receiptOf r = .ok (expectedReceipt r) := by
  simp only [wfReceipt, Bool.and_eq_true] at h
  obtain ⟨⟨⟨ho, ht⟩, hl⟩, hc⟩ := h
  have htype : txTypeName (typeOf r) = .ok (txKind (typeOf r)) := by
    apply txTypeName_eq
    cases hf : field r "type" <;> simp_all [opt, typeOf]
    rfl
  have hgas : intHex ((field r "cumulativeGasUsed").getD (.str "0x0")) =
      .ok ((field r "cumulativeGasUsed").elim 0 numOf : Nat) := by
    cases hf : field r "cumulativeGasUsed" with
    | none => rfl
    | some v => simpa [opt, hf] using intHex_eq (by simpa [opt, hf] using hc)
  simp only [typeOf] at htype
  simp [receiptOf, expectedReceipt, typeOf, get_of_isObj ho, htype, hgas,
    listGet_eq ho hl fun _ hx => logOf_eq hx]

theorem headerOf_eq {b : Json} (ho : isObj b) (h : wfHeader b) :
    headerOf b = .ok (expectedHeader b) := by
  simp only [wfHeader, List.all_cons, List.all_nil, Bool.and_true, Bool.and_eq_true] at h
  obtain ⟨⟨⟨⟨⟨hn, hph, hsu, hmi, hsr, htr, hrr, hlb⟩, hgl, hgu, hts⟩, hdi⟩, hbf, hbg, heb⟩,
    hed, hmh, hno, hwr, hpb⟩ := h
  simp [headerOf, expectedHeader, rawAt_eq hph, rawAt_eq hsu, rawAt_eq hmi, rawAt_eq hsr,
    rawAt_eq htr, rawAt_eq hrr, rawAt_eq hlb, fixedGetD_eq ho hdi, fixedAt_eq hn, fixedAt_eq hgl,
    fixedAt_eq hgu, fixedAt_eq hts, rawGetD_eq ho hed hexToRaw_empty,
    rawGetD_eq ho hmh hexToRaw_zeroHash, rawGetD_eq ho hno hexToRaw_zeroNonce,
    fixedGetD_eq ho hbf, rawGetD_eq ho hwr hexToRaw_zeroHash, fixedGetD_eq ho hbg,
    fixedGetD_eq ho heb, rawGetD_eq ho hpb hexToRaw_zeroHash]

theorem exists_of_req {o : Json} {k : String} {p : Json → Bool} (h : req o k p) :
    ∃ v, field o k = some v ∧ p v := by
  cases hf : field o k <;> simp_all [req]

theorem wfHeader_number {b : Json} (h : wfHeader b) : req b "number" (fixedOk 8) := by
  simp only [wfHeader, Bool.and_eq_true] at h
  exact h.1.1.1.1.1

theorem iter_receipts {rs : Json} (h : wfReceipts rs) :
    (if rs.truthy then rs else .arr []).iter = .ok (receiptItems rs) := by
  cases ht : rs.truthy
  · rcases rs with _ | _ | _ | _ | xs | _ <;> simp_all [Json.iter, receiptItems, Json.truthy]
  · rcases rs with _ | _ | _ | _ | xs | _ <;> simp_all [wfReceipts, listOk, Json.iter, receiptItems]

theorem receiptItems_wf {rs : Json} (h : wfReceipts rs) : ∀ x ∈ receiptItems rs, wfReceipt x := by
  rcases rs with _ | _ | _ | _ | (_ | ⟨y, ys⟩) | _ <;>
    simp_all [wfReceipts, listOk, receiptItems, Json.truthy]

/-- On a well-formed block and receipts, `rpc_to_nanoreth` produces the specified record. -/
theorem rpcToNanoreth_eq_expected {b rs : Json} (hb : wfBlock b) (hr : wfReceipts rs) :
    rpcToNanoreth b rs = .ok (expected b rs) := by
  simp only [wfBlock, Bool.and_eq_true] at hb
  obtain ⟨⟨⟨ho, hh⟩, hhash⟩, htx⟩ := hb
  obtain ⟨v, hv, hnum⟩ := exists_of_req (wfHeader_number hh)
  have hrc : (receiptItems rs).mapM receiptOf = .ok ((receiptItems rs).map expectedReceipt) :=
    mapM_eq_ok fun x hx => receiptOf_eq (receiptItems_wf hr x hx)
  simp only [rpcToNanoreth, index_of_field hv, intHex_eq (fixedOk_iff.1 hnum).1,
    headerOf_eq ho hh, listGet_eq ho htx fun _ hx => txOf_eq hx, iter_receipts hr, hrc,
    rawAt_eq hhash, ok_bind, pure_eq_ok, expected, hv, Option.elim, getHighestPrecompile_natCast]

/-- A block with an `0x2` transaction (parity from `yParity`, no recipient) and a legacy one
(parity from `v`), and receipts for both. -/
def sampleBlock : Json :=
  .obj [("number", .str "0x2a"), ("hash", .str "0xab"), ("parentHash", .str "0x01"),
    ("sha3Uncles", .str "0x"), ("miner", .str "0x"), ("stateRoot", .str "0x"),
    ("transactionsRoot", .str "0x"), ("receiptsRoot", .str "0x"), ("logsBloom", .str "0x"),
    ("gasLimit", .str "0x10"), ("gasUsed", .str "0x0"), ("timestamp", .str "0x5"),
    ("transactions", .arr [
      .obj [("type", .str "0x2"), ("r", .str "0x1"), ("s", .str "0x2"), ("yParity", .str "0x1"),
        ("v", .str "0x0"), ("chainId", .str "0x3e7"), ("nonce", .str "0x0"),
        ("gas", .str "0x5208"), ("maxFeePerGas", .str "0x1"),
        ("maxPriorityFeePerGas", .str "0x1"), ("to", .null)],
      .obj [("r", .str "0x1"), ("s", .str "0x2"), ("v", .str "0x1b"), ("nonce", .str "0x1"),
        ("gasPrice", .str "0x1"), ("gas", .str "0x5208"), ("to", .str "0x12")]])]

/-- Receipts for `sampleBlock`. -/
def sampleReceipts : Json :=
  .arr [.obj [("type", .str "0x2"), ("status", .str "0x1"), ("cumulativeGasUsed", .str "0x5208")],
    .obj [("status", .str "0x0")]]

theorem rpcToNanoreth_sample : wfBlock sampleBlock = true ∧ wfReceipts sampleReceipts = true ∧
    rpcToNanoreth sampleBlock sampleReceipts = .ok (expected sampleBlock sampleReceipts) :=
  ⟨rfl, rfl, rpcToNanoreth_eq_expected rfl rfl⟩

end FetchBlocksRpc
end BlockCache

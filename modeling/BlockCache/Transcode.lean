import BlockCache.Hex

/-!
# The block transcoder (`fetch_blocks_rpc.rpc_to_nanoreth`)

`rpc_to_nanoreth` turns a node's JSON block (with full transaction objects) and its receipts
into the archive's `Reth115` record: header fields as raw or fixed-width bytes, transactions as
one of three tagged variants with a shared `(r, s, v)` signature, receipts with their logs, and
the highest precompile address for the block's height. The record is written here as Lean
structures; the fixed empty lists of the container (`ommers`, `withdrawals`, `system_txs`,
`read_precompile_calls`) and the one-element list around it are left to the serializer.

The source builds every field with one of a few expression shapes (`hex_to_raw(b["k"])`,
`hex_to_bytes(b.get("k", "0x0"), w)`, …); each shape is one helper below, and each field of the
record is that helper at the field's own key, default and width.
-/

namespace BlockCache

/-- The header of the record. -/
structure Header where
  parentHash : Bytes
  sha3Uncles : Bytes
  miner : Bytes
  stateRoot : Bytes
  transactionsRoot : Bytes
  receiptsRoot : Bytes
  logsBloom : Bytes
  difficulty : Bytes
  number : Bytes
  gasLimit : Bytes
  gasUsed : Bytes
  timestamp : Bytes
  extraData : Bytes
  mixHash : Bytes
  nonce : Bytes
  baseFeePerGas : Bytes
  withdrawalsRoot : Bytes
  blobGasUsed : Bytes
  excessBlobGas : Bytes
  parentBeaconBlockRoot : Bytes
  deriving DecidableEq, Repr

/-- An entry of an access list. -/
structure AccessItem where
  address : Bytes
  storageKeys : List Bytes
  deriving DecidableEq, Repr

/-- The three transaction variants, with the fields each carries. -/
inductive Transaction where
  | Eip1559 (chainId nonce gas maxFeePerGas maxPriorityFeePerGas toAddr value : Bytes)
      (accessList : List AccessItem) (input : Bytes)
  | Eip2930 (chainId nonce gasPrice gas toAddr value : Bytes) (accessList : List AccessItem)
      (input : Bytes)
  | Legacy (nonce gasPrice gas toAddr value input : Bytes)
  deriving DecidableEq, Repr

/-- A transaction with its signature `[r, s, v]`. -/
structure SignedTx where
  signature : Bytes × Bytes × Bytes
  transaction : Transaction
  deriving DecidableEq, Repr

/-- A receipt's `tx_type` tag. -/
inductive TxType where
  | Legacy
  | Eip2930
  | Eip1559
  deriving DecidableEq, Repr

/-- A log's `data` member: its topics and payload. -/
structure LogData where
  topics : List Bytes
  data : Bytes
  deriving DecidableEq, Repr

/-- A log. -/
structure Log where
  address : Bytes
  data : LogData
  deriving DecidableEq, Repr

/-- A receipt. -/
structure Receipt where
  txType : TxType
  success : Bool
  cumulativeGasUsed : Int
  logs : List Log
  deriving DecidableEq, Repr

/-- The record `rpc_to_nanoreth` returns. -/
structure BlockAndReceipts where
  hash : Bytes
  header : Header
  transactions : List SignedTx
  receipts : List Receipt
  highestPrecompileAddress : Bytes
  deriving DecidableEq, Repr

namespace FetchBlocksRpc

/-- `bytes.fromhex` of a literal. -/
def hexLiteral (s : String) : Bytes := (fromHex s.data).getD []

/-- `PRECOMPILE_TRANSITIONS`: `(threshold height, address)`, newest first. -/
def precompileTransitions : List (Int × Bytes) :=
  [(44868476, hexLiteral "0000000000000000000000000000000000000813"),
   (42675776, hexLiteral "0000000000000000000000000000000000000812"),
   (41121887, hexLiteral "0000000000000000000000000000000000000811"),
   (0, hexLiteral "0000000000000000000000000000000000000810")]

/-- `get_highest_precompile`: the first entry whose threshold is at most the height, else the
last entry. -/
def getHighestPrecompile (blockNum : Int) : Bytes :=
  match precompileTransitions.find? fun t => blockNum ≥ t.1 with
  | some t => t.2
  | none => (precompileTransitions.getLast?.map Prod.snd).getD []

/-- The address `get_highest_precompile` picks: the newest transition at or below the height,
and the oldest address below every threshold (negative heights included). -/
theorem getHighestPrecompile_eq (blockNum : Int) :
    getHighestPrecompile blockNum = hexLiteral
      (if 44868476 ≤ blockNum then "0000000000000000000000000000000000000813"
      else if 42675776 ≤ blockNum then "0000000000000000000000000000000000000812"
      else if 41121887 ≤ blockNum then "0000000000000000000000000000000000000811"
      else "0000000000000000000000000000000000000810") := by
  unfold getHighestPrecompile precompileTransitions
  split_ifs <;> by_cases 0 ≤ blockNum <;> simp [List.find?, *]

/-- `"0x" + "00" * 32`. -/
def zeroHash : String := "0x" ++ String.join (List.replicate 32 "00")

/-- `hex_to_raw(o[k])`. -/
def rawAt (o : Json) (k : String) : Except PyExc Bytes := do hexToRaw (← o.index k)

/-- `hex_to_raw(o.get(k, d))`. -/
def rawGetD (o : Json) (k d : String) : Except PyExc Bytes := do hexToRaw (← o.get k (.str d))

/-- `hex_to_bytes(o[k], w)`. -/
def fixedAt (o : Json) (k : String) (w : Nat) : Except PyExc Bytes := do
  hexToBytes (← o.index k) w

/-- `hex_to_bytes(o.get(k, d), w)`. -/
def fixedGetD (o : Json) (k d : String) (w : Nat) : Except PyExc Bytes := do
  hexToBytes (← o.get k (.str d)) w

/-- `[f(x) for x in o.get(k, [])]`. -/
def listGet {α : Type} (o : Json) (k : String) (f : Json → Except PyExc α) : Except PyExc (List α) :=
  do (← (← o.get k (.arr [])).iter).mapM f

/-- The header dictionary of `rpc_to_nanoreth`. -/
def headerOf (b : Json) : Except PyExc Header := do
  let parentHash ← rawAt b "parentHash"
  let sha3Uncles ← rawAt b "sha3Uncles"
  let miner ← rawAt b "miner"
  let stateRoot ← rawAt b "stateRoot"
  let transactionsRoot ← rawAt b "transactionsRoot"
  let receiptsRoot ← rawAt b "receiptsRoot"
  let logsBloom ← rawAt b "logsBloom"
  let difficulty ← fixedGetD b "difficulty" "0x0" 32
  let number ← fixedAt b "number" 8
  let gasLimit ← fixedAt b "gasLimit" 8
  let gasUsed ← fixedAt b "gasUsed" 8
  let timestamp ← fixedAt b "timestamp" 8
  let extraData ← rawGetD b "extraData" "0x"
  let mixHash ← rawGetD b "mixHash" zeroHash
  let nonce ← rawGetD b "nonce" "0x0000000000000000"
  let baseFeePerGas ← fixedGetD b "baseFeePerGas" "0x0" 8
  let withdrawalsRoot ← rawGetD b "withdrawalsRoot" zeroHash
  let blobGasUsed ← fixedGetD b "blobGasUsed" "0x0" 8
  let excessBlobGas ← fixedGetD b "excessBlobGas" "0x0" 8
  let parentBeaconBlockRoot ← rawGetD b "parentBeaconBlockRoot" zeroHash
  pure { parentHash, sha3Uncles, miner, stateRoot, transactionsRoot, receiptsRoot, logsBloom,
         difficulty, number, gasLimit, gasUsed, timestamp, extraData, mixHash, nonce,
         baseFeePerGas, withdrawalsRoot, blobGasUsed, excessBlobGas, parentBeaconBlockRoot }

/-- An `accessList` entry. -/
def accessItemOf (item : Json) : Except PyExc AccessItem := do
  let address ← rawAt item "address"
  let storageKeys ← listGet item "storageKeys" hexToRaw
  pure ⟨address, storageKeys⟩

/-- `hex_to_raw(tx["to"]) if tx.get("to") else b""`. -/
def toOf (tx : Json) : Except PyExc Bytes := do
  if (← tx.get "to" .null).truthy then rawAt tx "to" else pure []

/-- The loop body over `b.get("transactions", [])`. -/
def txOf (tx : Json) : Except PyExc SignedTx := do
  let txType ← tx.get "type" (.str "0x0")
  let r ← fixedAt tx "r" 32
  let s ← fixedAt tx "s" 32
  let v ← hexToBytes (← tx.get "yParity" (← tx.get "v" (.str "0x0"))) 8
  let signature := (r, s, v)
  if txType.isStr "0x2" then
    let chainId ← fixedAt tx "chainId" 8
    let nonce ← fixedAt tx "nonce" 8
    let gas ← fixedAt tx "gas" 8
    let maxFeePerGas ← fixedAt tx "maxFeePerGas" 16
    let maxPriorityFeePerGas ← fixedAt tx "maxPriorityFeePerGas" 16
    let toAddr ← toOf tx
    let value ← fixedGetD tx "value" "0x0" 32
    let accessList ← listGet tx "accessList" accessItemOf
    let input ← rawGetD tx "input" "0x"
    pure ⟨signature,
      .Eip1559 chainId nonce gas maxFeePerGas maxPriorityFeePerGas toAddr value accessList input⟩
  else if txType.isStr "0x1" then
    let chainId ← fixedAt tx "chainId" 8
    let nonce ← fixedAt tx "nonce" 8
    let gasPrice ← fixedAt tx "gasPrice" 16
    let gas ← fixedAt tx "gas" 8
    let toAddr ← toOf tx
    let value ← fixedGetD tx "value" "0x0" 32
    let accessList ← listGet tx "accessList" accessItemOf
    let input ← rawGetD tx "input" "0x"
    pure ⟨signature, .Eip2930 chainId nonce gasPrice gas toAddr value accessList input⟩
  else
    let nonce ← fixedAt tx "nonce" 8
    let gasPrice ← fixedAt tx "gasPrice" 16
    let gas ← fixedAt tx "gas" 8
    let toAddr ← toOf tx
    let value ← fixedGetD tx "value" "0x0" 32
    let input ← rawGetD tx "input" "0x"
    pure ⟨signature, .Legacy nonce gasPrice gas toAddr value input⟩

/-- The receipt type table `{"0x0": "Legacy", "0x1": "Eip2930", "0x2": "Eip1559"}`. -/
def receiptTypeNames : List (String × TxType) :=
  [("0x0", .Legacy), ("0x1", .Eip2930), ("0x2", .Eip1559)]

/-- `{…}.get(rtype, "Legacy")`; an unhashable `rtype` raises `TypeError`. -/
def txTypeName (rtype : Json) : Except PyExc TxType := do
  match ← rtype.toKey with
  | .str k => pure ((receiptTypeNames.lookup k).getD .Legacy)
  | _ => pure .Legacy

/-- A log of a receipt. -/
def logOf (l : Json) : Except PyExc Log := do
  let address ← rawAt l "address"
  let topics ← listGet l "topics" hexToRaw
  let data ← rawGetD l "data" "0x"
  pure ⟨address, ⟨topics, data⟩⟩

/-- The loop body over `receipts_json or []`. -/
def receiptOf (r : Json) : Except PyExc Receipt := do
  let rtype ← r.get "type" (.str "0x0")
  let typeName ← txTypeName rtype
  let logs ← listGet r "logs" logOf
  let success := (← r.get "status" .null).isStr "0x1"
  let cumulativeGasUsed ← intHex (← r.get "cumulativeGasUsed" (.str "0x0"))
  pure ⟨typeName, success, cumulativeGasUsed, logs⟩

/-- `rpc_to_nanoreth`. -/
def rpcToNanoreth (blockJson receiptsJson : Json) : Except PyExc BlockAndReceipts := do
  let b := blockJson
  let bnum ← intHex (← b.index "number")
  let header ← headerOf b
  let txs ← listGet b "transactions" txOf
  let rcpts ← (← (if receiptsJson.truthy then receiptsJson else .arr []).iter).mapM receiptOf
  let hash ← rawAt b "hash"
  pure { hash, header, transactions := txs, receipts := rcpts,
         highestPrecompileAddress := getHighestPrecompile bnum }

end FetchBlocksRpc
end BlockCache

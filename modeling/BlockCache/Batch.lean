import BlockCache.TranscodeSpec
import BlockCache.Fs
import BlockCache.PathScheme

/-! # One RPC batch (`rpc_call`, `fetch_and_write_batch`)

`fetch_and_write_batch` sends, for the `i`-th height of its batch, a block request with id `2i`
and a receipts request with id `2i + 1`, in one JSON-RPC batch through `rpc_call`. The node may
answer in any order, so the answers are indexed by id (`by_id`) and each height looks its two
answers up. A height with no block counts as an error; otherwise its record is transcoded,
packed, compressed and written at `block_path`, and any exception in that `try` counts as an
error too.

`rpc_call` retries a failed attempt (a `RequestException`, a `JSONDecodeError`, or an object
answer with an `"error"` member) after `RETRY_DELAY * 2 ** attempt` seconds, and re-raises the
last failure. The `RequestException` it raises for an error object is raised inside the `try`
whose `except` catches it, so an error object is retried like a failed post
(`rpcCall_attempts`). Which attempt fails is the transport's choice (`Transport`), as are the
bytes `msgpack` and `lz4` produce (`Codec`).
-/

namespace BlockCache
namespace FetchBlocksRpc

/-- `MAX_RETRIES`. -/
def maxRetries : Nat := 5

/-- `RETRY_DELAY`. -/
def retryDelay : Nat := 2

/-- One attempt of `rpc_call`: the post (or `raise_for_status`, or `resp.json()`) raises, or the
node's body decodes to a JSON value. -/
inductive Attempt where
  | fail
  | body (v : Json)

/-- The node, for one request body: what each attempt, by number, gives. -/
abbrev Transport := List Json → Nat → Attempt

/-- The results one attempt returns: a list as it is, an object without `"error"` wrapped in a
list, anything else wrapped too; `none` when the attempt raises. -/
def attemptResults : Attempt → Option (List Json)
  | .fail => none
  | .body (.arr xs) => some xs
  | .body (.obj kvs) => if (Json.find? kvs "error").isSome then none else some [.obj kvs]
  | .body v => some [v]

/-- The retry loop from attempt `attempt`, with `left` attempts after it: the results or the
re-raised `RequestException`, and the delays slept. -/
def rpcCallFrom (post : Nat → Attempt) (attempt : Nat) : Nat → Except PyExc (List Json) × List Nat
  | 0 =>
    match attemptResults (post attempt) with
    | some results => (.ok results, [])
    | none => (.error .requestException, [])
  | left + 1 =>
    match attemptResults (post attempt) with
    | some results => (.ok results, [])
    | none =>
      let rest := rpcCallFrom post (attempt + 1) left
      (rest.1, retryDelay * 2 ^ attempt :: rest.2)

/-- `rpc_call`. -/
def rpcCall (post : Transport) (batch : List Json) : Except PyExc (List Json) × List Nat :=
  rpcCallFrom (post batch) 0 (maxRetries - 1)

/-- Python's `hex(n)`. -/
def pyHex (n : Int) : String :=
  (if n < 0 then "-0x" else "0x") ++ String.mk (Nat.toDigits 16 n.natAbs)

/-- The `eth_getBlockByNumber` request for `bnum`, with full transactions. -/
def blockRequest (bnum : Int) (id : Nat) : Json :=
  .obj [("jsonrpc", .str "2.0"), ("method", .str "eth_getBlockByNumber"),
    ("params", .arr [.str (pyHex bnum), .bool true]), ("id", .num id)]

/-- The `eth_getBlockReceipts` request for `bnum`. -/
def receiptsRequest (bnum : Int) (id : Nat) : Json :=
  .obj [("jsonrpc", .str "2.0"), ("method", .str "eth_getBlockReceipts"),
    ("params", .arr [.str (pyHex bnum)]), ("id", .num id)]

/-- The two requests of the height at position `i`. -/
def heightRequests (ib : Nat × Int) : List Json :=
  [blockRequest ib.2 (ib.1 * 2), receiptsRequest ib.2 (ib.1 * 2 + 1)]

/-- The batch request built for `block_nums`. -/
def buildBatch (blockNums : List Int) : List Json := blockNums.enum.flatMap heightRequests

/-- One entry of `{r["id"]: r for r in results}`: `r["id"]` raises `TypeError` on a non-object
and `KeyError` without `"id"`, and an unhashable id raises `TypeError`. The entry keeps the
object's members. -/
def byIdEntry : Json → Except PyExc (PyKey × List (String × Json))
  | .obj kvs =>
    match Json.find? kvs "id" with
    | some v => do pure (← v.toKey, kvs)
    | none => .error .keyError
  | _ => .error .typeError

/-- `by_id`, as its entries in insertion order. -/
def byId (results : List Json) : Except PyExc (List (PyKey × List (String × Json))) :=
  results.mapM byIdEntry

/-- `by_id.get(k, {})`: the last entry for `k` wins. -/
def lookupId (table : List (PyKey × List (String × Json))) (k : PyKey) : List (String × Json) :=
  (table.reverse.lookup k).getD []

/-- `resp.get("result")`. -/
def resultOf (resp : List (String × Json)) : Json := (Json.find? resp "result").getD .null

/-- How the record is serialized: `msgpack.packb(…, use_bin_type=True)`, which may raise, and
`lz4.frame.compress`. -/
structure Codec where
  packb : BlockAndReceipts → Except PyExc Bytes
  compress : Bytes → Bytes

/-- The `try` body for one height: transcode, pack, compress, write at `block_path`. The `Bool`
is whether it ran to the end (no exception). -/
def writeBlock (codec : Codec) (disk : Disk) (blocksDir : Path) (fs : Fs) (bnum : Int)
    (blockData receiptsData : Json) : Fs × Bool :=
  match rpcToNanoreth blockData receiptsData >>= codec.packb with
  | .error _ => (fs, false)
  | .ok packed =>
    let path := blockPath blocksDir bnum
    writeFile (disk path) fs path (codec.compress packed)

/-- `receipts_data`, or `[]` when it is `None`. -/
def receiptsOrEmpty : Json → Json
  | .null => .arr []
  | r => r

/-- The loop body for the height at position `i`, over `(fs, written, errors)`. -/
def heightStep (table : List (PyKey × List (String × Json))) (codec : Codec) (disk : Disk)
    (blocksDir : Path) (acc : Fs × Nat × Nat) (ib : Nat × Int) : Fs × Nat × Nat :=
  let blockData := resultOf (lookupId table (.int (ib.1 * 2)))
  let receiptsData := resultOf (lookupId table (.int (ib.1 * 2 + 1)))
  if !blockData.truthy then (acc.1, acc.2.1, acc.2.2 + 1)
  else
    match writeBlock codec disk blocksDir acc.1 ib.2 blockData (receiptsOrEmpty receiptsData) with
    | (fs, true) => (fs, acc.2.1 + 1, acc.2.2)
    | (fs, false) => (fs, acc.2.1, acc.2.2 + 1)

/-- What `fetch_and_write_batch` does once `rpc_call` has returned `results`. -/
def writeResults (codec : Codec) (disk : Disk) (blocksDir : Path) (fs : Fs)
    (blockNums : List Int) (results : List Json) : Except PyExc (Fs × Nat × Nat) := do
  let table ← byId results
  pure (blockNums.enum.foldl (heightStep table codec disk blocksDir) (fs, 0, 0))

/-- `fetch_and_write_batch`: the file system after it and `(written, errors)`, or the exception
it raises. -/
def fetchAndWriteBatch (post : Transport) (codec : Codec) (disk : Disk) (blocksDir : Path)
    (fs : Fs) (blockNums : List Int) : Except PyExc (Fs × Nat × Nat) := do
  let results ← (rpcCall post (buildBatch blockNums)).1
  writeResults codec disk blocksDir fs blockNums results

/-! ### `rpc_call` -/

/-- The retry loop from attempt `a`, with `left` attempts after it, posts the attempts
`a, …, a + n` for some `n ≤ left` and reads no other: those before `a + n` failed and each was
followed by the sleep `RETRY_DELAY * 2 ** j`; the last one returned its results, or failed with
no attempt left. -/
theorem rpcCallFrom_run (post : Nat → Attempt) (a left : Nat) :
    ∃ n ≤ left, (∀ j, a ≤ j → j < a + n → attemptResults (post j) = none) ∧
      (rpcCallFrom post a left).2 = (List.range n).map (fun k => retryDelay * 2 ^ (a + k)) ∧
      (∀ post' : Nat → Attempt, (∀ j, a ≤ j → j ≤ a + n → post' j = post j) →
        rpcCallFrom post' a left = rpcCallFrom post a left) ∧
      ((∃ xs, attemptResults (post (a + n)) = some xs ∧ (rpcCallFrom post a left).1 = .ok xs) ∨
        (n = left ∧ attemptResults (post (a + n)) = none ∧
          (rpcCallFrom post a left).1 = .error .requestException)) := by
  induction left generalizing a with
  | zero =>
    refine ⟨0, le_rfl, fun j _ _ => by omega, by simp only [rpcCallFrom]; split <;> rfl,
      fun post' h' => by simp only [rpcCallFrom, h' a le_rfl (by omega)], ?_⟩
    cases h : attemptResults (post a) with
    | none => exact .inr ⟨rfl, h, by simp [rpcCallFrom, h]⟩
    | some xs => exact .inl ⟨xs, h, by simp [rpcCallFrom, h]⟩
  | succ left ih =>
    cases h : attemptResults (post a) with
    | some xs =>
      refine ⟨0, Nat.zero_le _, fun j _ _ => by omega, by simp [rpcCallFrom, h],
        fun post' h' => by simp only [rpcCallFrom, h' a le_rfl (by omega), h],
        .inl ⟨xs, h, by simp [rpcCallFrom, h]⟩⟩
    | none =>
      obtain ⟨n, hn, hfail, hsleep, hloc, hres⟩ := ih (a + 1)
      refine ⟨n + 1, by omega, fun j h1 h2 => ?_, ?_, fun post' h' => ?_, ?_⟩
      · rcases (show j = a ∨ a + 1 ≤ j by omega) with rfl | hj
        · exact h
        · exact hfail j hj (by omega)
      · simp [rpcCallFrom, h, hsleep, List.range_succ_eq_map, Function.comp_def, Nat.add_assoc,
          Nat.add_comm 1]
      · have h0 : attemptResults (post' a) = none := by rw [h' a le_rfl (by omega), h]
        simp only [rpcCallFrom, h0, h, hloc post' fun j h1 h2 => h' j (by omega) (by omega)]
      · simpa [rpcCallFrom, h, Nat.add_right_comm a 1 n, Nat.add_assoc] using hres

theorem rpcCall_error {post : Transport} {batch : List Json} {e : PyExc}
    (h : (rpcCall post batch).1 = .error e) : e = .requestException := by
  obtain ⟨-, -, -, -, -, ⟨_, -, hok⟩ | ⟨-, -, herr⟩⟩ := rpcCallFrom_run (post batch) 0 (maxRetries - 1)
  · rw [rpcCall, hok] at h; cases h
  · rw [rpcCall, herr] at h; cases h; rfl

/-- `rpc_call` over any outcome sequence of its posts: it posts the attempts `0, …, n` for some
`n < MAX_RETRIES` and no other (two sequences that agree on them give the same run); the attempts
before `n` failed, a post that raised or answered an error object alike, and each was followed by
the sleep `RETRY_DELAY * 2 ** k`; attempt `n` returned its results (an array as it is, any other
value but an error object in a one-element list), or it failed as the last attempt allowed and
the `RequestException` is raised, with no sleep after it. -/
theorem rpcCall_attempts (post : Transport) (batch : List Json) :
    ∃ n < maxRetries, (∀ j < n, attemptResults (post batch j) = none) ∧
      (rpcCall post batch).2 = (List.range n).map (fun k => retryDelay * 2 ^ k) ∧
      (∀ post' : Transport, (∀ j ≤ n, post' batch j = post batch j) →
        rpcCall post' batch = rpcCall post batch) ∧
      ((∃ xs, attemptResults (post batch n) = some xs ∧ (rpcCall post batch).1 = .ok xs) ∨
        (n = maxRetries - 1 ∧ attemptResults (post batch n) = none ∧
          (rpcCall post batch).1 = .error .requestException)) := by
  obtain ⟨n, hn, hfail, hsleep, hloc, hres⟩ := rpcCallFrom_run (post batch) 0 (maxRetries - 1)
  simp only [Nat.zero_add, Nat.zero_le, true_implies] at hfail hsleep hloc hres
  exact ⟨n, by unfold maxRetries at hn ⊢; omega, hfail, hsleep,
    fun post' h' => hloc (post' batch) h', hres⟩

/-- An error object is retried like a failed post. The node answers the first post with
`{"error": "batch too large"}` and the second with `[]`: `rpc_call` sleeps `RETRY_DELAY` and
returns `[]`. A node that answers every post with the error object gets five posts and four
sleeps before the `RequestException` reaches the caller. -/
theorem rpcCall_retries_error_object :
    rpcCall (fun _ j => if j = 0 then .body (.obj [("error", .str "batch too large")])
      else .body (.arr [])) [] = (.ok [], [2]) ∧
    rpcCall (fun _ _ => .body (.obj [("error", .str "batch too large")])) [] =
      (.error .requestException, [2, 4, 8, 16]) :=
  ⟨rfl, rfl⟩

/-! ### The request -/

@[simp] theorem field_blockRequest_id (bnum : Int) (id : Nat) :
    field (blockRequest bnum id) "id" = some (.num id) := rfl

@[simp] theorem field_receiptsRequest_id (bnum : Int) (id : Nat) :
    field (receiptsRequest bnum id) "id" = some (.num id) := rfl

theorem enumFrom_flatMap_ids (bs : List Int) (k : Nat) :
    ((bs.enumFrom k).flatMap heightRequests).map (field · "id") =
      (List.range' (2 * k) (2 * bs.length)).map fun j => some (.num j) := by
  induction bs generalizing k with
  | nil => rfl
  | cons b bs ih =>
    rw [List.enumFrom_cons, List.flatMap_cons, List.map_append, ih, List.length_cons,
      show 2 * (bs.length + 1) = (2 * bs.length + 1) + 1 by omega, List.range'_succ,
      List.range'_succ]
    simp [heightRequests, Nat.mul_succ, Nat.mul_comm]

theorem enumFrom_flatMap_getElem? (bs : List Int) (k : Nat) {i : Nat} (hi : i < bs.length) :
    ((bs.enumFrom k).flatMap heightRequests)[2 * i]? =
        some (blockRequest bs[i] ((k + i) * 2)) ∧
      ((bs.enumFrom k).flatMap heightRequests)[2 * i + 1]? =
        some (receiptsRequest bs[i] ((k + i) * 2 + 1)) := by
  induction bs generalizing k i with
  | nil => cases hi
  | cons b bs ih =>
    rw [List.enumFrom_cons, List.flatMap_cons]
    cases i with
    | zero => simp [heightRequests]
    | succ i =>
      have := ih (k + 1) (Nat.lt_of_succ_lt_succ hi)
      simpa [heightRequests, Nat.mul_succ, Nat.add_right_comm k 1 i, Nat.add_assoc] using this

/-! ### `by_id` on responses with distinct ids -/

/-- The key a response is indexed under, when `r["id"]` and its hash succeed. -/
def responseKey (r : Json) : Option PyKey := (byIdEntry r).toOption.map Prod.fst

/-- Responses that are all objects with pairwise distinct ids. -/
def distinctIds (results : List Json) : Bool :=
  results.all (fun r => (responseKey r).isSome) && decide (results.map responseKey).Nodup

/-- The entry `by_id` makes of a response (a placeholder for one it rejects). -/
def entryOf (r : Json) : PyKey × List (String × Json) :=
  match byIdEntry r with
  | .ok e => e
  | .error _ => (.none, [])

theorem byIdEntry_eq {r : Json} (h : (responseKey r).isSome) : byIdEntry r = .ok (entryOf r) := by
  cases hr : byIdEntry r <;> simp_all [responseKey, entryOf, Except.toOption]

theorem responseKey_eq {r : Json} (h : (responseKey r).isSome) :
    responseKey r = some (entryOf r).1 := by
  simp [responseKey, byIdEntry_eq h, Except.toOption]

theorem lookup_eq_some_iff {α : Type} {l : List (PyKey × α)} (hn : (l.map Prod.fst).Nodup)
    {k : PyKey} {v : α} : l.lookup k = some v ↔ (k, v) ∈ l := by
  induction l with
  | nil => simp
  | cons e l ih =>
    obtain ⟨k', v'⟩ := e
    simp only [List.map_cons, List.nodup_cons, List.mem_map] at hn
    rw [List.lookup_cons, List.mem_cons]
    by_cases hk : k = k'
    · subst hk
      have : (k, v) ∉ l := fun h => hn.1 ⟨_, h, rfl⟩
      simp [this, eq_comm]
    · simp [beq_false_of_ne hk, ih hn.2, hk]

theorem lookup_perm {α : Type} {l l' : List (PyKey × α)} (hp : l.Perm l')
    (hn : (l.map Prod.fst).Nodup) (k : PyKey) : l.lookup k = l'.lookup k :=
  Option.ext fun _ => by
    rw [Option.mem_def, Option.mem_def, lookup_eq_some_iff hn,
      lookup_eq_some_iff ((hp.map _).nodup_iff.1 hn), hp.mem_iff]

section DistinctIds
variable {results : List Json} (h : distinctIds results)
include h

theorem distinctIds_isSome : ∀ r ∈ results, (responseKey r).isSome := by
  simp only [distinctIds, Bool.and_eq_true, List.all_eq_true, decide_eq_true_eq] at h
  exact h.1

theorem byId_eq : byId results = .ok (results.map entryOf) :=
  mapM_eq_ok fun _ hr => byIdEntry_eq (distinctIds_isSome h _ hr)

theorem entryOf_keys_nodup : ((results.map entryOf).map Prod.fst).Nodup := by
  simp only [distinctIds, Bool.and_eq_true, List.all_eq_true, decide_eq_true_eq] at h
  have heq : ((results.map entryOf).map Prod.fst).map some = results.map responseKey := by
    simp only [List.map_map]
    exact List.map_congr_left fun r hr => (responseKey_eq (h.1 r hr)).symm
  exact List.Nodup.of_map some (heq ▸ h.2)

theorem distinctIds_perm {results' : List Json} (hp : results'.Perm results) :
    distinctIds results' := by
  simp only [distinctIds, Bool.and_eq_true, List.all_eq_true, decide_eq_true_eq] at h ⊢
  exact ⟨fun r hr => h.1 r (hp.subset hr), (hp.map _).nodup_iff.2 h.2⟩

theorem lookupId_perm {results' : List Json} (hp : results'.Perm results) (k : PyKey) :
    lookupId (results'.map entryOf) k = lookupId (results.map entryOf) k := by
  have hn : ((results'.map entryOf).reverse.map Prod.fst).Nodup := by
    rw [List.map_reverse, List.nodup_reverse]; exact entryOf_keys_nodup (distinctIds_perm h hp)
  rw [lookupId, lookupId, lookup_perm (((List.reverse_perm _).trans (hp.map _)).trans
    (List.reverse_perm _).symm) hn]

end DistinctIds

/-! ### The loop over the heights -/

/-- What the batch leaves at the path of a height answered with `blockData` and `receiptsData`,
over what was there: when there is a block and it transcodes and packs, the compressed record
(as far as the disk lets the write go); otherwise nothing new. -/
def heightEntry (codec : Codec) (fault : WriteFault) (before : Option Node)
    (blockData receiptsData : Json) : Option Node :=
  if blockData.truthy then
    match rpcToNanoreth blockData (receiptsOrEmpty receiptsData) >>= codec.packb with
    | .ok packed => fault.leaves before (codec.compress packed)
    | .error _ => before
  else before

theorem length_blockPath (blocksDir : Path) (b : Int) :
    (blockPath blocksDir b).length = blocksDir.length + 3 := by
  simp [blockPath, shardPath]

theorem blockPath_ne_nil (blocksDir : Path) (b : Int) : blockPath blocksDir b ≠ [] := by
  simp [blockPath, shardPath]

section Loop
variable (table : List (PyKey × List (String × Json))) (codec : Codec) (disk : Disk)
  (blocksDir : Path)

theorem writeBlock_lookup_self (fs : Fs) (b : Int) (blockData receiptsData : Json) :
    (writeBlock codec disk blocksDir fs b blockData receiptsData).1.lookup (blockPath blocksDir b) =
      match rpcToNanoreth blockData receiptsData >>= codec.packb with
      | .ok packed => (disk (blockPath blocksDir b)).leaves (fs.lookup (blockPath blocksDir b))
          (codec.compress packed)
      | .error _ => fs.lookup (blockPath blocksDir b) := by
  unfold writeBlock
  split <;> simp_all [writeFile_lookup_self _ _ (blockPath_ne_nil _ _)]

theorem writeBlock_lookup_other (fs : Fs) {b b' : Int} (hb : b' ≠ b) (blockData receiptsData : Json) :
    (writeBlock codec disk blocksDir fs b blockData receiptsData).1.lookup (blockPath blocksDir b') =
      fs.lookup (blockPath blocksDir b') := by
  unfold writeBlock
  split
  · rfl
  · exact writeFile_lookup_other _ _ (blockPath_ne_nil _ _)
      (fun h => hb (shardPath_injective h)) (by simp [blockPath, shardPath]) _

theorem heightStep_fs (acc : Fs × Nat × Nat) (ib : Nat × Int) :
    (heightStep table codec disk blocksDir acc ib).1 =
      if (resultOf (lookupId table (.int (ib.1 * 2)))).truthy then
        (writeBlock codec disk blocksDir acc.1 ib.2 (resultOf (lookupId table (.int (ib.1 * 2))))
          (receiptsOrEmpty (resultOf (lookupId table (.int (ib.1 * 2 + 1)))))).1
      else acc.1 := by
  unfold heightStep
  dsimp only
  cases (resultOf (lookupId table (.int (ib.1 * 2)))).truthy
  · rfl
  · simp only [Bool.not_true, Bool.false_eq_true, if_false, if_true]
    split <;> rename_i h <;> rw [h]

theorem heightStep_counts (acc : Fs × Nat × Nat) (ib : Nat × Int) :
    (heightStep table codec disk blocksDir acc ib).2.1 +
      (heightStep table codec disk blocksDir acc ib).2.2 = acc.2.1 + acc.2.2 + 1 := by
  unfold heightStep
  dsimp only
  split
  · dsimp only; omega
  · split <;> dsimp only <;> omega

theorem heightStep_lookup_self (acc : Fs × Nat × Nat) (i : Nat) (b : Int) :
    (heightStep table codec disk blocksDir acc (i, b)).1.lookup (blockPath blocksDir b) =
      heightEntry codec (disk (blockPath blocksDir b)) (acc.1.lookup (blockPath blocksDir b))
        (resultOf (lookupId table (.int (i * 2)))) (resultOf (lookupId table (.int (i * 2 + 1)))) := by
  rw [heightStep_fs, heightEntry]
  split
  · rw [writeBlock_lookup_self]
  · rfl

theorem heightStep_lookup_other (acc : Fs × Nat × Nat) (ib : Nat × Int) {b : Int} (hb : b ≠ ib.2) :
    (heightStep table codec disk blocksDir acc ib).1.lookup (blockPath blocksDir b) =
      acc.1.lookup (blockPath blocksDir b) := by
  rw [heightStep_fs]
  split
  · exact writeBlock_lookup_other codec disk blocksDir _ hb _ _
  · rfl

theorem heightStep_congr {table' : List (PyKey × List (String × Json))}
    (h : ∀ k, lookupId table k = lookupId table' k) :
    heightStep table codec disk blocksDir = heightStep table' codec disk blocksDir := by
  funext acc ib
  simp only [heightStep, h]

theorem foldl_heightStep_counts (bs : List Int) (k : Nat) (acc : Fs × Nat × Nat) :
    ((bs.enumFrom k).foldl (heightStep table codec disk blocksDir) acc).2.1 +
      ((bs.enumFrom k).foldl (heightStep table codec disk blocksDir) acc).2.2 =
      acc.2.1 + acc.2.2 + bs.length := by
  induction bs generalizing k acc with
  | nil => rfl
  | cons b bs ih =>
    rw [List.enumFrom_cons, List.foldl_cons, ih, heightStep_counts, List.length_cons]
    omega

theorem foldl_heightStep_lookup_of_not_mem {bs : List Int} {b : Int} (hb : b ∉ bs) (k : Nat)
    (acc : Fs × Nat × Nat) :
    ((bs.enumFrom k).foldl (heightStep table codec disk blocksDir) acc).1.lookup
      (blockPath blocksDir b) = acc.1.lookup (blockPath blocksDir b) := by
  induction bs generalizing k acc with
  | nil => rfl
  | cons b' bs ih =>
    rw [List.enumFrom_cons, List.foldl_cons, ih (fun h => hb (List.mem_cons_of_mem b' h)),
      heightStep_lookup_other _ _ _ _ _ _ fun h => hb (List.mem_cons.2 (.inl h))]

theorem foldl_heightStep_lookup {bs : List Int} (hbs : bs.Nodup) (k : Nat) (acc : Fs × Nat × Nat)
    {i : Nat} (hi : i < bs.length) :
    ((bs.enumFrom k).foldl (heightStep table codec disk blocksDir) acc).1.lookup
      (blockPath blocksDir bs[i]) =
      heightEntry codec (disk (blockPath blocksDir bs[i])) (acc.1.lookup (blockPath blocksDir bs[i]))
        (resultOf (lookupId table (.int ((k + i : Nat) * 2))))
        (resultOf (lookupId table (.int ((k + i : Nat) * 2 + 1)))) := by
  induction bs generalizing k i acc with
  | nil => cases hi
  | cons b bs ih =>
    rw [List.nodup_cons] at hbs
    rw [List.enumFrom_cons, List.foldl_cons]
    cases i with
    | zero =>
      rw [List.getElem_cons_zero, foldl_heightStep_lookup_of_not_mem _ _ _ _ hbs.1,
        heightStep_lookup_self, Nat.add_zero]
    | succ i =>
      have hi' : i < bs.length := Nat.lt_of_succ_lt_succ hi
      have hne : bs[i] ≠ b := fun h => hbs.1 (h ▸ List.getElem_mem hi')
      rw [List.getElem_cons_succ, ih hbs.2 (k + 1) _ hi', heightStep_lookup_other _ _ _ _ _ _ hne,
        Nat.add_right_comm k 1 i, Nat.add_assoc k]

end Loop

/-! ### The batch -/

theorem byIdEntry_error {r : Json} {e : PyExc} (h : byIdEntry r = .error e) :
    e = .keyError ∨ e = .typeError := by
  rcases r with _ | _ | _ | _ | _ | kvs <;> simp only [byIdEntry, Except.error.injEq] at h
  all_goals try exact .inr h.symm
  split at h
  · rename_i v _
    rcases v with _ | _ | _ | _ | _ | _ <;> simp_all [Json.toKey, bind, Except.bind]
  · exact .inl (Except.error.inj h).symm

theorem byId_error {results : List Json} {e : PyExc} (h : byId results = .error e) :
    e = .keyError ∨ e = .typeError := by
  induction results with
  | nil => cases h
  | cons r rs ih =>
    rw [byId, List.mapM_cons] at h
    cases hr : byIdEntry r with
    | error e' => rw [hr] at h; cases h; exact byIdEntry_error hr
    | ok x =>
      cases hrs : rs.mapM byIdEntry with
      | error e' => rw [hr, hrs] at h; cases h; exact ih hrs
      | ok t => rw [hr, hrs] at h; cases h

theorem writeResults_counts {codec : Codec} {disk : Disk} {blocksDir : Path} {fs fs' : Fs}
    {bs : List Int} {results : List Json} {written errors : Nat}
    (h : writeResults codec disk blocksDir fs bs results = .ok (fs', written, errors)) :
    written + errors = bs.length := by
  obtain ⟨table, -, h⟩ := bind_eq_ok.1 h
  have := foldl_heightStep_counts table codec disk blocksDir bs 0 (fs, 0, 0)
  rw [← List.enum, Except.ok.inj h] at this
  simpa using this

/-- `fetch_and_write_batch` returns with every height counted once, or raises the
`RequestException` of `rpc_call`, or raises the `KeyError` or `TypeError` of building `by_id`
(outside its `try`). -/
theorem fetchAndWriteBatch_outcome (post : Transport) (codec : Codec) (disk : Disk)
    (blocksDir : Path) (fs : Fs) (bs : List Int) :
    (∃ fs' written errors, fetchAndWriteBatch post codec disk blocksDir fs bs =
      .ok (fs', written, errors) ∧ written + errors = bs.length) ∨
    fetchAndWriteBatch post codec disk blocksDir fs bs = .error .requestException ∨
    (∃ results e, (rpcCall post (buildBatch bs)).1 = .ok results ∧ byId results = .error e ∧
      (e = .keyError ∨ e = .typeError) ∧
      fetchAndWriteBatch post codec disk blocksDir fs bs = .error e) := by
  unfold fetchAndWriteBatch
  cases hc : (rpcCall post (buildBatch bs)).1 with
  | error e => exact .inr (.inl (by rw [rpcCall_error hc]; rfl))
  | ok results =>
    rw [ok_bind]
    cases hw : writeResults codec disk blocksDir fs bs results with
    | ok r => exact .inl ⟨r.1, r.2.1, r.2.2, rfl, writeResults_counts hw⟩
    | error e =>
      have ht : byId results = .error e := by
        unfold writeResults at hw
        cases ht : byId results <;> rw [ht] at hw <;> cases hw; rfl
      exact .inr (.inr ⟨results, e, rfl, ht, byId_error ht, rfl⟩)

end FetchBlocksRpc
end BlockCache

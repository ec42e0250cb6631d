import BlockCache.Repair

/-! # An honest node fills the range

`fetch_blocks_rpc` asks the node, batch by batch, for each missing height's block
(`eth_getBlockByNumber`) and receipts (`eth_getBlockReceipts`), and matches the answers to the
heights by `id`. Take a node that answers every request of a batch with the request's `id` and
the block or the receipts it holds for the quantity asked, in any order, on one of the attempts
`rpc_call` makes (so after fewer than `MAX_RETRIES` failed ones). Then every batch returns, every
height whose block is not empty and whose record packs is written at its `block_path`, and a run
of `main` on a healthy disk, with a positive batch size and a delay `time.sleep` accepts, leaves
no height of its range missing.
-/

namespace BlockCache
namespace FetchBlocksRpc

/-- What a node holds: a height's block and receipts, by the quantity (`hex(n)`) naming it. -/
abbrev NodeData := String → Json × Json

/-- The node's answer to one request: the request's `id`, and the block or the receipts it holds
for the quantity in `params[0]`. -/
def answer (data : NodeData) (req : Json) : Json :=
  .obj [("jsonrpc", .str "2.0"), ("id", (field req "id").getD .null),
    ("result", match field req "method", field req "params" with
      | some (.str "eth_getBlockByNumber"), some (.arr (.str q :: _)) => (data q).1
      | some (.str "eth_getBlockReceipts"), some (.arr (.str q :: _)) => (data q).2
      | _, _ => .null)]

/-- Every batch a transport is posted is answered, by one of the attempts `rpc_call` makes, with
the answers of `data` to all its requests, in some order. -/
def Honest (data : NodeData) (posts : Nat → Transport) : Prop :=
  ∀ i batch, ∃ results, results.Perm (batch.map (answer data)) ∧
    (rpcCall (posts i) batch).1 = .ok results

/-- A node that answers every batch on the first attempt, in the requests' order. -/
def inOrder (data : NodeData) : Nat → Transport :=
  fun _ batch _ => .body (.arr (batch.map (answer data)))

theorem honest_inOrder (data : NodeData) : Honest data (inOrder data) :=
  fun _ _ => ⟨_, List.Perm.refl _, rfl⟩

/-- The node's answers for `h` make a record: the block is not empty, and the record built from it
and the receipts transcodes and packs. -/
def Packs (codec : Codec) (data : NodeData) (h : Int) : Prop :=
  (data (pyHex h)).1.truthy ∧
    ∃ packed, (rpcToNanoreth (data (pyHex h)).1 (receiptsOrEmpty (data (pyHex h)).2) >>= codec.packb) =
      .ok packed

@[simp] theorem answer_blockRequest (data : NodeData) (b : Int) (j : Nat) :
    answer data (blockRequest b j) =
      .obj [("jsonrpc", .str "2.0"), ("id", .num j), ("result", (data (pyHex b)).1)] := rfl

@[simp] theorem answer_receiptsRequest (data : NodeData) (b : Int) (j : Nat) :
    answer data (receiptsRequest b j) =
      .obj [("jsonrpc", .str "2.0"), ("id", .num j), ("result", (data (pyHex b)).2)] := rfl

/-! ### One batch -/

theorem responseKey_answer (data : NodeData) {r : Json} {j : Int} (hj : field r "id" = some (.num j)) :
    responseKey (answer data r) = some (.int j) := by
  simp only [answer, hj, Option.getD_some]; rfl

theorem answers_keys (data : NodeData) (bs : List Int) :
    ((buildBatch bs).map (answer data)).map responseKey =
      (List.range (2 * bs.length)).map fun j => some (.int j) := by
  have hids := enumFrom_flatMap_ids bs 0
  rw [Nat.mul_zero, ← List.range_eq_range'] at hids
  have hkey : ∀ r ∈ buildBatch bs,
      responseKey (answer data r) = (field r "id").bind fun v => v.toKey.toOption := by
    intro r hr
    obtain ⟨j, -, hj⟩ := List.mem_map.1 (hids ▸ List.mem_map_of_mem (field · "id") hr)
    rw [responseKey_answer data hj.symm, ← hj]
    rfl
  rw [List.map_map]
  show (buildBatch bs).map (fun r => responseKey (answer data r)) = _
  rw [List.map_congr_left hkey]
  simpa only [List.map_map] using
    congrArg (List.map fun o : Option Json => o.bind fun v => v.toKey.toOption) hids

theorem distinctIds_answers (data : NodeData) (bs : List Int) :
    distinctIds ((buildBatch bs).map (answer data)) := by
  have hk := answers_keys data bs
  simp only [distinctIds, Bool.and_eq_true, List.all_eq_true, decide_eq_true_eq]
  refine ⟨fun r hr => ?_, hk ▸ (List.nodup_range _).map fun a b h => by simpa using h⟩
  obtain ⟨j, -, hj⟩ := List.mem_map.1 (hk ▸ List.mem_map_of_mem responseKey hr)
  rw [← hj]; rfl

theorem lookupId_answers (data : NodeData) {bs : List Int} {i : Nat} (hi : i < bs.length) :
    resultOf (lookupId (((buildBatch bs).map (answer data)).map entryOf) (.int ((i : Int) * 2))) =
        (data (pyHex bs[i])).1 ∧
      resultOf (lookupId (((buildBatch bs).map (answer data)).map entryOf)
        (.int ((i : Int) * 2 + 1))) = (data (pyHex bs[i])).2 := by
  have hn : ((((buildBatch bs).map (answer data)).map entryOf).reverse.map Prod.fst).Nodup := by
    rw [List.map_reverse, List.nodup_reverse]
    exact entryOf_keys_nodup (distinctIds_answers data bs)
  have hget : ∀ e ∈ ((buildBatch bs).map (answer data)).map entryOf,
      lookupId (((buildBatch bs).map (answer data)).map entryOf) e.1 = e.2 := fun e he => by
    rw [lookupId, (lookup_eq_some_iff hn).2 (List.mem_reverse.2 he)]
    rfl
  have hmem : ∀ {n : Nat} {req : Json}, (buildBatch bs)[n]? = some req →
      entryOf (answer data req) ∈ ((buildBatch bs).map (answer data)).map entryOf :=
    fun h => List.mem_map_of_mem _ (List.mem_map_of_mem _ (List.getElem?_mem h))
  obtain ⟨hb, hr⟩ := enumFrom_flatMap_getElem? bs 0 hi
  have hkb : (entryOf (answer data (blockRequest bs[i] ((0 + i) * 2)))).1 = .int ((i : Int) * 2) := by
    show PyKey.int (((0 + i) * 2 : Nat) : Int) = _
    simp
  have hkr : (entryOf (answer data (receiptsRequest bs[i] ((0 + i) * 2 + 1)))).1 =
      .int ((i : Int) * 2 + 1) := by
    show PyKey.int (((0 + i) * 2 + 1 : Nat) : Int) = _
    simp
  rw [← hkb, ← hkr, hget _ (hmem hb), hget _ (hmem hr)]
  exact ⟨rfl, rfl⟩

theorem fetchAndWriteBatch_honest {data : NodeData} {post : Transport} {bs : List Int}
    {results : List Json} (hp : results.Perm ((buildBatch bs).map (answer data)))
    (hcall : (rpcCall post (buildBatch bs)).1 = .ok results) (codec : Codec) (disk : Disk)
    (blocksDir : Path) (fs : Fs) :
    fetchAndWriteBatch post codec disk blocksDir fs bs =
      .ok (bs.enum.foldl (heightStep (((buildBatch bs).map (answer data)).map entryOf) codec disk
        blocksDir) (fs, 0, 0)) := by
  have hd := distinctIds_answers data bs
  rw [fetchAndWriteBatch, hcall, ok_bind, writeResults, byId_eq (distinctIds_perm hd hp), ok_bind,
    pure_eq_ok, heightStep_congr _ _ _ _ (lookupId_perm hd hp)]

theorem foldl_heightStep_answers (data : NodeData) (codec : Codec) (disk : Disk) (blocksDir : Path)
    (fs : Fs) {bs : List Int} (hnodup : bs.Nodup) {i : Nat} (hi : i < bs.length) :
    (bs.enum.foldl (heightStep (((buildBatch bs).map (answer data)).map entryOf) codec disk
        blocksDir) (fs, 0, 0)).1.lookup (blockPath blocksDir bs[i]) =
      heightEntry codec (disk (blockPath blocksDir bs[i])) (fs.lookup (blockPath blocksDir bs[i]))
        (data (pyHex bs[i])).1 (data (pyHex bs[i])).2 := by
  rw [List.enum, foldl_heightStep_lookup _ _ _ _ hnodup _ _ hi, Nat.zero_add,
    (lookupId_answers data hi).1, (lookupId_answers data hi).2]

theorem heightEntry_packs {codec : Codec} {data : NodeData} {h : Int} (hp : Packs codec data h)
    (before : Option Node) :
    (heightEntry codec .complete before (data (pyHex h)).1 (data (pyHex h)).2).isSome := by
  obtain ⟨ht, packed, hpk⟩ := hp
  simp [heightEntry, ht, hpk, WriteFault.leaves]

/-! ### The batch loop -/

section Loop
variable {data : NodeData} {posts : Nat → Transport} {codec : Codec} {blocksDir : Path}
  {delay : ℚ} {missing : List Int} {batchSize : Nat}

theorem fetchAndWriteBatch_honest_ok (hh : Honest data posts) (disk : Disk) (i : Nat) (fs : Fs)
    (batch : List Int) : ∃ r, fetchAndWriteBatch (posts i) codec disk blocksDir fs batch = .ok r :=
  let ⟨_, hp, hcall⟩ := hh i (buildBatch batch)
  ⟨_, fetchAndWriteBatch_honest hp hcall codec disk blocksDir fs⟩

theorem loopStep_honest (hh : Honest data posts) (hnodup : missing.Nodup) {st st' : LoopState}
    {i : Nat} (h : loopStep posts codec Disk.healthy blocksDir delay missing batchSize st i = .ok st') :
    ∀ x ∈ slice missing batchSize i, Packs codec data x →
      (st'.fs.lookup (blockPath blocksDir x)).isSome := by
  obtain ⟨results, hp, hcall⟩ := hh i (buildBatch (slice missing batchSize i))
  have hf := fetchAndWriteBatch_honest hp hcall codec Disk.healthy blocksDir st.fs
  obtain ⟨-, -, -, -, ⟨herr, -⟩ | ⟨w, e, hok⟩⟩ := loopStep_ok h
  · rw [hf] at herr; cases herr
  intro x hx hpx
  obtain ⟨k, hk, rfl⟩ := List.mem_iff_getElem.1 hx
  have hfs : _ = st'.fs := congrArg Prod.fst (Except.ok.inj (hf.symm.trans hok))
  have hsl : (slice missing batchSize i).Nodup :=
    ((List.take_sublist _ _).trans (List.drop_sublist _ _)).nodup hnodup
  rw [← hfs, foldl_heightStep_answers data codec Disk.healthy blocksDir st.fs hsl hk]
  exact heightEntry_packs hpx _

/-- With an honest node and distinct missing heights, the loop returns, keeps every entry, and
writes every missing height whose answers pack. -/
theorem fetchLoop_honest {batchSize : Int} (hh : Honest data posts) (hnodup : missing.Nodup)
    (hN : 0 < batchSize) (hd : SleepOk delay) (fs : Fs) :
    ∃ st, fetchLoop posts codec Disk.healthy blocksDir delay missing batchSize fs = .ok st ∧
      fs.Grows st.fs ∧
      ∀ x ∈ missing, Packs codec data x → (st.fs.lookup (blockPath blocksDir x)).isSome := by
  have hcalls : ∀ i fs batch e, fetchAndWriteBatch (posts i) codec Disk.healthy blocksDir fs batch =
      .error e → e = .requestException := fun i fs batch e he => by
    obtain ⟨r, hr⟩ := fetchAndWriteBatch_honest_ok hh Disk.healthy i fs batch
    rw [hr] at he; cases he
  obtain ⟨st, hrun, -, hlog, -⟩ := foldlM_loopStep_run hd hcalls
    (batchStarts missing.length batchSize.toNat) (LoopState.init fs delay) (PacingInv.init delay)
  have hl : fetchLoop posts codec Disk.healthy blocksDir delay missing batchSize fs = .ok st :=
    fetchLoop_eq hN ▸ hrun
  have hslices : (st.log.map Prod.fst).flatten = missing := by
    have hfst : st.log.map Prod.fst = (batchStarts missing.length batchSize.toNat).map
        (slice missing batchSize.toNat) := by
      simpa [Function.comp_def] using congrArg (List.map Prod.fst) hlog
    rw [hfst, batchStarts, List.map_map]
    exact flatten_slices _ _ missing (le_mul_numBatches (Int.lt_toNat.2 hN))
  have hinv := foldlM_ok_induction (fun s : LoopState => ∀ e ∈ s.log, ∀ x ∈ e.1, Packs codec data x →
      (s.fs.lookup (blockPath blocksDir x)).isSome)
    (fun s i s' hs hinv e he x hx hpx => by
      obtain ⟨-, -, -, hlog', -⟩ := loopStep_ok hs
      rw [hlog', List.mem_append, List.mem_singleton] at he
      rcases he with he | rfl
      · exact loopStep_grows hs _ (hinv e he x hx hpx)
      · exact loopStep_honest hh hnodup hs x hx hpx)
    hrun (by simp [LoopState.init])
  refine ⟨st, hl, fetchLoop_grows hl, fun x hx hpx => ?_⟩
  obtain ⟨l, hl', hxl⟩ := List.mem_flatten.1 (hslices ▸ hx)
  obtain ⟨e, he, rfl⟩ := List.mem_map.1 hl'
  exact hinv e he x hxl hpx

/-! ### `main` -/

theorem main_honest (hh : Honest data posts) {tip : Transport} {fs : Fs} {args : Args}
    {start «end» : Int} (hs : settleStart fs args = .ok start) (he : settleEnd tip args = .ok «end»)
    (hdry : args.dryRun = false) (hN : 0 < args.batchSize) (hd : SleepOk args.delay) :
    ∃ r, main tip posts codec Disk.healthy fs args = .ok r ∧
      ∀ h, start ≤ h → h ≤ «end» → Packs codec data h →
        ((r.elim fs LoopState.fs).lookup (blockPath args.blocksDir h)).isSome := by
  have hnodup : (findMissingBlocks fs args.blocksDir start «end»).Nodup := by
    refine List.Nodup.filter _ ?_
    rw [pyRange_one]
    exact (List.nodup_range _).map fun a b hab => by simpa using hab
  have hmiss : ∀ h, start ≤ h → h ≤ «end» → (fs.lookup (blockPath args.blocksDir h)).isSome ∨
      h ∈ findMissingBlocks fs args.blocksDir start «end» := fun h h1 h2 => by
    rw [findMissingBlocks, mem_missingAmong, pyRange_one, List.mem_map]
    cases hp : fs.pathExists (blockPath args.blocksDir h)
    · exact .inr ⟨⟨(h - start).toNat, List.mem_range.2 (by omega), by omega⟩, rfl⟩
    · exact .inl hp
  by_cases hem : findMissingBlocks fs args.blocksDir start «end» = []
  · refine ⟨none, by simp [main, hs, he, hem], fun h h1 h2 _ => ?_⟩
    simpa [hem] using hmiss h h1 h2
  obtain ⟨st, hl, hg, hw⟩ := @fetchLoop_honest data posts codec args.blocksDir args.delay _
    args.batchSize hh hnodup hN hd fs
  refine ⟨some st, by simp [main, hs, he, hem, hdry, hl], fun h h1 h2 hp => ?_⟩
  rcases hmiss h h1 h2 with hf | hm
  · exact hg _ hf
  · exact hw h hm hp

/-- A run of `main` that is not a dry run, with an honest node and a healthy disk, returns, and
leaves no height of its range missing when the node's answers for every height of the range
pack: a second scan of the range finds nothing. -/
theorem main_fills_range (hh : Honest data posts) {tip : Transport} {fs : Fs} {args : Args}
    {start «end» : Int} (hs : settleStart fs args = .ok start) (he : settleEnd tip args = .ok «end»)
    (hdry : args.dryRun = false) (hN : 0 < args.batchSize) (hd : SleepOk args.delay)
    (hpacks : ∀ h, start ≤ h → h ≤ «end» → Packs codec data h) :
    ∃ r, main tip posts codec Disk.healthy fs args = .ok r ∧
      findMissingBlocks (r.elim fs LoopState.fs) args.blocksDir start «end» = [] := by
  obtain ⟨r, hr, hw⟩ := main_honest hh hs he hdry hN hd
  refine ⟨r, hr, List.filter_eq_nil_iff.2 fun h hh => ?_⟩
  obtain ⟨h1, h2⟩ := mem_pyRange_one hh
  rw [Bool.not_eq_true', Bool.not_eq_false]
  exact hw h h1 (by omega) (hpacks h h1 (by omega))

/-- The scripts share the cache: after such a run over heights from `1` on, the scan of
`check_block_completeness`, over any range, reports none of the run's heights missing. -/
theorem main_then_scan_finds_range_present (hh : Honest data posts) {tip : Transport} {fs : Fs}
    {args : Args} {start «end» : Int} (hs : settleStart fs args = .ok start)
    (he : settleEnd tip args = .ok «end») (hdry : args.dryRun = false) (hN : 0 < args.batchSize)
    (hd : SleepOk args.delay) (hpacks : ∀ h, start ≤ h → h ≤ «end» → Packs codec data h) (hpos : 1 ≤ start) :
    ∃ r, main tip posts codec Disk.healthy fs args = .ok r ∧
      ∀ s latest, ∀ h ∈ (CheckBlockCompleteness.scan (r.elim fs LoopState.fs) args.blocksDir s
        latest).allMissing, h < start ∨ «end» < h := by
  obtain ⟨r, hr, hw⟩ := main_honest hh hs he hdry hN hd
  refine ⟨r, hr, fun s latest h hm => ?_⟩
  by_contra hin
  obtain ⟨h1, h2⟩ : start ≤ h ∧ h ≤ «end» := by omega
  have hpath := paths_agree_of_ne_zero args.blocksDir (by omega : h ≠ 0)
  rw [(CheckBlockCompleteness.tally_scan _ _ s latest).missing, mem_missingAmong, hpath.1,
    ← hpath.2.2.2.2] at hm
  exact Bool.false_ne_true (hm.2.symm.trans (hw h h1 h2 (hpacks h h1 h2)))

end Loop

/-- A node holding the sample block and receipts at every height. -/
def sampleNode : NodeData := fun _ => (sampleBlock, sampleReceipts)

theorem packs_sampleNode (h : Int) : Packs emptyCodec sampleNode h := ⟨rfl, _, rfl⟩

theorem sleepOk_five : SleepOk 5 := ⟨by norm_num, by norm_num⟩

theorem main_fills_range_sample :
    Honest sampleNode (inOrder sampleNode) ∧ SleepOk 5 ∧
    settleStart Fs.empty ⟨["blocks"], some 5, some 6, 1, 5, false⟩ = .ok 5 ∧
    settleEnd (offline 0) ⟨["blocks"], some 5, some 6, 1, 5, false⟩ = .ok 6 ∧
    ∃ r, main (offline 0) (inOrder sampleNode) emptyCodec Disk.healthy Fs.empty
        ⟨["blocks"], some 5, some 6, 1, 5, false⟩ = .ok r ∧
      findMissingBlocks (r.elim Fs.empty LoopState.fs) ["blocks"] 5 6 = [] :=
  ⟨honest_inOrder _, sleepOk_five, rfl, rfl, main_fills_range (honest_inOrder _) rfl rfl rfl
    (by decide) sleepOk_five fun h _ _ => packs_sampleNode h⟩

theorem main_then_scan_finds_range_present_sample :
    Honest sampleNode (inOrder sampleNode) ∧ SleepOk 5 ∧
    settleStart Fs.empty ⟨["blocks"], some 5, some 6, 1, 5, false⟩ = .ok 5 ∧
    settleEnd (offline 0) ⟨["blocks"], some 5, some 6, 1, 5, false⟩ = .ok 6 ∧
    ∃ r, main (offline 0) (inOrder sampleNode) emptyCodec Disk.healthy Fs.empty
        ⟨["blocks"], some 5, some 6, 1, 5, false⟩ = .ok r ∧
      ∀ s latest, ∀ h ∈ (CheckBlockCompleteness.scan (r.elim Fs.empty LoopState.fs) ["blocks"] s
        latest).allMissing, h < 5 ∨ 6 < h :=
  ⟨honest_inOrder _, sleepOk_five, rfl, rfl, main_then_scan_finds_range_present
    (honest_inOrder _) rfl rfl rfl (by decide) sleepOk_five (fun h _ _ => packs_sampleNode h)
    (by decide)⟩

end FetchBlocksRpc
end BlockCache

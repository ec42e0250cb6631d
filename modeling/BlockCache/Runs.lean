import BlockCache.Writes

/-! # Whole runs of the three scripts

`fetch_blocks_rpc.main` settles its range (`--start`, else one past the cache's latest height;
`--end`, else the node's tip from `get_chain_tip`), lists the heights whose file is missing, and
unless it is a dry run or nothing is missing runs the batch loop. With the `main`s of
`check_block_completeness` and `download_boundary_blocks` this is the whole system around the
cache. Two things hold of every run of every script that returns:

* it changes no entry the cache held before it (`runs_keep_existing_entries`): each write goes
  to the block file of a height the run's own scan found empty, and touches no other entry but
  the directories `makedirs` creates where nothing was (`writeFile_lookup_of_isSome`).
  `BlockWriteRel` lifts any relation such writes respect to whole runs, once for all;
* a run over a range the cache already holds in full writes nothing and reports nothing
  missing (`complete_range_needs_no_repair`).

`Fs.Grows`, the weaker fact that no write removes a path, holds of every write whatever its
path; the repair and accounting proofs use it for writes inside one run.
-/

namespace BlockCache

/-! ### No write removes a path -/

/-- Every path that holds an entry in `fs` holds one in `fs'`. -/
def Fs.Grows (fs fs' : Fs) : Prop := ∀ p, (fs.lookup p).isSome → (fs'.lookup p).isSome

namespace Fs.Grows

theorem refl (fs : Fs) : fs.Grows fs := fun _ h => h

theorem trans {fs fs' fs'' : Fs} (h : fs.Grows fs') (h' : fs'.Grows fs'') : fs.Grows fs'' :=
  fun p hp => h' p (h p hp)

theorem put (fs : Fs) (q : Path) (n : Node) : fs.Grows (fs.put q n) := fun p hp => by
  rw [Fs.lookup_put]; split <;> simp [hp]

theorem mkdirs (fs : Fs) (d : Path) : fs.Grows (fs.mkdirs d) := by
  unfold Fs.mkdirs
  refine List.foldlRecOn (motive := fs.Grows) _ _ fs (refl fs) fun fs' h k _ => h.trans ?_
  dsimp only
  split
  · exact refl fs'
  · exact put fs' _ _

theorem writeFile (fault : WriteFault) (fs : Fs) (path : Path) (data : Bytes) :
    fs.Grows (BlockCache.writeFile fault fs path data).1 := by
  cases fault <;> simp only [BlockCache.writeFile]
  · exact (mkdirs fs _).trans (put _ _ _)
  · exact mkdirs fs _
  · exact (mkdirs fs _).trans (put _ _ _)

theorem s3Fetch (s3 : S3) (disk : Disk) (fs : Fs) (key : List String) (dest : Path) :
    fs.Grows (BlockCache.s3Fetch s3 disk fs key dest).1 := by
  unfold BlockCache.s3Fetch
  split
  · exact refl fs
  · exact writeFile _ _ _ _

theorem foldl_poolStep {task : Fs → Int → Fs × Bool}
    (htask : ∀ (fs : Fs) (h : Int), fs.Grows (task fs h).1) (acc : Fs × Nat × Nat)
    (heights : List Int) : acc.1.Grows (heights.foldl (poolStep task) acc).1 :=
  List.foldlRecOn (motive := fun acc' : Fs × Nat × Nat => acc.1.Grows acc'.1) heights (poolStep task)
    acc (refl acc.1) fun acc' h bn _ => h.trans (poolStep_fst task acc' bn ▸ htask acc'.1 bn)

theorem runPool {task : Fs → Int → Fs × Bool}
    (htask : ∀ (fs : Fs) (h : Int), fs.Grows (task fs h).1)
    (fs : Fs) (heights : List Int) : fs.Grows (BlockCache.runPool task fs heights).1 :=
  foldl_poolStep htask (fs, 0, 0) heights

end Fs.Grows

namespace FetchBlocksRpc

theorem writeBlock_grows (codec : Codec) (disk : Disk) (blocksDir : Path) (fs : Fs) (b : Int)
    (blockData receiptsData : Json) :
    fs.Grows (writeBlock codec disk blocksDir fs b blockData receiptsData).1 := by
  unfold writeBlock
  split
  · exact .refl fs
  · exact .writeFile _ _ _ _

theorem heightStep_grows (table : List (PyKey × List (String × Json))) (codec : Codec)
    (disk : Disk) (blocksDir : Path) (acc : Fs × Nat × Nat) (ib : Nat × Int) :
    acc.1.Grows (heightStep table codec disk blocksDir acc ib).1 := by
  rw [heightStep_fs]
  split
  · exact writeBlock_grows _ _ _ _ _ _ _
  · exact .refl _

theorem fetchAndWriteBatch_grows {post : Transport} {codec : Codec} {disk : Disk}
    {blocksDir : Path} {fs fs' : Fs} {bs : List Int} {w e : Nat}
    (h : fetchAndWriteBatch post codec disk blocksDir fs bs = .ok (fs', w, e)) : fs.Grows fs' := by
  obtain ⟨_, -, h⟩ := bind_eq_ok.1 h
  obtain ⟨table, -, h⟩ := bind_eq_ok.1 h
  have := List.foldlRecOn (motive := fun acc : Fs × Nat × Nat => fs.Grows acc.1) bs.enum
    (heightStep table codec disk blocksDir) (fs, 0, 0) (.refl fs)
    fun acc hacc ib _ => hacc.trans (heightStep_grows table codec disk blocksDir acc ib)
  rwa [Except.ok.inj h] at this

theorem loopStep_grows {posts : Nat → Transport} {codec : Codec} {disk : Disk} {blocksDir : Path}
    {delay : ℚ} {missing : List Int} {batchSize : Nat} {st st' : LoopState} {i : Nat}
    (h : loopStep posts codec disk blocksDir delay missing batchSize st i = .ok st') :
    st.fs.Grows st'.fs := by
  obtain ⟨-, -, -, -, ⟨-, hfs⟩ | ⟨_, _, hf⟩⟩ := loopStep_ok h
  · exact hfs ▸ .refl _
  · exact fetchAndWriteBatch_grows hf

theorem fetchLoop_grows {posts : Nat → Transport} {codec : Codec} {disk : Disk} {blocksDir : Path}
    {delay : ℚ} {missing : List Int} {batchSize : Int} {fs : Fs} {st : LoopState}
    (h : fetchLoop posts codec disk blocksDir delay missing batchSize fs = .ok st) :
    fs.Grows st.fs := by
  unfold fetchLoop at h
  split at h
  · cases h
  · exact foldlM_ok_induction (fun s : LoopState => fs.Grows s.fs)
      (fun _ _ _ hs hg => hg.trans (loopStep_grows hs)) h (.refl fs)

/-! ### `main` -/

/-- The request of `get_chain_tip`. -/
def tipRequest : Json :=
  .obj [("jsonrpc", .str "2.0"), ("method", .str "eth_blockNumber"), ("params", .arr []),
    ("id", .num 0)]

/-- `get_chain_tip`: `int(results[0]["result"], 16)`. -/
def getChainTip (post : Transport) : Except PyExc Int := do
  match ← (rpcCall post [tipRequest]).1 with
  | [] => throw .indexError
  | r :: _ => do
    let n ← intHex (← r.index "result")
    pure n

/-- The arguments `main` reads. -/
structure Args where
  blocksDir : Path
  start : Option Int
  endBlock : Option Int
  batchSize : Int
  delay : ℚ
  dryRun : Bool

/-- `args.start`, or one past `find_cache_latest` when it is `None`. -/
def settleStart (fs : Fs) (args : Args) : Except PyExc Int :=
  match args.start with
  | some s => pure s
  | none => do pure ((← findCacheLatest fs args.blocksDir) + 1)

/-- `args.end`, or `get_chain_tip` when it is `None`. -/
def settleEnd (tip : Transport) (args : Args) : Except PyExc Int :=
  match args.endBlock with
  | some e => pure e
  | none => getChainTip tip

/-- `main`: the range, the missing heights (`--scan-gaps` only chooses between two copies of one
scan), then, unless it is a dry run or nothing is missing, the batch loop. `none` when it returns
before the loop. -/
def main (tip : Transport) (posts : Nat → Transport) (codec : Codec) (disk : Disk) (fs : Fs)
    (args : Args) : Except PyExc (Option LoopState) := do
  let start ← settleStart fs args
  let «end» ← settleEnd tip args
  let missing := findMissingBlocks fs args.blocksDir start «end»
  if args.dryRun || missing.isEmpty then pure none
  else some <$> fetchLoop posts codec disk args.blocksDir args.delay missing args.batchSize fs

theorem main_ok {tip : Transport} {posts : Nat → Transport} {codec : Codec} {disk : Disk} {fs : Fs}
    {args : Args} {r : Option LoopState} (h : main tip posts codec disk fs args = .ok r) :
    ∃ start «end», settleStart fs args = .ok start ∧ settleEnd tip args = .ok «end» ∧
      ((args.dryRun || (findMissingBlocks fs args.blocksDir start «end»).isEmpty) ∧ r = none ∨
       ∃ st, r = some st ∧ fetchLoop posts codec disk args.blocksDir args.delay
         (findMissingBlocks fs args.blocksDir start «end») args.batchSize fs = .ok st) := by
  unfold main at h
  obtain ⟨start, hs, h⟩ := bind_eq_ok.1 h
  obtain ⟨e, he, h⟩ := bind_eq_ok.1 h
  refine ⟨start, e, hs, he, ?_⟩
  dsimp only at h
  split at h
  · cases h; exact .inl ⟨by assumption, rfl⟩
  · cases hl : fetchLoop posts codec disk args.blocksDir args.delay
        (findMissingBlocks fs args.blocksDir start e) args.batchSize fs with
    | error _ => rw [hl] at h; cases h
    | ok st => rw [hl] at h; cases h; exact .inr ⟨st, rfl, rfl⟩

end FetchBlocksRpc

theorem missingAmong_eq_nil {path : Int → Path} {fs : Fs} {heights : List Int}
    (h : ∀ x ∈ heights, (fs.lookup (path x)).isSome) : missingAmong path fs heights = [] :=
  List.filter_eq_nil_iff.2 fun x hx => by simp [Fs.pathExists, h x hx]

theorem lookup_of_mem_missingAmong (path : Int → Path) {fs : Fs} {heights : List Int} {h : Int}
    (hh : h ∈ missingAmong path fs heights) : fs.lookup (path h) = none := by
  simpa [Fs.pathExists] using (mem_missingAmong.1 hh).2

namespace CheckBlockCompleteness

theorem fixMissing_ok {store : String → S3} {disk : Disk} {fs fs' : Fs} {blocksDir : Path}
    {args : Args} {allMissing : List Int}
    (h : fixMissing store disk fs blocksDir args allMissing = .ok fs') :
    fs' = fs ∨ fs' = (downloadBlocks (store (bucketName args.chain)) disk blocksDir fs
      (allMissing.filter fun bn => bn ≥ s3Start args.chain) args.workers).1 := by
  unfold fixMissing at h
  by_cases hf : (args.fix && !allMissing.isEmpty) = true
  · rw [if_pos hf] at h
    dsimp only at h
    split_ifs at h
    · cases h; exact .inl rfl
    · cases hd : downloadBlocks (store (bucketName args.chain)) disk blocksDir fs
          (allMissing.filter fun bn => bn ≥ s3Start args.chain) args.workers with
      | mk fs'' r =>
        rw [hd] at h
        cases r
        · cases h
        · cases h; exact .inr rfl
  · rw [if_neg hf] at h; cases h; exact .inl rfl

theorem fixMissing_of_pos (store : String → S3) (disk : Disk) (fs : Fs) (blocksDir : Path)
    {args : Args} (hw : 0 < args.workers) (allMissing : List Int) :
    fixMissing store disk fs blocksDir args allMissing = .ok (if args.fix then
      (runPool (downloadOne (store (bucketName args.chain)) disk blocksDir) fs
        (allMissing.filter fun bn => bn ≥ s3Start args.chain)).1 else fs) := by
  unfold fixMissing
  cases args.fix
  · rfl
  · cases hm : allMissing with
    | nil => rfl
    | cons a rest =>
      simp only [downloadBlocks, threadPool_of_pos hw, Bool.true_and, List.isEmpty_cons,
        Bool.not_false, if_true]
      split_ifs with he
      · rw [List.isEmpty_iff.1 he]; rfl
      · rfl

end CheckBlockCompleteness

/-! ### Runs change no entry that was there -/

/-- Every entry of `fs` is in `fs'`, unchanged. -/
def Fs.Keeps (fs fs' : Fs) : Prop := ∀ p n, fs.lookup p = some n → fs'.lookup p = some n

theorem Fs.lookup_mkdirs_of_isSome (fs : Fs) (d : Path) {q : Path} (hq : (fs.lookup q).isSome) :
    (fs.mkdirs d).lookup q = fs.lookup q := by
  unfold mkdirs
  refine List.foldlRecOn (motive := fun fs' : Fs => fs'.lookup q = fs.lookup q) _ _ fs rfl
    fun fs' h k _ => ?_
  dsimp only
  split_ifs with he
  · exact h
  · have hne : q ≠ d.take (k + 1) := fun e => he (by rw [pathExists_eq, ← e, h]; exact hq)
    rw [lookup_put, if_neg hne, h]

/-- A write changes no entry but its own path's: elsewhere `makedirs` only creates directories
where nothing was. -/
theorem writeFile_lookup_of_isSome (fault : WriteFault) (fs : Fs) {path q : Path} (hq : q ≠ path)
    (h : (fs.lookup q).isSome) (data : Bytes) :
    (writeFile fault fs path data).1.lookup q = fs.lookup q := by
  cases fault <;> simp [writeFile, hq, Fs.lookup_mkdirs_of_isSome _ _ h]

/-- A relation between the cache before and after, reflexive and transitive, that every write
of a block file under `root` respects when the file's path holds nothing in `base`. Every script
writes only the block files of heights its scan of `base` found empty, so every run from `base`
respects it (`runs`). -/
structure BlockWriteRel (root : Path) (base : Fs) where
  rel : Fs → Fs → Prop
  refl : ∀ fs, rel fs fs
  trans : ∀ {fs fs' fs''}, rel fs fs' → rel fs' fs'' → rel fs fs''
  write : ∀ (fault : WriteFault) (fs : Fs) (m t n : Int) (data : Bytes),
    base.lookup (shardPath root m t n) = none → rel fs (writeFile fault fs (shardPath root m t n) data).1

namespace BlockWriteRel

variable {root : Path} {base : Fs} (R : BlockWriteRel root base)

theorem s3Fetch (s3 : S3) (disk : Disk) (fs : Fs) (key : List String) (m t n : Int)
    (hfresh : base.lookup (shardPath root m t n) = none) :
    R.rel fs (BlockCache.s3Fetch s3 disk fs key (shardPath root m t n)).1 := by
  unfold BlockCache.s3Fetch
  split
  · exact R.refl fs
  · exact R.write _ _ _ _ _ _ hfresh

theorem threadPool {task : Fs → Int → Fs × Bool} {heights : List Int}
    (htask : ∀ (fs : Fs), ∀ h ∈ heights, R.rel fs (task fs h).1) (workers : Int) (fs : Fs) :
    R.rel fs (BlockCache.threadPool workers task fs heights).1 := by
  rw [threadPool_fst]
  split
  · exact R.refl fs
  · exact List.foldlRecOn (motive := fun acc : Fs × Nat × Nat => R.rel fs acc.1) heights
      (poolStep task) (fs, 0, 0) (R.refl fs) fun acc h bn hbn =>
        R.trans h (poolStep_fst task acc bn ▸ htask acc.1 bn hbn)

theorem fetchAndWriteBatch {post : FetchBlocksRpc.Transport} {codec : FetchBlocksRpc.Codec}
    {disk : Disk} {fs fs' : Fs} {bs : List Int} {w e : Nat}
    (hfresh : ∀ b ∈ bs, base.lookup (FetchBlocksRpc.blockPath root b) = none)
    (h : FetchBlocksRpc.fetchAndWriteBatch post codec disk root fs bs = .ok (fs', w, e)) :
    R.rel fs fs' := by
  obtain ⟨_, -, h⟩ := bind_eq_ok.1 h
  obtain ⟨table, -, h⟩ := bind_eq_ok.1 h
  have := List.foldlRecOn (motive := fun acc : Fs × Nat × Nat => R.rel fs acc.1) bs.enum
    (FetchBlocksRpc.heightStep table codec disk root) (fs, 0, 0) (R.refl fs)
    fun acc hacc ib hib => R.trans hacc <| by
      rw [FetchBlocksRpc.heightStep_fs]
      split
      · unfold FetchBlocksRpc.writeBlock
        split
        · exact R.refl _
        · exact R.write _ _ _ _ _ _ (hfresh ib.2 (List.snd_mem_of_mem_enum hib))
      · exact R.refl _
  rwa [Except.ok.inj h] at this

theorem fetchLoop {posts : Nat → FetchBlocksRpc.Transport} {codec : FetchBlocksRpc.Codec}
    {disk : Disk} {delay : ℚ} {missing : List Int} {batchSize : Int} {fs : Fs}
    {st : FetchBlocksRpc.LoopState}
    (hfresh : ∀ b ∈ missing, base.lookup (FetchBlocksRpc.blockPath root b) = none)
    (h : FetchBlocksRpc.fetchLoop posts codec disk root delay missing batchSize fs = .ok st) :
    R.rel fs st.fs := by
  unfold FetchBlocksRpc.fetchLoop at h
  split at h
  · cases h
  · refine foldlM_ok_induction (fun s : FetchBlocksRpc.LoopState => R.rel fs s.fs)
      (fun _ i _ hs hr => R.trans hr ?_) h (R.refl fs)
    obtain ⟨-, -, -, -, ⟨-, hfs⟩ | ⟨_, _, hf⟩⟩ := FetchBlocksRpc.loopStep_ok hs
    · exact hfs ▸ R.refl _
    · exact R.fetchAndWriteBatch (fun b hb => hfresh b
        (List.mem_of_mem_drop (List.mem_of_mem_take hb))) hf

/-- Every run of each script from `base` with `blocks_dir = root` respects `R`. -/
theorem runs (store : String → S3) (disk : Disk) :
    (∀ (args : CheckBlockCompleteness.Args) (status : Nat) (fs' : Fs),
      CheckBlockCompleteness.main store disk base root args = .ok (status, fs') → R.rel base fs') ∧
    (∀ args : DownloadBoundaryBlocks.Args,
      R.rel base (DownloadBoundaryBlocks.main store disk base root args).1) ∧
    (∀ (tip : FetchBlocksRpc.Transport) (posts : Nat → FetchBlocksRpc.Transport)
      (codec : FetchBlocksRpc.Codec) (args : FetchBlocksRpc.Args)
      (r : Option FetchBlocksRpc.LoopState), args.blocksDir = root →
      FetchBlocksRpc.main tip posts codec disk base args = .ok r →
      R.rel base (r.elim base FetchBlocksRpc.LoopState.fs)) := by
  refine ⟨fun args status fs' h => ?_, fun args => ?_, fun tip posts codec args r hroot h => ?_⟩
  · obtain ⟨latest, -, h⟩ := bind_eq_ok.1 h
    obtain ⟨fs'', hfix, h⟩ := bind_eq_ok.1 h
    cases h
    rcases CheckBlockCompleteness.fixMissing_ok hfix with rfl | rfl
    · exact R.refl _
    · refine R.threadPool (fun fs h hh => R.s3Fetch _ _ _ _ _ _ _ ?_) _ _
      rw [(CheckBlockCompleteness.tally_scan _ _ _ _).missing] at hh
      exact lookup_of_mem_missingAmong (CheckBlockCompleteness.cachePath root) (List.mem_filter.1 hh).1
  · unfold DownloadBoundaryBlocks.main
    dsimp only
    split
    · exact R.refl base
    · exact R.threadPool (fun fs h hh => R.s3Fetch _ _ _ _ _ _ _
        (lookup_of_mem_missingAmong (DownloadBoundaryBlocks.cachePath root) hh)) _ _
  · subst hroot
    obtain ⟨_, _, -, -, ⟨-, rfl⟩ | ⟨st, rfl, hl⟩⟩ := FetchBlocksRpc.main_ok h
    · exact R.refl base
    · exact R.fetchLoop (fun b hb => lookup_of_mem_missingAmong (FetchBlocksRpc.blockPath args.blocksDir) hb) hl

end BlockWriteRel

/-- Writes to paths empty in `base` keep every entry of `base` that is still there. -/
def keepsEntries (root : Path) (base : Fs) : BlockWriteRel root base where
  rel fs fs' := ∀ p n, base.lookup p = some n → fs.lookup p = some n → fs'.lookup p = some n
  refl _ _ _ _ h := h
  trans h h' p n hb hp := h' p n hb (h p n hb hp)
  write fault fs m t n data hfresh p k hb hp := by
    have hne : p ≠ shardPath root m t n := fun e => by rw [e, hfresh] at hb; cases hb
    rw [writeFile_lookup_of_isSome fault fs hne (by simp [hp]) data, hp]

/-- No run of any of the three scripts that returns changes or removes an entry the cache held
before it: every file keeps its bytes and every directory stays as it was, whatever the bucket,
the node, the codec and the disk do. -/
theorem runs_keep_existing_entries (store : String → S3) (disk : Disk) (fs : Fs) (root : Path) :
    (∀ (args : CheckBlockCompleteness.Args) (status : Nat) (fs' : Fs),
      CheckBlockCompleteness.main store disk fs root args = .ok (status, fs') → fs.Keeps fs') ∧
    (∀ args : DownloadBoundaryBlocks.Args,
      fs.Keeps (DownloadBoundaryBlocks.main store disk fs root args).1) ∧
    (∀ (tip : FetchBlocksRpc.Transport) (posts : Nat → FetchBlocksRpc.Transport)
      (codec : FetchBlocksRpc.Codec) (args : FetchBlocksRpc.Args)
      (r : Option FetchBlocksRpc.LoopState), args.blocksDir = root →
      FetchBlocksRpc.main tip posts codec disk fs args = .ok r →
      fs.Keeps (r.elim fs FetchBlocksRpc.LoopState.fs)) := by
  obtain ⟨hc, hb, hf⟩ := (keepsEntries root fs).runs store disk
  exact ⟨fun args status fs' h p n hp => hc args status fs' h p n hp hp,
    fun args p n hp => hb args p n hp hp,
    fun tip posts codec args r hr h p n hp => hf tip posts codec args r hr h p n hp hp⟩

set_option maxRecDepth 8000 in
/-- A `--fix` run over heights `1001` and `1002` beside the cache of `999` and `1000`. -/
theorem runs_keep_existing_entries_fix :
    ∃ status fs', CheckBlockCompleteness.main (fun _ _ => some [7]) Disk.healthy mixedLengthCache
        ["blocks"] ⟨.mainnet, some 1001, 1002, true, 8⟩ = .ok (status, fs') ∧
      mixedLengthCache.Keeps fs' := by
  obtain ⟨status, fs', hm⟩ : ∃ status fs', CheckBlockCompleteness.main (fun _ _ => some [7])
      Disk.healthy mixedLengthCache ["blocks"] ⟨.mainnet, some 1001, 1002, true, 8⟩ =
        .ok (status, fs') := ⟨_, _, rfl⟩
  exact ⟨status, fs', hm, (runs_keep_existing_entries _ _ _ _).1 _ _ _ hm⟩

theorem mem_pyRange_one {start stop h : Int} (hh : h ∈ pyRange start stop 1) :
    start ≤ h ∧ h < stop := by
  rw [pyRange_one, List.mem_map] at hh
  obtain ⟨k, hk, rfl⟩ := hh
  rw [List.mem_range] at hk
  omega

/-- Repairing a range the cache already holds in full writes nothing and reports nothing
missing: `check_block_completeness` exits `0` and leaves the cache as it was,
`download_boundary_blocks` downloads nothing, and `fetch_blocks_rpc` returns before its batch
loop. -/
theorem complete_range_needs_no_repair :
    (∀ (store : String → S3) (disk : Disk) (fs : Fs) (blocksDir : Path)
      (args : CheckBlockCompleteness.Args) (latest : Int),
      CheckBlockCompleteness.settleLatest fs blocksDir args = .ok latest →
      (∀ h ∈ CheckBlockCompleteness.testedHeights
          (args.start.getD (CheckBlockCompleteness.s3Start args.chain)) latest,
        (fs.lookup (CheckBlockCompleteness.cachePath blocksDir h)).isSome) →
      CheckBlockCompleteness.main store disk fs blocksDir args = .ok (0, fs)) ∧
    (∀ (store : String → S3) (disk : Disk) (fs : Fs) (blocksDir : Path)
      (args : DownloadBoundaryBlocks.Args),
      (∀ h ∈ pyRange (args.start.getD (DownloadBoundaryBlocks.defaultStart args.chain))
          (args.endBlock.getD (DownloadBoundaryBlocks.defaultEnd args.chain) + 1) 1000,
        (fs.lookup (DownloadBoundaryBlocks.cachePath blocksDir h)).isSome) →
      DownloadBoundaryBlocks.main store disk fs blocksDir args = (fs, .ok (0, 0))) ∧
    (∀ (tip : FetchBlocksRpc.Transport) (posts : Nat → FetchBlocksRpc.Transport)
      (codec : FetchBlocksRpc.Codec) (disk : Disk) (fs : Fs) (args : FetchBlocksRpc.Args)
      (start «end» : Int),
      FetchBlocksRpc.settleStart fs args = .ok start →
      FetchBlocksRpc.settleEnd tip args = .ok «end» →
      (∀ h, start ≤ h → h ≤ «end» → (fs.lookup (FetchBlocksRpc.blockPath args.blocksDir h)).isSome) →
      FetchBlocksRpc.main tip posts codec disk fs args = .ok none) := by
  refine ⟨fun store disk fs blocksDir args latest hl hall => ?_,
    fun store disk fs blocksDir args hall => ?_,
    fun tip posts codec disk fs args start «end» hs he hall => ?_⟩
  · have ht := CheckBlockCompleteness.tally_scan fs blocksDir
      (args.start.getD (CheckBlockCompleteness.s3Start args.chain)) latest
    have hnil := ht.missing.trans (missingAmong_eq_nil hall)
    simp [CheckBlockCompleteness.main, hl, CheckBlockCompleteness.exitStatus, ht.count, hnil,
      CheckBlockCompleteness.fixMissing]
  · simp [DownloadBoundaryBlocks.main, DownloadBoundaryBlocks.findMissingBlocks,
      missingAmong_eq_nil hall]
  · have hnil : FetchBlocksRpc.findMissingBlocks fs args.blocksDir start «end» = [] :=
      missingAmong_eq_nil fun h hh => by
        obtain ⟨h1, h2⟩ := mem_pyRange_one hh
        exact hall h h1 (by omega)
    simp [FetchBlocksRpc.main, hs, he, hnil]

/-- The cache of heights `999` and `1000`, asked for exactly those. -/
def fullRangeArgs : FetchBlocksRpc.Args := ⟨["blocks"], some 999, some 1000, 1, 5, false⟩

theorem complete_range_needs_no_repair_mixed :
    FetchBlocksRpc.settleStart mixedLengthCache fullRangeArgs = .ok 999 ∧
    FetchBlocksRpc.settleEnd (FetchBlocksRpc.offline 0) fullRangeArgs = .ok 1000 ∧
    (∀ h, 999 ≤ h → h ≤ 1000 →
      (mixedLengthCache.lookup (FetchBlocksRpc.blockPath ["blocks"] h)).isSome) ∧
    FetchBlocksRpc.main (FetchBlocksRpc.offline 0) FetchBlocksRpc.offline
      FetchBlocksRpc.emptyCodec Disk.healthy mixedLengthCache fullRangeArgs = .ok none :=
  have hall : ∀ h, 999 ≤ h → h ≤ 1000 →
      (mixedLengthCache.lookup (FetchBlocksRpc.blockPath ["blocks"] h)).isSome := fun h h1 h2 => by
    obtain rfl | rfl : h = 999 ∨ h = 1000 := by omega
    all_goals decide
  ⟨rfl, rfl, hall, complete_range_needs_no_repair.2.2 _ _ _ _ _ _ 999 1000 rfl rfl hall⟩

end BlockCache

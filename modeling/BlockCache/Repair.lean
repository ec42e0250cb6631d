import BlockCache.Runs

/-! # What a repair run leaves missing

`check_block_completeness --fix` and `download_boundary_blocks` repair the cache from the S3
bucket with a pool of download tasks, one per missing height. Each task writes the file of its own
height and, on the way, only directories above it: it never touches another height's path. On a
disk that completes every write a download succeeds exactly when the bucket holds its key, so a
pool with a positive worker count counts as downloaded the heights whose key is there and as
failed the others, and a second scan of the range finds missing exactly the heights the run could
not fetch (`fix_leaves_missing_what_bucket_lacks`, `main_counts_and_leaves_absent_keys`). With a
worker count of `0` or less `ThreadPoolExecutor` raises `ValueError` before any download.
-/

namespace BlockCache

/-! ### A pool of tasks that each write their own height -/

section Pool
variable {task : Fs → Int → Fs × Bool} {p : Int → Bool}

theorem runPool_counters (hp : ∀ fs bn, (task fs bn).2 = p bn) (fs : Fs) (heights : List Int) :
    (runPool task fs heights).2 = (heights.countP p, heights.countP fun bn => !p bn) := by
  suffices ∀ acc : Fs × Nat × Nat, (heights.foldl (poolStep task) acc).2 =
      (acc.2.1 + heights.countP p, acc.2.2 + heights.countP fun bn => !p bn) by
    simpa using this (fs, 0, 0)
  induction heights with
  | nil => intro acc; rfl
  | cons bn heights ih =>
    intro acc
    rw [List.foldl_cons, ih, List.countP_cons, List.countP_cons]
    unfold poolStep
    split <;> rename_i fs' hb h <;> rw [← hp acc.1 bn, h] <;> simp only [Bool.not_true,
      Bool.not_false, if_true, if_false, Bool.false_eq_true, Prod.mk.injEq] <;> omega

variable {path : Int → Path}

theorem runPool_lookup_of_forall {heights : List Int} {h : Int}
    (hall : ∀ fs, ∀ bn ∈ heights, (task fs bn).1.lookup (path h) = fs.lookup (path h)) (fs : Fs) :
    (runPool task fs heights).1.lookup (path h) = fs.lookup (path h) :=
  List.foldlRecOn (motive := fun acc : Fs × Nat × Nat => acc.1.lookup (path h) = fs.lookup (path h))
    heights (poolStep task) (fs, 0, 0) rfl fun acc hacc bn hbn => by
      dsimp only at hacc ⊢
      rw [poolStep_fst, hall acc.1 bn hbn, hacc]

theorem foldl_poolStep_lookup_of_mem (hgrow : ∀ (fs : Fs) (bn : Int), fs.Grows (task fs bn).1)
    {h : Int} (hw : ∀ fs : Fs, ((task fs h).1.lookup (path h)).isSome) :
    ∀ {heights : List Int} (acc : Fs × Nat × Nat), h ∈ heights →
      ((heights.foldl (poolStep task) acc).1.lookup (path h)).isSome
  | bn :: heights, acc, hh => by
    rw [List.foldl_cons]
    rcases List.mem_cons.1 hh with rfl | hh
    · exact Fs.Grows.foldl_poolStep hgrow _ heights _ (poolStep_fst task acc h ▸ hw acc.1)
    · exact foldl_poolStep_lookup_of_mem hgrow hw _ hh

/-- After a pool whose tasks never remove an entry, touch no other height's path, write their own
height's path when they succeed and leave it alone when they fail, a height's path exists exactly
when the height was in the list and its task succeeds, or the path existed before. -/
theorem pathExists_runPool_of_ok (hgrow : ∀ (fs : Fs) (bn : Int), fs.Grows (task fs bn).1)
    (hframe : ∀ (fs : Fs) (bn h : Int), h ≠ bn → (task fs bn).1.lookup (path h) = fs.lookup (path h))
    (hw : ∀ fs bn, p bn = true → ((task fs bn).1.lookup (path bn)).isSome)
    (hfail : ∀ fs bn, p bn = false → (task fs bn).1.lookup (path bn) = fs.lookup (path bn))
    (fs : Fs) (heights : List Int) (h : Int) :
    (runPool task fs heights).1.pathExists (path h) =
      (decide (h ∈ heights) && p h || fs.pathExists (path h)) := by
  by_cases hh : h ∈ heights ∧ p h = true
  · rw [decide_eq_true hh.1, hh.2, Bool.true_and, Bool.true_or]
    exact foldl_poolStep_lookup_of_mem hgrow (fun fs => hw fs h hh.2) (fs, 0, 0) hh.1
  · have hoff : (decide (h ∈ heights) && p h) = false := by
      by_cases hm : h ∈ heights <;> simp_all
    rw [hoff, Bool.false_or, Fs.pathExists_eq, Fs.pathExists_eq,
      runPool_lookup_of_forall (fun fs bn hbn => ?_) fs]
    by_cases he : h = bn
    · subst he; exact hfail fs h (by simpa [hbn] using hh)
    · exact hframe fs bn h he

end Pool

/-! ### One download -/

theorem s3Fetch_lookup_of_ne (s3 : S3) (disk : Disk) (fs : Fs) (key : List String)
    {dest q : Path} (hd : dest ≠ []) (hq : q ≠ dest) (hlen : dest.length ≤ q.length) :
    (s3Fetch s3 disk fs key dest).1.lookup q = fs.lookup q := by
  unfold s3Fetch
  split
  · rfl
  · exact writeFile_lookup_other _ _ hd hq hlen _

theorem s3Fetch_healthy {s3 : S3} {key : List String} (hs : (s3 key).isSome) (fs : Fs)
    {dest : Path} (hd : dest ≠ []) : ((s3Fetch s3 Disk.healthy fs key dest).1.lookup dest).isSome := by
  obtain ⟨data, hdata⟩ := Option.isSome_iff_exists.1 hs
  rw [(s3Fetch_write hdata Disk.healthy fs hd).1]
  rfl

theorem s3Fetch_healthy_ok (s3 : S3) (fs : Fs) (key : List String) (dest : Path) :
    (s3Fetch s3 Disk.healthy fs key dest).2 = (s3 key).isSome := by
  unfold s3Fetch
  split <;> simp_all [writeFile_ok, Disk.healthy]

theorem s3Fetch_of_none {s3 : S3} {key : List String} (hs : s3 key = none) (disk : Disk) (fs : Fs)
    (dest : Path) : s3Fetch s3 disk fs key dest = (fs, false) := by
  simp [s3Fetch, hs]

/-! ### `check_block_completeness --fix` -/

namespace CheckBlockCompleteness

theorem downloadOne_grows (s3 : S3) (disk : Disk) (root : Path) (fs : Fs) (bn : Int) :
    fs.Grows (downloadOne s3 disk root fs bn).1 :=
  .s3Fetch _ _ _ _ _

theorem downloadOne_lookup_of_ne (s3 : S3) (disk : Disk) (root : Path) (fs : Fs) (bn h : Int)
    (hne : h ≠ bn) :
    (downloadOne s3 disk root fs bn).1.lookup (cachePath root h) = fs.lookup (cachePath root h) :=
  s3Fetch_lookup_of_ne _ _ _ _ (cachePath_ne_nil root bn) (fun e => hne (shardPath_injective e))
    (by simp [cachePath, shardPath])

theorem pathExists_fixPool (store : String → S3) (fs : Fs) (blocksDir : Path) (chain : Chain)
    (allMissing : List Int) (h : Int) :
    (runPool (downloadOne (store (bucketName chain)) Disk.healthy blocksDir) fs
        (allMissing.filter fun bn => bn ≥ s3Start chain)).1.pathExists (cachePath blocksDir h) =
      (decide (h ∈ allMissing ∧ s3Start chain ≤ h) &&
          (store (bucketName chain) (downloadKey h)).isSome ||
        fs.pathExists (cachePath blocksDir h)) := by
  rw [pathExists_runPool_of_ok (p := fun bn => (store (bucketName chain) (downloadKey bn)).isSome)
    (downloadOne_grows _ _ _) (downloadOne_lookup_of_ne _ _ _)
    (fun fs bn hs => s3Fetch_healthy hs fs (cachePath_ne_nil blocksDir bn))
    fun fs bn hs => by
      rw [downloadOne, s3Fetch_of_none (Option.not_isSome_iff_eq_none.1 (by simpa using hs))]]
  simp

/-- A `--fix` run with a positive worker count, on a disk that completes every write, from any
bucket, returns the status of its first scan; a second scan of the same range finds missing
exactly the heights the first found missing that lie below the chain's first S3 height or whose
key the bucket lacks; and `download_blocks` counts as downloaded the fixable heights whose key the
bucket holds and as failed the others. -/
theorem fix_leaves_missing_what_bucket_lacks (store : String → S3) (fs : Fs) (blocksDir : Path)
    (args : Args) {latest : Int} (hfix : args.fix = true) (hw : 0 < args.workers)
    (hl : settleLatest fs blocksDir args = .ok latest) :
    ∃ fs', main store Disk.healthy fs blocksDir args =
        .ok (exitStatus (scan fs blocksDir (args.start.getD (s3Start args.chain)) latest), fs') ∧
      (scan fs' blocksDir (args.start.getD (s3Start args.chain)) latest).allMissing =
        (scan fs blocksDir (args.start.getD (s3Start args.chain)) latest).allMissing.filter
          (fun bn => decide (bn < s3Start args.chain) ||
            !(store (bucketName args.chain) (downloadKey bn)).isSome) ∧
      (downloadBlocks (store (bucketName args.chain)) Disk.healthy blocksDir fs
          ((scan fs blocksDir (args.start.getD (s3Start args.chain)) latest).allMissing.filter
            fun bn => bn ≥ s3Start args.chain) args.workers).2 =
        .ok (((scan fs blocksDir (args.start.getD (s3Start args.chain)) latest).allMissing.filter
            fun bn => bn ≥ s3Start args.chain).countP
            fun bn => (store (bucketName args.chain) (downloadKey bn)).isSome,
          ((scan fs blocksDir (args.start.getD (s3Start args.chain)) latest).allMissing.filter
            fun bn => bn ≥ s3Start args.chain).countP
            fun bn => !(store (bucketName args.chain) (downloadKey bn)).isSome) := by
  set start := args.start.getD (s3Start args.chain)
  have hfm := fixMissing_of_pos store Disk.healthy fs blocksDir hw (scan fs blocksDir start latest).allMissing
  rw [if_pos hfix] at hfm
  set fs' := (runPool (downloadOne (store (bucketName args.chain)) Disk.healthy blocksDir) fs
    ((scan fs blocksDir start latest).allMissing.filter fun bn => bn ≥ s3Start args.chain)).1
    with hfs'
  refine ⟨fs', by rw [main, hl, ok_bind]; exact congrArg (· >>= _) hfm, ?_, ?_⟩
  · have hM := (tally_scan fs blocksDir start latest).missing
    rw [(tally_scan fs' blocksDir start latest).missing, hM, missingAmong, missingAmong,
      List.filter_filter]
    refine List.filter_congr fun h ht => ?_
    rw [hfs', pathExists_fixPool, hM]
    by_cases hs : s3Start args.chain ≤ h <;> cases hp : fs.pathExists (cachePath blocksDir h) <;>
      simp [ht, hp, hs, not_le.1, mem_missingAmong]
  · rw [downloadBlocks, threadPool_of_pos hw]
    exact congrArg Except.ok (runPool_counters (fun fs bn => s3Fetch_healthy_ok _ _ _ _) _ _)

/-- A store whose bucket lacks the key of height `2` and holds every other. -/
def storeWithout2 : String → S3 := fun _ key => if key = downloadKey 2 then none else some [7]

/-- A `--fix` run over heights `1 … 3` of mainnet with eight workers. -/
def fixArgs : Args := ⟨.mainnet, some 1, 3, true, 8⟩

theorem fix_leaves_missing_what_bucket_lacks_hole :
    fixArgs.fix = true ∧ 0 < fixArgs.workers ∧ settleLatest Fs.empty ["blocks"] fixArgs = .ok 3 ∧
    ∃ fs', main storeWithout2 Disk.healthy Fs.empty ["blocks"] fixArgs =
        .ok (exitStatus (scan Fs.empty ["blocks"] 1 3), fs') ∧
      (scan fs' ["blocks"] 1 3).allMissing = (scan Fs.empty ["blocks"] 1 3).allMissing.filter
        (fun bn => decide (bn < 1) || !(storeWithout2 (bucketName .mainnet) (downloadKey bn)).isSome) ∧
      (downloadBlocks (storeWithout2 (bucketName .mainnet)) Disk.healthy ["blocks"] Fs.empty
          ((scan Fs.empty ["blocks"] 1 3).allMissing.filter fun bn => bn ≥ 1) 8).2 =
        .ok (((scan Fs.empty ["blocks"] 1 3).allMissing.filter fun bn => bn ≥ 1).countP
            fun bn => (storeWithout2 (bucketName .mainnet) (downloadKey bn)).isSome,
          ((scan Fs.empty ["blocks"] 1 3).allMissing.filter fun bn => bn ≥ 1).countP
            fun bn => !(storeWithout2 (bucketName .mainnet) (downloadKey bn)).isSome) :=
  ⟨rfl, by decide, rfl,
    fix_leaves_missing_what_bucket_lacks storeWithout2 Fs.empty ["blocks"] fixArgs rfl (by decide) rfl⟩

end CheckBlockCompleteness

/-! ### `download_boundary_blocks` -/

namespace DownloadBoundaryBlocks

theorem downloadBlock_grows (s3 : S3) (disk : Disk) (root : Path) (fs : Fs) (bn : Int) :
    fs.Grows (downloadBlock s3 disk fs root bn).1 :=
  .s3Fetch _ _ _ _ _

theorem downloadBlock_lookup_of_ne (s3 : S3) (disk : Disk) (root : Path) (fs : Fs) (bn h : Int)
    (hne : h ≠ bn) :
    (downloadBlock s3 disk fs root bn).1.lookup (cachePath root h) = fs.lookup (cachePath root h) :=
  s3Fetch_lookup_of_ne _ _ _ _ (by simp [cachePath, shardPath])
    (fun e => hne (shardPath_injective e)) (by simp [cachePath, shardPath])

/-- A run that is not a dry run, with a positive worker count, on a disk that completes every
write, from any bucket, counts as downloaded the missing boundary heights whose key the bucket
holds and as failed the others, and a second scan of the range finds missing exactly those whose
key the bucket lacks. -/
theorem main_counts_and_leaves_absent_keys (store : String → S3) (fs : Fs) (blocksDir : Path)
    (args : Args) (hdry : args.dryRun = false) (hw : 0 < args.workers) :
    (main store Disk.healthy fs blocksDir args).2 =
        .ok ((findMissingBlocks fs blocksDir (args.start.getD (defaultStart args.chain))
            (args.endBlock.getD (defaultEnd args.chain))).countP
            fun h => (store (bucketName args.chain) (s3Key h)).isSome,
          (findMissingBlocks fs blocksDir (args.start.getD (defaultStart args.chain))
            (args.endBlock.getD (defaultEnd args.chain))).countP
            fun h => !(store (bucketName args.chain) (s3Key h)).isSome) ∧
      findMissingBlocks (main store Disk.healthy fs blocksDir args).1 blocksDir
          (args.start.getD (defaultStart args.chain)) (args.endBlock.getD (defaultEnd args.chain)) =
        (findMissingBlocks fs blocksDir (args.start.getD (defaultStart args.chain))
          (args.endBlock.getD (defaultEnd args.chain))).filter
          fun h => !(store (bucketName args.chain) (s3Key h)).isSome := by
  simp only [main, hdry, Bool.false_or]
  split_ifs with he
  · simp [List.isEmpty_iff.1 he]
  · rw [threadPool_of_pos hw]
    refine ⟨congrArg Except.ok (runPool_counters (fun fs bn => s3Fetch_healthy_ok _ _ _ _) _ _), ?_⟩
    rw [findMissingBlocks, findMissingBlocks, missingAmong, missingAmong, List.filter_filter]
    refine List.filter_congr fun h hh => ?_
    rw [pathExists_runPool_of_ok (p := fun h => (store (bucketName args.chain) (s3Key h)).isSome)
      (fun fs bn => downloadBlock_grows _ _ _ fs bn) (downloadBlock_lookup_of_ne _ _ _)
      (fun fs bn hs => s3Fetch_healthy hs fs (by simp [cachePath, shardPath]))
      fun fs bn hs => by
        rw [downloadBlock, s3Fetch_of_none (Option.not_isSome_iff_eq_none.1 (by simpa using hs))]]
    cases hp : fs.pathExists (cachePath blocksDir h) <;>
      simp [findMissingBlocks, mem_missingAmong, hh, hp]

/-- A store whose bucket lacks the key of height `2000` and holds every other. -/
def storeWithout2000 : String → S3 := fun _ key => if key = s3Key 2000 then none else some [7]

/-- A run over the testnet boundary heights `1000 … 3000` with eight workers. -/
def holeArgs : Args := ⟨.testnet, some 1000, some 3000, 8, false⟩

theorem main_counts_and_leaves_absent_keys_hole :
    holeArgs.dryRun = false ∧ 0 < holeArgs.workers ∧
    (main storeWithout2000 Disk.healthy Fs.empty ["blocks"] holeArgs).2 =
        .ok ((findMissingBlocks Fs.empty ["blocks"] 1000 3000).countP
            fun h => (storeWithout2000 (bucketName .testnet) (s3Key h)).isSome,
          (findMissingBlocks Fs.empty ["blocks"] 1000 3000).countP
            fun h => !(storeWithout2000 (bucketName .testnet) (s3Key h)).isSome) ∧
      findMissingBlocks (main storeWithout2000 Disk.healthy Fs.empty ["blocks"] holeArgs).1
          ["blocks"] 1000 3000 =
        (findMissingBlocks Fs.empty ["blocks"] 1000 3000).filter
          fun h => !(storeWithout2000 (bucketName .testnet) (s3Key h)).isSome :=
  ⟨rfl, by decide,
    main_counts_and_leaves_absent_keys storeWithout2000 Fs.empty ["blocks"] holeArgs rfl (by decide)⟩

end DownloadBoundaryBlocks

end BlockCache

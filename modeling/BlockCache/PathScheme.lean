import BlockCache.Decimal

/-!
# The path scheme, as each script writes it

The three scripts address a height `h` by its millions and thousands directories with
`(h - 1)`-bucketing: `((h - 1) // 1_000_000) * 1_000_000` and `((h - 1) // 1_000) * 1_000`.
Only `check_block_completeness.expected_dir` special-cases `h = 0` (to `(0, 0)`); the other four
formulas send `0` to `(-1000000, -1000)`, since Python's `//` rounds toward `-∞`.

Every formula is `bucket` at its own widths, so the five path and key functions agree at every
`h ≠ 0` (`paths_agree_of_ne_zero`) and split at the genesis height (`paths_at_genesis`). An S3
object key `"a/b/c"` is kept as its parts `[a, b, c]`, so that a key with the cache root in front
is a path.
-/

namespace BlockCache

/-- The `(h - 1)`-bucketed directory of width `size`: `((h - 1) // size) * size`. -/
def bucket (size : Int) (h : Int) : Int := (h - 1).fdiv size * size

/-- The file name of a block, `f"{block_number}.rmp.lz4"`. -/
def fileName (blockNumber : Int) : String := toString blockNumber ++ ".rmp.lz4"

/-- The path `root/M/T/h.rmp.lz4` of the spec's `ShardKey` `(M, T)`. -/
def shardPath (root : Path) (m t h : Int) : Path := root ++ [toString m, toString t, fileName h]

theorem bucket_eq_ediv (size h : Int) (hs : 0 ≤ size) : bucket size h = (h - 1) / size * size := by
  rw [bucket, Int.fdiv_eq_ediv _ hs]

namespace CheckBlockCompleteness

/-- `expected_dir`: the `(millions, thousands)` directory of a block. -/
def expectedDir (blockNumber : Int) : Int × Int :=
  if blockNumber = 0 then (0, 0) else (bucket 1000000 blockNumber, bucket 1000 blockNumber)

/-- `cache_path`. -/
def cachePath (blocksDir : Path) (blockNumber : Int) : Path :=
  shardPath blocksDir (expectedDir blockNumber).1 (expectedDir blockNumber).2 blockNumber

/-- The key `download_blocks.download_one` asks S3 for, `f"{m}/{t}/{bn}.rmp.lz4"`. -/
def downloadKey (bn : Int) : List String :=
  [toString (expectedDir bn).1, toString (expectedDir bn).2, fileName bn]

theorem expectedDir_of_ne_zero {h : Int} (h0 : h ≠ 0) :
    expectedDir h = (bucket 1000000 h, bucket 1000 h) := if_neg h0

end CheckBlockCompleteness

namespace DownloadBoundaryBlocks

/-- `s3_key`. -/
def s3Key (blockNumber : Int) : List String :=
  [toString (bucket 1000000 blockNumber), toString (bucket 1000 blockNumber), fileName blockNumber]

/-- `cache_path`: the local path matching the S3 key layout. -/
def cachePath (blocksDir : Path) (blockNumber : Int) : Path :=
  shardPath blocksDir (bucket 1000000 blockNumber) (bucket 1000 blockNumber) blockNumber

theorem cachePath_eq_s3Key (blocksDir : Path) (blockNumber : Int) :
    cachePath blocksDir blockNumber = blocksDir ++ s3Key blockNumber := rfl

end DownloadBoundaryBlocks

namespace FetchBlocksRpc

/-- `block_path`. -/
def blockPath (blocksDir : Path) (blockNum : Int) : Path :=
  shardPath blocksDir (bucket 1000000 blockNum) (bucket 1000 blockNum) blockNum

end FetchBlocksRpc

open CheckBlockCompleteness DownloadBoundaryBlocks FetchBlocksRpc

/-- The five formulas at a height `h ≠ 0`: each is `root/M/T/h.rmp.lz4` with `(M, T)` the
`(h - 1)`-buckets. -/
theorem paths_agree_of_ne_zero (root : Path) {h : Int} (h0 : h ≠ 0) :
    CheckBlockCompleteness.cachePath root h = shardPath root (bucket 1000000 h) (bucket 1000 h) h ∧
    root ++ downloadKey h = shardPath root (bucket 1000000 h) (bucket 1000 h) h ∧
    DownloadBoundaryBlocks.cachePath root h = shardPath root (bucket 1000000 h) (bucket 1000 h) h ∧
    root ++ s3Key h = shardPath root (bucket 1000000 h) (bucket 1000 h) h ∧
    blockPath root h = shardPath root (bucket 1000000 h) (bucket 1000 h) h := by
  simp [CheckBlockCompleteness.cachePath, downloadKey, expectedDir_of_ne_zero h0, shardPath,
    DownloadBoundaryBlocks.cachePath, s3Key, blockPath]

/-- At the genesis height the formulas split: `cache_path` and `download_one`'s key put block `0`
under `0/0`, as `expected_dir` special-cases it; `download_boundary_blocks.cache_path`, `s3_key`
and `block_path` put it under the buckets `(-1000000, -1000)`. -/
theorem paths_at_genesis (root : Path) :
    CheckBlockCompleteness.cachePath root 0 = root ++ ["0", "0", "0.rmp.lz4"] ∧
    root ++ downloadKey 0 = root ++ ["0", "0", "0.rmp.lz4"] ∧
    DownloadBoundaryBlocks.cachePath root 0 = root ++ ["-1000000", "-1000", "0.rmp.lz4"] ∧
    root ++ s3Key 0 = root ++ ["-1000000", "-1000", "0.rmp.lz4"] ∧
    blockPath root 0 = root ++ ["-1000000", "-1000", "0.rmp.lz4"] := by
  have hkey : s3Key 0 = ["-1000000", "-1000", "0.rmp.lz4"] := by decide
  refine ⟨rfl, rfl, ?_, ?_, ?_⟩ <;> rw [← hkey] <;> rfl

theorem shardPath_injective {root : Path} {m t h m' t' h' : Int}
    (he : shardPath root m t h = shardPath root m' t' h') : h = h' := by
  simp only [shardPath, List.append_cancel_left_eq, List.cons.injEq, and_true] at he
  have hname := congrArg String.data he.2.2
  simp only [fileName, String.data_append, List.append_cancel_right_eq] at hname
  exact toString_injective (String.ext hname)

end BlockCache

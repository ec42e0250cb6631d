import BlockCache.Fs
import BlockCache.PathScheme

/-!
# Downloading from the bulk store

`check_block_completeness.download_blocks.download_one` and
`download_boundary_blocks.download_block` are one body, `s3Fetch`, at their own key and
destination: get the object, make the parent directory, write the bytes; any exception turns
into a `False` result. Both scripts submit one task per height to a thread pool and count
successes and failures as results arrive (`runPool`). The tasks write disjoint paths and the
counters only add, so the pool is run here one task after another, in submission order.
`ThreadPoolExecutor(max_workers=workers)` raises `ValueError` for a worker count of `0` or less
before any task is submitted (`threadPool`).
-/

namespace BlockCache

/-- The bulk store's objects by key; `none` when `get_object` or the body's `read` raises. -/
abbrev S3 := List String → Option Bytes

/-- One download task: fetch `key`, write it at `dest`; `true` when the write completed. -/
def s3Fetch (s3 : S3) (disk : Disk) (fs : Fs) (key : List String) (dest : Path) : Fs × Bool :=
  match s3 key with
  | none => (fs, false)
  | some data => writeFile (disk dest) fs dest data

/-- One result reaching the pool's coordinator: the task's effect and a counter bumped. -/
def poolStep (task : Fs → Int → Fs × Bool) (acc : Fs × Nat × Nat) (bn : Int) : Fs × Nat × Nat :=
  match task acc.1 bn with
  | (fs, true) => (fs, acc.2.1 + 1, acc.2.2)
  | (fs, false) => (fs, acc.2.1, acc.2.2 + 1)

/-- A pool of per-height tasks and its `(downloaded, failed)` counters. -/
def runPool (task : Fs → Int → Fs × Bool) (fs : Fs) (heights : List Int) : Fs × Nat × Nat :=
  heights.foldl (poolStep task) (fs, 0, 0)

theorem poolStep_fst (task : Fs → Int → Fs × Bool) (acc : Fs × Nat × Nat) (bn : Int) :
    (poolStep task acc bn).1 = (task acc.1 bn).1 := by
  unfold poolStep; split <;> rename_i h <;> rw [h]

/-- `with ThreadPoolExecutor(max_workers=workers)` around the tasks: the file system afterwards
and the counters, or the `ValueError` of a worker count of `0` or less, raised before any task
runs. -/
def threadPool (workers : Int) (task : Fs → Int → Fs × Bool) (fs : Fs) (heights : List Int) :
    Fs × Except PyExc (Nat × Nat) :=
  if workers ≤ 0 then (fs, .error .valueError)
  else ((runPool task fs heights).1, .ok (runPool task fs heights).2)

theorem threadPool_fst (workers : Int) (task : Fs → Int → Fs × Bool) (fs : Fs)
    (heights : List Int) :
    (threadPool workers task fs heights).1 = if workers ≤ 0 then fs else (runPool task fs heights).1 := by
  unfold threadPool; split <;> rfl

theorem threadPool_of_pos {workers : Int} (hw : 0 < workers) (task : Fs → Int → Fs × Bool)
    (fs : Fs) (heights : List Int) :
    threadPool workers task fs heights =
      ((runPool task fs heights).1, .ok (runPool task fs heights).2) :=
  if_neg (not_le.2 hw)

namespace CheckBlockCompleteness

/-- `download_blocks.download_one`. -/
def downloadOne (s3 : S3) (disk : Disk) (blocksDir : Path) (fs : Fs) (bn : Int) : Fs × Bool :=
  s3Fetch s3 disk fs (downloadKey bn) (cachePath blocksDir bn)

/-- `download_blocks`: the file system afterwards and `(downloaded, failed)`. -/
def downloadBlocks (s3 : S3) (disk : Disk) (blocksDir : Path) (fs : Fs) (missing : List Int)
    (workers : Int) : Fs × Except PyExc (Nat × Nat) :=
  threadPool workers (downloadOne s3 disk blocksDir) fs missing

end CheckBlockCompleteness

namespace DownloadBoundaryBlocks

/-- `download_block` (its message, only printed, is left out). -/
def downloadBlock (s3 : S3) (disk : Disk) (fs : Fs) (blocksDir : Path) (blockNumber : Int) :
    Fs × Bool :=
  s3Fetch s3 disk fs (s3Key blockNumber) (cachePath blocksDir blockNumber)

end DownloadBoundaryBlocks

end BlockCache

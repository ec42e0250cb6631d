import BlockCache.Completeness
import BlockCache.Boundary
import BlockCache.FetchLoop

/-! # What a failed write leaves behind

Every fetcher writes a height's file by opening its final path for writing and then writing the
bytes: `fetch_and_write_batch` with `open(path, "wb")`, `download_one` and `download_block` with
`Path.write_bytes`. The open creates (or truncates) the file before any byte is written, so a
write that fails after it (an exception from `write`, or the run stopping) leaves an entry at
the path holding the bytes written so far, possibly none. The fetcher counts that height as an
error or a failure. The scanners (`check_chunk` and both `find_missing_blocks`) only test whether
the path exists, so they count it as present.
-/

namespace BlockCache

open CheckBlockCompleteness DownloadBoundaryBlocks FetchBlocksRpc

theorem cachePath_ne_nil (root : Path) (h : Int) :
    CheckBlockCompleteness.cachePath root h ≠ [] := by
  simp [CheckBlockCompleteness.cachePath, shardPath]

theorem s3Fetch_write {s3 : S3} {key : List String} {data : Bytes} (hs : s3 key = some data)
    (disk : Disk) (fs : Fs) {dest : Path} (hd : dest ≠ []) :
    (s3Fetch s3 disk fs key dest).1.lookup dest = (disk dest).leaves (fs.lookup dest) data ∧
    (s3Fetch s3 disk fs key dest).2 = (disk dest == .complete) := by
  simp only [s3Fetch, hs]
  exact ⟨writeFile_lookup_self _ _ hd _, writeFile_ok _ _ _ _⟩

/-- Each fetcher's write of `h`: what it leaves at `h`'s path and whether the fetcher counts it
as written, for each way the disk ends it (`WriteFault.leaves`: the bytes when it completes, the
path as it was when it fails before the open, the bytes written so far when it fails after).
Each scanner counts `h` as missing exactly when its path holds nothing. -/
theorem fetcher_writes_and_scans (root : Path) (fs : Fs) (h : Int) (data : Bytes) :
    (∀ (s3 : S3) (disk : Disk), s3 (downloadKey h) = some data →
      (downloadOne s3 disk root fs h).1.lookup (CheckBlockCompleteness.cachePath root h) =
        (disk (CheckBlockCompleteness.cachePath root h)).leaves
          (fs.lookup (CheckBlockCompleteness.cachePath root h)) data ∧
      (downloadOne s3 disk root fs h).2 =
        (disk (CheckBlockCompleteness.cachePath root h) == .complete)) ∧
    (∀ (s3 : S3) (disk : Disk), s3 (s3Key h) = some data →
      (downloadBlock s3 disk fs root h).1.lookup (DownloadBoundaryBlocks.cachePath root h) =
        (disk (DownloadBoundaryBlocks.cachePath root h)).leaves
          (fs.lookup (DownloadBoundaryBlocks.cachePath root h)) data ∧
      (downloadBlock s3 disk fs root h).2 =
        (disk (DownloadBoundaryBlocks.cachePath root h) == .complete)) ∧
    (∀ (codec : Codec) (disk : Disk) (blockData receiptsData : Json) (packed : Bytes),
      (rpcToNanoreth blockData receiptsData >>= codec.packb) = .ok packed →
      codec.compress packed = data →
      (writeBlock codec disk root fs h blockData receiptsData).1.lookup (blockPath root h) =
        (disk (blockPath root h)).leaves (fs.lookup (blockPath root h)) data ∧
      (writeBlock codec disk root fs h blockData receiptsData).2 =
        (disk (blockPath root h) == .complete)) ∧
    (∀ (fs' : Fs) (thousandsBase : Int) (expected : List Int), h ∈ expected →
      (h ∈ checkChunk fs' root thousandsBase expected ↔
        fs'.lookup (CheckBlockCompleteness.cachePath root h) = none)) ∧
    (∀ (fs' : Fs) (start «end» : Int),
      h ∈ DownloadBoundaryBlocks.findMissingBlocks fs' root start «end» ↔
        h ∈ pyRange start («end» + 1) 1000 ∧
          fs'.lookup (DownloadBoundaryBlocks.cachePath root h) = none) ∧
    (∀ (fs' : Fs) (start «end» : Int),
      h ∈ FetchBlocksRpc.findMissingBlocks fs' root start «end» ↔
        h ∈ pyRange start («end» + 1) 1 ∧ fs'.lookup (blockPath root h) = none) := by
  refine ⟨fun s3 disk hs => s3Fetch_write hs disk fs (cachePath_ne_nil root h),
    fun s3 disk hs =>
      s3Fetch_write hs disk fs (by simp [DownloadBoundaryBlocks.cachePath, shardPath]),
    fun codec disk blockData receiptsData packed hp hc => ?_, fun fs' _ expected he => ?_,
    fun fs' start «end» => ?_, fun fs' start «end» => ?_⟩
  · simp only [writeBlock, hp, ← hc]
    exact ⟨writeFile_lookup_self _ _ (blockPath_ne_nil root h) _, writeFile_ok _ _ _ _⟩
  all_goals simp [checkChunk, DownloadBoundaryBlocks.findMissingBlocks,
    FetchBlocksRpc.findMissingBlocks, mem_missingAmong, Fs.pathExists, Option.isSome_iff_ne_none, *]

theorem fetcher_writes_and_scans_partial :
    (downloadOne (fun _ => some [1, 2, 3]) (fun _ => .afterOpen 1) ["blocks"] Fs.empty 1).1.lookup
        (CheckBlockCompleteness.cachePath ["blocks"] 1) =
      (WriteFault.afterOpen 1).leaves none [1, 2, 3] ∧
    (1 ∈ checkChunk Fs.empty ["blocks"] 0 [1] ↔
      Fs.empty.lookup (CheckBlockCompleteness.cachePath ["blocks"] 1) = none) :=
  ⟨((fetcher_writes_and_scans ["blocks"] Fs.empty 1 [1, 2, 3]).1 _ _ rfl).1,
    (fetcher_writes_and_scans ["blocks"] Fs.empty 1 [1, 2, 3]).2.2.2.1 Fs.empty 0 [1] (by simp)⟩

/-- Height 1, downloaded into an empty cache by a write that stops right after the open: the
task reports failure, the path holds an empty file, and `check_chunk` does not report 1 as
missing. -/
theorem downloadOne_stopped_after_open :
    (downloadOne (fun _ => some [1, 2, 3]) (fun _ => .afterOpen 0) ["blocks"] Fs.empty 1).2 =
      false ∧
    (downloadOne (fun _ => some [1, 2, 3]) (fun _ => .afterOpen 0) ["blocks"] Fs.empty 1).1.lookup
      (CheckBlockCompleteness.cachePath ["blocks"] 1) = some (.file []) ∧
    checkChunk (downloadOne (fun _ => some [1, 2, 3]) (fun _ => .afterOpen 0) ["blocks"]
      Fs.empty 1).1 ["blocks"] 0 [1] = [] :=
  ⟨rfl, by decide, by decide⟩

end BlockCache

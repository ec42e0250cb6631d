import BlockCache.Download

/-!
# Boundary blocks (`download_boundary_blocks`)

The script exists to fetch the blocks at multiples of 1000 that an earlier path formula had
missed. `find_missing_blocks` strides `range(start, end + 1, 1000)` from `start`, so it visits
multiples of 1000 only when `start` is one (`findMissingBlocks_eq`). The mainnet profile's
default start is `1`: there it visits `1, 1001, 2001, …` and never a boundary block
(`findMissingBlocks_mainnet_default`).
-/

namespace BlockCache
namespace DownloadBoundaryBlocks

/-- `CHAIN_CONFIG[chain]["default_start"]`. -/
def defaultStart : Chain → Int
  | .testnet => 18000000
  | .mainnet => 1

/-- `CHAIN_CONFIG[chain]["default_end"]`. -/
def defaultEnd : Chain → Int
  | .testnet => 46000000
  | .mainnet => 28000000

/-- `CHAIN_CONFIG[chain]["bucket"]`. -/
def bucketName : Chain → String
  | .testnet => "hl-testnet-evm-blocks"
  | .mainnet => "hl-mainnet-evm-blocks"

/-- `find_missing_blocks`. -/
def findMissingBlocks (fs : Fs) (blocksDir : Path) (start «end» : Int) : List Int :=
  missingAmong (cachePath blocksDir) fs (pyRange start («end» + 1) 1000)

/-- The arguments `main` reads. -/
structure Args where
  chain : Chain
  start : Option Int
  endBlock : Option Int
  workers : Int
  dryRun : Bool

/-- `main`: the missing boundary blocks, then (unless `--dry-run`) one download task each.
Returns the file system afterwards, and `(downloaded, failed)` or the exception it raised. -/
def main (store : String → S3) (disk : Disk) (fs : Fs) (blocksDir : Path) (args : Args) :
    Fs × Except PyExc (Nat × Nat) :=
  let start := args.start.getD (defaultStart args.chain)
  let «end» := args.endBlock.getD (defaultEnd args.chain)
  let missing := findMissingBlocks fs blocksDir start «end»
  if args.dryRun || missing.isEmpty then (fs, .ok (0, 0))
  else threadPool args.workers
    (fun fs h => downloadBlock (store (bucketName args.chain)) disk fs blocksDir h) fs missing

theorem findMissingBlocks_eq (fs : Fs) (blocksDir : Path) (start «end» : Int) :
    findMissingBlocks fs blocksDir start «end» =
      missingAmong (cachePath blocksDir) fs
        ((List.range ((«end» - start + 1000) / 1000).toNat).map fun k : Nat => start + 1000 * k) := by
  simp only [findMissingBlocks, pyRange, Nat.cast_ofNat]
  congr 3
  omega

theorem mem_findMissingBlocks {fs : Fs} {blocksDir : Path} {start «end» h : Int} :
    h ∈ findMissingBlocks fs blocksDir start «end» ↔
      (∃ k : Nat, h = start + 1000 * k ∧ h ≤ «end») ∧ fs.pathExists (cachePath blocksDir h) = false := by
  rw [findMissingBlocks_eq, mem_missingAmong, List.mem_map]
  simp only [List.mem_range]
  constructor
  · rintro ⟨⟨k, hk, rfl⟩, hp⟩; exact ⟨⟨k, rfl, by omega⟩, hp⟩
  · rintro ⟨⟨k, rfl, hk⟩, hp⟩; exact ⟨⟨k, by omega, rfl⟩, hp⟩

/-- With the mainnet defaults on an empty cache, the scan lists height `1` and not the boundary
block `1000`. -/
theorem findMissingBlocks_mainnet_default :
    1 ∈ findMissingBlocks Fs.empty ["blocks"] (defaultStart .mainnet) (defaultEnd .mainnet) ∧
    1000 ∉ findMissingBlocks Fs.empty ["blocks"] (defaultStart .mainnet) (defaultEnd .mainnet) := by
  simp only [mem_findMissingBlocks, defaultStart, defaultEnd]
  refine ⟨⟨⟨0, by norm_num, by norm_num⟩, rfl⟩, fun ⟨⟨k, hk, _⟩, _⟩ => by omega⟩

end DownloadBoundaryBlocks
end BlockCache

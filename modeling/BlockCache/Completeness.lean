import BlockCache.Download
import BlockCache.Latest

/-!
# Scanning the cache for gaps (`check_block_completeness.main`)

`main` walks the millions directories from the one holding `start` to the one holding `latest`,
inside each the thousands directories, and tests the heights `blocks_in_chunk` lists for each.
The walk has directory granularity: its first directory is the one holding `start`, so that
directory's heights below `start` are tested too. The heights tested are exactly
`c + 1, …, latest` with `c = ((max(start, 1) - 1) // 1000) * 1000`, each once and in ascending
order (`testedHeights_eq`).

`Tally` says what the accumulators (`total_expected`, `total_missing`, `all_missing`,
`incomplete_chunks`) hold after any prefix of the walk; `Tally.scanChunk` is its one step.
-/

namespace BlockCache
namespace CheckBlockCompleteness

/-- `CHAIN_CONFIG[chain]["s3_start"]`. -/
def s3Start : Chain → Int
  | .testnet => 18000000
  | .mainnet => 1

/-- `CHAIN_CONFIG[chain]["bucket"]`. -/
def bucketName : Chain → String
  | .testnet => "hl-testnet-evm-blocks"
  | .mainnet => "hl-mainnet-evm-blocks"

/-- `blocks_in_chunk`: the heights `T+1 … T+1000` up to `latest` whose directory is
`(M, T)`. -/
def blocksInChunk (thousandsBase millionsBase latest : Int) : List Int :=
  ((pyRange (thousandsBase + 1) (thousandsBase + 1001) 1).takeWhile
      fun bn => !decide (bn > latest)).filter
    fun bn => expectedDir bn == (millionsBase, thousandsBase)

/-- `check_chunk` (its `thousands_base` is unused, as in the source). -/
def checkChunk (fs : Fs) (blocksDir : Path) (_thousandsBase : Int) (expectedBlocks : List Int) :
    List Int :=
  missingAmong (cachePath blocksDir) fs expectedBlocks

/-- The accumulators of `main`'s scan. -/
structure ScanState where
  totalExpected : Nat
  totalMissing : Nat
  allMissing : List Int
  incompleteChunks : List (Int × Int × Nat × Nat)
  deriving Repr

/-- The accumulators before the scan. -/
def ScanState.init : ScanState := ⟨0, 0, [], []⟩

/-- The body of `main`'s inner loop at `(millions_base, thousands_base)`. -/
def scanChunk (fs : Fs) (blocksDir : Path) (latest : Int) (s : ScanState)
    (millionsBase thousandsBase : Int) : ScanState :=
  let expected := blocksInChunk thousandsBase millionsBase latest
  if expected.isEmpty then s
  else
    let missing := checkChunk fs blocksDir thousandsBase expected
    if missing.isEmpty then { s with totalExpected := s.totalExpected + expected.length }
    else
      { totalExpected := s.totalExpected + expected.length
        totalMissing := s.totalMissing + missing.length
        allMissing := s.allMissing ++ missing
        incompleteChunks := s.incompleteChunks ++
          [(millionsBase, thousandsBase, missing.length, expected.length)] }

/-- `millions_start`. -/
def millionsStart (start : Int) : Int := if start > 0 then bucket 1000000 start else 0

/-- `millions_end`. -/
def millionsEnd (latest : Int) : Int := if latest > 0 then bucket 1000000 latest else 0

/-- `t_start` inside the millions directory `millions_base`. -/
def thousandsStart (start millionsBase : Int) : Int :=
  if start > 0 then max (bucket 1000 start) millionsBase else millionsBase

/-- `t_end` inside the millions directory `millions_base`. -/
def thousandsEnd (latest millionsBase : Int) : Int :=
  min (millionsBase + 999000) (bucket 1000 latest)

/-- The outer loop's `millions_base` values. -/
def millionsBases (start latest : Int) : List Int :=
  pyRange (millionsStart start) (millionsEnd latest + 1) 1000000

/-- The inner loop's `thousands_base` values under `millions_base`. -/
def thousandsBases (start latest millionsBase : Int) : List Int :=
  pyRange (thousandsStart start millionsBase) (thousandsEnd latest millionsBase + 1) 1000

/-- `main`'s two scanning loops. -/
def scan (fs : Fs) (blocksDir : Path) (start latest : Int) : ScanState :=
  (millionsBases start latest).foldl (fun s mb =>
    (thousandsBases start latest mb).foldl (fun s tb => scanChunk fs blocksDir latest s mb tb) s)
    ScanState.init

/-- The heights the scan tests: `blocks_in_chunk` along the two loops. -/
def testedHeights (start latest : Int) : List Int :=
  (millionsBases start latest).flatMap fun mb =>
    (thousandsBases start latest mb).flatMap fun tb => blocksInChunk tb mb latest

/-- `main`'s return value: `1` when a height is missing. -/
def exitStatus (s : ScanState) : Nat := if s.totalMissing > 0 then 1 else 0

/-- The arguments `main` reads (`--verbose` only prints). -/
structure Args where
  chain : Chain
  start : Option Int
  /-- `--end`; `0` means "detect". -/
  endBlock : Int
  fix : Bool
  workers : Int

/-- `latest = args.end if args.end > 0 else find_latest_local_block(blocks_dir)`. -/
def settleLatest (fs : Fs) (blocksDir : Path) (args : Args) : Except PyExc Int :=
  if args.endBlock > 0 then pure args.endBlock else findLatestLocalBlock fs blocksDir

/-- The `--fix` step: download the missing heights at or above the chain's first S3 height. -/
def fixMissing (store : String → S3) (disk : Disk) (fs : Fs) (blocksDir : Path) (args : Args)
    (allMissing : List Int) : Except PyExc Fs :=
  if args.fix && !allMissing.isEmpty then
    let fixable := allMissing.filter fun bn => bn ≥ s3Start args.chain
    if fixable.isEmpty then pure fs
    else
      match downloadBlocks (store (bucketName args.chain)) disk blocksDir fs fixable args.workers with
      | (fs', .ok _) => pure fs'
      | (_, .error e) => throw e
  else pure fs

/-- `main`: the scan, then with `--fix` the download of the missing heights at or above the
chain's first S3 height. Returns the exit status and the file system afterwards. -/
def main (store : String → S3) (disk : Disk) (fs : Fs) (blocksDir : Path) (args : Args) :
    Except PyExc (Nat × Fs) := do
  let start := args.start.getD (s3Start args.chain)
  let latest ← settleLatest fs blocksDir args
  let s := scan fs blocksDir start latest
  let fs' ← fixMissing store disk fs blocksDir args s.allMissing
  pure (exitStatus s, fs')

/-- What the accumulators hold once the scan has tested `tested`. -/
structure Tally (fs : Fs) (blocksDir : Path) (tested : List Int) (s : ScanState) : Prop where
  expected : s.totalExpected = tested.length
  missing : s.allMissing = missingAmong (cachePath blocksDir) fs tested
  count : s.totalMissing = s.allMissing.length
  chunks : s.totalMissing = (s.incompleteChunks.map fun c => c.2.2.1).sum

namespace Tally
variable {fs : Fs} {blocksDir : Path} {tested : List Int} {s : ScanState}

theorem init : Tally fs blocksDir [] ScanState.init := ⟨rfl, rfl, rfl, rfl⟩

theorem scanChunk (h : Tally fs blocksDir tested s) (latest mb tb : Int) :
    Tally fs blocksDir (tested ++ blocksInChunk tb mb latest)
      (CheckBlockCompleteness.scanChunk fs blocksDir latest s mb tb) := by
  have hmiss : missingAmong (cachePath blocksDir) fs (tested ++ blocksInChunk tb mb latest) =
      s.allMissing ++ checkChunk fs blocksDir tb (blocksInChunk tb mb latest) := by
    rw [h.missing, missingAmong, List.filter_append]; rfl
  dsimp only [CheckBlockCompleteness.scanChunk]
  split_ifs with he hm
  · rw [List.isEmpty_iff.1 he, List.append_nil]; exact h
  · refine ⟨by simp [h.expected], ?_, h.count, h.chunks⟩
    rw [hmiss, List.isEmpty_iff.1 hm, List.append_nil]
  · refine ⟨by simp [h.expected], hmiss.symm, by simp [h.count], ?_⟩
    simp [h.chunks]

theorem inner (h : Tally fs blocksDir tested s) (latest mb : Int) (tbs : List Int) :
    Tally fs blocksDir (tested ++ tbs.flatMap fun tb => blocksInChunk tb mb latest)
      (tbs.foldl (fun s tb => CheckBlockCompleteness.scanChunk fs blocksDir latest s mb tb) s) := by
  induction tbs generalizing tested s with
  | nil => simpa using h
  | cons tb tbs ih => simpa using ih (h.scanChunk latest mb tb)

end Tally

theorem tally_scan (fs : Fs) (blocksDir : Path) (start latest : Int) :
    Tally fs blocksDir (testedHeights start latest) (scan fs blocksDir start latest) := by
  suffices ∀ (mbs : List Int) (tested : List Int) (s : ScanState), Tally fs blocksDir tested s →
      Tally fs blocksDir (tested ++ mbs.flatMap fun mb =>
          (thousandsBases start latest mb).flatMap fun tb => blocksInChunk tb mb latest)
        (mbs.foldl (fun s mb => (thousandsBases start latest mb).foldl
          (fun s tb => scanChunk fs blocksDir latest s mb tb) s) s) from
    this _ [] _ Tally.init
  intro mbs
  induction mbs with
  | nil => intro tested s h; simpa using h
  | cons mb mbs ih =>
    intro tested s h
    simpa using ih _ _ (h.inner latest mb (thousandsBases start latest mb))

/-! ### `blocks_in_chunk` -/

theorem expectedDir_eq_iff {h : Int} (M T : Int) (h0 : h ≠ 0) :
    expectedDir h = (M, T) ↔ T % 1000 = 0 ∧ M = T / 1000000 * 1000000 ∧ T < h ∧ h ≤ T + 1000 := by
  rw [expectedDir_of_ne_zero h0, bucket_eq_ediv _ _ (by norm_num), bucket_eq_ediv _ _ (by norm_num),
    Prod.mk.injEq]
  omega

theorem blocksInChunk_eq_filter (T M latest : Int) :
    blocksInChunk T M latest =
      (iocList T (min (T + 1000) latest)).filter fun bn => expectedDir bn == (M, T) := by
  rw [blocksInChunk, ← takeWhile_iocList, iocList, show T + 1000 + 1 = T + 1001 by omega]

/-- For every `T ≥ 0`, `M` and `latest`, `blocks_in_chunk(T, M, latest)` lists, strictly
ascending (so without duplicates), exactly the heights `1 ≤ h ≤ latest` whose directory is
`(M, T)`: `T+1 … min(T+1000, latest)` when `T` is aligned and `M` is its millions directory, and
nothing otherwise. -/
theorem blocksInChunk_lists_directory {T : Int} (M latest : Int) (hT : 0 ≤ T) :
    (blocksInChunk T M latest).Sorted (· < ·) ∧
      (∀ h, h ∈ blocksInChunk T M latest ↔ 1 ≤ h ∧ h ≤ latest ∧ expectedDir h = (M, T)) ∧
      blocksInChunk T M latest =
        if T % 1000 = 0 ∧ M = T / 1000000 * 1000000 then iocList T (min (T + 1000) latest)
        else [] := by
  rw [blocksInChunk_eq_filter]
  refine ⟨(iocList_pairwise_lt _ _).filter _, fun h => ?_, ?_⟩
  · simp only [List.mem_filter, mem_iocList, beq_iff_eq]
    constructor
    · rintro ⟨hw, hd⟩
      exact ⟨by omega, by omega, hd⟩
    · rintro ⟨h1, hl, hd⟩
      have := (expectedDir_eq_iff M T (by omega : h ≠ 0)).1 hd
      exact ⟨⟨by omega, by omega⟩, hd⟩
  · split_ifs with hc
    · refine List.filter_eq_self.2 fun h hh => ?_
      rw [mem_iocList] at hh
      simpa using (expectedDir_eq_iff M T (by omega)).2 ⟨hc.1, hc.2, by omega, by omega⟩
    · refine List.filter_eq_nil_iff.2 fun h hh hd => hc ?_
      rw [mem_iocList] at hh
      rw [beq_iff_eq, expectedDir_eq_iff M T (by omega)] at hd
      exact ⟨hd.1, hd.2.1⟩

theorem blocksInChunk_lists_directory_last_chunk :
    (0 : Int) ≤ 999000 ∧ ((blocksInChunk 999000 0 999500).Sorted (· < ·) ∧
      (∀ h, h ∈ blocksInChunk 999000 0 999500 ↔ 1 ≤ h ∧ h ≤ 999500 ∧ expectedDir h = (0, 999000)) ∧
      blocksInChunk 999000 0 999500 =
        if (999000 : Int) % 1000 = 0 ∧ (0 : Int) = 999000 / 1000000 * 1000000 then
          iocList 999000 (min (999000 + 1000) 999500)
        else []) :=
  ⟨by norm_num, blocksInChunk_lists_directory 0 999500 (by norm_num)⟩

theorem blocksInChunk_eq {tb mb : Int} (latest : Int) (htb : tb % 1000 = 0)
    (hmb : mb % 1000000 = 0) (hlo : mb ≤ tb) (hhi : tb ≤ mb + 999000) (h0 : 0 ≤ tb) :
    blocksInChunk tb mb latest = iocList tb (min (tb + 1000) latest) := by
  rw [blocksInChunk_eq_filter, List.filter_eq_self]
  intro bn hbn
  rw [mem_iocList] at hbn
  simpa using (expectedDir_eq_iff mb tb (by omega)).2 ⟨htb, by omega, by omega, by omega⟩

/-- The directory holding `max(start, 1)`: where the scan's first chunk starts. -/
def startChunk (start : Int) : Int := bucket 1000 (max start 1)

theorem startChunk_facts (start : Int) :
    startChunk start % 1000 = 0 ∧ millionsStart start % 1000000 = 0 ∧ 0 ≤ millionsStart start ∧
      millionsStart start ≤ startChunk start ∧ startChunk start ≤ millionsStart start + 999000 := by
  simp only [startChunk, millionsStart, bucket_eq_ediv _ _ (by norm_num : (0 : Int) ≤ 1000),
    bucket_eq_ediv _ _ (by norm_num : (0 : Int) ≤ 1000000)]
  split_ifs <;> omega

theorem thousandsStart_eq (start : Int) {mb : Int} (hmb : 0 ≤ mb) :
    thousandsStart start mb = max (startChunk start) mb := by
  unfold thousandsStart startChunk
  split_ifs with h
  · rw [max_eq_left (by omega : 1 ≤ start)]
  · rw [max_eq_right (by omega : start ≤ 1), bucket_eq_ediv _ _ (by norm_num)]
    simp [max_eq_right hmb]

theorem window_end {ts mb latest : Int} (n : Nat) (hts : ts % 1000 = 0)
    (hmb0 : mb % 1000000 = 0) (hmb : mb ≤ ts)
    (hts' : ts ≤ mb + 999000)
    (hn : n = ((min (mb + 999000) ((latest - 1) / 1000 * 1000) + 1 - ts + 1000 - 1) / 1000).toNat) :
    iocList ts (min (ts + 1000 * n) latest) = iocList ts (min (mb + 1000000) latest) := by
  rcases le_or_lt ts (min (mb + 999000) ((latest - 1) / 1000 * 1000)) with hle | hlt
  · congr 1; omega
  · rw [iocList_of_le (by omega), iocList_of_le (by omega)]

theorem thousands_flatMap (start latest : Int) {mb : Int} (hmb : mb % 1000000 = 0)
    (hms : millionsStart start ≤ mb) (hc : startChunk start ≤ mb + 999000) :
    (thousandsBases start latest mb).flatMap (fun tb => blocksInChunk tb mb latest) =
      iocList (max (startChunk start) mb) (min (mb + 1000000) latest) := by
  obtain ⟨hc0, -, hms0, -, -⟩ := startChunk_facts start
  set ts := max (startChunk start) mb with hts
  have hts0 : ts % 1000 = 0 := by omega
  set n := ((thousandsEnd latest mb + 1 - ts + ((1000 : Nat) : Int) - 1) / ((1000 : Nat) : Int)).toNat
    with hn
  have hchunks : (thousandsBases start latest mb).flatMap (fun tb => blocksInChunk tb mb latest) =
      ((List.range n).map fun k : Nat => ts + ((1000 : Nat) : Int) * k).flatMap
        fun tb => iocList (max ts tb) (min (tb + ((1000 : Nat) : Int)) latest) := by
    rw [thousandsBases, thousandsStart_eq start (by omega), ← hts, pyRange]
    refine List.flatMap_congr fun tb htb => ?_
    obtain ⟨k, hk, rfl⟩ := List.mem_map.1 htb
    rw [List.mem_range, thousandsEnd, bucket_eq_ediv _ _ (by norm_num)] at hk
    have hk' : ts + 1000 * k ≤ mb + 999000 := by omega
    clear hk hn
    rw [blocksInChunk_eq latest (by omega) hmb (by omega) (by omega) (by omega),
      max_eq_right (by omega)]
    rfl
  rw [hchunks, flatMap_windows ts ts latest 1000 (by omega), max_self]
  exact window_end n hts0 hmb (le_max_right _ _) (by omega)
    (by rw [hn, thousandsEnd, bucket_eq_ediv _ _ (by norm_num)]; rfl)

theorem millionsEnd_facts (latest : Int) :
    millionsEnd latest % 1000000 = 0 ∧ latest ≤ millionsEnd latest + 1000000 := by
  unfold millionsEnd
  split_ifs
  · rw [bucket_eq_ediv _ _ (by norm_num)]; omega
  · omega

theorem testedHeights_eq (start latest : Int) :
    testedHeights start latest = iocList (startChunk start) latest := by
  obtain ⟨hc0, hms0, hms, hle, hge⟩ := startChunk_facts start
  obtain ⟨hme0, hme⟩ := millionsEnd_facts latest
  set ms := millionsStart start
  set m := ((millionsEnd latest + 1 - ms + ((1000000 : Nat) : Int) - 1) /
    ((1000000 : Nat) : Int)).toNat with hm
  have houter : testedHeights start latest =
      ((List.range m).map fun k : Nat => ms + ((1000000 : Nat) : Int) * k).flatMap
        fun mb => iocList (max (startChunk start) mb) (min (mb + ((1000000 : Nat) : Int)) latest) := by
    rw [testedHeights, millionsBases, pyRange]
    refine List.flatMap_congr fun mb hmb => ?_
    obtain ⟨k, -, rfl⟩ := List.mem_map.1 hmb
    exact thousands_flatMap start latest (by omega) (by omega) (by omega)
  rw [houter, flatMap_windows _ ms latest 1000000 (by omega), max_eq_left hle]
  rcases le_or_lt ms (millionsEnd latest) with h | h
  · congr 1; omega
  · rw [iocList_of_le (by omega), iocList_of_le (by omega)]

/-- The scan of `check_block_completeness.main` from `start` to `latest`: it tests the heights
from the first one of the thousands directory holding `max(start, 1)` up to `latest`, each once
and in ascending order; its counters and its list of missing heights describe exactly those, and
its status is `1` exactly when one of them is missing. -/
theorem scan_tests_from_start_chunk (fs : Fs) (blocksDir : Path) (start latest : Int) :
    testedHeights start latest = iocList (startChunk start) latest ∧
    (scan fs blocksDir start latest).totalExpected = (latest - startChunk start).toNat ∧
    (scan fs blocksDir start latest).allMissing =
      missingAmong (cachePath blocksDir) fs (iocList (startChunk start) latest) ∧
    (scan fs blocksDir start latest).totalMissing = (scan fs blocksDir start latest).allMissing.length ∧
    (scan fs blocksDir start latest).totalMissing =
      ((scan fs blocksDir start latest).incompleteChunks.map fun c => c.2.2.1).sum ∧
    (exitStatus (scan fs blocksDir start latest) = 1 ↔
      (scan fs blocksDir start latest).allMissing ≠ []) := by
  have h := tally_scan fs blocksDir start latest
  rw [testedHeights_eq] at h
  refine ⟨testedHeights_eq start latest, by rw [h.expected, length_iocList], h.missing, h.count,
    h.chunks, ?_⟩
  rw [exitStatus, h.count, ← List.length_pos]
  split_ifs with hp <;> simp [hp]

/-- From `start = 5` to `latest = 7` on an empty cache the scan tests, and reports missing,
`1, …, 7`: seven heights, not the three `5, 6, 7`. -/
theorem scan_tests_below_start :
    testedHeights 5 7 = [1, 2, 3, 4, 5, 6, 7] ∧
    (scan Fs.empty ["blocks"] 5 7).totalExpected = 7 ∧
    (scan Fs.empty ["blocks"] 5 7).allMissing = [1, 2, 3, 4, 5, 6, 7] := by
  have h := tally_scan Fs.empty ["blocks"] 5 7
  have ht : testedHeights 5 7 = [1, 2, 3, 4, 5, 6, 7] := by rw [testedHeights_eq]; decide
  rw [ht] at h
  exact ⟨ht, h.expected, by rw [h.missing]; decide⟩

end CheckBlockCompleteness
end BlockCache

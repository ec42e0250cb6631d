import BlockCache.Honest

/-! # What the batch loop's counters report

`fetch_blocks_rpc.main` keeps `total_written` and `total_errors` over its batches. On a disk that
completes every write they are exact, whatever the node answers and whatever the codec does: with
a positive batch size the batch loop counts as written exactly the heights of its first scan whose
file now exists, and as errors exactly the heights a rescan of the range still finds missing
(`main_counts_what_rescan_finds`). The loop invariant is `Counted`: it needs that each slice is
new, so the run is followed with the slices already done (`foldlM_ok_prefix_induction`). The
download pools' counters are in `Repair`.
-/

namespace BlockCache

namespace FetchBlocksRpc

section Batch
variable (table : List (PyKey × List (String × Json))) (codec : Codec) (blocksDir : Path)

theorem heightStep_written (acc : Fs × Nat × Nat) (i : Nat) (b : Int)
    (hnone : acc.1.lookup (blockPath blocksDir b) = none) :
    (heightStep table codec Disk.healthy blocksDir acc (i, b)).2.1 = acc.2.1 +
      if ((heightStep table codec Disk.healthy blocksDir acc (i, b)).1.lookup
        (blockPath blocksDir b)).isSome then 1 else 0 := by
  rw [heightStep_lookup_self, hnone]
  unfold heightStep heightEntry
  cases hb : (resultOf (lookupId table (.int (i * 2)))).truthy
  · simp [hb]
  · cases hp : rpcToNanoreth (resultOf (lookupId table (.int (i * 2))))
        (receiptsOrEmpty (resultOf (lookupId table (.int (i * 2 + 1))))) >>= codec.packb <;>
      simp [hb, hp, writeBlock, writeFile, Disk.healthy, WriteFault.leaves]

theorem foldl_heightStep_written {bs : List Int} (hbs : bs.Nodup) (k : Nat) (acc : Fs × Nat × Nat)
    (hnone : ∀ b ∈ bs, acc.1.lookup (blockPath blocksDir b) = none) :
    ((bs.enumFrom k).foldl (heightStep table codec Disk.healthy blocksDir) acc).2.1 = acc.2.1 +
      bs.countP fun b => (((bs.enumFrom k).foldl (heightStep table codec Disk.healthy blocksDir)
        acc).1.lookup (blockPath blocksDir b)).isSome := by
  induction bs generalizing k acc with
  | nil => rfl
  | cons b bs ih =>
    rw [List.nodup_cons] at hbs
    rw [List.enumFrom_cons, List.foldl_cons]
    have hnone' : ∀ b' ∈ bs, (heightStep table codec Disk.healthy blocksDir acc (k, b)).1.lookup
        (blockPath blocksDir b') = none := fun b' hb' => by
      rw [heightStep_lookup_other _ _ _ _ _ _ (by rintro rfl; exact hbs.1 hb'),
        hnone b' (List.mem_cons_of_mem b hb')]
    rw [ih hbs.2 (k + 1) _ hnone', heightStep_written _ _ _ _ _ _ (hnone b (List.mem_cons_self b bs)),
      List.countP_cons, foldl_heightStep_lookup_of_not_mem _ _ _ _ hbs.1]
    omega

end Batch

theorem fetchAndWriteBatch_ok {post : Transport} {codec : Codec} {disk : Disk} {blocksDir : Path}
    {fs : Fs} {bs : List Int} {r : Fs × Nat × Nat}
    (h : fetchAndWriteBatch post codec disk blocksDir fs bs = .ok r) :
    ∃ table, r = bs.enum.foldl (heightStep table codec disk blocksDir) (fs, 0, 0) := by
  obtain ⟨_, -, h⟩ := bind_eq_ok.1 h
  obtain ⟨table, -, h⟩ := bind_eq_ok.1 h
  exact ⟨table, (Except.ok.inj h).symm⟩

theorem fetchAndWriteBatch_lookup_of_not_mem {post : Transport} {codec : Codec} {disk : Disk}
    {blocksDir : Path} {fs fs' : Fs} {bs : List Int} {w e : Nat}
    (h : fetchAndWriteBatch post codec disk blocksDir fs bs = .ok (fs', w, e)) {b : Int}
    (hb : b ∉ bs) : fs'.lookup (blockPath blocksDir b) = fs.lookup (blockPath blocksDir b) := by
  obtain ⟨table, hr⟩ := fetchAndWriteBatch_ok h
  have hfs : fs' = _ := congrArg Prod.fst hr
  rw [hfs]
  exact foldl_heightStep_lookup_of_not_mem table codec disk blocksDir hb 0 _

theorem fetchAndWriteBatch_written {post : Transport} {codec : Codec} {blocksDir : Path}
    {fs fs' : Fs} {bs : List Int} {w e : Nat}
    (h : fetchAndWriteBatch post codec Disk.healthy blocksDir fs bs = .ok (fs', w, e))
    (hbs : bs.Nodup) (hnone : ∀ b ∈ bs, fs.lookup (blockPath blocksDir b) = none) :
    w = bs.countP fun b => (fs'.lookup (blockPath blocksDir b)).isSome := by
  obtain ⟨table, hr⟩ := fetchAndWriteBatch_ok h
  have := foldl_heightStep_written table codec blocksDir hbs 0 (fs, 0, 0) hnone
  rwa [← List.enum, ← hr, Nat.zero_add] at this

section Loop
variable {posts : Nat → Transport} {codec : Codec} {disk : Disk} {blocksDir : Path}
  {delay : ℚ} {missing : List Int} {batchSize : Nat}

theorem loopStep_written {st st' : LoopState} {i : Nat}
    (h : loopStep posts codec disk blocksDir delay missing batchSize st i = .ok st') :
    (st'.fs = st.fs ∧ st'.totalWritten = st.totalWritten) ∨
      ∃ w e, fetchAndWriteBatch (posts i) codec disk blocksDir st.fs
        (slice missing batchSize i) = .ok (st'.fs, w, e) ∧ st'.totalWritten = st.totalWritten + w := by
  obtain ⟨-, happly, -⟩ := loopStep_ok h
  unfold applyBatch at happly
  split at happly <;> simp only [Prod.mk.injEq] at happly
  · rename_i fs w e hf
    exact .inr ⟨w, e, by rw [hf, happly.1], happly.2.1⟩
  · exact .inl ⟨happly.1, happly.2.1⟩

end Loop

/-- The loop's counters once the heights `done` have been through it, on a disk that completes
every write: `total_written` is the number of them whose path now holds a file, every one of them
is counted once, and the missing heights not yet done still have no file. -/
structure Counted (blocksDir : Path) (missing done : List Int) (st : LoopState) : Prop where
  written : st.totalWritten = done.countP fun h => (st.fs.lookup (blockPath blocksDir h)).isSome
  total : st.totalWritten + st.totalErrors = done.length
  pending : ∀ h ∈ missing, h ∉ done → st.fs.lookup (blockPath blocksDir h) = none

namespace Counted
variable {posts : Nat → Transport} {codec : Codec} {blocksDir : Path} {delay : ℚ}
  {missing done : List Int} {batchSize : Nat} {st st' : LoopState} {i : Nat}

theorem init {fs : Fs} (delay : ℚ) (hnone : ∀ h ∈ missing, fs.lookup (blockPath blocksDir h) = none) :
    Counted blocksDir missing [] (LoopState.init fs delay) :=
  ⟨rfl, rfl, fun h hh _ => hnone h hh⟩

theorem loopStep (hc : Counted blocksDir missing done st)
    (h : FetchBlocksRpc.loopStep posts codec Disk.healthy blocksDir delay missing batchSize st i = .ok st')
    (hnd : (slice missing batchSize i).Nodup) (hsub : ∀ b ∈ slice missing batchSize i, b ∈ missing)
    (hdis : ∀ b ∈ slice missing batchSize i, b ∉ done) :
    Counted blocksDir missing (done ++ slice missing batchSize i) st' := by
  have hnone : ∀ b ∈ slice missing batchSize i, st.fs.lookup (blockPath blocksDir b) = none :=
    fun b hb => hc.pending b (hsub b hb) (hdis b hb)
  obtain ⟨-, -, htotal, -, -⟩ := loopStep_ok h
  refine ⟨?_, by rw [htotal, hc.total, List.length_append], fun b hb hnd' => ?_⟩
  · rw [List.countP_append]
    rcases loopStep_written h with ⟨hfs, hw⟩ | ⟨w, e, hf, hw⟩
    · have h0 : (slice missing batchSize i).countP
          (fun h => (st.fs.lookup (blockPath blocksDir h)).isSome) = 0 :=
        List.countP_eq_zero.2 fun b hb => by simp [hnone b hb]
      rw [hw, hfs, hc.written, h0, Nat.add_zero]
    · rw [hw, hc.written, fetchAndWriteBatch_written hf hnd hnone]
      congr 1
      refine List.countP_congr fun b hb => ?_
      rw [fetchAndWriteBatch_lookup_of_not_mem hf fun hs => hdis b hs hb]
  · rw [List.mem_append, not_or] at hnd'
    rcases loopStep_written h with ⟨hfs, -⟩ | ⟨w, e, hf, -⟩
    · rw [hfs]; exact hc.pending b hb hnd'.1
    · rw [fetchAndWriteBatch_lookup_of_not_mem hf hnd'.2]; exact hc.pending b hb hnd'.1

end Counted

/-- On a disk that completes every write, a loop over distinct missing heights that returns has
counted as written exactly the heights whose path now holds a file, and every height once. -/
theorem fetchLoop_counted {posts : Nat → Transport} {codec : Codec} {blocksDir : Path}
    {delay : ℚ} {missing : List Int} {batchSize : Int} {fs : Fs} {st : LoopState}
    (hN : 0 < batchSize) (hnd : missing.Nodup)
    (hnone : ∀ h ∈ missing, fs.lookup (blockPath blocksDir h) = none)
    (h : fetchLoop posts codec Disk.healthy blocksDir delay missing batchSize fs = .ok st) :
    Counted blocksDir missing missing st := by
  rw [fetchLoop_eq hN] at h
  have hflat : ((batchStarts missing.length batchSize.toNat).map
      (slice missing batchSize.toNat)).flatten = missing := by
    rw [batchStarts, List.map_map]
    exact flatten_slices _ _ missing (le_mul_numBatches (Int.lt_toNat.2 hN))
  suffices hrun : Counted blocksDir missing
      ((batchStarts missing.length batchSize.toNat).map (slice missing batchSize.toNat)).flatten st by
    rwa [hflat] at hrun
  refine foldlM_ok_prefix_induction
    (fun pre st => Counted blocksDir missing (pre.map (slice missing batchSize.toNat)).flatten st)
    (fun pre x rest s s' hsplit hs hc => ?_) h (Counted.init delay hnone)
  have hparts : (pre.map (slice missing batchSize.toNat)).flatten ++ slice missing batchSize.toNat x ++
      (rest.map (slice missing batchSize.toNat)).flatten = missing := by
    rw [← hsplit] at hflat; simpa using hflat
  have hnd' := hparts ▸ hnd
  rw [List.nodup_append, List.nodup_append] at hnd'
  obtain ⟨⟨-, hslice, hdis⟩, -, -⟩ := hnd'
  simpa using hc.loopStep hs hslice
    (fun b hb => hparts ▸ List.mem_append_left _ (List.mem_append_right _ hb))
    fun b hb hd => hdis hd hb

theorem findMissingBlocks_nodup (fs : Fs) (blocksDir : Path) (start «end» : Int) :
    (findMissingBlocks fs blocksDir start «end»).Nodup := by
  refine List.Nodup.filter _ ?_
  rw [pyRange_one]
  exact (List.nodup_range _).map fun a b h => by simpa using h

theorem lookup_of_mem_findMissingBlocks {fs : Fs} {blocksDir : Path} {start «end» h : Int}
    (hh : h ∈ findMissingBlocks fs blocksDir start «end») : fs.lookup (blockPath blocksDir h) = none := by
  simpa [Fs.pathExists_eq] using (mem_missingAmong.1 hh).2

/-- On a disk that completes every write, whatever the node answers, a run of `main` with a
positive batch size that reaches the batch loop and returns counts as written exactly the heights of its first scan whose file now
exists; a rescan of the same range finds missing exactly the others, and `total_errors` is the
number of heights it finds. -/
theorem main_counts_what_rescan_finds {tip : Transport} {posts : Nat → Transport} {codec : Codec}
    {fs : Fs} {args : Args} {st : LoopState} (hN : 0 < args.batchSize)
    (h : main tip posts codec Disk.healthy fs args = .ok (some st)) :
    ∃ start «end», settleStart fs args = .ok start ∧ settleEnd tip args = .ok «end» ∧
      st.totalWritten = (findMissingBlocks fs args.blocksDir start «end»).countP
        (fun h => (st.fs.lookup (blockPath args.blocksDir h)).isSome) ∧
      findMissingBlocks st.fs args.blocksDir start «end» =
        (findMissingBlocks fs args.blocksDir start «end»).filter
          (fun h => (st.fs.lookup (blockPath args.blocksDir h)).isNone) ∧
      st.totalErrors = (findMissingBlocks st.fs args.blocksDir start «end»).length := by
  obtain ⟨start, e, hs, he, ⟨-, hr⟩ | ⟨st', hr, hl⟩⟩ := main_ok h
  · cases hr
  cases hr
  have hc := fetchLoop_counted hN (findMissingBlocks_nodup _ _ _ _)
    (fun h hh => lookup_of_mem_findMissingBlocks hh) hl
  have hgrow := fetchLoop_grows hl
  have hrescan : findMissingBlocks st.fs args.blocksDir start e =
      (findMissingBlocks fs args.blocksDir start e).filter
        (fun h => (st.fs.lookup (blockPath args.blocksDir h)).isNone) := by
    rw [findMissingBlocks, findMissingBlocks, missingAmong, missingAmong, List.filter_filter]
    refine List.filter_congr fun h _ => ?_
    cases hst : st.fs.lookup (blockPath args.blocksDir h)
    · have : fs.lookup (blockPath args.blocksDir h) = none :=
        Option.not_isSome_iff_eq_none.1 fun hfs => by simpa [hst] using hgrow _ hfs
      simp [Fs.pathExists_eq, hst, this]
    · simp [Fs.pathExists_eq, hst]
  refine ⟨start, e, hs, he, hc.written, hrescan, ?_⟩
  have hsplit : (findMissingBlocks fs args.blocksDir start e).countP
      (fun h => (st.fs.lookup (blockPath args.blocksDir h)).isSome) +
      (findMissingBlocks fs args.blocksDir start e).countP
      (fun h => (st.fs.lookup (blockPath args.blocksDir h)).isNone) =
      (findMissingBlocks fs args.blocksDir start e).length := by
    rw [List.length_eq_countP_add_countP (fun h => (st.fs.lookup (blockPath args.blocksDir h)).isSome)]
    exact congrArg _ (List.countP_congr fun h _ => by cases st.fs.lookup (blockPath args.blocksDir h) <;> simp)
  rw [hrescan, ← List.countP_eq_length_filter]
  have := hc.total
  rw [hc.written] at this
  omega

/-- A node holding the sample block at height `5` and nothing at any other height. -/
def partialNode : NodeData := fun q => if q = pyHex 5 then (sampleBlock, sampleReceipts) else (.null, .null)

/-- A run over heights `5` and `6` in one batch. -/
def partialArgs : Args := ⟨["blocks"], some 5, some 6, 2, 5, false⟩

theorem main_counts_what_rescan_finds_partial :
    0 < partialArgs.batchSize ∧
    ∃ st, main (offline 0) (inOrder partialNode) emptyCodec Disk.healthy Fs.empty partialArgs =
        .ok (some st) ∧
      ∃ start «end», settleStart Fs.empty partialArgs = .ok start ∧
        settleEnd (offline 0) partialArgs = .ok «end» ∧
        st.totalWritten = (findMissingBlocks Fs.empty ["blocks"] start «end»).countP
          (fun h => (st.fs.lookup (blockPath ["blocks"] h)).isSome) ∧
        findMissingBlocks st.fs ["blocks"] start «end» =
          (findMissingBlocks Fs.empty ["blocks"] start «end»).filter
            (fun h => (st.fs.lookup (blockPath ["blocks"] h)).isNone) ∧
        st.totalErrors = (findMissingBlocks st.fs ["blocks"] start «end»).length :=
  ⟨by decide, _, rfl, @main_counts_what_rescan_finds (offline 0) (inOrder partialNode) emptyCodec
    Fs.empty partialArgs _ (by decide) rfl⟩

end FetchBlocksRpc

end BlockCache

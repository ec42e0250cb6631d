import BlockCache.Batch
import Mathlib.Algebra.Order.Field.Rat
import Mathlib.Tactic.Linarith

/-! # The batch loop of `fetch_blocks_rpc.main`

`main` walks the missing heights in slices `missing[i:i + batch_size]` for `i` in
`range(0, len(missing), batch_size)`, calls `fetch_and_write_batch` on each, adds its counts,
and sleeps `current_delay` seconds between batches. A `RequestException` from the batch counts
the whole slice as errors and doubles the delay up to 120 s; a success extends the success
streak, and from the fifth success on a delay above the baseline relaxes by a factor `0.8`,
never below the baseline. Any other exception leaves the loop, and so does an exception of
`time.sleep`: `ValueError` for a negative length, `OverflowError` past `2^63` ns.

Delays are exact rationals. Each iteration is logged with its slice and the delay slept after it
(`none` when it does not sleep); the transport of the batch at `i` is `posts i`.

`fetchLoop_slices` is the loop's contract: with a positive batch size, a delay `time.sleep`
accepts, and batches that return or raise `RequestException`, the loop returns the file system
and totals of the calls of `fetch_and_write_batch` on the consecutive slices, one after another
(`applyBatch`), and sleeps once between two of them.
-/

namespace BlockCache
namespace FetchBlocksRpc

/-- `find_missing_blocks`, and `main`'s own scan when `--scan-gaps` is off (the same loop): the
heights `start … end` whose `block_path` does not exist. -/
def findMissingBlocks (fs : Fs) (blocksDir : Path) (start «end» : Int) : List Int :=
  missingAmong (blockPath blocksDir) fs (pyRange start («end» + 1) 1)

/-- The pacing state: `current_delay` and `consecutive_ok`. -/
structure Pacing where
  currentDelay : ℚ
  consecutiveOk : Nat
  deriving DecidableEq

/-- The pacing state before the first batch. -/
def Pacing.init (delay : ℚ) : Pacing := ⟨delay, 0⟩

/-- The pacing update after a batch; `ok` when `fetch_and_write_batch` returned. -/
def Pacing.update (delay : ℚ) (p : Pacing) : Bool → Pacing
  | true =>
    if p.consecutiveOk + 1 ≥ 5 ∧ p.currentDelay > delay then
      ⟨max delay (p.currentDelay * (4 / 5)), p.consecutiveOk + 1⟩
    else ⟨p.currentDelay, p.consecutiveOk + 1⟩
  | false => ⟨min (p.currentDelay * 2) 120, 0⟩

/-- The loop's state: the file system, the totals, the pacing and the log of iterations. -/
structure LoopState where
  fs : Fs
  totalWritten : Nat
  totalErrors : Nat
  pacing : Pacing
  log : List (List Int × Option ℚ)

/-- The state before the first batch. -/
def LoopState.init (fs : Fs) (delay : ℚ) : LoopState := ⟨fs, 0, 0, Pacing.init delay, []⟩

/-- `range(0, n, batch_size)` for a positive batch size; a batch size of `0` gives `[]`. -/
def batchStarts (n batchSize : Nat) : List Nat :=
  (List.range ((n + batchSize - 1) / batchSize)).map (batchSize * ·)

/-- `missing[i : i + batch_size]`. -/
def slice (missing : List Int) (batchSize i : Nat) : List Int := (missing.drop i).take batchSize

/-- `time.sleep(secs)`: the length in nanoseconds, rounded away from zero, must fit a signed
64-bit count (`OverflowError`), and must not be negative (`ValueError`). -/
def timeSleep (secs : ℚ) : Except PyExc Unit :=
  if secs * 10 ^ 9 < -2 ^ 63 ∨ 2 ^ 63 - 1 < secs * 10 ^ 9 then .error .overflowError
  else if secs < 0 then .error .valueError
  else .ok ()

/-- The sleep after a batch: `time.sleep(current_delay)` when another batch follows (`slept`
holds the delay), nothing after the last. -/
def sleepAfter : Option ℚ → Except PyExc Unit
  | some s => timeSleep s
  | none => pure ()

section Loop
variable (posts : Nat → Transport) (codec : Codec) (disk : Disk) (blocksDir : Path)
  (delay : ℚ) (missing : List Int) (batchSize : Nat)

/-- One iteration of the loop, for the slice starting at `i`. -/
def loopStep (st : LoopState) (i : Nat) : Except PyExc LoopState := do
  let batch := slice missing batchSize i
  let st ← match fetchAndWriteBatch (posts i) codec disk blocksDir st.fs batch with
    | .ok (fs, written, errors) =>
      pure { st with fs, totalWritten := st.totalWritten + written,
                     totalErrors := st.totalErrors + errors,
                     pacing := st.pacing.update delay true }
    | .error .requestException =>
      pure { st with totalErrors := st.totalErrors + batch.length,
                     pacing := st.pacing.update delay false }
    | .error e => .error e
  let slept := if i + batch.length < missing.length then some st.pacing.currentDelay else none
  sleepAfter slept
  pure { st with log := st.log ++ [(batch, slept)] }

/-- The effect of the call `fetch_and_write_batch(…, batch)` for the slice at `i` on the file
system and the totals: a return adds its counts, a `RequestException` counts the batch as
errors. -/
def applyBatch (acc : Fs × Nat × Nat) (call : Nat × List Int) : Fs × Nat × Nat :=
  match fetchAndWriteBatch (posts call.1) codec disk blocksDir acc.1 call.2 with
  | .ok (fs, written, errors) => (fs, acc.2.1 + written, acc.2.2 + errors)
  | .error _ => (acc.1, acc.2.1, acc.2.2 + call.2.length)

end Loop

/-- The batch loop; `range` raises `ValueError` for a zero batch size and is empty for a
negative one. -/
def fetchLoop (posts : Nat → Transport) (codec : Codec) (disk : Disk) (blocksDir : Path)
    (delay : ℚ) (missing : List Int) (batchSize : Int) (fs : Fs) : Except PyExc LoopState :=
  if batchSize = 0 then .error .valueError
  else (batchStarts missing.length batchSize.toNat).foldlM
    (loopStep posts codec disk blocksDir delay missing batchSize.toNat) (LoopState.init fs delay)

/-! ### Pacing -/

/-- The bounds the delay keeps: between `min delay 120` and `max delay 120`. -/
def PacingInv (delay c : ℚ) : Prop := min delay 120 ≤ c ∧ c ≤ max delay 120

theorem PacingInv.init (delay : ℚ) : PacingInv delay (Pacing.init delay).currentDelay :=
  ⟨min_le_left _ _, le_max_left _ _⟩

theorem PacingInv.update {delay : ℚ} (hd : 0 ≤ delay) {p : Pacing}
    (h : PacingInv delay p.currentDelay) (ok : Bool) :
    PacingInv delay (p.update delay ok).currentDelay := by
  obtain ⟨hlo, hhi⟩ := h
  have hc : 0 ≤ p.currentDelay := le_trans (le_min hd (by norm_num)) hlo
  cases ok with
  | false =>
    exact ⟨le_min (by linarith) (min_le_right _ _), le_trans (min_le_right _ _) (le_max_right _ _)⟩
  | true =>
    simp only [Pacing.update]
    split_ifs
    · exact ⟨le_trans (min_le_left _ _) (le_max_left _ _), max_le (le_max_left _ _) (by linarith)⟩
    · exact ⟨hlo, hhi⟩

theorem PacingInv.foldl {delay : ℚ} (hd : 0 ≤ delay) (outcomes : List Bool) {p : Pacing}
    (h : PacingInv delay p.currentDelay) :
    PacingInv delay (outcomes.foldl (Pacing.update delay) p).currentDelay := by
  induction outcomes generalizing p with
  | nil => exact h
  | cons ok outcomes ih => exact ih (h.update hd ok)

/-! ### Sleeping -/

/-- A length `time.sleep` accepts. -/
def SleepOk (s : ℚ) : Prop := 0 ≤ s ∧ s * 10 ^ 9 ≤ 2 ^ 63 - 1

theorem timeSleep_eq_ok_iff (s : ℚ) : timeSleep s = .ok () ↔ SleepOk s := by
  unfold timeSleep SleepOk
  by_cases h1 : s * 10 ^ 9 < -2 ^ 63 ∨ 2 ^ 63 - 1 < s * 10 ^ 9
  · rw [if_pos h1]
    refine ⟨fun h => (nomatch h), fun ⟨h0, hle⟩ => ?_⟩
    rcases h1 with h | h <;> linarith
  · rw [if_neg h1]
    by_cases h2 : s < 0
    · rw [if_pos h2]
      exact ⟨fun h => (nomatch h), fun ⟨h0, _⟩ => absurd h0 (not_le.2 h2)⟩
    · rw [if_neg h2]
      exact ⟨fun _ => ⟨not_lt.1 h2, le_of_not_lt fun h => h1 (.inr h)⟩, fun _ => rfl⟩

theorem SleepOk.of_pacingInv {delay c : ℚ} (hd : SleepOk delay) (h : PacingInv delay c) :
    SleepOk c := by
  obtain ⟨h0, hmax⟩ := hd
  obtain ⟨hlo, hhi⟩ := h
  refine ⟨le_trans (le_min h0 (by norm_num)) hlo, ?_⟩
  rcases max_choice delay 120 with hm | hm <;> rw [hm] at hhi <;> linarith

/-! ### One iteration -/

section Loop
variable {posts : Nat → Transport} {codec : Codec} {disk : Disk} {blocksDir : Path}
  {delay : ℚ} {missing : List Int} {batchSize : Nat}

/-- What an iteration that does not leave the loop does: it updates the pacing, books the call
of `fetch_and_write_batch` on its slice (`applyBatch`), which counts the slice, logs the slice
and the delay it sleeps (none after the last slice), and keeps the file system of the batch's
run (none when the batch raised `RequestException`). -/
theorem loopStep_ok {st st' : LoopState} {i : Nat}
    (h : loopStep posts codec disk blocksDir delay missing batchSize st i = .ok st') :
    (∃ ok, st'.pacing = st.pacing.update delay ok) ∧
    (st'.fs, st'.totalWritten, st'.totalErrors) = applyBatch posts codec disk blocksDir
      (st.fs, st.totalWritten, st.totalErrors) (i, slice missing batchSize i) ∧
    st'.totalWritten + st'.totalErrors =
      st.totalWritten + st.totalErrors + (slice missing batchSize i).length ∧
    st'.log = st.log ++ [(slice missing batchSize i,
      if i + (slice missing batchSize i).length < missing.length
      then some st'.pacing.currentDelay else none)] ∧
    (fetchAndWriteBatch (posts i) codec disk blocksDir st.fs (slice missing batchSize i) =
        .error .requestException ∧ st'.fs = st.fs ∨
      ∃ w e, fetchAndWriteBatch (posts i) codec disk blocksDir st.fs
        (slice missing batchSize i) = .ok (st'.fs, w, e)) := by
  dsimp only [loopStep] at h
  rcases fetchAndWriteBatch_outcome (posts i) codec disk blocksDir st.fs
      (slice missing batchSize i) with ⟨fs', w, e, hf, hc⟩ | hf | ⟨_, e, _, _, he, hf⟩
  · simp only [hf, pure_bind] at h
    obtain ⟨_, -, h⟩ := bind_eq_ok.1 h
    cases h
    exact ⟨⟨true, rfl⟩, by simp [applyBatch, hf], by dsimp only; omega, rfl, .inr ⟨w, e, hf⟩⟩
  · simp only [hf, pure_bind] at h
    obtain ⟨_, -, h⟩ := bind_eq_ok.1 h
    cases h
    exact ⟨⟨false, rfl⟩, by simp [applyBatch, hf], by dsimp only; omega, rfl, .inl ⟨hf, rfl⟩⟩
  · rw [hf] at h
    rcases he with rfl | rfl <;> cases h

/-- An iteration leaves the loop only on an exception other than `RequestException` from its
batch, or on a delay `time.sleep` refuses. -/
theorem loopStep_progress (hd : SleepOk delay)
    (hcalls : ∀ i fs batch e, fetchAndWriteBatch (posts i) codec disk blocksDir fs batch = .error e →
      e = .requestException) (st : LoopState) (hp : PacingInv delay st.pacing.currentDelay)
    (i : Nat) : ∃ st', loopStep posts codec disk blocksDir delay missing batchSize st i = .ok st' := by
  have hsleep : ∀ ok, timeSleep (st.pacing.update delay ok).currentDelay = .ok () := fun ok =>
    (timeSleep_eq_ok_iff _).2 (hd.of_pacingInv (hp.update hd.1 ok))
  cases hf : fetchAndWriteBatch (posts i) codec disk blocksDir st.fs (slice missing batchSize i) with
  | ok r =>
    simp only [loopStep, hf, pure_bind]
    split <;> simp [sleepAfter, hsleep]
  | error e =>
    obtain rfl := hcalls _ _ _ _ hf
    simp only [loopStep, hf, pure_bind]
    split <;> simp [sleepAfter, hsleep]

/-! ### Whole runs -/

theorem loopStep_inv (hd : 0 ≤ delay) {st st' : LoopState} {i : Nat}
    (h : loopStep posts codec disk blocksDir delay missing batchSize st i = .ok st') :
    PacingInv delay st.pacing.currentDelay ∧ (∀ e ∈ st.log, ∀ s ∈ e.2, PacingInv delay s) →
      PacingInv delay st'.pacing.currentDelay ∧ ∀ e ∈ st'.log, ∀ s ∈ e.2, PacingInv delay s := by
  rintro ⟨hp, hl⟩
  obtain ⟨⟨ok, hpace⟩, -, -, hlog, -⟩ := loopStep_ok h
  have hps : PacingInv delay st'.pacing.currentDelay := hpace ▸ hp.update hd ok
  refine ⟨hps, fun e he x hx => ?_⟩
  rw [hlog, List.mem_append, List.mem_singleton] at he
  rcases he with he | rfl
  · exact hl e he x hx
  · split at hx
    · cases hx; exact hps
    · cases hx

/-- With a delay `time.sleep` accepts and batches that return or raise `RequestException`, a
run over `starts` from a state within the pacing bounds returns: it books the calls on the
slices of `starts` in order, logs each slice with a sleep exactly when the slice ends before the
last height, and counts every height of every slice once. -/
theorem foldlM_loopStep_run (hd : SleepOk delay)
    (hcalls : ∀ i fs batch e, fetchAndWriteBatch (posts i) codec disk blocksDir fs batch = .error e →
      e = .requestException) :
    ∀ (starts : List Nat) (st : LoopState), PacingInv delay st.pacing.currentDelay → ∃ st',
      starts.foldlM (loopStep posts codec disk blocksDir delay missing batchSize) st = .ok st' ∧
      (st'.fs, st'.totalWritten, st'.totalErrors) =
        (starts.map fun i => (i, slice missing batchSize i)).foldl
          (applyBatch posts codec disk blocksDir) (st.fs, st.totalWritten, st.totalErrors) ∧
      st'.log.map (fun e => (e.1, e.2.isSome)) = st.log.map (fun e => (e.1, e.2.isSome)) ++
        starts.map (fun i => (slice missing batchSize i,
          decide (i + (slice missing batchSize i).length < missing.length))) ∧
      st'.totalWritten + st'.totalErrors =
        st.totalWritten + st.totalErrors + (starts.map fun i => (slice missing batchSize i).length).sum
  | [], st, _ => ⟨st, rfl, rfl, by simp, by simp⟩
  | i :: starts, st, hp => by
    obtain ⟨s, hs⟩ := loopStep_progress hd hcalls st hp i
    obtain ⟨⟨ok, hpace⟩, happly, hcount, hlog, -⟩ := loopStep_ok hs
    obtain ⟨st', h, hf, hl, hc⟩ :=
      foldlM_loopStep_run hd hcalls starts s (hpace ▸ hp.update hd.1 ok)
    refine ⟨st', by rw [List.foldlM_cons, hs, ok_bind, h], by rw [hf, happly]; rfl, ?_, ?_⟩
    · rw [hl, hlog]
      simp only [List.map_append, List.map_cons, List.map_nil, List.append_assoc]
      congr 3
      split <;> simp_all
    · rw [hc, hcount, List.map_cons, List.sum_cons]
      omega

end Loop

/-! ### The slices -/

theorem flatten_slices (batchSize : Nat) :
    ∀ (m : Nat) (missing : List Int), missing.length ≤ batchSize * m →
      ((List.range m).map fun j => slice missing batchSize (batchSize * j)).flatten = missing
  | 0, missing, h => by simpa using h
  | m + 1, missing, h => by
    have hrest : ((List.range m).map fun j => slice missing batchSize (batchSize * (j + 1))) =
        (List.range m).map fun j => slice (missing.drop batchSize) batchSize (batchSize * j) :=
      List.map_congr_left fun j _ => by simp [slice, List.drop_drop, Nat.mul_succ, Nat.add_comm]
    rw [List.range_succ_eq_map, List.map_cons, List.map_map, List.flatten_cons, Function.comp_def]
    simp only [Nat.succ_eq_add_one]
    rw [hrest, flatten_slices batchSize m (missing.drop batchSize)
      (by rw [List.length_drop, Nat.mul_succ] at *; omega)]
    exact List.take_append_drop batchSize missing

section Starts
variable {n batchSize : Nat} (hN : 0 < batchSize)
include hN

theorem le_mul_numBatches : n ≤ batchSize * ((n + batchSize - 1) / batchSize) := by
  have h := @Nat.lt_div_mul_add (n + batchSize - 1) batchSize hN
  rw [Nat.mul_comm]
  generalize (n + batchSize - 1) / batchSize * batchSize = t at h
  omega

end Starts

/-! ### The loop's runs -/

theorem fetchLoop_eq {posts : Nat → Transport} {codec : Codec} {disk : Disk} {blocksDir : Path}
    {delay : ℚ} {missing : List Int} {batchSize : Int} {fs : Fs} (hN : 0 < batchSize) :
    fetchLoop posts codec disk blocksDir delay missing batchSize fs =
      (batchStarts missing.length batchSize.toNat).foldlM
        (loopStep posts codec disk blocksDir delay missing batchSize.toNat)
        (LoopState.init fs delay) :=
  if_neg (ne_of_gt hN)

/-- A node that is down: every attempt of every batch raises. -/
def offline : Nat → Transport := fun _ _ _ => .fail

/-- A codec that packs every record to no bytes. -/
def emptyCodec : Codec := ⟨fun _ => .ok [], id⟩

theorem fetchAndWriteBatch_offline (i : Nat) (codec : Codec) (disk : Disk) (blocksDir : Path)
    (fs : Fs) (batch : List Int) :
    fetchAndWriteBatch (offline i) codec disk blocksDir fs batch = .error .requestException := rfl

/-- For a baseline `d ≥ 0`, the delay stays between `min d 120` and `max d 120` whatever the
outcomes, and so does every delay the loop sleeps. For `d ≤ 120` the delay never drops below
`d`, and a success from the fifth in a row on sets it to `max d (0.8 · delay)`. -/
theorem fetchLoop_delay_bounds {delay : ℚ} (hd : 0 ≤ delay) :
    (∀ outcomes : List Bool,
      PacingInv delay (outcomes.foldl (Pacing.update delay) (Pacing.init delay)).currentDelay) ∧
    (∀ posts codec disk blocksDir missing batchSize fs st,
      fetchLoop posts codec disk blocksDir delay missing batchSize fs = .ok st →
      ∀ e ∈ st.log, ∀ s ∈ e.2, PacingInv delay s) ∧
    (delay ≤ 120 → ∀ outcomes : List Bool,
      delay ≤ (outcomes.foldl (Pacing.update delay) (Pacing.init delay)).currentDelay ∧
      (5 ≤ (outcomes.foldl (Pacing.update delay) (Pacing.init delay)).consecutiveOk + 1 →
        ((outcomes.foldl (Pacing.update delay) (Pacing.init delay)).update delay true).currentDelay =
          max delay ((outcomes.foldl (Pacing.update delay) (Pacing.init delay)).currentDelay *
            (4 / 5)))) := by
  have hinv := fun outcomes => PacingInv.foldl hd outcomes (PacingInv.init delay)
  refine ⟨hinv, fun posts codec disk blocksDir missing batchSize fs st h => ?_, fun hle outcomes => ?_⟩
  · unfold fetchLoop at h
    split at h
    · cases h
    · exact (foldlM_ok_induction (fun st : LoopState => PacingInv delay st.pacing.currentDelay ∧
        ∀ e ∈ st.log, ∀ s ∈ e.2, PacingInv delay s) (fun _ _ _ => loopStep_inv hd) h
        ⟨PacingInv.init delay, by simp [LoopState.init]⟩).2
  · obtain ⟨hlo, -⟩ := hinv outcomes
    rw [min_eq_left hle] at hlo
    refine ⟨hlo, fun h5 => ?_⟩
    generalize outcomes.foldl (Pacing.update delay) (Pacing.init delay) = p at hlo h5 ⊢
    simp only [Pacing.update]
    split_ifs with h
    · rfl
    · have hc : p.currentDelay = delay := le_antisymm (not_lt.1 fun h' => h ⟨h5, h'⟩) hlo
      rw [hc, max_eq_left (by linarith)]

theorem fetchLoop_delay_bounds_default :
    (0 : ℚ) ≤ 5 ∧
    PacingInv 5 ([false, false, true].foldl (Pacing.update 5) (Pacing.init 5)).currentDelay :=
  ⟨by norm_num, (fetchLoop_delay_bounds (by norm_num : (0 : ℚ) ≤ 5)).1 _⟩

/-- With a baseline of 200 s, one failed batch drops the delay to the 120 s cap, and the loop
then sleeps 120 s, below the baseline. -/
theorem fetchLoop_sleeps_below_baseline :
    ((Pacing.init 200).update 200 false).currentDelay < 200 ∧
    ∃ st, fetchLoop offline emptyCodec Disk.healthy ["blocks"] 200 [1, 2] 1 Fs.empty = .ok st ∧
      st.log = [([1], some 120), ([2], none)] := by
  refine ⟨by norm_num [Pacing.update, Pacing.init], ?_⟩
  norm_num [fetchLoop, batchStarts, List.range_succ, loopStep, slice, fetchAndWriteBatch_offline,
    Pacing.update, LoopState.init, Pacing.init, sleepAfter, timeSleep]

/-- A node that answers a batch with a list holding a bare number, or with an object that has
neither `"id"` nor `"error"`: building `by_id` raises `TypeError` or `KeyError`, which no
`try` of `fetch_and_write_batch` catches, and `main`'s loop, catching only `RequestException`,
stops at the first batch. -/
theorem fetchLoop_stops_on_malformed_answer :
    fetchAndWriteBatch (fun _ _ => .body (.arr [.num 1])) emptyCodec Disk.healthy ["blocks"]
      Fs.empty [5] = .error .typeError ∧
    fetchAndWriteBatch (fun _ _ => .body (.obj [("result", .null)])) emptyCodec Disk.healthy
      ["blocks"] Fs.empty [5] = .error .keyError ∧
    fetchLoop (fun _ _ _ => .body (.arr [.num 1])) emptyCodec Disk.healthy ["blocks"] 5 [5, 6] 1
      Fs.empty = .error .typeError :=
  ⟨rfl, rfl, rfl⟩

end FetchBlocksRpc
end BlockCache

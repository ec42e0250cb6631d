import Mathlib.Data.List.Range
import Mathlib.Order.Basic
import Mathlib.Tactic.Ring

/-!
# Python values shared by the three scripts

Heights are Python `int`s (`Int`); byte strings are `List UInt8`; a file-system path is the list
of its components, so `Path(root) / a / b` and `os.path.join(root, a, b)` are both
`root ++ [a, b]`.

`pyRange` is Python's `range(start, stop, step)` for the positive steps the scripts use, and
`iocList lo hi` is the ascending list of the integers `h` with `lo < h ≤ hi`. The scanners'
loops walk consecutive windows; `iocList_append_min` glues two windows clipped at `latest`, and
`flatMap_windows` glues a whole run of them, which is how the scans are shown to cover a range
exactly once.
-/

namespace BlockCache

/-- A path as its components, the root's included. -/
abbrev Path := List String

/-- A Python `bytes` value. -/
abbrev Bytes := List UInt8

/-- Python's `range(start, stop, step)` for `step > 0`: `start, start + step, …` below `stop`.
Its length is `max 0 ((stop - start + step - 1) // step)`. A zero step raises in Python; every
call here passes a positive constant or `main`'s batch size. -/
def pyRange (start stop : Int) (step : Nat) : List Int :=
  (List.range ((stop - start + step - 1) / step).toNat).map fun k : Nat => start + step * k

/-- The ascending list of the integers `h` with `lo < h ≤ hi`. -/
def iocList (lo hi : Int) : List Int := pyRange (lo + 1) (hi + 1) 1

theorem pyRange_one (start stop : Int) :
    pyRange start stop 1 = (List.range (stop - start).toNat).map fun k : Nat => start + k := by
  simp only [pyRange, Nat.cast_one, one_mul, Int.ediv_one, add_sub_cancel_right]

theorem iocList_eq_map (lo hi : Int) :
    iocList lo hi = (List.range (hi - lo).toNat).map fun k : Nat => lo + 1 + k := by
  rw [iocList, pyRange_one, show hi + 1 - (lo + 1) = hi - lo by omega]

theorem mem_iocList {lo hi x : Int} : x ∈ iocList lo hi ↔ lo < x ∧ x ≤ hi := by
  simp only [iocList_eq_map, List.mem_map, List.mem_range]
  constructor
  · rintro ⟨k, hk, rfl⟩; omega
  · intro h; exact ⟨(x - lo - 1).toNat, by omega, by omega⟩

theorem length_iocList (lo hi : Int) : (iocList lo hi).length = (hi - lo).toNat := by
  rw [iocList_eq_map, List.length_map, List.length_range]

theorem iocList_pairwise_lt (lo hi : Int) : (iocList lo hi).Pairwise (· < ·) := by
  rw [iocList_eq_map]
  exact (List.pairwise_lt_range _).map _ fun a b h => by omega

theorem iocList_of_le {lo hi : Int} (h : hi ≤ lo) : iocList lo hi = [] := by
  rw [iocList_eq_map, Int.toNat_eq_zero.2 (by omega : hi - lo ≤ 0)]; rfl

theorem iocList_cons {lo hi : Int} (h : lo < hi) :
    iocList lo hi = (lo + 1) :: iocList (lo + 1) hi := by
  rw [iocList_eq_map, iocList_eq_map, show (hi - lo).toNat = (hi - (lo + 1)).toNat + 1 by omega,
    List.range_succ_eq_map, List.map_cons, List.map_map]
  congr 1
  · simp
  · refine List.map_congr_left fun k _ => ?_
    simp only [Function.comp_apply, Nat.succ_eq_add_one]
    omega

theorem takeWhile_iocList (L lo hi : Int) :
    (iocList lo hi).takeWhile (fun h => !decide (h > L)) = iocList lo (min hi L) := by
  obtain ⟨n, h⟩ : ∃ n, (hi - lo).toNat = n := ⟨_, rfl⟩
  induction n generalizing lo with
  | zero => rw [iocList_of_le (by omega), iocList_of_le (by omega)]; rfl
  | succ n ih =>
    rw [iocList_cons (by omega), List.takeWhile_cons]
    by_cases hL : lo + 1 > L
    · simp only [hL, decide_True, Bool.not_true]
      have hnil : iocList lo (min hi L) = [] := iocList_of_le (by omega)
      rw [hnil]; rfl
    · have hlt : lo < min hi L := lt_min (by omega) (by omega)
      simp only [hL, decide_False, Bool.not_false, ih (lo + 1) (by omega), if_true]
      rw [iocList_cons hlt]

theorem iocList_append {p q r : Int} (hpq : p ≤ q) (hqr : q ≤ r) :
    iocList p q ++ iocList q r = iocList p r := by
  have hsplit : (r - p).toNat = (q - p).toNat + (r - q).toNat := by omega
  rw [iocList_eq_map p r, hsplit, List.range_add, List.map_append, List.map_map, iocList_eq_map,
    iocList_eq_map]
  congr 1
  refine List.map_congr_left fun k _ => ?_
  simp only [Function.comp_apply]
  omega

theorem iocList_append_min {p q r : Int} (L : Int) (hpq : p ≤ q) (hqr : q ≤ r) :
    iocList p (min q L) ++ iocList q (min r L) = iocList p (min r L) := by
  rcases le_or_lt L q with hL | hL
  · have hnil : iocList q (min r L) = [] := iocList_of_le (min_le_right r L |>.trans hL)
    rw [hnil, List.append_nil, min_eq_right hL,
      min_eq_right (hL.trans hqr)]
  · rw [min_eq_left hL.le, iocList_append hpq (le_min hqr hL.le)]

theorem flatMap_windows (x a L : Int) (s : Nat) (hx : x ≤ a + s) (n : Nat) :
    ((List.range n).map fun k : Nat => a + s * k).flatMap
        (fun T => iocList (max x T) (min (T + s) L)) =
      iocList (max x a) (min (a + s * n) L) := by
  have hfirst : iocList (max x a) (min a L) = [] :=
    iocList_of_le (min_le_left a L |>.trans (le_max_right x a))
  induction n with
  | zero => simpa using hfirst.symm
  | succ n ih =>
    rw [List.range_succ, List.map_append, List.flatMap_append, ih]
    simp only [List.map_cons, List.map_nil, List.flatMap_cons, List.flatMap_nil, List.append_nil]
    rcases Nat.eq_zero_or_pos n with rfl | hn
    · simp [hfirst]
    · have hsn : (s : Int) ≤ s * n := by exact_mod_cast Nat.le_mul_of_pos_right s hn
      rw [max_eq_right (by omega : x ≤ a + s * n),
        iocList_append_min L (by omega) (by omega)]
      push_cast; ring_nf

end BlockCache

namespace BlockCache

/-- The Python exceptions the model tells apart. `requestException` is
`requests.RequestException` (its `JSONDecodeError` included); `osError` covers the
file-system errors. -/
inductive PyExc where
  | keyError
  | typeError
  | valueError
  | attributeError
  | overflowError
  | indexError
  | osError
  | permissionError
  | requestException
  deriving DecidableEq, Repr

/-- Results of the model compare by value, so that a run on a concrete input can be decided. -/
instance instDecidableEqExcept {ε α : Type} [DecidableEq ε] [DecidableEq α] :
    DecidableEq (Except ε α)
  | .ok a, .ok b => if h : a = b then isTrue (h ▸ rfl) else isFalse fun e => h (Except.ok.inj e)
  | .error a, .error b =>
    if h : a = b then isTrue (h ▸ rfl) else isFalse fun e => h (Except.error.inj e)
  | .ok _, .error _ => isFalse nofun
  | .error _, .ok _ => isFalse nofun

/-! A `do` block of the model runs step by step once each step is known to succeed. -/

@[simp] theorem ok_bind {ε α β : Type} (a : α) (f : α → Except ε β) :
    (Except.ok a >>= f) = f a := rfl

@[simp] theorem pure_eq_ok {ε α : Type} (a : α) : (pure a : Except ε α) = .ok a := rfl

/-- A `do` step that returned: its first computation returned, and so did the rest. -/
@[simp] theorem error_bind {ε α β : Type} (e : ε) (f : α → Except ε β) :
    (Except.error e >>= f) = .error e := rfl

theorem bind_eq_ok {ε α β : Type} {x : Except ε α} {f : α → Except ε β} {b : β} :
    x >>= f = .ok b ↔ ∃ a, x = .ok a ∧ f a = .ok b := by
  cases x with
  | error e => exact ⟨nofun, fun ⟨_, h, _⟩ => nomatch h⟩
  | ok a => exact ⟨fun h => ⟨a, rfl, h⟩, fun ⟨_, h, hf⟩ => by cases h; exact hf⟩

theorem foldlM_ok_induction {ε σ α : Type} {f : σ → α → Except ε σ} (motive : σ → Prop)
    (hstep : ∀ s x s', f s x = .ok s' → motive s → motive s') :
    ∀ {xs : List α} {s s' : σ}, xs.foldlM f s = .ok s' → motive s → motive s'
  | [], _, _, h => by cases h; exact id
  | x :: _, s, _, h => by
    rw [List.foldlM_cons] at h
    obtain ⟨t, ht, h⟩ := bind_eq_ok.1 h
    exact fun hs => foldlM_ok_induction motive hstep h (hstep s x t ht hs)

theorem foldlM_ok_prefix_induction {ε σ α : Type} {f : σ → α → Except ε σ}
    (motive : List α → σ → Prop) {xs : List α}
    (hstep : ∀ pre x rest s s', pre ++ x :: rest = xs → f s x = .ok s' → motive pre s →
      motive (pre ++ [x]) s') {s s' : σ} (h : xs.foldlM f s = .ok s') (h0 : motive [] s) :
    motive xs s' := by
  suffices ∀ rest pre s, pre ++ rest = xs → rest.foldlM f s = .ok s' → motive pre s → motive xs s'
    from this xs [] s rfl h h0
  intro rest
  induction rest with
  | nil => intro pre s hpre h hs; cases h; simpa [← hpre] using hs
  | cons x rest ih =>
    intro pre s hpre h hs
    rw [List.foldlM_cons] at h
    obtain ⟨t, ht, h⟩ := bind_eq_ok.1 h
    exact ih (pre ++ [x]) t (by simpa using hpre) h (hstep pre x rest s t hpre ht hs)

theorem mapM_eq_ok {ε α β : Type} {f : α → Except ε β} {g : α → β} :
    ∀ {xs : List α}, (∀ x ∈ xs, f x = .ok (g x)) → xs.mapM f = .ok (xs.map g)
  | [], _ => rfl
  | x :: xs, h => by
    rw [List.mapM_cons, h x (List.mem_cons_self x xs),
      mapM_eq_ok fun y hy => h y (List.mem_cons_of_mem x hy)]
    rfl

end BlockCache

namespace BlockCache

/-- The `--chain` choice. -/
inductive Chain where
  | testnet
  | mainnet
  deriving DecidableEq, Repr

end BlockCache

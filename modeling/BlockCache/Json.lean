import BlockCache.Basic

/-!
# JSON values as Python handles them

`json.loads` yields `None`, `bool`, `int`, `str`, `list` and `dict`. Objects keep their members in
order, repeated keys included; a lookup finds the last binding, as `json.loads` keeps the last
value of a repeated key. Numbers are integers (ids and the node's quantities are; floats are not
modelled).

The dictionary operations the scripts use are written as Python runs them, with the exception
each raises on a value of the wrong shape: `index` is `v[k]`, `get` is `v.get(k, d)`, `iter` is
`for x in v`, and `toKey` is what a value becomes as a `dict` key (`True` and `1` are one key).
-/

namespace BlockCache

/-- A JSON value. -/
inductive Json where
  | null
  | bool (b : Bool)
  | num (n : Int)
  | str (s : String)
  | arr (xs : List Json)
  | obj (kvs : List (String × Json))
  deriving Inhabited

/-- A hashable Python value used as a `dict` key. -/
inductive PyKey where
  | none
  | int (n : Int)
  | str (s : String)
  deriving DecidableEq, Repr

namespace Json

/-- Python truthiness (`if v`, `not v`, `v or d`). -/
def truthy : Json → Bool
  | null => false
  | bool b => b
  | num n => n != 0
  | str s => !s.isEmpty
  | arr xs => !xs.isEmpty
  | obj kvs => !kvs.isEmpty

/-- The value bound to `k` among an object's members: the last binding. -/
def find? (kvs : List (String × Json)) (k : String) : Option Json := kvs.reverse.lookup k

/-- `v[k]` for a string key. -/
def index : Json → String → Except PyExc Json
  | obj kvs, k => match find? kvs k with
    | some v => .ok v
    | none => .error .keyError
  | _, _ => .error .typeError

/-- `v.get(k, d)`; `v.get(k)` is `v.get(k, None)`. -/
def get : Json → String → Json → Except PyExc Json
  | obj kvs, k, d => .ok ((find? kvs k).getD d)
  | _, _, _ => .error .attributeError

/-- `for x in v`: a list's items, a dict's keys, a string's characters. -/
def iter : Json → Except PyExc (List Json)
  | arr xs => .ok xs
  | obj kvs => .ok (kvs.map fun kv => str kv.1)
  | str s => .ok (s.data.map fun c => str (String.singleton c))
  | _ => .error .typeError

/-- The `dict` key a value hashes to. -/
def toKey : Json → Except PyExc PyKey
  | null => .ok .none
  | bool b => .ok (.int (if b then 1 else 0))
  | num n => .ok (.int n)
  | str s => .ok (.str s)
  | _ => .error .typeError

/-- `v == s` for a string `s`. -/
def isStr (v : Json) (s : String) : Bool :=
  match v with
  | str t => t == s
  | _ => false

@[simp] theorem get_obj (kvs : List (String × Json)) (k : String) (d : Json) :
    (obj kvs).get k d = .ok ((find? kvs k).getD d) := rfl

@[simp] theorem index_obj (kvs : List (String × Json)) (k : String) :
    (obj kvs).index k = match find? kvs k with
      | some v => .ok v
      | none => .error .keyError := rfl

end Json
end BlockCache

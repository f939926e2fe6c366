import Mathlib
import VeraMesh.Lib.Dict
import VeraMesh.Python.Error
import VeraMesh.Python.Float

/-!
# Python values and built-ins

The values that `json.loads` produces and the built-in functions the agent applies to them.
`Runtime` collects what depends on the host or on large tables of the Unicode database:
`os.name`, `str.casefold` and `str.lower`, the printable characters, and the parsing and printing of
numbers.
Every result holds for an arbitrary `Runtime`.
-/

namespace VeraMesh.Python

/-- A value decoded from JSON. -/
inductive PyValue where
  | none
  | bool (b : Bool)
  | int (n : ℤ)
  | float (x : PyFloat)
  | str (s : String)
  | list (l : List PyValue)
  | dict (d : List (String × PyValue))

/-- The part of the Python runtime that the model leaves open. -/
structure Runtime where
  /-- `os.name == "nt"`. -/
  nt : Bool
  /-- `str.casefold`. -/
  casefold : String → String
  /-- `str.lower`. -/
  lower : String → String
  /-- The characters `repr` prints as they are. -/
  isPrintable : Char → Bool
  /-- `int(s)` for a string `s`, `none` if `s` is no integer literal. -/
  intOfStr : String → Option ℤ
  /-- `float(s)` for a string `s`, `none` if `s` is no float literal. -/
  floatOfStr : String → Option PyFloat
  /-- `str(v)` for a value `v` that is not a string. -/
  strOfValue : PyValue → String

/-! ## Strings -/

/-- `c.isspace()`, the characters removed by `str.strip()`. -/
def isSpace (c : Char) : Bool :=
  let n := c.toNat
  (9 ≤ n ∧ n ≤ 13) || (28 ≤ n ∧ n ≤ 32) || n == 0x85 || n == 0xA0 || n == 0x1680 ||
    (0x2000 ≤ n ∧ n ≤ 0x200A) || n == 0x2028 || n == 0x2029 || n == 0x202F || n == 0x205F ||
    n == 0x3000

/-- `not s.strip()`. -/
def isBlank (s : String) : Bool := s.toList.all isSpace

/-- `s.rstrip("/")`. -/
def rstripSlash (s : String) : String :=
  String.ofList (s.toList.reverse.dropWhile (· == '/')).reverse

/-- `s.startswith(p)`. -/
def startsWith (s p : String) : Bool := p.toList.isPrefixOf s.toList

theorem startsWith_eq_true_iff {s p : String} :
    startsWith s p = true ↔ p.toList <+: s.toList := by
  rw [startsWith, List.isPrefixOf_iff_prefix]

/-- The `n` lowest hexadecimal digits of `k`. -/
def hexDigits (n k : ℕ) : String :=
  String.ofList ((List.range n).reverse.map fun i => Nat.digitChar (k / 16 ^ i % 16))

/-- One character inside `repr(s)`, where `quote` delimits the whole. -/
def Runtime.reprChar (rt : Runtime) (quote c : Char) : String :=
  if c = '\\' then "\\\\"
  else if c = quote then "\\" ++ String.singleton c
  else if c = '\n' then "\\n"
  else if c = '\r' then "\\r"
  else if c = '\t' then "\\t"
  else if rt.isPrintable c then String.singleton c
  else if c.toNat < 0x100 then "\\x" ++ hexDigits 2 c.toNat
  else if c.toNat < 0x10000 then "\\u" ++ hexDigits 4 c.toNat
  else "\\U" ++ hexDigits 8 c.toNat

/-- `repr(s)`: single quotes unless `s` has a single and no double quote. -/
def Runtime.reprStr (rt : Runtime) (s : String) : String :=
  let quote := if '\'' ∈ s.toList ∧ '"' ∉ s.toList then '"' else '\''
  String.singleton quote ++ String.join (s.toList.map (rt.reprChar quote)) ++
    String.singleton quote

/-- `repr(l)` for a list of strings. -/
def Runtime.reprStrList (rt : Runtime) (l : List String) : String :=
  "[" ++ String.intercalate ", " (l.map rt.reprStr) ++ "]"

/-- `sorted(set(l))` for strings. -/
def sortedSet (l : List String) : List String := l.dedup.insertionSort (· ≤ ·)

theorem mem_sortedSet {l : List String} {s : String} : s ∈ sortedSet l ↔ s ∈ l := by
  rw [sortedSet, List.mem_insertionSort, List.mem_dedup]

/-! ## Conversions -/

/-- The name of a value's type in messages. -/
def PyValue.typeName : PyValue → String
  | .none => "NoneType"
  | .bool _ => "bool"
  | .int _ => "int"
  | .float _ => "float"
  | .str _ => "str"
  | .list _ => "list"
  | .dict _ => "dict"

/-- `str(v)`. -/
def Runtime.str (rt : Runtime) : PyValue → String
  | .str s => s
  | v => rt.strOfValue v

@[simp]
theorem Runtime.str_str (rt : Runtime) (s : String) : rt.str (.str s) = s := rfl

/-- `repr(v)`. It differs from `str(v)` on strings only. -/
def Runtime.repr (rt : Runtime) : PyValue → String
  | .str s => rt.reprStr s
  | v => rt.strOfValue v

/-- `int(v)`. A float is truncated towards zero. -/
def Runtime.int (rt : Runtime) : PyValue → Except PyError ℤ
  | .int n => .ok n
  | .bool b => .ok (if b then 1 else 0)
  | .float (.finite q) => .ok (PyFloat.trunc q)
  | .float .nan => .error ⟨.valueError, "cannot convert float NaN to integer"⟩
  | .float _ => .error ⟨.overflowError, "cannot convert float infinity to integer"⟩
  | .str s =>
      match rt.intOfStr s with
      | some n => .ok n
      | none => .error ⟨.valueError, "invalid literal for int() with base 10: " ++ rt.reprStr s⟩
  | v => .error ⟨.typeError,
      "int() argument must be a string, a bytes-like object or a real number, not '" ++
        v.typeName ++ "'"⟩

/-- `float(v)`. -/
def Runtime.float (rt : Runtime) : PyValue → Except PyError PyFloat
  | .float x => .ok x
  | .bool b => .ok (if b then 1 else 0)
  | .int n =>
      match PyFloat.ofRat n with
      | .finite q => .ok (.finite q)
      | _ => .error ⟨.overflowError, "int too large to convert to float"⟩
  | .str s =>
      match rt.floatOfStr s with
      | some x => .ok x
      | none => .error ⟨.valueError, "could not convert string to float: " ++ rt.reprStr s⟩
  | v => .error ⟨.typeError,
      "float() argument must be a string or a real number, not '" ++ v.typeName ++ "'"⟩

/-- `type(v) is int`, with a value that passes. -/
def requireInt (v : PyValue) (p : ℤ → Bool) (err : PyError) : Except PyError ℤ :=
  match v with
  | .int n => if p n then .ok n else .error err
  | _ => .error err

theorem requireInt_eq_ok {v : PyValue} {p : ℤ → Bool} {err : PyError} {n : ℤ} :
    requireInt v p err = .ok n ↔ v = .int n ∧ p n = true := by
  cases v with
  | int m =>
    rw [requireInt, PyValue.int.injEq]
    split_ifs with hp
    · rw [Except.ok.injEq]
      exact ⟨fun h => ⟨h, h ▸ hp⟩, fun h => h.1⟩
    · constructor
      · intro h
        cases h
      · rintro ⟨rfl, hn⟩
        exact absurd hn hp
  | none | bool | float | str | list | dict => simp [requireInt]

/-- `type(v) is bool`. -/
def requireBool (v : PyValue) (err : PyError) : Except PyError Bool :=
  match v with
  | .bool b => .ok b
  | _ => .error err

/-- The values of `for item in v`. -/
def PyValue.iterate : PyValue → Except PyError (List PyValue)
  | .list l => .ok l
  | .dict d => .ok (d.map fun e => .str e.1)
  | .str s => .ok (s.toList.map fun c => .str (String.singleton c))
  | v => .error ⟨.typeError, "'" ++ v.typeName ++ "' object is not iterable"⟩

/-- A runtime that knows the ASCII characters, for evaluating the model on concrete inputs. -/
def Runtime.ascii (nt : Bool) : Runtime where
  nt := nt
  casefold s := String.ofList (s.toList.map Char.toLower)
  lower s := String.ofList (s.toList.map Char.toLower)
  isPrintable c := 32 ≤ c.toNat && c.toNat ≤ 126
  intOfStr s := s.toInt?
  floatOfStr s := s.toInt?.map fun n => PyFloat.ofRat n
  strOfValue v :=
    match v with
    | .none => "None"
    | .bool b => if b then "True" else "False"
    | .int n => toString n
    | _ => v.typeName

/-! ## Dictionaries -/

/-- `request[key]`. -/
def Runtime.getItem (rt : Runtime) (request : Dict String PyValue) (key : String) :
    Except PyError PyValue :=
  match request.get? key with
  | some v => .ok v
  | none => .error ⟨.keyError, rt.reprStr key⟩

/-- `item[key]` for a value that need not be a dictionary. -/
def Runtime.subscript (rt : Runtime) (item : PyValue) (key : String) : Except PyError PyValue :=
  match item with
  | .dict members => rt.getItem (.ofList members) key
  | .list _ => .error ⟨.typeError, "list indices must be integers or slices, not str"⟩
  | .str _ => .error ⟨.typeError, "string indices must be integers, not 'str'"⟩
  | v => .error ⟨.typeError, "'" ++ v.typeName ++ "' object is not subscriptable"⟩

/-- `request.get(key, default)`. -/
def getD (request : Dict String PyValue) (key : String) (default : PyValue) : PyValue :=
  (request.get? key).getD default

end VeraMesh.Python

import VeraMesh.Lib.Dict
import VeraMesh.Python.Float

/-!
# Go values

The values the Go gateway handles as `any`: what `encoding/json` produces and what the gateway
builds itself. An `int` and an `int64` are one case, and so are `[]string` and `[]any`, or
`[]map[string]any` and `[]any`, since no modelled function tells them apart.
-/

namespace VeraMesh.Gateway

/-- A `float64`. -/
abbrev Float64 := Python.PyFloat

/-- A value of type `any`. -/
inductive GoValue where
  | nil
  | bool (b : Bool)
  /-- An `int` or `int64`. -/
  | int (n : ℤ)
  /-- A `json.Number`. -/
  | number (literal : String)
  | float (x : Float64)
  | str (s : String)
  | list (l : List GoValue)
  | map (m : List (String × GoValue))

/-- A `map[string]any`. -/
abbrev GoMap := Dict String GoValue

/-- `m[key]`. -/
def GoMap.index (m : GoMap) (key : String) : GoValue := (m.get? key).getD .nil

/-- `v.(string)`. -/
def GoValue.asString? : GoValue → Option String
  | .str s => some s
  | _ => none

/-- `s, _ := v.(string)`. -/
def GoValue.asString (v : GoValue) : String := v.asString?.getD ""

/-- `v.(map[string]any)`. -/
def GoValue.asMap? : GoValue → Option GoMap
  | .map m => some (.ofList m)
  | _ => none

/-- `m, _ := v.(map[string]any)`. -/
def GoValue.asMap (v : GoValue) : GoMap := v.asMap?.getD .empty

/-- `ok, _ := v.(bool)`. -/
def GoValue.isTrue : GoValue → Bool
  | .bool b => b
  | _ => false

/-- An error: its message and, where a `RemoteError` is in its chain, that error's code. -/
structure GoError where
  message : String
  remoteCode : Option String := none
  deriving DecidableEq

/-- `fmt.Errorf("%s: %w", label, err)`. -/
def GoError.wrap (label : String) (err : GoError) : GoError :=
  { err with message := label ++ ": " ++ err.message }

/-- `errors.Join(errs...)`. -/
def joinErrors (errs : List GoError) : GoError where
  message := String.intercalate "\n" (errs.map (·.message))
  remoteCode := errs.findSome? (·.remoteCode)

/-- The value of a string of decimal digits. -/
def parseDigits (digits : List Char) : Option ℕ :=
  if digits = [] ∨ ¬digits.all Char.isDigit then none
  else some (digits.foldl (fun n c => 10 * n + (c.toNat - '0'.toNat)) 0)

/-- `strconv.ParseInt(s, 10, 64)`. -/
def parseInt64 (s : String) : Option ℤ :=
  let signed : Option ℤ :=
    match s.toList with
    | '-' :: digits => (parseDigits digits).map fun n => -(n : ℤ)
    | '+' :: digits => (parseDigits digits).map Int.ofNat
    | digits => (parseDigits digits).map Int.ofNat
  signed.bind fun n => if -2 ^ 63 ≤ n ∧ n < 2 ^ 63 then some n else none

/-- `int64(x)`. Out of range the result is the least integer, as the amd64 instruction has it. -/
def toInt64 : Float64 → ℤ
  | .finite q =>
    let n := Python.PyFloat.trunc q
    if -2 ^ 63 ≤ n ∧ n < 2 ^ 63 then n else -2 ^ 63
  | _ => -2 ^ 63

/-- An `int64` result of an operation that overflows. -/
def wrapInt64 (n : ℤ) : ℤ := n.bmod (2 ^ 64)

/-- `exactInt64`. The upper bound of the check is `float64(math.MaxInt64)`, that is `2 ^ 63`. -/
def exactInt64 : GoValue → Option ℤ
  | .int n => some n
  | .number literal => parseInt64 literal
  | .float (.finite q) =>
    if q.den ≠ 1 ∨ q < -2 ^ 63 ∨ 2 ^ 63 < q then none else some (toInt64 (.finite q))
  | _ => none

end VeraMesh.Gateway

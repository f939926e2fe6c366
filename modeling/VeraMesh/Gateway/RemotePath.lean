import VeraMesh.Gateway.Value

/-!
# Remote paths

`CanonicalRemotePath` of `facade.go` and the standard library functions it uses. Text is a list of
characters here; the source indexes bytes, which is the same for the ASCII characters it looks for.
-/

namespace VeraMesh.Gateway

/-- `unicode.IsSpace`. -/
def isSpace (c : Char) : Bool :=
  ('\t' ≤ c && c ≤ '\r') || c ∈ [' ', '\u0085', '\u00a0', '\u1680', '\u2028', '\u2029', '\u202f',
    '\u205f', '\u3000'] || ('\u2000' ≤ c && c ≤ '\u200a')

/-- `strings.TrimSpace`. -/
def trimSpace (s : List Char) : List Char :=
  ((s.dropWhile isSpace).reverse.dropWhile isSpace).reverse

/-- What `path.Clean` makes of the segments read so far, latest first, when it reads another. -/
def cleanSegment (rooted : Bool) (stack : List (List Char)) (segment : List Char) :
    List (List Char) :=
  if segment = [] ∨ segment = ['.'] then stack
  else if segment = ['.', '.'] then
    match stack with
    | [] => if rooted then [] else [segment]
    | top :: rest => if top = ['.', '.'] then segment :: stack else rest
  else segment :: stack

/-- `path.Clean`. -/
def cleanPath (s : List Char) : List Char :=
  let rooted := s.head? == some '/'
  let stack := (s.splitOn '/').foldl (cleanSegment rooted) []
  let joined := ['/'].intercalate stack.reverse
  if rooted then '/' :: joined else if joined = [] then ['.'] else joined

/-- The loop over the segments of a UNC path below its share, latest first. -/
def uncSegments : List (List Char) → List (List Char) → Option (List (List Char))
  | stack, [] => some stack
  | stack, segment :: rest =>
    if segment = [] ∨ segment = ['.'] then uncSegments stack rest
    else if segment = ['.', '.'] then
      match stack with
      | [] => none
      | _ :: stack => uncSegments stack rest
    else uncSegments (segment :: stack) rest

/-- The branch of `CanonicalRemotePath` for `//host/share/...`, without the two slashes. -/
def canonicalUNC (s : List Char) : Except GoError (List Char) :=
  match s.splitOn '/' with
  | host :: share :: rest =>
    if host = [] ∨ share = [] then .error ⟨"UNC path must name a host/share", none⟩
    else
      let root := '/' :: '/' :: host ++ '/' :: share
      match uncSegments [] rest with
      | none => .error ⟨"UNC path must not escape its share root", none⟩
      | some [] => .ok root
      | some stack => .ok (root ++ '/' :: ['/'].intercalate stack.reverse)
  | _ => .error ⟨"UNC path must name a host/share", none⟩

/-- The branch of `CanonicalRemotePath` for a path on a drive. -/
def canonicalDrive (drive : Char) (s : List Char) : Except GoError (List Char) :=
  if !drive.isAlpha then .error ⟨"Windows drive path must begin with a drive letter", none⟩
  else
    let clean := cleanPath s
    if clean.head? != some '/' then .error ⟨"path must be absolute", none⟩
    else .ok (drive :: ':' :: clean)

/-- `CanonicalRemotePath` after its first replacement. -/
def canonicalSlashed (raw : List Char) : Except GoError (List Char) :=
  let plain : Except GoError (List Char) :=
    let clean := cleanPath raw
    if clean.head? != some '/' then .error ⟨"path must be absolute", none⟩ else .ok clean
  match raw with
  | drive :: ':' :: '/' :: rest =>
    if drive.toNat < 128 then canonicalDrive drive ('/' :: rest) else plain
  | '/' :: '/' :: rest => canonicalUNC rest
  | _ => plain

/-- `CanonicalRemotePath`. -/
def canonicalRemotePath (value : String) : Except GoError String :=
  let raw := trimSpace value.toList
  if raw = [] then .error ⟨"path must be a non-empty absolute string", none⟩
  else if '\x00' ∈ raw then .error ⟨"path must not contain NUL", none⟩
  else
    (canonicalSlashed (raw.map fun c => if c = '\\' then '/' else c)).map String.ofList

end VeraMesh.Gateway

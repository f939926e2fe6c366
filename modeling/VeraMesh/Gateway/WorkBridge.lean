import VeraMesh.Backend.Listing
import VeraMesh.Gateway.PosixPath
import VeraMesh.Gateway.Tools

/-!
# The WorkBridge fast path

`WorkBridgeClient` of `workbridge_client.go`: which calls of public tools it takes, and what it
forwards to WorkBridge. A call of `CallPublic` submits at most one request; what WorkBridge answers
is a parameter.
-/

namespace VeraMesh.Gateway

/-- What the client uses of Go's Unicode tables. -/
structure Unicode where
  /-- `unicode.ToLower`. -/
  lower : Char → Char
  /-- Slashes and colons have no other case. -/
  lower_eq_iff : ∀ c ∈ ['/', ':'], ∀ d, lower d = c ↔ d = c
  /-- `strconv.Quote`. -/
  quote : String → String

/-- No letter is a slash or a colon, in neither case. -/
theorem toLower_ne_of_letter {c d : Char} (hc : c ∈ ['/', ':'])
    (hd : 'A'.val ≤ d.val ∧ d.val ≤ 'Z'.val) : d.toLower ≠ c ∧ d ≠ c := by
  have hcode : 65 ≤ d.val.toNat ∧ d.val.toNat ≤ 90 :=
    ⟨UInt32.le_iff_toNat_le.mp hd.1, UInt32.le_iff_toNat_le.mp hd.2⟩
  have hmark : c.val.toNat = 47 ∨ c.val.toNat = 58 := by
    simp only [List.mem_cons, List.not_mem_nil, or_false] at hc
    rcases hc with rfl | rfl
    · exact Or.inl rfl
    · exact Or.inr rfl
  have hlower : d.toLower.val.toNat = d.val.toNat + 32 := by
    rw [Char.toLower, dif_pos hd]
    show (d.val + 32).toNat = _
    rw [UInt32.toNat_add]
    show (d.val.toNat + 32) % 2 ^ 32 = _
    omega
  constructor
  · rintro rfl
    omega
  · rintro rfl
    omega

/-- The tables for the letters of ASCII. -/
def asciiUnicode : Unicode where
  lower := Char.toLower
  lower_eq_iff := by
    intro c hc d
    by_cases hd : 'A'.val ≤ d.val ∧ d.val ≤ 'Z'.val
    · exact iff_of_false (toLower_ne_of_letter hc hd).1 (toLower_ne_of_letter hc hd).2
    · rw [Char.toLower, dif_neg hd]
  quote s := "\"" ++ s ++ "\""

variable (u : Unicode)

/-! ## Allowed roots -/

/-- `strings.ToLower`. -/
def Unicode.toLower (s : List Char) : List Char := s.map u.lower

/-- `workBridgeCaseInsensitivePath`. -/
def workBridgeCaseInsensitivePath : List Char → Bool
  | c :: ':' :: '/' :: _ => c.toNat < 128
  | '/' :: '/' :: _ => true
  | _ => false

/-- `workBridgePathWithinRoot`. -/
def workBridgePathWithinRoot (candidate root : List Char) : Bool :=
  let fold := workBridgeCaseInsensitivePath candidate || workBridgeCaseInsensitivePath root
  let candidate := if fold then u.toLower candidate else candidate
  let root := if fold then u.toLower root else root
  candidate == root || (rootPrefix root).isPrefixOf candidate

/-- The loop of `normalizeWorkBridgeRoots`, with the keys seen so far. -/
def normalizeRoots (seen : List (List Char)) : List String → Except GoError (List String)
  | [] => .ok []
  | raw :: values =>
    match canonicalRemotePath raw with
    | .error err => .error (err.wrap ("invalid WorkBridge allowed root " ++ u.quote raw))
    | .ok canon =>
      let key := if workBridgeCaseInsensitivePath canon.toList then u.toLower canon.toList
        else canon.toList
      if key ∈ seen then normalizeRoots seen values
      else (normalizeRoots (key :: seen) values).map (canon :: ·)

/-- `normalizeWorkBridgeRoots`. -/
def normalizeWorkBridgeRoots (values : List String) : Except GoError (List String) :=
  match normalizeRoots u [] values with
  | .error err => .error err
  | .ok [] => .error ⟨"WorkBridge allowed_roots must contain at least one valid root", none⟩
  | .ok (root :: roots) => .ok (root :: roots)

/-! ## The client -/

structure WorkBridgeClient where
  /-- The names of the tools of WorkBridge. -/
  available : List String
  allowedRoots : List String
  /-- `NewWorkBridgeClient` normalises the configured roots. -/
  normalized : ∃ values, normalizeWorkBridgeRoots u values = .ok allowedRoots

/-- A request to WorkBridge. -/
structure WorkBridgeRequest where
  tool : String
  arguments : GoMap

/-- `workBridgePublicToolMap`. -/
def workBridgePublicToolMap : Dict String String := .ofList
  [("read_file", "workspace_read_text"), ("stat_path", "workspace_stat"),
    ("list_directory", "workspace_list"), ("write_file", "workspace_write_text"),
    ("make_directory", "workspace_mkdir")]

/-- `strings.EqualFold` with a name of UTF-8, whose letters have variants in ASCII only. -/
def equalFoldUtf8 (encoding : String) : Bool :=
  let folded := encoding.toList.map Char.toLower
  folded == "utf-8".toList || folded == "utf8".toList

/-- What `CallPublic` makes of the answer to its request. -/
def publicResult (publicName : String) (args out : GoMap) : Except GoError GoMap :=
  let path := args.index "path"
  let backend : GoValue := .str "workbridge"
  match publicName with
  | "read_file" => .ok (.ofList [("path", path), ("content", .str (out.index "text").asString),
      ("encoding", .str "utf-8"), ("backend", backend)])
  | "stat_path" =>
    match (out.index "stat").asMap? with
    | none => .error ⟨"WorkBridge workspace_stat returned invalid structured content", none⟩
    | some stat => .ok (stat.set "backend" backend)
  | "list_directory" =>
    match out.index "entries" with
    | .list rawEntries => do
      let offset ← optInt64 args "offset" 0
      let maxEntries ← optInt64 args "max_entries" 200
      let page ← VeraMesh.WorkBridgeClient.listDirectory path.asString rawEntries offset maxEntries
      return .ofList [("path", path), ("entries", .list page.entries), ("offset", .int page.offset),
        ("next_offset", .int page.nextOffset), ("eof", .bool page.eof), ("backend", backend)]
    | _ => .error ⟨"WorkBridge workspace_list returned invalid structured content", none⟩
  | _ => .ok ((out.set "path" path).set "backend" backend)

namespace WorkBridgeClient

variable {u} (w : WorkBridgeClient u)

/-- `SupportsPublic`. -/
def supportsPublic (publicName : String) : Bool :=
  match workBridgePublicToolMap.get? publicName with
  | none => false
  | some upstream => upstream ∈ w.available

/-- `pathAllowed`. -/
def pathAllowed (raw : String) : Bool :=
  match canonicalRemotePath raw with
  | .error _ => false
  | .ok canon => w.allowedRoots.any fun root =>
    workBridgePathWithinRoot u canon.toList root.toList

/-- `CanHandlePublic`. -/
def canHandlePublic (publicName : String) (args : GoMap) : Bool :=
  let pathAllowed : Bool :=
    match reqString args "path" with
    | .error _ => false
    | .ok pathValue => w.pathAllowed pathValue
  let preserved : Bool :=
    if publicName = "read_file" ∨ publicName = "write_file" then
      equalFoldUtf8 (optString args "encoding" "utf-8")
    else if publicName = "make_directory" then
      match optBool args "parents" true with
      | .error _ => false
      | .ok parents => !parents
    else true
  w.supportsPublic publicName && pathAllowed && preserved

/-- The request of `CallPublic`. -/
def publicRequest (publicName : String) (args : GoMap) : Except GoError WorkBridgeRequest :=
  if !w.canHandlePublic publicName args then
    .error ⟨"WorkBridge cannot preserve semantics for public tool " ++ publicName, none⟩
  else match publicName with
  | "read_file" => do
    let path ← reqString args "path"
    return ⟨"workspace_read_text", .ofList [("path", .str path)]⟩
  | "stat_path" => do
    let path ← reqString args "path"
    return ⟨"workspace_stat", .ofList [("path", .str path)]⟩
  | "list_directory" => do
    let path ← reqString args "path"
    let offset ← optInt64 args "offset" 0
    let maxEntries ← optInt64 args "max_entries" 200
    if offset < 0 ∨ maxEntries < 1 then
      throw ⟨"offset must be >= 0 and max_entries must be >= 1", none⟩
    return ⟨"workspace_list", .ofList [("path", .str path)]⟩
  | "write_file" => do
    let path ← reqString args "path"
    let content ← reqStringAllowEmpty args "content"
    return ⟨"workspace_write_text", .ofList [("path", .str path), ("content", .str content),
      ("overwrite", .bool true)]⟩
  | "make_directory" => do
    let path ← reqString args "path"
    return ⟨"workspace_mkdir", .ofList [("path", .str path)]⟩
  | publicName => throw ⟨"unsupported WorkBridge public mapping: " ++ publicName, none⟩

/-- `CallPublic`, with the answer of WorkBridge, and the requests that it submits. -/
def callPublic (answer : WorkBridgeRequest → Except GoError GoMap) (publicName : String)
    (args : GoMap) : Except GoError GoMap × List WorkBridgeRequest :=
  match w.publicRequest publicName args with
  | .error err => (.error err, [])
  | .ok request =>
    if request.tool ∈ w.available then
      ((answer request).bind (publicResult publicName args), [request])
    else (.error ⟨"WorkBridge tool " ++ request.tool ++ " is unavailable", none⟩, [])

/-! ## The page of `list_directory` -/

/-- `CallPublic` lists a directory: the client takes the call, its arguments decode to two numbers of
64 bits that it admits, and WorkBridge answers with a list. -/
structure Lists (answer : WorkBridgeRequest → Except GoError GoMap) (args : GoMap)
    (rawEntries : List GoValue) (offset maxEntries : ℤ) : Prop where
  handled : w.canHandlePublic "list_directory" args = true
  available : "workspace_list" ∈ w.available
  offset_eq : optInt64 args "offset" 0 = .ok offset
  maxEntries_eq : optInt64 args "max_entries" 200 = .ok maxEntries
  offset_nonneg : 0 ≤ offset
  maxEntries_pos : 1 ≤ maxEntries
  maxEntries_lt : maxEntries < 2 ^ 63
  answered : ∃ out, answer ⟨"workspace_list", .ofList [("path", args.index "path")]⟩ = .ok out ∧
    out.index "entries" = .list rawEntries
  /-- The length of a slice is an `int`. -/
  length_lt : rawEntries.length < 2 ^ 63

/-- The call returns, without a panic, the entries from `min(offset, n)` to
`min(offset + max_entries, n)`, the sum taken exactly. -/
def ListsExactly (answer : WorkBridgeRequest → Except GoError GoMap) (args : GoMap)
    (rawEntries : List GoValue) (offset maxEntries : ℤ) : Prop :=
  let start := min offset rawEntries.length
  let stop := min (offset + maxEntries) rawEntries.length
  0 ≤ start ∧ start ≤ stop ∧ stop ≤ rawEntries.length ∧
    ∃ page, (w.callPublic answer "list_directory" args).1 = .ok page ∧
      page.index "entries" = .list (slice rawEntries start stop) ∧
      page.index "offset" = .int start ∧ page.index "next_offset" = .int stop

variable {w} {answer : WorkBridgeRequest → Except GoError GoMap} {args : GoMap}
  {rawEntries : List GoValue} {offset maxEntries : ℤ}

/-- The path of a call that the client takes. -/
theorem path_of_canHandlePublic {publicName : String} (h : w.canHandlePublic publicName args = true) :
    ∃ path, args.index "path" = .str path ∧ reqString args "path" = .ok path := by
  cases hpath : reqString args "path" with
  | error err => simp [canHandlePublic, hpath] at h
  | ok path => exact ⟨path, index_of_reqString hpath, rfl⟩

/-- A listing is what `listDirectory` makes of the entries that WorkBridge gave. -/
theorem Lists.callPublic_eq (h : w.Lists answer args rawEntries offset maxEntries) :
    (w.callPublic answer "list_directory" args).1 =
      (VeraMesh.WorkBridgeClient.listDirectory (args.index "path").asString rawEntries offset
        maxEntries).map fun page => .ofList [("path", args.index "path"),
          ("entries", .list page.entries), ("offset", .int page.offset),
          ("next_offset", .int page.nextOffset), ("eof", .bool page.eof),
          ("backend", .str "workbridge")] := by
  obtain ⟨out, hanswer, hentries⟩ := h.answered
  obtain ⟨path, hpath, hreq⟩ := path_of_canHandlePublic h.handled
  have hargs : ¬(offset < 0 ∨ maxEntries < 1) := by
    have hoffset := h.offset_nonneg
    have hmax := h.maxEntries_pos
    omega
  have hrequest : w.publicRequest "list_directory" args =
      .ok ⟨"workspace_list", .ofList [("path", args.index "path")]⟩ := by
    simp only [publicRequest, h.handled, hreq, h.offset_eq, h.maxEntries_eq, hpath, bind, Except.bind,
      pure, Except.pure, if_neg hargs, Bool.not_true, Bool.false_eq_true, if_false]
  simp only [callPublic, hrequest, if_pos h.available, hanswer, Except.bind, publicResult, hentries,
    h.offset_eq, h.maxEntries_eq, bind, pure, Except.pure]
  cases VeraMesh.WorkBridgeClient.listDirectory (args.index "path").asString rawEntries offset
    maxEntries <;> rfl

/-- **A page is what it should be** if and only if the sum of its bounds fits into an `int`: otherwise
the sum is negative, and the slice panics. -/
theorem listsExactly_iff (h : w.Lists answer args rawEntries offset maxEntries) :
    w.ListsExactly answer args rawEntries offset maxEntries ↔
      min offset rawEntries.length + maxEntries < 2 ^ 63 := by
  have hoffset := h.offset_nonneg
  have hmax := h.maxEntries_pos
  constructor
  · rintro ⟨-, -, -, page, hpage, -⟩
    by_contra hfits
    rw [h.callPublic_eq, VeraMesh.WorkBridgeClient.listDirectory_panics _ _ h.length_lt hoffset hmax
      h.maxEntries_lt hfits] at hpage
    cases hpage
  · intro hfits
    have hcall := h.callPublic_eq
    rw [VeraMesh.WorkBridgeClient.listDirectory_eq _ _ hoffset hmax hfits] at hcall
    refine ⟨by omega, by omega, by omega, _, hcall, ?_⟩
    simp [GoMap.index, Dict.ofList, Dict.get?_set]

/-- A client that may list `/srv`. -/
def exampleClient : WorkBridgeClient asciiUnicode where
  available := ["workspace_list"]
  allowedRoots := ["/srv"]
  normalized := ⟨["/srv"], by decide +kernel⟩

/-- A directory with one entry. -/
def exampleEntries (_ : WorkBridgeRequest) : Except GoError GoMap :=
  .ok (.ofList [("entries", .list [.str "notes.txt"])])

/-- The arguments that ask for what follows the first entry. -/
def exampleArguments (maxEntries : String) : GoMap :=
  .ofList [("path", .str "/srv"), ("offset", .number "1"), ("max_entries", .number maxEntries)]

theorem listsExactly_iff_example :
    exampleClient.ListsExactly exampleEntries (exampleArguments "2") [.str "notes.txt"] 1 2 ↔
      min 1 1 + 2 < (2 ^ 63 : ℤ) := by
  have hcall : exampleClient.Lists exampleEntries (exampleArguments "2") [.str "notes.txt"] 1 2 :=
    ⟨by decide +kernel, by decide, by decide +kernel, by decide +kernel, by decide, by decide,
      by decide, ⟨_, rfl, rfl⟩, by decide⟩
  exact listsExactly_iff hcall

/-- The greatest `max_entries` that the decoder admits. -/
theorem not_listsExactly :
    exampleClient.Lists exampleEntries (exampleArguments "9223372036854775807") [.str "notes.txt"] 1
        (2 ^ 63 - 1) ∧
      ¬exampleClient.ListsExactly exampleEntries (exampleArguments "9223372036854775807")
        [.str "notes.txt"] 1 (2 ^ 63 - 1) := by
  have hcall : exampleClient.Lists exampleEntries (exampleArguments "9223372036854775807")
      [.str "notes.txt"] 1 (2 ^ 63 - 1) :=
    ⟨by decide +kernel, by decide, by decide +kernel, by decide +kernel, by decide, by decide,
      by decide, ⟨_, rfl, rfl⟩, by decide⟩
  refine ⟨hcall, ?_⟩
  rintro ⟨-, -, -, page, hpage, -⟩
  rw [hcall.callPublic_eq] at hpage
  cases hpage

end WorkBridgeClient

end VeraMesh.Gateway

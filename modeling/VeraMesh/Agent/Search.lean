import VeraMesh.Agent.Work
import VeraMesh.Backend.Listing
import VeraMesh.Lib.Paging
import VeraMesh.Lib.StackWalk
import VeraMesh.Lib.Utf8Decode

/-!
# Searching a directory tree

`search` and `search_content` (`rdc_surface.py`) walk a directory tree with a stack. They leave out
the matches before the offset, return as many as a page may have, and stop at the next one, or when
a budget is used up.

* `searchSync`, `searchContentSync`: the two operations after their calls of `authorize`.
* `searchMatches`, `contentMatches`: all matches within the budgets, in the order of the walk.
* `searchSync_eq`, `searchContentSync_isPaged`: an answer is a window of the matches.
-/

namespace VeraMesh

open Python Except

/-! ## The tree -/

/-- What an entry is, symbolic links not followed. -/
inductive EntryKind where
  | directory
  | file
  | symlink
  | other
  deriving DecidableEq

/-- `type` in the result of a search. -/
def EntryKind.text : EntryKind → String
  | directory => "directory"
  | file => "file"
  | symlink => "symlink"
  | other => "other"

/-- What the searches read of `os.stat_result`. -/
structure EntryStat where
  sizeBytes : ℕ
  mtimeNs : ℤ

/-- An entry of a directory, with what the calls on it give. -/
structure TreeEntry where
  name : String
  kind : EntryKind
  /-- `entry.stat(follow_symlinks=False)`. -/
  stat : Except PyError EntryStat
  /-- The bytes of the file, or the `OSError` of opening it. -/
  content : Except PyError (List UInt8)

/-- A directory tree that does not change. -/
structure FileTree where
  isDir : Path → Bool
  /-- `os.scandir`, `none` if it raises an `OSError`. -/
  scandir : Path → Option (List TreeEntry)

namespace Path

/-- `path.relative_to(root).as_posix()`, for a path below the root. -/
def relative (root path : Path) : String :=
  "/".intercalate (path.parts.drop root.parts.length)

end Path

/-! ## Texts -/

/-- `haystack.find(needle)`. -/
def strFind (needle : List Char) : List Char → Option ℕ
  | [] => if needle = [] then some 0 else none
  | c :: rest =>
    if needle <+: c :: rest then some 0 else (strFind needle rest).map (· + 1)

/-- A character that ends a line. -/
def isLineBreak (c : Char) : Bool :=
  c ∈ ['\n', '\r', '\x0b', '\x0c', '\x1c', '\x1d', '\x1e', '\u0085', '\u2028', '\u2029']

/-- `text.splitlines()`, with the beginning of the first line. -/
def splitLinesFrom : (line : List Char) → List Char → List (List Char)
  | line, [] => if line = [] then [] else [line]
  | line, '\r' :: '\n' :: rest => line :: splitLinesFrom [] rest
  | line, c :: rest =>
    if isLineBreak c then line :: splitLinesFrom [] rest else splitLinesFrom (line ++ [c]) rest

/-- `text.splitlines()`. -/
def splitLines (text : List Char) : List (List Char) := splitLinesFrom [] text

section Walk

variable (rt : Runtime)

/-- `text if case_sensitive else text.casefold()`. -/
def foldCase (caseSensitive : Bool) (text : String) : List Char :=
  if caseSensitive then text.toList else (rt.casefold text).toList

/-- `sorted(list(scan), key=lambda item: (item.name.casefold(), item.name))`. -/
def sortedEntries (scan : List TreeEntry) : List TreeEntry :=
  (sortedScan rt.casefold (scan.map fun entry => (entry.name, entry))).map Prod.snd

/-- The walk of both searches. A node is a directory and its depth. -/
def treeWalk (tree : FileTree) (maxDepth : ℕ) : StackWalk (Path × ℕ) TreeEntry where
  entries d :=
    match tree.scandir d.1 with
    | none => []
    | some scan => sortedEntries rt scan
  child d entry :=
    if entry.kind = .directory ∧ d.2 < maxDepth then some (d.1.child entry.name, d.2 + 1) else none
  rank d := maxDepth - d.2
  rank_child {d entry c} h := by
    split_ifs at h with hchild
    obtain rfl := Option.some.inj h
    show maxDepth - (d.2 + 1) < maxDepth - d.2
    omega

end Walk

/-! ## Searching names -/

/-- The arguments of `search`, but for the page that is asked for. -/
structure SearchRequest where
  query : String
  maxEntries : ℕ
  maxDepth : ℕ
  caseSensitive : Bool

/-- `_entry_json` with the relative path. -/
structure SearchMatch where
  name : String
  path : String
  type : String
  isSymlink : Bool
  sizeBytes : ℕ
  mtimeNs : ℤ
  relativePath : String

/-- The variables of `_search_sync`. -/
structure SearchState where
  scanned : ℕ
  matched : ℕ
  results : List SearchMatch
  moreMatches : Bool
  scanLimitHit : Bool

/-- The result of `search`. -/
structure SearchPage where
  root : String
  query : String
  found : List SearchMatch
  offset : ℕ
  nextOffset : Option ℕ
  scannedEntries : ℕ
  maxEntries : ℕ
  maxDepth : ℕ
  scanLimitHit : Bool
  truncated : Bool

section Search

variable (rt : Runtime) (tree : FileTree) (root : Path) (request : SearchRequest)
  (offset maxResults : ℕ)

/-- `needle in haystack`. -/
def nameMatches (d : Path × ℕ) (entry : TreeEntry) : Bool :=
  (strFind (foldCase rt request.caseSensitive request.query)
    (foldCase rt request.caseSensitive (root.relative (d.1.child entry.name)))).isSome

/-- What is appended for a match. -/
def searchMatch (v : (Path × ℕ) × TreeEntry) : Except PyError SearchMatch := do
  let stat ← v.2.stat
  let path := v.1.1.child v.2.name
  return { name := v.2.name
           path := path.asPosix
           type := v.2.kind.text
           isSymlink := v.2.kind = .symlink
           sizeBytes := stat.sizeBytes
           mtimeNs := stat.mtimeNs
           relativePath := root.relative path }

/-- One entry. -/
def searchBody (v : (Path × ℕ) × TreeEntry) (s : SearchState) :
    Turn SearchState (Except PyError SearchState) :=
  if request.maxEntries ≤ s.scanned then .stop (.ok { s with scanLimitHit := true })
  else
    let s := { s with scanned := s.scanned + 1 }
    if nameMatches rt root request v.1 v.2 = true then
      if offset ≤ s.matched then
        if s.results.length < maxResults then
          match searchMatch root v with
          | .error err => .stop (.error err)
          | .ok found =>
            .go { s with results := s.results ++ [found], matched := s.matched + 1 }
        else .stop (.ok { s with moreMatches := true })
      else .go { s with matched := s.matched + 1 }
    else .go s

/-- The answer at the end of the loop. -/
def searchPage (s : SearchState) : SearchPage :=
  let truncated := s.moreMatches || s.scanLimitHit
  { root := root.asPosix
    query := request.query
    found := s.results
    offset := offset
    nextOffset :=
      if truncated && !s.results.isEmpty then some (offset + s.results.length) else none
    scannedEntries := s.scanned
    maxEntries := request.maxEntries
    maxDepth := request.maxDepth
    scanLimitHit := s.scanLimitHit
    truncated := truncated }

/-- `_search_sync` after the call of `authorize`. -/
def searchSync : Except PyError SearchPage := do
  require (tree.isDir root = true) ⟨.notADirectoryError, root.str rt⟩
  let s ← ((treeWalk rt tree request.maxDepth).exec (searchBody rt root request offset maxResults) [(root, 0)]
    ⟨0, 0, [], false, false⟩).outcome
  return searchPage root request offset s

/-- The matches among the first entries. -/
def matchesIn (l : List ((Path × ℕ) × TreeEntry)) (entries : ℕ) : List ((Path × ℕ) × TreeEntry) :=
  (l.take entries).filter fun v => nameMatches rt root request v.1 v.2

/-- The matches among the first `max_entries` entries, in the order of the walk. -/
def searchMatches : List ((Path × ℕ) × TreeEntry) :=
  matchesIn rt root request ((treeWalk rt tree request.maxDepth).visits (root, 0))
    request.maxEntries

variable {rt root request offset maxResults}

theorem matchesIn_cons_succ (v : (Path × ℕ) × TreeEntry) (l : List ((Path × ℕ) × TreeEntry))
    (entries : ℕ) :
    matchesIn rt root request (v :: l) (entries + 1) =
      if nameMatches rt root request v.1 v.2 = true then v :: matchesIn rt root request l entries
      else matchesIn rt root request l entries := by
  rw [matchesIn, List.take_succ_cons, List.filter_cons]
  rfl

/-- The loop appends a window of the matches, and stops at the first one behind it. -/
theorem foldTurns_searchBody (l found : List ((Path × ℕ) × TreeEntry)) (s : SearchState)
    (skip room : ℕ)
    (hfound : found = matchesIn rt root request l (request.maxEntries - s.scanned))
    (hskip : skip = offset - s.matched)
    (hroom : room = maxResults - s.results.length) :
    (∀ err, (window skip room found).mapM (searchMatch root) = .error err →
        (foldTurns (searchBody rt root request offset maxResults) l s).outcome = .error err) ∧
      ∀ page, (window skip room found).mapM (searchMatch root) = .ok page →
        ∃ s', (foldTurns (searchBody rt root request offset maxResults) l s).outcome = .ok s' ∧
          s'.results = s.results ++ page ∧
            (s'.moreMatches = false → found.length ≤ skip + room) := by
  induction l generalizing s found skip room with
  | nil =>
    rw [matchesIn, List.take_nil, List.filter_nil] at hfound
    rw [hfound, window_nil, mapM_nil_except]
    refine ⟨by rintro _ ⟨⟩, fun page hpage => ?_⟩
    obtain rfl := Except.ok.inj hpage
    exact ⟨s, rfl, (List.append_nil _).symm, fun _ => Nat.zero_le _⟩
  | cons v l ih =>
    rw [foldTurns, searchBody]
    by_cases hlimit : request.maxEntries ≤ s.scanned
    · -- the budget of entries is used up
      rw [Nat.sub_eq_zero_of_le hlimit, matchesIn, List.take_zero, List.filter_nil] at hfound
      rw [if_pos hlimit, hfound, window_nil, mapM_nil_except]
      refine ⟨by rintro _ ⟨⟩, fun page hpage => ?_⟩
      obtain rfl := Except.ok.inj hpage
      exact ⟨_, rfl, (List.append_nil _).symm, fun _ => Nat.zero_le _⟩
    · rw [if_neg hlimit]
      have hbudget : request.maxEntries - s.scanned =
          request.maxEntries - (s.scanned + 1) + 1 := by omega
      rw [hbudget, matchesIn_cons_succ] at hfound
      dsimp only
      by_cases hmatch : nameMatches rt root request v.1 v.2 = true
      · rw [if_pos hmatch] at hfound
        rw [if_pos hmatch]
        by_cases hoffset : offset ≤ s.matched
        · rw [if_pos hoffset]
          by_cases hfull : s.results.length < maxResults
          · rw [if_pos hfull]
            obtain ⟨room, rfl⟩ := Nat.exists_eq_succ_of_ne_zero (show room ≠ 0 by omega)
            obtain rfl : skip = 0 := by omega
            rw [hfound, List.length_cons, window, List.drop_zero, List.take_succ_cons,
              mapM_cons_except]
            cases hmake : searchMatch root v with
            | error err =>
              refine ⟨fun err' herr => ?_, by rintro _ ⟨⟩⟩
              obtain rfl := Except.error.inj herr
              rfl
            | ok item =>
              obtain ⟨herror, hok⟩ := ih _
                { s with scanned := s.scanned + 1, results := s.results ++ [item],
                         matched := s.matched + 1 } 0 room rfl (by dsimp only; omega)
                (by dsimp only; rw [List.length_append, List.length_singleton]; omega)
              rw [window, List.drop_zero] at herror hok
              cases hrest : ((matchesIn rt root request l
                  (request.maxEntries - (s.scanned + 1))).take room).mapM (searchMatch root) with
              | error err =>
                refine ⟨fun err' herr => ?_, by rintro _ ⟨⟩⟩
                obtain rfl := Except.error.inj herr
                exact herror err hrest
              | ok rest =>
                refine ⟨by rintro _ ⟨⟩, fun page hpage => ?_⟩
                obtain rfl := Except.ok.inj hpage
                obtain ⟨s', houtcome, hresults, hmore⟩ := hok rest hrest
                refine ⟨s', houtcome, ?_, fun h => ?_⟩
                · rw [hresults, List.append_assoc]
                  rfl
                · have hle := hmore h
                  dsimp only at hle
                  omega
          · -- the page is full
            obtain rfl : room = 0 := by omega
            rw [if_neg hfull, window, List.take_zero, mapM_nil_except]
            refine ⟨by rintro _ ⟨⟩, fun page hpage => ?_⟩
            obtain rfl := Except.ok.inj hpage
            exact ⟨_, rfl, (List.append_nil _).symm, by rintro ⟨⟩⟩
        · -- before the offset
          rw [if_neg hoffset, hfound]
          obtain ⟨skip, rfl⟩ := Nat.exists_eq_succ_of_ne_zero (show skip ≠ 0 by omega)
          rw [List.length_cons, window, List.drop_succ_cons]
          obtain ⟨herror, hok⟩ := ih _
            { s with scanned := s.scanned + 1, matched := s.matched + 1 } skip room rfl
            (by dsimp only; omega) hroom
          refine ⟨herror, fun page hpage => ?_⟩
          obtain ⟨s', houtcome, hresults, hmore⟩ := hok page hpage
          refine ⟨s', houtcome, hresults, fun h => ?_⟩
          have hle := hmore h
          dsimp only at hle
          omega
      · rw [if_neg hmatch] at hfound
        rw [if_neg hmatch]
        exact ih found { s with scanned := s.scanned + 1 } skip room hfound hskip hroom

variable (rt root request) in
/-- Page `i` of a caller that asks for `maxResults i` matches: the matches, and the next offset. -/
def askSearch (maxResults : ℕ → ℕ) (i offset : ℕ) :
    Except PyError (List SearchMatch × Option ℕ) :=
  (searchSync rt tree root request offset (maxResults i)).map
    fun page => (page.found, page.nextOffset)

variable (rt root request offset maxResults) in
/-- An answer is a window of the matches. -/
theorem searchSync_window (hdir : tree.isDir root = true) :
    (∀ err, (window offset maxResults
        (searchMatches rt tree root request)).mapM (searchMatch root) = .error err →
          searchSync rt tree root request offset maxResults = .error err) ∧
      ∀ page, (window offset maxResults
          (searchMatches rt tree root request)).mapM (searchMatch root) = .ok page →
        ∃ s, searchSync rt tree root request offset maxResults = .ok (searchPage root request offset s) ∧
          s.results = page ∧ (s.moreMatches = false →
            (searchMatches rt tree root request).length ≤ offset + maxResults) := by
  have hsync : searchSync rt tree root request offset maxResults =
      (foldTurns (searchBody rt root request offset maxResults) ((treeWalk rt tree request.maxDepth).visits (root, 0))
        ⟨0, 0, [], false, false⟩).outcome.map (searchPage root request offset) := by
    rw [searchSync, require, if_pos hdir, StackWalk.exec_eq, List.flatMap_singleton]
    cases (foldTurns _ _ _).outcome <;> rfl
  obtain ⟨herror, hok⟩ := foldTurns_searchBody
    ((treeWalk rt tree request.maxDepth).visits (root, 0)) (searchMatches rt tree root request)
    ⟨0, 0, [], false, false⟩ offset maxResults rfl rfl rfl
  rw [hsync]
  constructor
  · intro err herr
    rw [herror err herr]
    rfl
  · intro page hpage
    obtain ⟨s, houtcome, hresults, hmore⟩ := hok page hpage
    rw [houtcome]
    exact ⟨s, rfl, hresults, hmore⟩

/-- `search` gives its matches in pages. -/
theorem askSearch_isPaged (hdir : tree.isDir root = true) {maxResults : ℕ → ℕ}
    (hmax : ∀ i, 1 ≤ maxResults i) :
    IsPaged (searchMatches rt tree root request) (searchMatch root) maxResults
      (askSearch rt tree root request maxResults) := by
  apply IsPaged.of_truncated hmax
  · intro i offset err herr
    obtain ⟨herror, -⟩ := searchSync_window rt tree root request offset
      (maxResults i) hdir
    rw [askSearch, herror err herr]
    rfl
  · intro i offset page hpage
    obtain ⟨-, hok⟩ := searchSync_window rt tree root request offset
      (maxResults i) hdir
    obtain ⟨s, hsync, rfl, hmore⟩ := hok page hpage
    rw [askSearch, hsync]
    refine ⟨_, rfl, fun htruncated => hmore ?_⟩
    exact (Bool.or_eq_false_iff.mp htruncated).1

end Search

/-! ## Searching contents -/

/-- The arguments of `search_content`, but for the page that is asked for. -/
structure ContentRequest where
  query : String
  filePattern : String
  maxEntries : ℕ
  maxDepth : ℕ
  maxTotalBytes : ℕ
  caseSensitive : Bool

/-- A matching line. -/
structure ContentMatch where
  path : String
  relativePath : String
  line : ℕ
  column : ℕ
  snippet : String
  snippetTruncated : Bool

/-- The variables of `_search_content_sync`. -/
structure ContentState where
  scannedEntries : ℕ
  scannedFiles : ℕ
  bytesScanned : ℕ
  matched : ℕ
  results : List ContentMatch
  scanLimitHit : Bool
  byteLimitHit : Bool
  moreMatches : Bool

/-- The result of `search_content`. -/
structure ContentPage where
  root : String
  query : String
  filePattern : String
  found : List ContentMatch
  offset : ℕ
  nextOffset : Option ℕ
  scannedEntries : ℕ
  scannedFiles : ℕ
  bytesScanned : ℕ
  maxTotalBytes : ℕ
  scanLimitHit : Bool
  byteLimitHit : Bool
  truncated : Bool
  literalSearch : Bool

/-- `MAX_CONTENT_LINE_CHARS`. -/
def maxContentLineChars : ℕ := 2000

/-- What `search_content` depends on besides the tree: `max_read_bytes` of the executor, and
`fnmatch.fnmatch`. -/
structure ContentSearch where
  rt : Runtime
  fnmatch : String → String → Bool
  maxReadBytes : ℕ

namespace ContentSearch

variable (x : ContentSearch) (tree : FileTree) (root : Path) (request : ContentRequest)
  (offset maxResults : ℕ)

/-- The result for a line, if it matches. -/
def lineMatch (path : Path) (lineNumber : ℕ) (line : List Char) : Option ContentMatch :=
  (strFind (foldCase x.rt request.caseSensitive request.query)
    (foldCase x.rt request.caseSensitive (String.ofList line))).map fun column =>
      { path := path.asPosix
        relativePath := root.relative path
        line := lineNumber
        column := column + 1
        snippet := String.ofList (line.take maxContentLineChars)
        snippetTruncated := maxContentLineChars < line.length }

/-- The loop over the lines of a file. -/
def searchLines (path : Path) : (lineNumber : ℕ) → List (List Char) → ContentState →
    Turn ContentState (Except PyError ContentState)
  | _, [], s => .go s
  | lineNumber, line :: lines, s =>
    match x.lineMatch root request path lineNumber line with
    | none => searchLines path (lineNumber + 1) lines s
    | some found =>
      if offset ≤ s.matched then
        if maxResults ≤ s.results.length then .stop (.ok { s with moreMatches := true })
        else
          searchLines path (lineNumber + 1) lines
            { s with results := s.results ++ [found], matched := s.matched + 1 }
      else searchLines path (lineNumber + 1) lines { s with matched := s.matched + 1 }

/-- One entry. -/
def contentBody (v : (Path × ℕ) × TreeEntry) (s : ContentState) :
    Turn ContentState (Except PyError ContentState) :=
  if request.maxEntries ≤ s.scannedEntries then .stop (.ok { s with scanLimitHit := true })
  else
    let s := { s with scannedEntries := s.scannedEntries + 1 }
    if v.2.kind = .directory ∧ v.1.2 < request.maxDepth then .go s
    else if v.2.kind ≠ .file ∨ x.fnmatch v.2.name request.filePattern = false then .go s
    else
      match v.2.stat with
      | .error _ => .go s
      | .ok _ =>
        if request.maxTotalBytes ≤ s.bytesScanned then .stop (.ok { s with byteLimitHit := true })
        else
          let perFileLimit := min x.maxReadBytes (request.maxTotalBytes - s.bytesScanned)
          match v.2.content with
          | .error _ => .go s
          | .ok content =>
            let payload := (content.take (perFileLimit + 1)).take perFileLimit
            let s := { s with bytesScanned := s.bytesScanned + payload.length
                              scannedFiles := s.scannedFiles + 1 }
            match x.searchLines root request offset maxResults (v.1.1.child v.2.name) 1
                (splitLines (decodeReplace payload)) s with
            | .stop outcome => .stop outcome
            | .go s =>
              if request.maxTotalBytes ≤ s.bytesScanned then
                .stop (.ok { s with byteLimitHit := true })
              else .go s

/-- The answer at the end of the loop. -/
def contentPage (s : ContentState) : ContentPage :=
  let truncated := s.moreMatches || s.scanLimitHit || s.byteLimitHit
  { root := root.asPosix
    query := request.query
    filePattern := request.filePattern
    found := s.results
    offset := offset
    nextOffset :=
      if truncated && !s.results.isEmpty then some (offset + s.results.length) else none
    scannedEntries := s.scannedEntries
    scannedFiles := s.scannedFiles
    bytesScanned := s.bytesScanned
    maxTotalBytes := request.maxTotalBytes
    scanLimitHit := s.scanLimitHit
    byteLimitHit := s.byteLimitHit
    truncated := truncated
    literalSearch := true }

/-- The variables at the beginning. -/
def initial : ContentState := ⟨0, 0, 0, 0, [], false, false, false⟩

/-- `_search_content_sync` after the call of `authorize`. -/
def searchContentSync : Except PyError ContentPage := do
  require (tree.isDir root = true) ⟨.notADirectoryError, root.str x.rt⟩
  let s ← ((treeWalk x.rt tree request.maxDepth).exec (x.contentBody root request offset maxResults) [(root, 0)]
    initial).outcome
  return contentPage root request offset s

/-! ### The matches -/

/-- The matching lines of a text. -/
def lineMatches (path : Path) : (lineNumber : ℕ) → List (List Char) → List ContentMatch
  | _, [] => []
  | lineNumber, line :: lines =>
    (x.lineMatch root request path lineNumber line).toList ++
      lineMatches path (lineNumber + 1) lines

/-- The matching lines of a file of which the payload is read. -/
def fileMatches (file : Path × List UInt8) : List ContentMatch :=
  x.lineMatches root request file.1 1 (splitLines (decodeReplace file.2))

/-- The file of an entry that is searched: a regular one that has a fitting name and can be read. -/
def searchedFile (v : (Path × ℕ) × TreeEntry) : Option (Path × List UInt8) :=
  if v.2.kind = .file ∧ x.fnmatch v.2.name request.filePattern = true then
    match v.2.stat, v.2.content with
    | .ok _, .ok content => some (v.1.1.child v.2.name, content)
    | _, _ => none
  else none

/-- What is read of the files, once `bytes` bytes have been read. -/
def readFiles : List ((Path × ℕ) × TreeEntry) → (bytes : ℕ) → List (Path × List UInt8)
  | [], _ => []
  | v :: l, bytes =>
    match x.searchedFile request v with
    | none => readFiles l bytes
    | some file =>
      let payload := file.2.take (min x.maxReadBytes (request.maxTotalBytes - bytes))
      (file.1, payload) ::
        if request.maxTotalBytes ≤ bytes + payload.length then []
        else readFiles l (bytes + payload.length)

/-- The matches among the first `max_entries` entries and the first `max_total_bytes` bytes, in the
order of the walk. -/
def contentMatches : List ContentMatch :=
  (x.readFiles request
    (((treeWalk x.rt tree request.maxDepth).visits (root, 0)).take request.maxEntries) 0).flatMap
      (x.fileMatches root request)

variable {x root request offset maxResults}

/-- The loop over the lines appends a window of the matching lines, and stops at the first one
behind it. -/
theorem searchLines_eq (path : Path) (lineNumber : ℕ) (lines : List (List Char)) (s : ContentState)
    (found : List ContentMatch) (skip room : ℕ)
    (hfound : found = x.lineMatches root request path lineNumber lines)
    (hskip : skip = offset - s.matched)
    (hroom : room = maxResults - s.results.length) :
    x.searchLines root request offset maxResults path lineNumber lines s =
      if skip + room < found.length then
        .stop (.ok { s with results := s.results ++ window skip room found
                            matched := s.matched + (skip + room)
                            moreMatches := true })
      else
        .go { s with results := s.results ++ window skip room found
                     matched := s.matched + found.length } := by
  induction lines generalizing lineNumber s found skip room with
  | nil =>
    rw [hfound, lineMatches, window_nil, searchLines, List.append_nil]
    rfl
  | cons line lines ih =>
    rw [lineMatches] at hfound
    rw [searchLines]
    cases hline : x.lineMatch root request path lineNumber line with
    | none =>
      rw [hline] at hfound
      exact ih (lineNumber + 1) s found skip room hfound hskip hroom
    | some item =>
      rw [hline, Option.toList_some, List.singleton_append] at hfound
      dsimp only
      by_cases hoffset : offset ≤ s.matched
      · rw [if_pos hoffset]
        obtain rfl : skip = 0 := by omega
        by_cases hfull : maxResults ≤ s.results.length
        · obtain rfl : room = 0 := by omega
          rw [if_pos hfull, hfound, if_pos (by rw [List.length_cons]; omega), window, List.take_zero,
            List.append_nil]
          rfl
        · rw [if_neg hfull]
          obtain ⟨room, rfl⟩ := Nat.exists_eq_succ_of_ne_zero (show room ≠ 0 by omega)
          rw [ih (lineNumber + 1)
            { s with results := s.results ++ [item], matched := s.matched + 1 } _ 0 room rfl
            (by dsimp only; omega)
            (by dsimp only; rw [List.length_append, List.length_singleton]; omega), hfound,
            window_zero_cons, List.length_cons]
          dsimp only
          have hcons : ∀ rest : List ContentMatch,
              s.results ++ [item] ++ rest = s.results ++ item :: rest := fun rest => by
            rw [List.append_assoc]
            rfl
          rw [hcons]
          split_ifs with hrest hall hall
          · rw [show s.matched + 1 + (0 + room) = s.matched + (0 + (room + 1)) by omega]
          · omega
          · omega
          · rw [Nat.add_assoc, Nat.add_comm 1]
      · rw [if_neg hoffset]
        obtain ⟨skip, rfl⟩ := Nat.exists_eq_succ_of_ne_zero (show skip ≠ 0 by omega)
        rw [ih (lineNumber + 1) { s with matched := s.matched + 1 } _ skip room rfl
          (by dsimp only; omega) hroom, hfound, window_succ_cons, List.length_cons]
        dsimp only
        split_ifs with hrest hall hall
        · rw [show s.matched + 1 + (skip + room) = s.matched + (skip.succ + room) by omega]
        · omega
        · omega
        · rw [Nat.add_assoc, Nat.add_comm 1]

/-- One entry, while the budgets last. -/
theorem contentBody_eq (v : (Path × ℕ) × TreeEntry) (s : ContentState)
    (hentries : s.scannedEntries < request.maxEntries)
    (hbytes : s.bytesScanned < request.maxTotalBytes) :
    x.contentBody root request offset maxResults v s =
      match x.searchedFile request v with
      | none => .go { s with scannedEntries := s.scannedEntries + 1 }
      | some file =>
        (x.searchLines root request offset maxResults file.1 1 (splitLines (decodeReplace (file.2.take
            (min x.maxReadBytes (request.maxTotalBytes - s.bytesScanned)))))
          { s with
            scannedEntries := s.scannedEntries + 1
            bytesScanned := s.bytesScanned + (file.2.take
              (min x.maxReadBytes (request.maxTotalBytes - s.bytesScanned))).length
            scannedFiles := s.scannedFiles + 1 }).andThen fun s =>
          if request.maxTotalBytes ≤ s.bytesScanned then .stop (.ok { s with byteLimitHit := true })
          else .go s := by
  rw [contentBody, if_neg (by omega)]
  dsimp only
  by_cases hsearch : v.2.kind = .file ∧ x.fnmatch v.2.name request.filePattern = true
  · obtain ⟨hfile, hname⟩ := hsearch
    have hsearched : x.searchedFile request v = match v.2.stat, v.2.content with
        | .ok _, .ok content => some (v.1.1.child v.2.name, content)
        | _, _ => none :=
      if_pos ⟨hfile, hname⟩
    have hkind : ¬(v.2.kind = .directory ∧ v.1.2 < request.maxDepth) := by
      rw [hfile]
      exact fun h => by cases h.1
    have hfits : ¬(v.2.kind ≠ .file ∨ x.fnmatch v.2.name request.filePattern = false) := by
      simp [hfile, hname]
    rw [if_neg hkind, if_neg hfits, hsearched]
    cases v.2.stat with
    | error err => cases v.2.content <;> rfl
    | ok stat =>
      dsimp only
      rw [if_neg (by omega)]
      cases v.2.content with
      | error err => rfl
      | ok content =>
        dsimp only
        rw [List.take_take, Nat.min_eq_left (Nat.le_succ _)]
        cases x.searchLines root request offset maxResults (v.1.1.child v.2.name) 1 _ _ <;> rfl
  · have hsearched : x.searchedFile request v = none := if_neg hsearch
    rw [hsearched]
    by_cases hdirectory : v.2.kind = .directory ∧ v.1.2 < request.maxDepth
    · rw [if_pos hdirectory]
    · have hother : v.2.kind ≠ .file ∨ x.fnmatch v.2.name request.filePattern = false := by
        by_contra hnot
        rw [not_or, not_not, Bool.not_eq_false] at hnot
        exact hsearch hnot
      rw [if_neg hdirectory, if_pos hother]

/-- The loop appends a window of the matches, and stops at the first one behind it. -/
theorem foldTurns_contentBody (l : List ((Path × ℕ) × TreeEntry)) (s : ContentState)
    (found : List ContentMatch) (skip room : ℕ)
    (hbytes : s.bytesScanned < request.maxTotalBytes)
    (hfound : found = (x.readFiles request (l.take (request.maxEntries - s.scannedEntries))
      s.bytesScanned).flatMap (x.fileMatches root request))
    (hskip : skip = offset - s.matched)
    (hroom : room = maxResults - s.results.length) :
    ∃ s', (foldTurns (x.contentBody root request offset maxResults) l s).outcome = .ok s' ∧
      s'.results = s.results ++ window skip room found ∧
        (s'.moreMatches = false → found.length ≤ skip + room) := by
  induction l generalizing s found skip room with
  | nil =>
    rw [List.take_nil] at hfound
    subst hfound
    refine ⟨s, rfl, ?_, fun _ => Nat.zero_le _⟩
    rw [readFiles, List.flatMap_nil, window_nil, List.append_nil]
  | cons v l ih =>
    rw [foldTurns]
    by_cases hlimit : request.maxEntries ≤ s.scannedEntries
    · -- the budget of entries is used up
      rw [Nat.sub_eq_zero_of_le hlimit, List.take_zero] at hfound
      subst hfound
      rw [contentBody, if_pos hlimit]
      refine ⟨_, rfl, ?_, fun _ => Nat.zero_le _⟩
      rw [readFiles, List.flatMap_nil, window_nil, List.append_nil]
    · have hbudget : request.maxEntries - s.scannedEntries =
          request.maxEntries - (s.scannedEntries + 1) + 1 := by omega
      rw [hbudget, List.take_succ_cons, readFiles] at hfound
      rw [contentBody_eq v s (by omega) hbytes]
      cases hfile : x.searchedFile request v with
      | none =>
        rw [hfile] at hfound
        exact ih { s with scannedEntries := s.scannedEntries + 1 } found skip room hbytes hfound hskip
          hroom
      | some file =>
        rw [hfile] at hfound
        dsimp only at hfound ⊢
        generalize file.2.take (min x.maxReadBytes (request.maxTotalBytes - s.bytesScanned)) =
          payload at hfound ⊢
        rw [List.flatMap_cons] at hfound
        rw [searchLines_eq file.1 1 (splitLines (decodeReplace payload))
          { s with
            scannedEntries := s.scannedEntries + 1
            scannedFiles := s.scannedFiles + 1
            bytesScanned := s.bytesScanned + payload.length }
          (x.fileMatches root request (file.1, payload)) skip room rfl hskip hroom]
        split_ifs with hmore
        · -- the page is full within the file
          refine ⟨_, rfl, ?_, by rintro ⟨⟩⟩
          rw [hfound, window_append_of_le hmore.le]
        · rw [Turn.andThen]
          dsimp only
          by_cases hspent : request.maxTotalBytes ≤ s.bytesScanned + payload.length
          · -- the budget of bytes is used up
            rw [if_pos hspent, List.flatMap_nil, List.append_nil] at hfound
            subst hfound
            rw [if_pos hspent]
            exact ⟨_, rfl, rfl, fun _ => not_lt.mp hmore⟩
          · rw [if_neg hspent] at hfound
            rw [if_neg hspent]
            have hwindow : (window skip room (x.fileMatches root request (file.1, payload))).length =
                min room ((x.fileMatches root request (file.1, payload)).length - skip) :=
              length_window _
            generalize x.fileMatches root request (file.1, payload) = here at hfound hmore hwindow ⊢
            obtain ⟨s', houtcome, hresults, hend⟩ := ih
              { s with
                scannedEntries := s.scannedEntries + 1
                scannedFiles := s.scannedFiles + 1
                bytesScanned := s.bytesScanned + payload.length
                results := s.results ++ window skip room here
                matched := s.matched + here.length } _ (skip - here.length)
              (room - (here.length - skip)) (not_le.mp hspent) rfl (by dsimp only; omega)
              (by dsimp only; rw [List.length_append, hwindow]; omega)
            refine ⟨s', houtcome, ?_, fun h => ?_⟩
            · rw [hresults, hfound, window_append, List.append_assoc]
            · have hle := hend h
              rw [hfound, List.length_append]
              dsimp only at hle
              omega

variable (x root request) in
/-- Page `i` of a caller that asks for `maxResults i` matches: the matches, and the next offset. -/
def askContent (maxResults : ℕ → ℕ) (i offset : ℕ) :
    Except PyError (List ContentMatch × Option ℕ) :=
  (x.searchContentSync tree root request offset (maxResults i)).map
    fun page => (page.found, page.nextOffset)

/-- The loop is a fold over the entries in the order of the walk. -/
theorem searchContentSync_eq (hdir : tree.isDir root = true) :
    x.searchContentSync tree root request offset maxResults =
      (foldTurns (x.contentBody root request offset maxResults)
        ((treeWalk x.rt tree request.maxDepth).visits (root, 0)) initial).outcome.map
          (contentPage root request offset) := by
  rw [searchContentSync, require, if_pos hdir, StackWalk.exec_eq, List.flatMap_singleton]
  cases (foldTurns _ _ _).outcome <;> rfl

variable (x root request offset maxResults) in
/-- An answer is a window of the matches. -/
theorem searchContentSync_window (hdir : tree.isDir root = true)
    (hbytes : 1 ≤ request.maxTotalBytes) :
    ∃ s, x.searchContentSync tree root request offset maxResults = .ok (contentPage root request offset s) ∧
      s.results = window offset maxResults (x.contentMatches tree root request) ∧
        (s.moreMatches = false →
          (x.contentMatches tree root request).length ≤ offset + maxResults) := by
  obtain ⟨s, houtcome, hresults, hmore⟩ := foldTurns_contentBody ((treeWalk x.rt tree request.maxDepth).visits (root, 0)) initial
    (x.contentMatches tree root request) offset maxResults hbytes rfl rfl rfl
  refine ⟨s, ?_, hresults, hmore⟩
  rw [searchContentSync_eq tree hdir, houtcome]
  rfl

/-- `search_content` gives its matches in pages. -/
theorem askContent_isPaged (hdir : tree.isDir root = true) (hbytes : 1 ≤ request.maxTotalBytes)
    {maxResults : ℕ → ℕ} (hmax : ∀ i, 1 ≤ maxResults i) :
    IsPaged (x.contentMatches tree root request) Except.ok maxResults
      (x.askContent tree root request maxResults) := by
  apply IsPaged.of_truncated hmax
  · intro i offset err herr
    rw [mapM_ok] at herr
    cases herr
  · intro i offset page hpage
    rw [mapM_ok] at hpage
    obtain rfl := Except.ok.inj hpage
    obtain ⟨s, hsync, hresults, hmore⟩ := searchContentSync_window x tree root request offset
      (maxResults i) hdir hbytes
    rw [askContent, hsync, ← hresults]
    refine ⟨_, rfl, fun htruncated => hmore ?_⟩
    exact (Bool.or_eq_false_iff.mp (Bool.or_eq_false_iff.mp htruncated).1).1

end ContentSearch

end VeraMesh

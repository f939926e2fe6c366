import VeraMesh.Agent.SearchPages

/-!
# What a content search leaves out

The first page of `search_content` says by `truncated` whether something was left out. Four limits
can cut a search: the entries, the bytes in total, the matches of a page, and the bytes of a file,
`max_read_bytes`, of which the flag knows nothing.

`completeUnlessTruncated_iff`: a page that is not truncated has all matching lines, of files that
are searched as a whole, if and only if no file is longer than `max_read_bytes` or another limit is
reached.
-/

namespace VeraMesh

open Python Except

namespace ContentSearch

variable (x : ContentSearch) (tree : FileTree) (root : Path) (request : ContentRequest)
  (maxResults : ℕ)

/-- The entries within `max_depth`. -/
def treeEntries : List ((Path × ℕ) × TreeEntry) :=
  (treeWalk x.rt tree request.maxDepth).visits (root, 0)

/-- The directories can be listed and the files read. -/
structure Readable : Prop where
  root_listed : (tree.scandir root).isSome = true
  listed : ∀ v ∈ x.treeEntries tree root request, v.2.kind = .directory →
    (tree.scandir (v.1.1.child v.2.name)).isSome = true
  opened : ∀ v ∈ x.treeEntries tree root request, v.2.kind = .file →
    (∃ stat, v.2.stat = .ok stat) ∧ ∃ content, v.2.content = .ok content

/-- The regular files whose name fits, as a whole. -/
def wholeFiles : List (Path × List UInt8) :=
  ((x.treeEntries tree root request).filter fun v =>
    v.2.kind = .file ∧ x.fnmatch v.2.name request.filePattern = true).filterMap fun v =>
      v.2.content.toOption.map fun content => (v.1.1.child v.2.name, content)

/-- The first `max_read_bytes` bytes of a file. -/
def cutFile (file : Path × List UInt8) : Path × List UInt8 := (file.1, file.2.take x.maxReadBytes)

/-- What the search examines of the files. -/
def examinedFiles : List (Path × List UInt8) :=
  x.readFiles request ((x.treeEntries tree root request).take request.maxEntries) 0

/-- A page that is not truncated has exactly the matching lines of all files, each examined as a
whole. -/
def CompleteUnlessTruncated : Prop :=
  ∀ page, x.searchContentSync tree root request 0 maxResults = .ok page → page.truncated = false →
    page.found = (x.wholeFiles tree root request).flatMap (x.fileMatches root request) ∧
      x.examinedFiles tree root request = x.wholeFiles tree root request

/-- Another limit is reached: there are more entries, the files have as many bytes, or there are more
matching lines. -/
def OtherwiseLimited : Prop :=
  request.maxEntries < (x.treeEntries tree root request).length ∨
    request.maxTotalBytes ≤
      (((x.wholeFiles tree root request).map x.cutFile).map fun file => file.2.length).sum ∨
    maxResults < (((x.wholeFiles tree root request).map x.cutFile).flatMap
      (x.fileMatches root request)).length

/-! ## When nothing is cut -/

/-- The files among some entries that are searched. -/
def filesIn (l : List ((Path × ℕ) × TreeEntry)) : List (Path × List UInt8) :=
  (l.filterMap (x.searchedFile request)).map x.cutFile

/-- The limits are not reached by what is left of the entries, after so many entries and bytes, if
there may be so many matches. -/
structure Fits (l : List ((Path × ℕ) × TreeEntry)) (entries bytes most : ℕ) : Prop where
  entries : entries + l.length ≤ request.maxEntries
  bytes : bytes + ((x.filesIn request l).map fun file => file.2.length).sum <
    request.maxTotalBytes
  found : ((x.filesIn request l).flatMap (x.fileMatches root request)).length ≤ most

variable {x tree root request maxResults}

theorem filesIn_cons_none {v : (Path × ℕ) × TreeEntry} {l : List ((Path × ℕ) × TreeEntry)}
    (h : x.searchedFile request v = none) : x.filesIn request (v :: l) = x.filesIn request l := by
  rw [filesIn, List.filterMap_cons_none h]
  rfl

theorem filesIn_cons_some {v : (Path × ℕ) × TreeEntry} {l : List ((Path × ℕ) × TreeEntry)}
    {file : Path × List UInt8} (h : x.searchedFile request v = some file) :
    x.filesIn request (v :: l) = x.cutFile file :: x.filesIn request l := by
  rw [filesIn, List.filterMap_cons_some h]
  rfl

theorem fits_cons_none {v : (Path × ℕ) × TreeEntry} {l : List ((Path × ℕ) × TreeEntry)}
    {entries bytes most : ℕ} (h : x.searchedFile request v = none) :
    x.Fits root request (v :: l) entries bytes most ↔
      x.Fits root request l (entries + 1) bytes most := by
  constructor
  · rintro ⟨hall, hsum, hfound⟩
    rw [filesIn_cons_none h] at hsum hfound
    rw [List.length_cons] at hall
    exact ⟨by omega, hsum, hfound⟩
  · rintro ⟨hall, hsum, hfound⟩
    refine ⟨by rw [List.length_cons]; omega, ?_, ?_⟩
    · rwa [filesIn_cons_none h]
    · rwa [filesIn_cons_none h]

theorem fits_cons_some {v : (Path × ℕ) × TreeEntry} {l : List ((Path × ℕ) × TreeEntry)}
    {file : Path × List UInt8} {entries bytes most : ℕ}
    (h : x.searchedFile request v = some file) :
    x.Fits root request (v :: l) entries bytes most ↔
      (x.fileMatches root request (x.cutFile file)).length ≤ most ∧
        x.Fits root request l (entries + 1) (bytes + (x.cutFile file).2.length)
          (most - (x.fileMatches root request (x.cutFile file)).length) := by
  constructor
  · rintro ⟨hall, hsum, hfound⟩
    rw [filesIn_cons_some h, List.map_cons, List.sum_cons] at hsum
    rw [filesIn_cons_some h, List.flatMap_cons, List.length_append] at hfound
    rw [List.length_cons] at hall
    exact ⟨by omega, by omega, by omega, by omega⟩
  · rintro ⟨hmost, hall, hsum, hfound⟩
    refine ⟨by rw [List.length_cons]; omega, ?_, ?_⟩
    · rw [filesIn_cons_some h, List.map_cons, List.sum_cons]
      omega
    · rw [filesIn_cons_some h, List.flatMap_cons, List.length_append]
      omega

/-- While the bytes last, a file is cut at `max_read_bytes` only. -/
theorem take_perFileLimit {content : List UInt8} {remaining : ℕ}
    (h : (content.take (min x.maxReadBytes remaining)).length < remaining) :
    content.take (min x.maxReadBytes remaining) = content.take x.maxReadBytes := by
  rw [List.length_take] at h
  rcases Nat.le_total x.maxReadBytes remaining with hle | hle
  · rw [Nat.min_eq_left hle]
  · rw [List.take_of_length_le (by omega), List.take_of_length_le (by omega)]

/-- What is examined, if the bytes last. -/
theorem readFiles_eq {l : List ((Path × ℕ) × TreeEntry)} {bytes : ℕ}
    (h : bytes + ((x.filesIn request l).map fun file => file.2.length).sum < request.maxTotalBytes) :
    x.readFiles request l bytes = x.filesIn request l := by
  induction l generalizing bytes with
  | nil => rfl
  | cons v l ih =>
    rw [readFiles]
    cases hfile : x.searchedFile request v with
    | none =>
      rw [filesIn_cons_none hfile] at h ⊢
      exact ih h
    | some file =>
      rw [filesIn_cons_some hfile] at h ⊢
      rw [List.map_cons, List.sum_cons] at h
      have hcut : (x.cutFile file).2.length = min x.maxReadBytes file.2.length := List.length_take
      have hpayload : file.2.take (min x.maxReadBytes (request.maxTotalBytes - bytes)) =
          file.2.take x.maxReadBytes := by
        apply take_perFileLimit
        rw [List.length_take]
        omega
      have hlength : (file.2.take x.maxReadBytes).length = (x.cutFile file).2.length := rfl
      dsimp only
      rw [hpayload, hlength, if_neg (by omega), ih (by omega)]
      rfl

/-- The loop goes on to the end if and only if no limit is reached. -/
theorem foldTurns_contentBody_cases (l : List ((Path × ℕ) × TreeEntry)) (s : ContentState)
    {most : ℕ} (hentries : s.scannedEntries ≤ request.maxEntries)
    (hbytes : s.bytesScanned < request.maxTotalBytes)
    (hmost : most = maxResults - s.results.length) :
    (x.Fits root request l s.scannedEntries s.bytesScanned most ∧
        ∃ s', foldTurns (x.contentBody root request 0 maxResults) l s = .go s' ∧
          s'.scanLimitHit = s.scanLimitHit ∧ s'.byteLimitHit = s.byteLimitHit ∧
            s'.moreMatches = s.moreMatches) ∨
      ¬x.Fits root request l s.scannedEntries s.bytesScanned most ∧
        ∃ s', foldTurns (x.contentBody root request 0 maxResults) l s = .stop (.ok s') ∧
          (s'.moreMatches || s'.scanLimitHit || s'.byteLimitHit) = true := by
  induction l generalizing s most with
  | nil =>
    left
    exact ⟨⟨hentries, hbytes, Nat.zero_le _⟩, s, rfl, rfl, rfl, rfl⟩
  | cons v l ih =>
    rw [foldTurns]
    by_cases hlimit : request.maxEntries ≤ s.scannedEntries
    · right
      rw [contentBody, if_pos hlimit]
      refine ⟨fun h => ?_, _, rfl, ?_⟩
      · have hall := h.entries
        rw [List.length_cons] at hall
        omega
      · exact Bool.or_eq_true_iff.mpr (Or.inl (Bool.or_true _))
    · rw [contentBody_eq v s (not_le.mp hlimit) hbytes]
      cases hfile : x.searchedFile request v with
      | none =>
        rw [fits_cons_none hfile]
        exact ih { s with scannedEntries := s.scannedEntries + 1 } (not_le.mp hlimit) hbytes hmost
      | some file =>
        dsimp only
        rw [fits_cons_some hfile]
        have hcut : (x.cutFile file).2.length = min x.maxReadBytes file.2.length := List.length_take
        have hpayload : (file.2.take (min x.maxReadBytes
            (request.maxTotalBytes - s.bytesScanned))).length =
              min (min x.maxReadBytes (request.maxTotalBytes - s.bytesScanned)) file.2.length :=
          List.length_take
        by_cases hspent : request.maxTotalBytes - s.bytesScanned ≤
            (file.2.take (min x.maxReadBytes (request.maxTotalBytes - s.bytesScanned))).length
        · -- the bytes are used up by this file
          right
          refine ⟨fun h => ?_, ?_⟩
          · have hsum := h.2.bytes
            omega
          · rw [searchLines_eq file.1 1 _ { s with
                scannedEntries := s.scannedEntries + 1
                bytesScanned := s.bytesScanned + (file.2.take (min x.maxReadBytes
                  (request.maxTotalBytes - s.bytesScanned))).length
                scannedFiles := s.scannedFiles + 1 } _ _ _ rfl rfl rfl]
            split_ifs with hmore
            · exact ⟨_, rfl, rfl⟩
            · rw [Turn.andThen]
              dsimp only
              rw [if_pos (by omega)]
              exact ⟨_, rfl, Bool.or_true _⟩
        · -- the file is cut at `max_read_bytes` at most
          have htake := take_perFileLimit (not_le.mp hspent)
          have hlength : (file.2.take x.maxReadBytes).length = (x.cutFile file).2.length := rfl
          rw [htake, hlength] at hspent
          rw [htake, hlength, searchLines_eq file.1 1
            (splitLines (decodeReplace (file.2.take x.maxReadBytes))) { s with
              scannedEntries := s.scannedEntries + 1
              bytesScanned := s.bytesScanned + (x.cutFile file).2.length
              scannedFiles := s.scannedFiles + 1 }
            (x.fileMatches root request (x.cutFile file)) 0 most rfl (Nat.zero_sub _).symm hmost,
            Nat.zero_add]
          have hwindow : (window 0 most (x.fileMatches root request (x.cutFile file))).length =
              min most ((x.fileMatches root request (x.cutFile file)).length - 0) :=
            length_window _
          generalize x.fileMatches root request (x.cutFile file) = here at hwindow ⊢
          split_ifs with hmore
          · right
            exact ⟨fun h => absurd h.1 (not_le.mpr hmore), _, rfl, rfl⟩
          · rw [Turn.andThen]
            dsimp only
            rw [if_neg (by omega)]
            simp only [not_lt.mp hmore, true_and]
            exact ih { s with
                scannedEntries := s.scannedEntries + 1
                scannedFiles := s.scannedFiles + 1
                bytesScanned := s.bytesScanned + (x.cutFile file).2.length
                results := s.results ++ window 0 most here
                matched := s.matched + here.length }
              (not_le.mp hlimit) (by dsimp only; omega)
              (by dsimp only; rw [List.length_append, hwindow]; omega)

/-! ## Pages that are not truncated -/

/-- In a tree that can be read, every regular file whose name fits is searched. -/
theorem filterMap_searchedFile (h : x.Readable tree root request) :
    (x.treeEntries tree root request).filterMap (x.searchedFile request) =
      x.wholeFiles tree root request := by
  have hopened := h.opened
  rw [wholeFiles]
  generalize x.treeEntries tree root request = l at hopened
  induction l with
  | nil => rfl
  | cons v l ih =>
    have hrest := ih fun w hw => hopened w (List.mem_cons_of_mem _ hw)
    by_cases hfits : v.2.kind = .file ∧ x.fnmatch v.2.name request.filePattern = true
    · obtain ⟨⟨stat, hstat⟩, content, hcontent⟩ := hopened v List.mem_cons_self hfits.1
      have hfile : x.searchedFile request v = some (v.1.1.child v.2.name, content) := by
        rw [searchedFile, if_pos hfits, hstat, hcontent]
      rw [List.filterMap_cons_some hfile, hrest, List.filter_cons, if_pos (by simpa using hfits),
        List.filterMap_cons, hcontent]
      rfl
    · have hfile : x.searchedFile request v = none := if_neg hfits
      rw [List.filterMap_cons_none hfile, hrest, List.filter_cons,
        if_neg (by simpa using hfits)]

/-- A page is not truncated if and only if no limit but that of a file is reached, and then it has
the matches in the files as far as they are read. -/
theorem searchContentSync_cases (maxResults : ℕ) (hdir : tree.isDir root = true)
    (hbytes : 1 ≤ request.maxTotalBytes) (hreadable : x.Readable tree root request) :
    ∃ page, x.searchContentSync tree root request 0 maxResults = .ok page ∧
      (page.truncated = false ↔ ¬x.OtherwiseLimited tree root request maxResults) ∧
      (page.truncated = false →
        x.examinedFiles tree root request = (x.wholeFiles tree root request).map x.cutFile ∧
          page.found = ((x.wholeFiles tree root request).map x.cutFile).flatMap
            (x.fileMatches root request)) := by
  have hfiles : x.filesIn request (x.treeEntries tree root request) =
      (x.wholeFiles tree root request).map x.cutFile := by
    rw [filesIn, filterMap_searchedFile hreadable]
  have hfits : x.Fits root request (x.treeEntries tree root request) 0 0 maxResults ↔
      ¬x.OtherwiseLimited tree root request maxResults := by
    rw [OtherwiseLimited, not_or, not_or, not_lt, not_le, not_lt]
    constructor
    · rintro ⟨hall, hsum, hfound⟩
      rw [hfiles] at hsum hfound
      exact ⟨by omega, by omega, hfound⟩
    · rintro ⟨hall, hsum, hfound⟩
      rw [← hfiles] at hsum hfound
      exact ⟨by omega, by omega, hfound⟩
  obtain ⟨s, houtcome, hresults, -⟩ := foldTurns_contentBody (x.treeEntries tree root request)
    initial (x.contentMatches tree root request) 0 maxResults hbytes rfl rfl rfl
  have hsync : x.searchContentSync tree root request 0 maxResults =
      .ok (contentPage root request 0 s) := by
    rw [searchContentSync_eq tree hdir]
    exact congrArg (Except.map _) houtcome
  refine ⟨_, hsync, ?_⟩
  rcases foldTurns_contentBody_cases (x.treeEntries tree root request) initial
      (Nat.zero_le _) hbytes rfl with
    ⟨hfit, s', hgo, hentries, htotal, hmore⟩ | ⟨hnot, s', hstop, hflags⟩
  · rw [hgo] at houtcome
    obtain rfl := Except.ok.inj houtcome
    have hflag : (contentPage root request 0 s').truncated = false := by
      show (s'.moreMatches || s'.scanLimitHit || s'.byteLimitHit) = false
      rw [hentries, htotal, hmore]
      rfl
    refine ⟨iff_of_true hflag (hfits.mp hfit), fun _ => ?_⟩
    have hall : (x.treeEntries tree root request).length ≤ request.maxEntries := by
      have := hfit.entries
      omega
    have hexamined : x.examinedFiles tree root request =
        (x.wholeFiles tree root request).map x.cutFile := by
      rw [examinedFiles, List.take_of_length_le hall, ← hfiles]
      exact readFiles_eq hfit.bytes
    refine ⟨hexamined, ?_⟩
    have hmatches : x.contentMatches tree root request =
        ((x.wholeFiles tree root request).map x.cutFile).flatMap (x.fileMatches root request) := by
      rw [← hexamined]
      rfl
    have hmost := hfit.found
    rw [hfiles] at hmost
    show s'.results = _
    rw [hresults, hmatches, window_of_le (by omega), List.drop_zero]
    rfl
  · rw [hstop] at houtcome
    obtain rfl := Except.ok.inj houtcome
    have hflag : ¬(contentPage root request 0 s').truncated = false := by
      rw [Bool.not_eq_false]
      exact hflags
    exact ⟨iff_of_false hflag (mt hfits.mpr hnot), fun h => absurd h hflag⟩

/-- **Completeness of a content search.** A page that is not truncated has exactly the matching lines
of all regular files within `max_depth` whose name fits, each examined as a whole, if and only if
none of these files is longer than `max_read_bytes` or another limit is reached. -/
theorem completeUnlessTruncated_iff (hdir : tree.isDir root = true)
    (hbytes : 1 ≤ request.maxTotalBytes) (hreadable : x.Readable tree root request) :
    x.CompleteUnlessTruncated tree root request maxResults ↔
      (∀ file ∈ x.wholeFiles tree root request, file.2.length ≤ x.maxReadBytes) ∨
        x.OtherwiseLimited tree root request maxResults := by
  obtain ⟨page, hsync, htruncated, hpage⟩ := searchContentSync_cases maxResults hdir hbytes
    hreadable
  constructor
  · intro h
    by_cases hflag : page.truncated = false
    · left
      intro file hfile
      obtain ⟨-, hexamined⟩ := h page hsync hflag
      rw [(hpage hflag).1] at hexamined
      have hsame : x.cutFile file = id file :=
        List.map_inj_left.mp (hexamined.trans (List.map_id _).symm) file hfile
      have hlength : (file.2.take x.maxReadBytes).length = file.2.length :=
        congrArg (fun file : Path × List UInt8 => file.2.length) hsame
      rw [List.length_take] at hlength
      omega
    · right
      exact not_not.mp (mt htruncated.mpr hflag)
  · rintro (hshort | hlimited) page' hpage' hflag
    · rw [hsync] at hpage'
      obtain rfl := Except.ok.inj hpage'
      have hwhole : (x.wholeFiles tree root request).map x.cutFile =
          x.wholeFiles tree root request := by
        rw [← List.map_id (x.wholeFiles tree root request), List.map_map]
        apply List.map_congr_left
        intro file hfile
        exact Prod.ext rfl (List.take_of_length_le (hshort file hfile))
      rw [hwhole] at hpage
      exact ⟨(hpage hflag).2, (hpage hflag).1⟩
    · rw [hsync] at hpage'
      obtain rfl := Except.ok.inj hpage'
      exact absurd hlimited (htruncated.mp hflag)

end ContentSearch

/-- The directory `/d` has a file with the two bytes `ab`. -/
def exampleFolder : FileTree where
  isDir path := path.parts = ["d"]
  scandir path :=
    if path.parts = ["d"] then some [⟨"f", .file, .ok ⟨2, 0⟩, .ok [97, 98]⟩] else none

theorem readable_exampleFolder (maxReadBytes : ℕ) :
    (⟨Runtime.ascii false, fun _ _ => true, maxReadBytes⟩ : ContentSearch).Readable exampleFolder
      ⟨"/", ["d"]⟩ exampleContentSearch := by
  have hentries : (⟨Runtime.ascii false, fun _ _ => true, maxReadBytes⟩ : ContentSearch).treeEntries
      exampleFolder ⟨"/", ["d"]⟩ exampleContentSearch =
        [((⟨"/", ["d"]⟩, 0), ⟨"f", .file, .ok ⟨2, 0⟩, .ok [97, 98]⟩)] := rfl
  refine ⟨rfl, ?_, ?_⟩
  · rw [hentries]
    intro v hv hkind
    rw [List.mem_singleton.mp hv] at hkind
    cases hkind
  · rw [hentries]
    intro v hv _
    rw [List.mem_singleton.mp hv]
    exact ⟨⟨_, rfl⟩, _, rfl⟩

/-- The file is short enough. -/
theorem completeUnlessTruncated_iff_exampleFolder :
    exampleContentFiles.CompleteUnlessTruncated exampleFolder ⟨"/", ["d"]⟩ exampleContentSearch 5 ↔
      (∀ file ∈ exampleContentFiles.wholeFiles exampleFolder ⟨"/", ["d"]⟩ exampleContentSearch,
          file.2.length ≤ exampleContentFiles.maxReadBytes) ∨
        exampleContentFiles.OtherwiseLimited exampleFolder ⟨"/", ["d"]⟩ exampleContentSearch 5 :=
  ContentSearch.completeUnlessTruncated_iff (by decide) (by decide) (readable_exampleFolder 10)

/-- With `max_read_bytes` 1 the `b` is not found, and the page is not truncated. -/
theorem not_completeUnlessTruncated :
    (⟨Runtime.ascii false, fun _ _ => true, 1⟩ : ContentSearch).Readable exampleFolder
        ⟨"/", ["d"]⟩ exampleContentSearch ∧
      ¬(⟨Runtime.ascii false, fun _ _ => true, 1⟩ : ContentSearch).CompleteUnlessTruncated
        exampleFolder ⟨"/", ["d"]⟩ exampleContentSearch 5 := by
  refine ⟨readable_exampleFolder 1, fun h => ?_⟩
  obtain ⟨hfound, -⟩ := h _ rfl rfl
  have hlength := congrArg List.length hfound
  exact absurd hlength (by decide)

end VeraMesh

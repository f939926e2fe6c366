import VeraMesh.Agent.Search

/-!
# Following the pages of a search

A caller asks for the first page of a search, and then for the page at the next offset that it is
told, until there is none. The tree does not change meanwhile. A page may have any size.

`search_paginates_iff`: the caller comes to an end, and has got each match once, if and only if
`os.stat` succeeds for each match. `search_content` leaves out what it cannot read, but `search`
does not catch the exception of `entry.stat`.
-/

namespace VeraMesh

open Python Except

section Names

variable (rt : Runtime) (tree : FileTree) (root : Path) (request : SearchRequest)

/-- A caller of `search` comes to an end, with each match once, in the order of the walk. -/
def SearchPaginates : Prop :=
  ∀ maxResults : ℕ → ℕ, (∀ i, 1 ≤ maxResults i) → ∃ calls found,
    followPages (askSearch rt tree root request maxResults) calls 0 0 [] = .ok (some found) ∧
      (searchMatches rt tree root request).mapM (searchMatch root) = .ok found

variable {rt tree root request}

/-- What is made of a match depends on `entry.stat` only. -/
theorem searchMatch_eq_ok_iff {v : (Path × ℕ) × TreeEntry} :
    (∃ found, searchMatch root v = .ok found) ↔ ∃ stat, v.2.stat = .ok stat := by
  rw [searchMatch]
  cases v.2.stat with
  | error err => exact ⟨nofun, nofun⟩
  | ok stat => exact ⟨fun _ => ⟨stat, rfl⟩, fun _ => ⟨_, rfl⟩⟩

theorem searchPaginates_iff (hdir : tree.isDir root = true) :
    SearchPaginates rt tree root request ↔
      ∀ v ∈ searchMatches rt tree root request, ∃ stat, v.2.stat = .ok stat := by
  have hmatches : (∃ found, (searchMatches rt tree root request).mapM (searchMatch root) =
      .ok found) ↔ ∀ v ∈ searchMatches rt tree root request, ∃ stat, v.2.stat = .ok stat := by
    rw [mapM_eq_ok_iff]
    exact forall₂_congr fun v _ => searchMatch_eq_ok_iff
  rw [← hmatches]
  constructor
  · intro h
    obtain ⟨_, found, -, hfound⟩ := h (fun _ => 1) fun _ => le_rfl
    exact ⟨found, hfound⟩
  · rintro ⟨found, hfound⟩ maxResults hmax
    refine ⟨(searchMatches rt tree root request).length + 1, found, ?_, hfound⟩
    rw [(askSearch_isPaged tree hdir hmax).follow_eq, hfound]
    rfl

end Names

namespace ContentSearch

variable (x : ContentSearch) (tree : FileTree) (root : Path) (request : ContentRequest)

/-- A caller of `search_content` comes to an end, with each match once, in the order of the walk. -/
def Paginates : Prop :=
  ∀ maxResults : ℕ → ℕ, (∀ i, 1 ≤ maxResults i) → ∃ calls,
    followPages (x.askContent tree root request maxResults) calls 0 0 [] =
      .ok (some (x.contentMatches tree root request))

variable {x tree root request}

theorem paginates (hdir : tree.isDir root = true) (hbytes : 1 ≤ request.maxTotalBytes) :
    x.Paginates tree root request := by
  intro maxResults hmax
  refine ⟨(x.contentMatches tree root request).length + 1, ?_⟩
  rw [(askContent_isPaged tree hdir hbytes hmax).follow_eq, mapM_ok]
  rfl

end ContentSearch

/-- **Pages of a search.** Following the pages of `search` and of `search_content` ends, with each
match within the budgets once and in the order of the walk, if and only if `entry.stat` succeeds for
each match of `search`. -/
theorem search_paginates_iff (x : ContentSearch) {tree : FileTree} {root : Path}
    (request : SearchRequest) {content : ContentRequest} (hdir : tree.isDir root = true)
    (hbytes : 1 ≤ content.maxTotalBytes) :
    SearchPaginates x.rt tree root request ∧ x.Paginates tree root content ↔
      ∀ v ∈ searchMatches x.rt tree root request, ∃ stat, v.2.stat = .ok stat := by
  rw [searchPaginates_iff hdir]
  exact ⟨fun h => h.1, fun h => ⟨h, ContentSearch.paginates hdir hbytes⟩⟩

/-! ## Examples -/

/-- The directory `/d` has a directory `a` with a file `b`. -/
def exampleTree (stat : Except PyError EntryStat) : FileTree where
  isDir path := path.parts = ["d"]
  scandir path :=
    if path.parts = ["d"] then
      some [⟨"a", .directory, .ok ⟨0, 0⟩, .error ⟨.osError, "Is a directory"⟩⟩]
    else if path.parts = ["d", "a"] then some [⟨"b", .file, stat, .ok [98]⟩]
    else none

/-- Names with a `b`. -/
def exampleSearch : SearchRequest := ⟨"b", 100, 5, true⟩

/-- Lines with a `b`. -/
def exampleContentSearch : ContentRequest := ⟨"b", "*", 100, 5, 100, true⟩

/-- Every name fits. -/
def exampleContentFiles : ContentSearch := ⟨Runtime.ascii false, fun _ _ => true, 10⟩

/-- The file `b` is found. -/
theorem search_paginates_iff_exampleTree :
    SearchPaginates (Runtime.ascii false) (exampleTree (.ok ⟨1, 0⟩)) ⟨"/", ["d"]⟩ exampleSearch ∧
        exampleContentFiles.Paginates (exampleTree (.ok ⟨1, 0⟩)) ⟨"/", ["d"]⟩
          exampleContentSearch ↔
      ∀ v ∈ searchMatches (Runtime.ascii false) (exampleTree (.ok ⟨1, 0⟩)) ⟨"/", ["d"]⟩
        exampleSearch, ∃ stat, v.2.stat = .ok stat :=
  search_paginates_iff exampleContentFiles exampleSearch (by decide) (by decide)

/-- The directory `/d/a` may be listed but not searched, so that `entry.stat` fails. -/
theorem not_search_paginates :
    ¬(SearchPaginates (Runtime.ascii false)
          (exampleTree (.error ⟨.osError, "Permission denied"⟩)) ⟨"/", ["d"]⟩ exampleSearch ∧
        exampleContentFiles.Paginates (exampleTree (.error ⟨.osError, "Permission denied"⟩))
          ⟨"/", ["d"]⟩ exampleContentSearch) := by
  rintro ⟨hnames, -⟩
  have hmem : ((⟨"/", ["d", "a"]⟩, 1), ⟨"b", .file, .error ⟨.osError, "Permission denied"⟩,
      .ok [98]⟩) ∈ searchMatches (Runtime.ascii false)
        (exampleTree (.error ⟨.osError, "Permission denied"⟩)) ⟨"/", ["d"]⟩ exampleSearch := by
    apply List.mem_filter.mpr
    constructor
    · -- the second entry of the walk
      exact List.mem_cons_of_mem _ List.mem_cons_self
    · decide
  obtain ⟨stat, hok⟩ := (searchPaginates_iff (by decide)).mp hnames _ hmem
  cases hok

end VeraMesh

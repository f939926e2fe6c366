import VeraMesh.Agent.Search
import VeraMesh.Lib.Expansion

/-!
# The columns that `search_content` reports

The query is looked for in the folded line, and the position where it is found there is reported as a
column of the line itself. Folding can make several characters of one, so the two positions differ.

## Main results

* `ContentSearch.columnsPoint_iff`: the reported columns point at the matches if and only if the
  search is case sensitive or the lines are aligned with their folding.
-/

namespace VeraMesh

open Python Expansion

/-- `str.casefold` replaces each character by its folding, which is never empty. -/
structure CaseFolds (rt : Runtime) (fold : Char → List Char) : Prop where
  casefold_eq : ∀ s, (rt.casefold s).toList = s.toList.flatMap fold
  ne_nil : ∀ c, fold c ≠ []

/-! ## `str.find` -/

section Find

variable {needle text : List Char} {k : ℕ}

theorem firstAt_of_strFind (h : strFind needle text = some k) : FirstAt needle text k := by
  induction text generalizing k with
  | nil =>
    rw [strFind] at h
    split_ifs at h with hneedle
    obtain rfl := Option.some.inj h
    exact ⟨by simp [hneedle], fun j hj => absurd hj (Nat.not_lt_zero j)⟩
  | cons c rest ih =>
    rw [strFind] at h
    split_ifs at h with hhere
    · obtain rfl := Option.some.inj h
      exact ⟨hhere, fun j hj => absurd hj (Nat.not_lt_zero j)⟩
    · obtain ⟨k', hk', rfl⟩ := Option.map_eq_some_iff.mp h
      obtain ⟨hmatch, hnone⟩ := ih hk'
      refine ⟨hmatch, fun j hj => ?_⟩
      cases j with
      | zero => exact hhere
      | succ j => exact hnone j (by omega)

/-- `str.find` gives the first position where the needle occurs. -/
theorem strFind_eq_some_iff (hneedle : needle ≠ []) :
    strFind needle text = some k ↔ FirstAt needle text k := by
  refine ⟨firstAt_of_strFind, fun h => ?_⟩
  cases hfind : strFind needle text with
  | some k' => rw [(firstAt_of_strFind hfind).eq h]
  | none =>
    exfalso
    have hmatch := h.1
    clear h
    induction text generalizing k with
    | nil =>
      rw [List.drop_nil] at hmatch
      exact hneedle (List.prefix_nil.mp hmatch)
    | cons c rest ih =>
      rw [strFind] at hfind
      split_ifs at hfind with hhere
      cases k with
      | zero => exact hhere hmatch
      | succ k => exact ih (Option.map_eq_none_iff.mp hfind) hmatch

end Find

namespace ContentSearch

variable (x : ContentSearch) (root : Path) (request : ContentRequest)

/-- What the loop over the lines of a text reports. -/
def reported (path : Path) (text : List Char) (offset maxResults : ℕ) : List ContentMatch :=
  match x.searchLines root request offset maxResults path 1 (splitLines text) initial with
  | .go s => s.results
  | .stop (.ok s) => s.results
  | .stop (.error _) => []

/-- The line from the column on, counted from 1, begins with the query, up to case unless the search
is case sensitive, and from no earlier column. -/
def ColumnPoints (line : List Char) (column : ℕ) : Prop :=
  let needle := foldCase x.rt request.caseSensitive request.query
  let folded := fun column =>
    foldCase x.rt request.caseSensitive (String.ofList (line.drop (column - 1)))
  1 ≤ column ∧ column ≤ line.length ∧ needle <+: folded column ∧
    ∀ earlier, 1 ≤ earlier → earlier < column → ¬needle <+: folded earlier

/-- Every match that is reported for the text points at a match in its line. -/
def ColumnsPoint (path : Path) (text : List Char) : Prop :=
  ∀ offset maxResults, ∀ found ∈ x.reported root request path text offset maxResults,
    ∃ line, (splitLines text)[found.line - 1]? = some line ∧
      x.ColumnPoints request line found.column

variable {x root request}

/-! ## What is reported -/

variable (x root request) in
theorem reported_eq (path : Path) (text : List Char) (offset maxResults : ℕ) :
    x.reported root request path text offset maxResults =
      window offset maxResults (x.lineMatches root request path 1 (splitLines text)) := by
  have hloop := @searchLines_eq x root request offset maxResults path 1 (splitLines text) initial _
    offset maxResults rfl rfl rfl
  unfold reported
  rw [hloop]
  split_ifs <;> rfl

theorem mem_lineMatches {path : Path} {first : ℕ} {lines : List (List Char)} {found : ContentMatch} :
    found ∈ x.lineMatches root request path first lines ↔
      ∃ i line, lines[i]? = some line ∧
        x.lineMatch root request path (first + i) line = some found := by
  induction lines generalizing first with
  | nil => simp [lineMatches]
  | cons line lines ih =>
    rw [lineMatches, List.mem_append, Option.mem_toList, ih]
    constructor
    · rintro (hhere | ⟨i, line', hline, hfound⟩)
      · exact ⟨0, line, rfl, hhere⟩
      · refine ⟨i + 1, line', hline, ?_⟩
        rwa [Nat.add_assoc, Nat.add_comm 1 i] at hfound
    · rintro ⟨i, line', hline, hfound⟩
      cases i with
      | zero =>
        obtain rfl := Option.some.inj hline
        exact Or.inl hfound
      | succ i =>
        refine Or.inr ⟨i, line', hline, ?_⟩
        rwa [Nat.add_assoc, Nat.add_comm 1 i]

/-- The matches of every page come from the texts of files. -/
theorem found_reported {tree : FileTree} {offset maxResults : ℕ} {page : ContentPage}
    (hdir : tree.isDir root = true) (hbytes : 1 ≤ request.maxTotalBytes)
    (hpage : x.searchContentSync tree root request offset maxResults = .ok page)
    {found : ContentMatch} (hfound : found ∈ page.found) :
    ∃ path payload maxResults,
      found ∈ x.reported root request path (decodeReplace payload) 0 maxResults := by
  obtain ⟨s, hsync, hresults, -⟩ :=
    x.searchContentSync_window tree root request offset maxResults hdir hbytes
  rw [hsync] at hpage
  obtain rfl := Except.ok.inj hpage
  have hmem : found ∈ window offset maxResults (x.contentMatches tree root request) :=
    hresults ▸ hfound
  obtain ⟨file, -, hfile⟩ :=
    List.mem_flatMap.mp (List.mem_of_mem_drop (List.mem_of_mem_take hmem))
  refine ⟨file.1, file.2, (x.fileMatches root request file).length, ?_⟩
  rw [reported_eq]
  simpa [window, fileMatches] using hfile

/-! ## Columns -/

section Columns

variable {fold : Char → List Char} {path : Path} {text line : List Char}

/-- What a character becomes in the line that the query is looked for in. -/
def foldChar (fold : Char → List Char) (caseSensitive : Bool) (c : Char) : List Char :=
  if caseSensitive then [c] else fold c

theorem foldChar_ne_nil (hfold : CaseFolds x.rt fold) (caseSensitive : Bool) (c : Char) :
    foldChar fold caseSensitive c ≠ [] := by
  cases caseSensitive with
  | true => exact List.cons_ne_nil c []
  | false => exact hfold.ne_nil c

theorem foldCase_eq (hfold : CaseFolds x.rt fold) (caseSensitive : Bool) (s : String) :
    foldCase x.rt caseSensitive s = s.toList.flatMap (foldChar fold caseSensitive) := by
  cases caseSensitive with
  | true => exact (List.flatMap_singleton' s.toList).symm
  | false => exact hfold.casefold_eq s

theorem needle_ne_nil (hfold : CaseFolds x.rt fold) (hquery : request.query ≠ "") :
    foldCase x.rt request.caseSensitive request.query ≠ [] := by
  rw [foldCase_eq hfold]
  have hlength := length_le_flatMap (foldChar_ne_nil hfold request.caseSensitive) request.query.toList
  have hpos : 0 < request.query.toList.length :=
    List.length_pos_iff.mpr fun hnil => hquery (String.toList_injective hnil)
  exact List.ne_nil_of_length_pos (hpos.trans_le hlength)

/-- A column is right if and only if it is that of the first match. -/
theorem columnPoints_succ_iff (hfold : CaseFolds x.rt fold) (k : ℕ) :
    x.ColumnPoints request line (k + 1) ↔
      FirstMatch (foldChar fold request.caseSensitive)
        (foldCase x.rt request.caseSensitive request.query) line k := by
  simp only [ColumnPoints, foldCase_eq hfold _ (String.ofList _), String.toList_ofList,
    Nat.add_sub_cancel, FirstMatch]
  constructor
  · rintro ⟨-, hle, hmatch, hnone⟩
    exact ⟨hle, hmatch, fun i hi => hnone (i + 1) (by omega) (by omega)⟩
  · rintro ⟨hlt, hmatch, hnone⟩
    refine ⟨by omega, hlt, hmatch, fun earlier hpos hearlier => ?_⟩
    exact hnone (earlier - 1) (by omega)

variable (root path) in
/-- A line is reported with the position at which the query occurs in the folded line. -/
theorem lineMatch_eq_some_iff (hfold : CaseFolds x.rt fold) (hquery : request.query ≠ "") (n k : ℕ) :
    (∃ found, x.lineMatch root request path n line = some found ∧ found.column = k + 1) ↔
      FirstAt (foldCase x.rt request.caseSensitive request.query)
        (line.flatMap (foldChar fold request.caseSensitive)) k := by
  rw [← strFind_eq_some_iff (needle_ne_nil hfold hquery), lineMatch, foldCase_eq hfold _
    (String.ofList line), String.toList_ofList]
  constructor
  · rintro ⟨found, hfound, hcolumn⟩
    obtain ⟨k', hk', rfl⟩ := Option.map_eq_some_iff.mp hfound
    obtain rfl : k' = k := Nat.succ.inj hcolumn
    exact hk'
  · intro hfind
    exact ⟨_, Option.map_eq_some_iff.mpr ⟨k, hfind, rfl⟩, rfl⟩

theorem line_of_lineMatch {n : ℕ} {found : ContentMatch}
    (h : x.lineMatch root request path n line = some found) : found.line = n := by
  obtain ⟨k, -, rfl⟩ := Option.map_eq_some_iff.mp h
  rfl

/-- The matches of a text point if and only if those of each of its lines do. -/
theorem columnsPoint_iff_lines :
    x.ColumnsPoint root request path text ↔
      ∀ line ∈ splitLines text, ∀ n found, x.lineMatch root request path n line = some found →
        x.ColumnPoints request line found.column := by
  constructor
  · intro h line hline n found hfound
    obtain ⟨i, hi⟩ := List.mem_iff_getElem?.mp hline
    -- the column does not depend on the number of the line
    obtain ⟨k, hk, rfl⟩ := Option.map_eq_some_iff.mp hfound
    have hhere : x.lineMatch root request path (1 + i) line = _ :=
      Option.map_eq_some_iff.mpr ⟨k, hk, rfl⟩
    have hmem := mem_lineMatches.mpr ⟨i, line, hi, hhere⟩
    have hreported := reported_eq x root request path text 0
      (x.lineMatches root request path 1 (splitLines text)).length
    rw [window, List.drop_zero, List.take_length] at hreported
    obtain ⟨line', hline', hpoints⟩ := h 0 _ _ (hreported ▸ hmem)
    rw [Nat.add_sub_cancel_left, hi] at hline'
    obtain rfl := Option.some.inj hline'
    exact hpoints
  · intro h offset maxResults found hfound
    rw [reported_eq] at hfound
    obtain ⟨i, line, hi, hmatch⟩ :=
      mem_lineMatches.mp (List.mem_of_mem_drop (List.mem_of_mem_take hfound))
    refine ⟨line, ?_, h line (List.mem_iff_getElem?.mpr ⟨i, hi⟩) _ found hmatch⟩
    rw [line_of_lineMatch hmatch, Nat.add_sub_cancel_left, hi]

/-- **The columns that are reported for a text point at the matches** if and only if the search is
case sensitive, or every line is aligned with its folding. -/
theorem columnsPoint_iff (hfold : CaseFolds x.rt fold) (hquery : request.query ≠ "") :
    x.ColumnsPoint root request path text ↔
      (request.caseSensitive = false → ∀ line ∈ splitLines text,
        Aligned fold (x.rt.casefold request.query).toList line) := by
  have hlines : x.ColumnsPoint root request path text ↔ ∀ line ∈ splitLines text,
      Aligned (foldChar fold request.caseSensitive)
        (foldCase x.rt request.caseSensitive request.query) line := by
    rw [columnsPoint_iff_lines]
    refine forall₂_congr fun line _ => ?_
    rw [← firstMatch_iff_aligned (foldChar_ne_nil hfold _) (needle_ne_nil hfold hquery)]
    constructor
    · intro h k hfirst
      obtain ⟨found, hfound, hcolumn⟩ :=
        (lineMatch_eq_some_iff root path hfold hquery 1 k).mpr hfirst
      rw [← columnPoints_succ_iff hfold, ← hcolumn]
      exact h 1 found hfound
    · intro h n found hfound
      obtain ⟨k, -, hk⟩ := Option.map_eq_some_iff.mp hfound
      have hcolumn : found.column = k + 1 := by rw [← hk]
      rw [hcolumn, columnPoints_succ_iff hfold]
      exact h k ((lineMatch_eq_some_iff root path hfold hquery n k).mp ⟨found, hfound, hcolumn⟩)
  rw [hlines]
  cases request.caseSensitive with
  | true =>
    refine iff_of_true (fun line _ => aligned_of_length_eq fun c _ => rfl) nofun
  | false => exact ⟨fun h _ => h, fun h => h rfl⟩

end Columns

/-! ## A character that folds to two -/

/-- Full case folding, of ASCII and of one more letter. -/
def sharpFold (c : Char) : List Char := if c = 'ß' then ['s', 's'] else [c.toLower]

def sharpRuntime : Runtime :=
  { Runtime.ascii false with casefold := fun s => String.ofList (s.toList.flatMap sharpFold) }

theorem caseFolds_sharp : CaseFolds sharpRuntime sharpFold where
  casefold_eq s := String.toList_ofList
  ne_nil c := by
    unfold sharpFold
    split_ifs <;> exact List.cons_ne_nil _ _

def sharpSearch : ContentSearch := ⟨sharpRuntime, fun _ _ => true, 100⟩

def sharpRequest : ContentRequest := ⟨"x", "*", 100, 5, 100, false⟩

theorem columnsPoint_iff_sharp :
    sharpSearch.ColumnsPoint ⟨"/", []⟩ sharpRequest ⟨"/", ["a"]⟩ "ax".toList ↔
      (sharpRequest.caseSensitive = false → ∀ line ∈ splitLines "ax".toList,
        Aligned sharpFold (sharpRuntime.casefold "x").toList line) :=
  @columnsPoint_iff sharpSearch _ sharpRequest sharpFold _ _ caseFolds_sharp (by decide)

/-- The line `ßx` has two characters, and its `x` is reported at column 3. -/
theorem not_columnsPoint :
    ¬sharpSearch.ColumnsPoint ⟨"/", []⟩ sharpRequest ⟨"/", ["a"]⟩ "ßx".toList := by
  intro h
  have hreported : (sharpSearch.reported ⟨"/", []⟩ sharpRequest ⟨"/", ["a"]⟩ "ßx".toList 0 1).map
      (fun found => (found.line, found.column)) = [(1, 3)] := by decide +kernel
  obtain ⟨found, hfound, hplace⟩ := List.mem_map.mp (hreported ▸ List.mem_singleton_self (1, 3))
  obtain ⟨line, hline, -, hle, -⟩ := h 0 1 found hfound
  obtain ⟨hone, hthree⟩ := Prod.mk.inj hplace
  rw [hone] at hline
  rw [hthree] at hle
  obtain rfl : "ßx".toList = line := Option.some.inj hline
  exact absurd hle (by decide)

end ContentSearch

end VeraMesh

import Mathlib.Algebra.BigOperators.Group.Finset.Basic
import Mathlib.Algebra.Order.BigOperators.Group.Finset
import Mathlib.Data.List.Sort
import VeraMesh.Gateway.Value
import VeraMesh.Lib.Except
import VeraMesh.Python.Error

/-!
# Listing a directory in pages

`list_directory` is served by one of three backends: `list_dir` of the native `RdcSurface`, `list_dir`
of the Python WorkBridge adapter, and `CallPublic` of the Go WorkBridge client. Each of them cuts a
page out of its list of entries and says where the next page begins. A caller begins at offset 0 and
follows `next_offset` until it is null.

An entry is of any type: what a backend makes of it does not depend on the page.

## Main results

* `sortedScan_perm`: the native list does not depend on the order in which the directory is scanned.
* `listing_complete_iff`: a caller gets every entry exactly once and stops if and only if, once the
  pages cover the directory, one of its calls is served by a Python backend.
-/

namespace VeraMesh

open Except Python

variable {α : Type}

/-! ## Pages -/

/-- `l[start:stop]`, for bounds that are not negative. -/
def slice (l : List α) (start stop : ℤ) : List α := (l.take stop.toNat).drop start.toNat

/-- What the Python backends return. -/
structure Listing (α : Type) where
  path : String
  entries : List α
  offset : ℤ
  nextOffset : Option ℤ
  totalEntries : ℤ
  truncated : Bool
  backend : Option String

/-- The page of a Python backend. -/
def Listing.page (path : String) (entries : List α) (offset maxEntries : ℤ)
    (backend : Option String) : Listing α :=
  let total : ℤ := entries.length
  let selected := slice entries offset (offset + maxEntries)
  let nextOffset := offset + selected.length
  { path := path
    entries := selected
    offset := offset
    nextOffset := if nextOffset < total then some nextOffset else none
    totalEntries := total
    truncated := nextOffset < total
    backend := backend }

/-- The checks of the arguments, the same in both Python backends. -/
def checkPage (offset maxEntries : ℤ) : Except PyError Unit := do
  require (0 ≤ offset) ⟨.valueError, "offset must be a non-negative integer"⟩
  require (1 ≤ maxEntries ∧ maxEntries ≤ 1000) ⟨.valueError, "max_entries must be in 1..1000"⟩

section RdcSurface

/-- The order of names in a native listing, by `(name.casefold(), name)`. -/
def NameLE (casefold : String → String) (a b : String) : Prop :=
  casefold a < casefold b ∨ casefold a = casefold b ∧ a ≤ b

instance (casefold : String → String) (a b : String) : Decidable (NameLE casefold a b) :=
  inferInstanceAs (Decidable (_ ∨ _))

/-- The entries that `os.scandir` gives, with their names, in the order of a native listing. -/
def sortedScan (casefold : String → String) (scan : List (String × α)) : List (String × α) :=
  scan.insertionSort fun a b => NameLE casefold a.1 b.1

/-- `RdcSurface.list_dir`, of a directory that may be read. -/
def RdcSurface.listing (casefold : String → String) (directory : String)
    (scan : List (String × α)) (offset maxEntries : ℤ) : Except PyError (Listing α) := do
  checkPage offset maxEntries
  let entries := (sortedScan casefold scan).map Prod.snd
  return .page directory entries offset maxEntries none

/-- However the directory is scanned, the native list is the same. -/
theorem sortedScan_perm (casefold : String → String) {scan scan' : List (String × α)}
    (hperm : scan.Perm scan') (hnames : (scan.map Prod.fst).Nodup) :
    sortedScan casefold scan = sortedScan casefold scan' := by
  have htotal : Std.Total fun a b : String × α => NameLE casefold a.1 b.1 := by
    refine ⟨fun a b => ?_⟩
    rcases lt_trichotomy (casefold a.1) (casefold b.1) with hlt | heq | hgt
    · exact Or.inl (Or.inl hlt)
    · rcases le_total a.1 b.1 with hle | hle
      · exact Or.inl (Or.inr ⟨heq, hle⟩)
      · exact Or.inr (Or.inr ⟨heq.symm, hle⟩)
    · exact Or.inr (Or.inl hgt)
  have htrans : IsTrans (String × α) fun a b => NameLE casefold a.1 b.1 := by
    refine ⟨fun a b c hab hbc => ?_⟩
    rcases hab with hab | ⟨hab, hab'⟩ <;> rcases hbc with hbc | ⟨hbc, hbc'⟩
    · exact Or.inl (hab.trans hbc)
    · exact Or.inl (hbc ▸ hab)
    · exact Or.inl (hab ▸ hbc)
    · exact Or.inr ⟨hab.trans hbc, hab'.trans hbc'⟩
  -- names are distinct, so entries of one name are one entry
  have hanti : ∀ a b : String × α, a ∈ sortedScan casefold scan → b ∈ sortedScan casefold scan' →
      NameLE casefold a.1 b.1 → NameLE casefold b.1 a.1 → a = b := by
    intro a b ha hb hab hba
    have ha' : a ∈ scan := (List.mem_insertionSort _).mp ha
    have hb' : b ∈ scan := hperm.mem_iff.mpr ((List.mem_insertionSort _).mp hb)
    have hname : a.1 = b.1 := by
      rcases hab with hab | ⟨hfold, hab⟩
      · rcases hba with hba | ⟨hba, -⟩
        · exact absurd hab hba.asymm
        · exact absurd hab (by rw [hba]; exact lt_irrefl _)
      · rcases hba with hba | ⟨-, hba⟩
        · exact absurd hba (by rw [hfold]; exact lt_irrefl _)
        · exact le_antisymm hab hba
    exact List.inj_on_of_nodup_map hnames ha' hb' hname
  have hsame : (sortedScan casefold scan).Perm (sortedScan casefold scan') :=
    ((List.perm_insertionSort _ scan).trans hperm).trans (List.perm_insertionSort _ scan').symm
  exact List.Perm.eq_of_pairwise hanti (List.pairwise_insertionSort _ _)
    (List.pairwise_insertionSort _ _) hsame

end RdcSurface

/-- `WorkBridgeLocalBackend.list_dir`, with the entries that WorkBridge gives. -/
def WorkBridgeLocalBackend.listing (candidate : String) (entries : List α)
    (offset maxEntries : ℤ) : Except PyError (Listing α) := do
  checkPage offset maxEntries
  return .page (candidate.map fun c => if c = '\\' then '/' else c) entries offset maxEntries
    (some "workbridge")

/-- What the Go client returns. -/
structure ClientListing (α : Type) where
  path : String
  entries : List α
  offset : ℤ
  nextOffset : ℤ
  eof : Bool
  backend : String

/-- The value of an `int` computed as `n`. -/
def wrapInt (n : ℤ) : ℤ := (n + 2 ^ 63) % 2 ^ 64 - 2 ^ 63

/-- `rawEntries[offset:end]`, which panics when the bounds are out of order. -/
def sliceOrPanic (l : List α) (start stop : ℤ) : Except Gateway.GoError (List α) :=
  if 0 ≤ start ∧ start ≤ stop ∧ stop ≤ l.length then .ok (slice l start stop)
  else .error ⟨"slice bounds out of range", none⟩

/-- `CallPublic` for `list_directory`, with the entries that WorkBridge gives. -/
def WorkBridgeClient.listDirectory (path : String) (rawEntries : List α)
    (offset maxEntries : ℤ) : Except Gateway.GoError (ClientListing α) := do
  require (¬(offset < 0 ∨ maxEntries < 1))
    ⟨"offset must be >= 0 and max_entries must be >= 1", none⟩
  let offset := if offset > rawEntries.length then (rawEntries.length : ℤ) else offset
  let stop := wrapInt (offset + maxEntries)
  let stop := if stop > rawEntries.length then (rawEntries.length : ℤ) else stop
  let entries ← sliceOrPanic rawEntries offset stop
  return {
    path := path
    entries := entries
    offset := offset
    nextOffset := stop
    eof := decide (stop ≥ rawEntries.length)
    backend := "workbridge" }

/-- A directory, as `os.scandir` gives it: names and entries. Lengths fit into an `int`. -/
structure Directory (α : Type) where
  path : String
  scan : List (String × α)
  length_lt : scan.length < 2 ^ 63

/-- The list that each backend cuts its pages from. -/
def Directory.entries (casefold : String → String) (d : Directory α) : List α :=
  (sortedScan casefold d.scan).map Prod.snd

inductive Backend where
  | rdcSurface
  | workBridgeLocal
  | workBridgeClient
  deriving DecidableEq

variable (casefold : String → String)

/-- The entries of a page and its `next_offset`, unless the call fails. -/
def Backend.page (d : Directory α) (offset maxEntries : ℤ) :
    Backend → Option (List α × Option ℤ)
  | .rdcSurface =>
    match RdcSurface.listing casefold d.path d.scan offset maxEntries with
    | .ok l => some (l.entries, l.nextOffset)
    | .error _ => none
  | .workBridgeLocal =>
    match WorkBridgeLocalBackend.listing d.path (d.entries casefold) offset maxEntries with
    | .ok l => some (l.entries, l.nextOffset)
    | .error _ => none
  | .workBridgeClient =>
    match WorkBridgeClient.listDirectory d.path (d.entries casefold) offset maxEntries with
    | .ok l => some (l.entries, some l.nextOffset)
    | .error _ => none

/-- The page sizes that a backend admits. -/
def Backend.Admits (maxEntries : ℤ) : Backend → Prop
  | .workBridgeClient => 1 ≤ maxEntries ∧ maxEntries < 2 ^ 63
  | _ => 1 ≤ maxEntries ∧ maxEntries ≤ 1000

section Pages

variable {casefold} {d : Directory α} {offset maxEntries : ℤ}

/-- A slice that ends before the list does has as many elements as it asks for. -/
theorem length_slice (l : List α) {start size : ℤ} (hstart : 0 ≤ start)
    (hlength : start ≤ l.length) (hsize : 0 ≤ size) :
    start + (slice l start (start + size)).length = min (l.length : ℤ) (start + size) := by
  rw [slice, List.length_drop, List.length_take]
  omega

/-- A slice does not see a bound behind the end of the list. -/
theorem slice_min (l : List α) (start stop : ℤ) :
    slice l start (min (l.length : ℤ) stop) = slice l start stop := by
  rw [slice, slice]
  congr 1
  rcases le_total (l.length : ℤ) stop with hle | hle
  · rw [min_eq_left hle, List.take_of_length_le (by omega), List.take_of_length_le (by omega)]
  · rw [min_eq_right hle]

/-- What was read, and the next slice. -/
theorem take_append_slice (l : List α) {start size : ℤ} (hsize : 0 ≤ size) :
    l.take start.toNat ++ slice l start (start + size) = l.take (start + size).toNat := by
  have hsplit : (l.take (start + size).toNat).take start.toNat = l.take start.toNat := by
    rw [List.take_take]
    congr 1
    omega
  rw [slice, ← hsplit, List.take_append_drop]

theorem checkPage_eq_ok (hoffset : 0 ≤ offset) (hsize : 1 ≤ maxEntries ∧ maxEntries ≤ 1000) :
    checkPage offset maxEntries = .ok () := by
  simp only [checkPage, bind_eq_ok, require_eq_ok]
  exact ⟨(), hoffset, hsize⟩

/-- Both Python backends give the same page, with a null `next_offset` when it reaches the end. -/
theorem Backend.page_python {b : Backend} (hb : b ≠ .workBridgeClient) (hoffset : 0 ≤ offset)
    (hsize : b.Admits maxEntries) :
    b.page casefold d offset maxEntries =
      some (slice (d.entries casefold) offset (offset + maxEntries),
        (Listing.page d.path (d.entries casefold) offset maxEntries none).nextOffset) := by
  cases b with
  | rdcSurface =>
    simp only [Backend.page, RdcSurface.listing, checkPage_eq_ok hoffset hsize]
    rfl
  | workBridgeLocal =>
    simp only [Backend.page, WorkBridgeLocalBackend.listing, checkPage_eq_ok hoffset hsize]
    rfl
  | workBridgeClient => exact absurd rfl hb

/-- The `next_offset` of a Python page that begins within the directory. -/
theorem Listing.nextOffset_page {entries : List α} {path : String} {backend : Option String}
    (hoffset : 0 ≤ offset) (hlength : offset ≤ entries.length) (hsize : 1 ≤ maxEntries) :
    (Listing.page path entries offset maxEntries backend).nextOffset =
      if offset + maxEntries < entries.length then some (offset + maxEntries) else none := by
  have hnext := length_slice entries hoffset hlength (by omega : 0 ≤ maxEntries)
  simp only [Listing.page]
  rw [hnext]
  by_cases hlast : offset + maxEntries < entries.length
  · rw [if_pos hlast, if_pos (by omega), min_eq_right hlast.le]
  · rw [if_neg hlast, if_neg (by omega)]

theorem Directory.length_entries (casefold : String → String) (d : Directory α) :
    (d.entries casefold).length = d.scan.length := by
  rw [entries, List.length_map, sortedScan, List.length_insertionSort]

/-- The page of the Go client, where the sum of its bounds fits into an `int`. -/
theorem WorkBridgeClient.listDirectory_eq (path : String) (rawEntries : List α)
    (hoffset : 0 ≤ offset) (hsize : 1 ≤ maxEntries)
    (hfits : min offset rawEntries.length + maxEntries < 2 ^ 63) :
    WorkBridgeClient.listDirectory path rawEntries offset maxEntries =
      .ok { path := path
            entries := slice rawEntries (min offset rawEntries.length)
              (min (offset + maxEntries) rawEntries.length)
            offset := min offset rawEntries.length
            nextOffset := min (offset + maxEntries) rawEntries.length
            eof := decide (offset + maxEntries ≥ rawEntries.length)
            backend := "workbridge" } := by
  have hargs : require (¬(offset < 0 ∨ maxEntries < 1))
      (⟨"offset must be >= 0 and max_entries must be >= 1", none⟩ : Gateway.GoError) = .ok () :=
    require_eq_ok.mpr (by omega)
  -- the offset is clamped before the sum, the sum after it
  have hstart : (if offset > rawEntries.length then (rawEntries.length : ℤ) else offset) =
      min offset rawEntries.length := by
    split_ifs <;> omega
  have hwrap : wrapInt (min offset rawEntries.length + maxEntries) =
      min offset rawEntries.length + maxEntries := by
    unfold wrapInt
    omega
  have hstop : (if min offset rawEntries.length + maxEntries > rawEntries.length then
      (rawEntries.length : ℤ) else min offset rawEntries.length + maxEntries) =
        min (offset + maxEntries) rawEntries.length := by
    split_ifs <;> omega
  have hslice : sliceOrPanic rawEntries (min offset rawEntries.length)
      (min (offset + maxEntries) rawEntries.length) = .ok (slice rawEntries
        (min offset rawEntries.length) (min (offset + maxEntries) rawEntries.length)) :=
    if_pos (by omega)
  have heof : decide (min (offset + maxEntries) (rawEntries.length : ℤ) ≥ rawEntries.length) =
      decide (offset + maxEntries ≥ rawEntries.length) := decide_eq_decide.mpr (by omega)
  simp only [listDirectory, hargs, hstart, hwrap, hstop, bind, Except.bind, hslice, pure, Except.pure,
    heof]

/-- The Go client panics where the sum of its bounds does not fit into an `int`. -/
theorem WorkBridgeClient.listDirectory_panics (path : String) (rawEntries : List α)
    (hlength : rawEntries.length < 2 ^ 63) (hoffset : 0 ≤ offset) (hsize : 1 ≤ maxEntries)
    (hmax : maxEntries < 2 ^ 63) (hfits : ¬min offset rawEntries.length + maxEntries < 2 ^ 63) :
    WorkBridgeClient.listDirectory path rawEntries offset maxEntries =
      .error ⟨"slice bounds out of range", none⟩ := by
  have hargs : require (¬(offset < 0 ∨ maxEntries < 1))
      (⟨"offset must be >= 0 and max_entries must be >= 1", none⟩ : Gateway.GoError) = .ok () :=
    require_eq_ok.mpr (by omega)
  have hstart : (if offset > rawEntries.length then (rawEntries.length : ℤ) else offset) =
      min offset rawEntries.length := by
    split_ifs <;> omega
  have hwrap : wrapInt (min offset rawEntries.length + maxEntries) < 0 := by
    unfold wrapInt
    omega
  have hstop : ¬wrapInt (min offset rawEntries.length + maxEntries) > rawEntries.length := by omega
  have hslice : sliceOrPanic rawEntries (min offset rawEntries.length)
      (wrapInt (min offset rawEntries.length + maxEntries)) =
        .error ⟨"slice bounds out of range", none⟩ :=
    if_neg (by omega)
  simp only [listDirectory, hargs, hstart, if_neg hstop, bind, Except.bind, hslice]

/-- The page of the Go client within the directory: its `next_offset` is never null. -/
theorem Backend.page_client (hoffset : 0 ≤ offset) (hlength : offset ≤ d.scan.length)
    (hsize : 1 ≤ maxEntries) (hfits : offset + maxEntries < 2 ^ 63) :
    Backend.workBridgeClient.page casefold d offset maxEntries =
      some (slice (d.entries casefold) offset (offset + maxEntries),
        some (min (d.scan.length : ℤ) (offset + maxEntries))) := by
  rw [← d.length_entries casefold] at hlength ⊢
  have hpage := WorkBridgeClient.listDirectory_eq d.path (d.entries casefold) hoffset hsize
    (by omega)
  rw [min_eq_left hlength, min_comm, slice_min] at hpage
  simp only [Backend.page, hpage]

/-- The Go client panics where the sum of its arguments does not fit into an `int`. -/
theorem Backend.page_client_overflow (hoffset : 0 ≤ offset) (hlength : offset ≤ d.scan.length)
    (hsize : maxEntries < 2 ^ 63) (hfits : ¬offset + maxEntries < 2 ^ 63) :
    Backend.workBridgeClient.page casefold d offset maxEntries = none := by
  have hbound := d.length_lt
  rw [← d.length_entries casefold] at hlength hbound
  have hpanic := WorkBridgeClient.listDirectory_panics d.path (d.entries casefold) hbound hoffset
    (by omega) hsize (by omega)
  simp only [Backend.page, hpanic]

/-- No page of the Go client has a null `next_offset`. -/
theorem Backend.page_client_ne (entries : List α) :
    Backend.workBridgeClient.page casefold d offset maxEntries ≠ some (entries, none) := by
  rw [Backend.page]
  cases WorkBridgeClient.listDirectory d.path (d.entries casefold) offset maxEntries <;> simp

end Pages

/-! ## Following `next_offset` -/

/-- Where a caller is: about to ask for the page at an offset, at the end, or left with an error. -/
inductive Cursor (α : Type) where
  | reading (offset : ℤ) (got : List α)
  | finished (got : List α)
  | failed

/-- The caller makes a call, with the backend that serves it and its page size. -/
def Cursor.next (d : Directory α) (call : Backend × ℤ) : Cursor α → Cursor α
  | .reading offset got =>
    match call.1.page casefold d offset call.2 with
    | none => .failed
    | some (entries, none) => .finished (got ++ entries)
    | some (entries, some offset) => .reading offset (got ++ entries)
  | c => c

/-- The caller begins at offset 0, and its call number `i` is `calls i`. -/
def follow (d : Directory α) (calls : ℕ → Backend × ℤ) : ℕ → Cursor α
  | 0 => .reading 0 []
  | k + 1 => (follow d calls k).next casefold d (calls k)

/-- After finitely many calls the caller stops, and has every entry exactly once and in order. -/
def Complete (d : Directory α) (calls : ℕ → Backend × ℤ) : Prop :=
  ∃ k, follow casefold d calls k = .finished (d.entries casefold)

/-- How far the first pages reach. -/
def covered (calls : ℕ → Backend × ℤ) (k : ℕ) : ℤ := ∑ i ∈ Finset.range k, (calls i).2

/-- Call `k` reaches the end of the directory, and a Python backend serves it. -/
def Ends (d : Directory α) (calls : ℕ → Backend × ℤ) (k : ℕ) : Prop :=
  (calls k).1 ≠ .workBridgeClient ∧ d.scan.length ≤ covered calls (k + 1)

/-- If the Go client serves call `k`, it can add the offset and the page size. -/
def Fits (d : Directory α) (calls : ℕ → Backend × ℤ) (k : ℕ) : Prop :=
  (calls k).1 = .workBridgeClient →
    min (d.scan.length : ℤ) (covered calls k) + (calls k).2 < 2 ^ 63

section Follow

variable {casefold} {d : Directory α} {calls : ℕ → Backend × ℤ} {k : ℕ}

theorem covered_succ (calls : ℕ → Backend × ℤ) (k : ℕ) :
    covered calls (k + 1) = covered calls k + (calls k).2 := Finset.sum_range_succ _ _

theorem Backend.Admits.pos {b : Backend} {maxEntries : ℤ} (h : b.Admits maxEntries) :
    1 ≤ maxEntries := by
  cases b <;> exact h.1

theorem covered_nonneg (hadmits : ∀ i, (calls i).1.Admits (calls i).2) (k : ℕ) :
    0 ≤ covered calls k :=
  Finset.sum_nonneg fun i _ => by
    have hpos := (hadmits i).pos
    omega

/-- What was read up to the end of the directory is all of it. -/
theorem take_covered (hcovered : (d.scan.length : ℤ) ≤ covered calls k) :
    (d.entries casefold).take (covered calls k).toNat = d.entries casefold := by
  apply List.take_of_length_le
  rw [d.length_entries]
  omega

/-- The next page goes on where the pages before it end. -/
theorem take_covered_append (hadmits : ∀ i, (calls i).1.Admits (calls i).2) (k : ℕ) :
    (d.entries casefold).take (covered calls k).toNat ++
        slice (d.entries casefold) (min (d.scan.length : ℤ) (covered calls k))
          (min (d.scan.length : ℤ) (covered calls k) + (calls k).2) =
      (d.entries casefold).take (covered calls (k + 1)).toNat := by
  have hnonneg := covered_nonneg hadmits k
  have hpos := (hadmits k).pos
  have hcount := d.length_entries casefold
  rw [covered_succ]
  rcases le_total (d.scan.length : ℤ) (covered calls k) with hle | hle
  · -- nothing is left
    rw [min_eq_left hle, List.take_of_length_le (by omega), List.take_of_length_le (by omega),
      slice, List.drop_eq_nil_of_le (by rw [List.length_take]; omega), List.append_nil]
  · rw [min_eq_right hle]
    exact take_append_slice _ (by omega)

/-- A call that neither ends the reading nor fails. -/
theorem next_reading (hadmits : ∀ i, (calls i).1.Admits (calls i).2) (hfits : Fits d calls k)
    (hends : ¬Ends d calls k) :
    (Cursor.reading (min (d.scan.length : ℤ) (covered calls k))
        ((d.entries casefold).take (covered calls k).toNat)).next casefold d (calls k) =
      .reading (min (d.scan.length : ℤ) (covered calls (k + 1)))
        ((d.entries casefold).take (covered calls (k + 1)).toNat) := by
  have hnonneg := covered_nonneg hadmits k
  have hpos := (hadmits k).pos
  have hcount := d.length_entries casefold
  rw [← take_covered_append hadmits k, covered_succ, Cursor.next]
  by_cases hclient : (calls k).1 = .workBridgeClient
  · rw [hclient, Backend.page_client (by omega) (by omega) hpos (hfits hclient)]
    dsimp only
    congr 1
    omega
  · have hshort : ¬(d.scan.length : ℤ) ≤ covered calls (k + 1) := fun hlong => hends ⟨hclient, hlong⟩
    rw [covered_succ] at hshort
    rw [Backend.page_python hclient (by omega) (hadmits k),
      Listing.nextOffset_page (by omega) (by omega) hpos, if_pos (by omega)]
    dsimp only
    congr 1
    omega

/-- A call that ends the reading. -/
theorem next_ends (hadmits : ∀ i, (calls i).1.Admits (calls i).2) (hends : Ends d calls k) :
    (Cursor.reading (min (d.scan.length : ℤ) (covered calls k))
        ((d.entries casefold).take (covered calls k).toNat)).next casefold d (calls k) =
      .finished (d.entries casefold) := by
  have hnonneg := covered_nonneg hadmits k
  have hpos := (hadmits k).pos
  have hcount := d.length_entries casefold
  obtain ⟨hpython, hlong⟩ := hends
  rw [Cursor.next, Backend.page_python hpython (by omega) (hadmits k)]
  rw [Listing.nextOffset_page (by omega) (by omega) hpos,
    if_neg (by rw [covered_succ] at hlong; omega)]
  dsimp only
  rw [take_covered_append hadmits k, take_covered hlong]

/-- A call that fails. -/
theorem next_failed (hadmits : ∀ i, (calls i).1.Admits (calls i).2) (hfits : ¬Fits d calls k)
    (got : List α) :
    (Cursor.reading (min (d.scan.length : ℤ) (covered calls k)) got).next casefold d (calls k) =
      .failed := by
  have hnonneg := covered_nonneg hadmits k
  obtain ⟨hclient, hlarge⟩ := Classical.not_imp.mp hfits
  have hmax := hadmits k
  rw [hclient] at hmax
  rw [Cursor.next, hclient, Backend.page_client_overflow (by omega) (by omega) hmax.2 hlarge]

/-- As long as no call ends the reading or fails, the caller has read what the pages cover. -/
theorem follow_reading (hadmits : ∀ i, (calls i).1.Admits (calls i).2)
    (hgoes : ∀ i < k, Fits d calls i ∧ ¬Ends d calls i) :
    follow casefold d calls k = .reading (min (d.scan.length : ℤ) (covered calls k))
      ((d.entries casefold).take (covered calls k).toNat) := by
  induction k with
  | zero => simp [follow, covered]
  | succ k ih =>
    obtain ⟨hfits, hends⟩ := hgoes k (Nat.lt_succ_self k)
    rw [follow, ih fun i hi => hgoes i (Nat.lt_succ_of_lt hi)]
    exact next_reading hadmits hfits hends

/-- An error is not recovered from. -/
theorem follow_of_failed (hfailed : follow casefold d calls k = .failed) (j : ℕ) :
    follow casefold d calls (k + j) = .failed := by
  induction j with
  | zero => exact hfailed
  | succ j ih =>
    rw [← Nat.add_assoc, follow, ih]
    rfl

/-- The caller stops with everything exactly if a Python backend serves a call that reaches the end,
and no call before it overflows. -/
theorem complete_iff (hadmits : ∀ i, (calls i).1.Admits (calls i).2) :
    Complete casefold d calls ↔ ∃ k, Ends d calls k ∧ ∀ i < k, Fits d calls i := by
  classical
  constructor
  · rintro ⟨k, hfinished⟩
    -- the first call that ends the reading or fails
    have hexists : ∃ i, ¬(Fits d calls i ∧ ¬Ends d calls i) := by
      by_contra hnone
      push Not at hnone
      rw [follow_reading hadmits fun i _ => hnone i] at hfinished
      cases hfinished
    have hbefore : ∀ i < Nat.find hexists, Fits d calls i ∧ ¬Ends d calls i :=
      fun i hi => not_not.mp (Nat.find_min hexists hi)
    by_cases hfits : Fits d calls (Nat.find hexists)
    · have hends : Ends d calls (Nat.find hexists) := by
        by_contra hends
        exact Nat.find_spec hexists ⟨hfits, hends⟩
      exact ⟨_, hends, fun i hi => (hbefore i hi).1⟩
    · have hfailed : follow casefold d calls (Nat.find hexists + 1) = .failed := by
        rw [follow, follow_reading hadmits hbefore]
        exact next_failed hadmits hfits _
      -- the caller has not stopped before that call, and fails from then on
      rcases Nat.lt_or_ge (Nat.find hexists) k with hlt | hge
      · obtain ⟨j, rfl⟩ := Nat.exists_eq_add_of_le (show Nat.find hexists + 1 ≤ k from hlt)
        rw [follow_of_failed hfailed j] at hfinished
        cases hfinished
      · rw [follow_reading hadmits fun i hi => hbefore i (lt_of_lt_of_le hi hge)] at hfinished
        cases hfinished
  · rintro ⟨k, hends, hfits⟩
    have hexists : ∃ i, Ends d calls i := ⟨k, hends⟩
    have hle : Nat.find hexists ≤ k := Nat.find_min' hexists hends
    refine ⟨Nat.find hexists + 1, ?_⟩
    rw [follow, follow_reading hadmits fun i hi =>
      ⟨hfits i (lt_of_lt_of_le hi hle), Nat.find_min hexists hi⟩]
    exact next_ends hadmits (Nat.find_spec hexists)

/-- The page of the Go client is that of a Python backend exactly if it does not reach the end. -/
theorem page_client_eq_iff {b : Backend} (hb : b ≠ .workBridgeClient) {offset maxEntries : ℤ}
    (hoffset : 0 ≤ offset) (hsize : b.Admits maxEntries) :
    Backend.workBridgeClient.page casefold d offset maxEntries =
        b.page casefold d offset maxEntries ↔ offset + maxEntries < d.scan.length := by
  have hpos := hsize.pos
  have hbound := d.length_lt
  have hcount := d.length_entries casefold
  rw [Backend.page_python hb hoffset hsize]
  constructor
  · intro heq
    by_contra hlast
    have hnull : (Listing.page d.path (d.entries casefold) offset maxEntries none).nextOffset =
        none := by
      simp only [Listing.page]
      rw [if_neg]
      rw [slice, List.length_drop, List.length_take]
      omega
    rw [hnull] at heq
    exact Backend.page_client_ne _ heq
  · intro hshort
    rw [Backend.page_client hoffset (by omega) hpos (by omega),
      Listing.nextOffset_page hoffset (by omega) hpos, if_pos (by omega), min_eq_right (by omega)]

end Follow

/-- **Paging through a directory.** A caller that follows `next_offset` from 0 gets every entry
exactly once, in order, and stops, if and only if a Python backend serves some call that reaches the
end of the directory and the Go client can add up the arguments of the calls before. Pages of the
Python backends are the same, and those of the Go client are if and only if they do not reach the
end. -/
theorem listing_complete_iff (casefold : String → String) (d : Directory α)
    (calls : ℕ → Backend × ℤ) (hadmits : ∀ i, (calls i).1.Admits (calls i).2) :
    (Complete casefold d calls ↔ ∃ k, Ends d calls k ∧ ∀ i < k, Fits d calls i) ∧
      ∀ offset maxEntries : ℤ, 0 ≤ offset → 1 ≤ maxEntries → maxEntries ≤ 1000 →
        Backend.rdcSurface.page casefold d offset maxEntries =
          Backend.workBridgeLocal.page casefold d offset maxEntries ∧
        (Backend.workBridgeClient.page casefold d offset maxEntries =
          Backend.rdcSurface.page casefold d offset maxEntries ↔
            offset + maxEntries < d.scan.length) := by
  refine ⟨complete_iff hadmits, fun offset maxEntries hoffset hpos hmax => ⟨?_, ?_⟩⟩
  · have hrdc : Backend.rdcSurface ≠ .workBridgeClient := by decide
    have hlocal : Backend.workBridgeLocal ≠ .workBridgeClient := by decide
    rw [Backend.page_python hrdc hoffset ⟨hpos, hmax⟩,
      Backend.page_python hlocal hoffset ⟨hpos, hmax⟩]
  · exact page_client_eq_iff (by decide) hoffset ⟨hpos, hmax⟩

/-- A directory of three entries. -/
def exampleDirectory : Directory ℕ := ⟨"/d", [("b", 1), ("c", 2), ("a", 0)], by decide⟩

/-- Two pages, of which the native surface serves the second. -/
def switchedCalls : ℕ → Backend × ℤ
  | 0 => (.workBridgeClient, 2)
  | _ => (.rdcSurface, 2)

theorem listing_complete_iff_switchedCalls :
    Complete id exampleDirectory switchedCalls ∧
      Backend.rdcSurface.page id exampleDirectory 0 2 =
        Backend.workBridgeLocal.page id exampleDirectory 0 2 := by
  have hadmits : ∀ i, (switchedCalls i).1.Admits (switchedCalls i).2 := by
    intro i
    cases i with
    | zero => exact ⟨by decide, by decide⟩
    | succ i =>
      show (1 : ℤ) ≤ 2 ∧ (2 : ℤ) ≤ 1000
      decide
  have h := listing_complete_iff id exampleDirectory switchedCalls hadmits
  refine ⟨h.1.mpr ⟨1, ⟨by decide, by decide⟩, fun i hi => ?_⟩, (h.2 0 2 (by decide) (by decide)
    (by decide)).1⟩
  obtain rfl : i = 0 := by omega
  exact fun _ => by decide

/-- A caller that the Go client serves alone never stops, and in no directory. -/
theorem not_complete_client (casefold : String → String) (d : Directory α) {calls : ℕ → Backend × ℤ}
    (hclient : ∀ i, (calls i).1 = .workBridgeClient) : ¬Complete casefold d calls := by
  have hnever : ∀ k got, follow casefold d calls k ≠ .finished got := by
    intro k
    induction k with
    | zero => exact fun got => by simp [follow]
    | succ k ih =>
      intro got
      rw [follow]
      cases hcursor : follow casefold d calls k with
      | finished got' => exact absurd hcursor (ih got')
      | failed => simp [Cursor.next]
      | reading offset got' =>
        rw [Cursor.next, hclient]
        rcases hpage : Backend.workBridgeClient.page casefold d offset (calls k).2 with
          - | ⟨entries, - | next⟩
        · simp
        · exact absurd hpage (Backend.page_client_ne entries)
        · simp
  rintro ⟨k, hfinished⟩
  exact hnever k _ hfinished

/-- The empty directory, read page by page from the Go client, has no end. -/
theorem not_complete_emptyDirectory :
    ¬Complete id (⟨"/d", [], by decide⟩ : Directory ℕ) fun _ => (.workBridgeClient, 200) :=
  not_complete_client id _ fun _ => rfl

end VeraMesh

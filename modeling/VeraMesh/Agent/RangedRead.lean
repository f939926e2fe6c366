import VeraMesh.Agent.Executor
import VeraMesh.Lib.Base64
import VeraMesh.Lib.Delimited

/-!
# Ranged reads

A caller reads a file page by page with `read_bytes_range` (`executor.py`), and hands the version of
the first page on to the next ones. The file may be written or replaced at any moment, between two
pages and while a page is read.

* `FileHistory`: the files as they are at every moment.
* `FileHistory.readBytesRange`: one page, call by call of the operating system.
* `readPages`: the loop of the caller.
* `rangedRead_one_version`: the caller gets the bytes of one version, or learns of the change.
-/

namespace VeraMesh

open Python Except

/-! ## Files -/

/-- A regular file at some moment. -/
structure FileState where
  dev : ℕ
  ino : ℕ
  mtimeNs : ℤ
  content : List UInt8
  deriving DecidableEq

namespace FileState

/-- `st_size`. -/
def size (file : FileState) : ℕ := file.content.length

/-- What the version of a file is made of. -/
def identity (file : FileState) : ℕ × ℕ × ℕ × ℤ := (file.dev, file.ino, file.size, file.mtimeNs)

/-- The text that `_file_version` hashes. -/
def identityText (file : FileState) : String :=
  toString file.dev ++ ":" ++ toString file.ino ++ ":" ++ toString file.size ++ ":" ++
    toString file.mtimeNs

end FileState

/-- `hashlib.sha256(text).hexdigest()`. -/
structure Sha256 where
  hexdigest : String → String
  length_hexdigest : ∀ text, (hexdigest text).length = 64

/-- `_file_version`. -/
def FileState.version (sha256 : Sha256) (file : FileState) : String :=
  sha256.hexdigest file.identityText

/-- The files around a read. Moments are numbered. -/
structure FileHistory where
  /-- The file that the path names at some moment. A replacement changes it. -/
  named : ℕ → ℕ
  /-- A file at some moment. A write changes it. -/
  file : ℕ → ℕ → FileState

/-- A read of the operating system: when it is made, and how many bytes it gets at most. -/
structure RawRead where
  time : ℕ
  size : ℕ
  size_pos : 0 < size

/-- When the calls of `_read_bytes_range` are made. -/
structure PageMoments where
  opened : ℕ
  /-- The first `os.fstat`. -/
  before : ℕ
  /-- The reads of the operating system, as many as it takes. -/
  raw : ℕ → RawRead
  /-- The second `os.fstat`. -/
  after : ℕ
  opened_le : opened ≤ before
  before_le : ∀ i, before ≤ (raw i).time
  raw_mono : ∀ i, (raw i).time ≤ (raw (i + 1)).time
  le_after : ∀ i, (raw i).time ≤ after

/-- `FileByteRange`. -/
structure FileByteRange where
  content : List UInt8
  offset : ℕ
  bytesRead : ℕ
  nextOffset : ℕ
  eof : Bool
  sizeBytes : ℕ
  fileVersion : String

namespace FileByteRange

/-- The result of `fs.read_bytes`. -/
def toJson (range : FileByteRange) : PyValue :=
  .dict [("content_base64", .str (String.ofList (b64encode range.content))),
    ("offset", .int range.offset), ("bytes_read", .int range.bytesRead),
    ("next_offset", .int range.nextOffset), ("eof", .bool range.eof),
    ("size_bytes", .int range.sizeBytes), ("file_version", .str range.fileVersion)]

/-- What a caller reads from the result. -/
def ofJson? : PyValue → Option FileByteRange
  | .dict [("content_base64", .str text), ("offset", .int offset), ("bytes_read", .int bytesRead),
      ("next_offset", .int nextOffset), ("eof", .bool eof), ("size_bytes", .int sizeBytes),
      ("file_version", .str fileVersion)] =>
    (b64decode? text.toList).map fun content =>
      ⟨content, offset.toNat, bytesRead.toNat, nextOffset.toNat, eof, sizeBytes.toNat, fileVersion⟩
  | _ => none

/-- The caller reads what was sent. -/
theorem ofJson?_toJson (range : FileByteRange) : ofJson? range.toJson = some range := by
  rw [toJson, ofJson?, String.toList_ofList, b64decode?_b64encode]
  rfl

end FileByteRange

namespace FileHistory

variable (sha256 : Sha256) (h : FileHistory)

/-- `handle.read(remaining)` at the position `offset`: reads of the operating system until there are
bytes enough, or none. -/
def readLoop (handle : ℕ) (raw : ℕ → RawRead) : (fuel i offset remaining : ℕ) → List UInt8
  | 0, _, _, _ => []
  | _, _, _, 0 => []
  | fuel + 1, i, offset, remaining + 1 =>
    let piece := ((h.file (raw i).time handle).content.drop offset).take
      (min (raw i).size (remaining + 1))
    if piece = [] then []
    else piece ++ readLoop handle raw fuel (i + 1) (offset + piece.length)
      (remaining + 1 - piece.length)

/-- `_read_bytes_range`. -/
def readBytesRange (moments : PageMoments) (offset maxBytes : ℕ)
    (expectedFileVersion : Option String) : Except PyError FileByteRange :=
  let handle := h.named moments.opened
  let before := h.file moments.before handle
  let fileVersion := before.version sha256
  if expectedFileVersion.any (· ≠ fileVersion) then
    .error ⟨.fileVersionChanged, "file version differs from prior chunk"⟩
  else if before.size < offset then .error ⟨.valueError, "offset exceeds file size"⟩
  else
    let payload := h.readLoop handle moments.raw maxBytes 0 offset maxBytes
    let after := h.file moments.after handle
    if after.version sha256 ≠ fileVersion then
      .error ⟨.fileVersionChanged, "file changed during ranged read"⟩
    else
      let nextOffset := offset + payload.length
      .ok ⟨payload, offset, payload.length, nextOffset, decide (before.size ≤ nextOffset),
        before.size, fileVersion⟩

end FileHistory

/-! ## The caller -/

/-- A request for a page: the limit it asks for, and what it finds. -/
structure PageRequest where
  maxBytes : PyValue
  fs : FileSystem
  registry : LaneRegistry
  now : PyFloat
  moments : PageMoments

section Caller

variable (rt : Runtime) (x : LocalExecutor) (sha256 : Sha256) (h : FileHistory)

/-- The calls of `authorize` of a plan. -/
def PageRequest.authorize (request : PageRequest) (laneId : String) (fencingToken : ℤ) :
    List Check → Except PyError Unit
  | [] => .ok ()
  | check :: checks => do
    let _ ← (request.registry.authorize rt laneId fencingToken check.capability
      (some check.resourceKey) (some check.resourceMode) request.now).1
    request.authorize laneId fencingToken checks

/-- `request.get("expected_file_version")`. -/
def expectedVersion : Option String → PyValue
  | none => .none
  | some version => .str version

/-- `fs.read_bytes` for a path of the file. -/
def readBytes (laneId : String) (fencingToken : ℤ) (path : String) (request : PageRequest)
    (offset : ℕ) (expectedFileVersion : Option String) : Except PyError PyValue := do
  let plan ← x.readBytesRange rt request.fs path (.int offset) request.maxBytes
    (expectedVersion expectedFileVersion)
  request.authorize rt laneId fencingToken plan.checks
  match plan.work with
  | .readBytesRange _ offset limit expected =>
    let range ← h.readBytesRange sha256 request.moments offset.toNat limit.toNat expected
    return range.toJson
  -- `read_bytes_range` plans no other work
  | _ => .error ⟨.runtimeError, ""⟩

/-- How far a caller has got. -/
inductive PagedRead where
  /-- The last page was the end of the file. -/
  | finished (content : List UInt8)
  | failed (err : PyError)
  | unfinished (content : List UInt8)

/-- The loop of a caller, for at most `count` pages. The version that it expects is that of the
first page. -/
def readPages (page : ℕ → ℕ → Option String → Except PyError PyValue) :
    (count i offset : ℕ) → Option String → List UInt8 → PagedRead
  | 0, _, _, _, content => .unfinished content
  | count + 1, i, offset, expected, content =>
    match page i offset expected with
    | .error err => .failed err
    | .ok answer =>
      match FileByteRange.ofJson? answer with
      | none => .failed ⟨.valueError, "not a byte range"⟩
      | some chunk =>
        if chunk.eof then .finished (content ++ chunk.content)
        else readPages page count (i + 1) chunk.nextOffset
          (some (expected.getD chunk.fileVersion)) (content ++ chunk.content)

end Caller

/-! ## Versions -/

theorem isDigit_of_mem_toString {n : ℕ} {c : Char} (h : c ∈ (toString n).toList) :
    c.isDigit = true := by
  rw [Nat.toString_eq_repr, Nat.repr_eq_ofList_toDigits, String.toList_ofList] at h
  exact Nat.isDigit_of_mem_toDigits (by decide) le_rfl h

theorem toString_nat_inj {n m : ℕ} (h : toString n = toString m) : n = m := by
  rw [Nat.toString_eq_repr, Nat.toString_eq_repr, Nat.repr_eq_ofList_toDigits,
    Nat.repr_eq_ofList_toDigits, String.ofList_inj] at h
  rw [← Nat.ofDigitChars_toDigits (b := 10) (n := n) (by decide) le_rfl, h,
    Nat.ofDigitChars_toDigits (by decide) le_rfl]

theorem toString_int_inj {n m : ℤ} (h : toString n = toString m) : n = m := by
  have hsign : ∀ {k j : ℕ}, "-" ++ toString k ≠ toString j := by
    intro k j hkj
    have hmem : '-' ∈ (toString j).toList := by
      rw [← hkj, String.toList_append]
      exact List.mem_cons_self
    cases isDigit_of_mem_toString hmem
  rw [Int.toString_eq_repr, Int.toString_eq_repr, Int.repr_eq_if, Int.repr_eq_if] at h
  split_ifs at h with hn hm hm
  · have habs := toString_nat_inj h
    omega
  · exact absurd h.symm hsign
  · exact absurd h hsign
  · rw [String.append_right_inj] at h
    have habs := toString_nat_inj h
    omega

/-- A number and what follows its colon. -/
theorem toString_append_inj {n m : ℕ} {s t : String}
    (h : toString n ++ (":" ++ s) = toString m ++ (":" ++ t)) : n = m ∧ s = t := by
  have hcolon : ∀ k : ℕ, ':' ∉ (toString k).toList := by
    intro k hmem
    cases isDigit_of_mem_toString hmem
  have hchars := congrArg String.toList h
  simp only [String.toList_append] at hchars
  obtain ⟨hleft, hright⟩ := eq_of_append_sep (hcolon n) (hcolon m) hchars
  exact ⟨toString_nat_inj (String.toList_inj.mp hleft), String.toList_inj.mp hright⟩

/-- The text of a version tells everything that it is made of. -/
theorem identity_eq_of_text {a b : FileState} (h : a.identityText = b.identityText) :
    a.identity = b.identity := by
  simp only [FileState.identityText, String.append_assoc] at h
  obtain ⟨hdev, h⟩ := toString_append_inj h
  obtain ⟨hino, h⟩ := toString_append_inj h
  obtain ⟨hsize, h⟩ := toString_append_inj h
  rw [FileState.identity, FileState.identity, hdev, hino, hsize, toString_int_inj h]

namespace FileHistory

variable (h : FileHistory) (moments : ℕ → PageMoments)

/-- The file of a page as the first `os.fstat` finds it. -/
def found (i : ℕ) : FileState := h.file (moments i).before (h.named (moments i).opened)

/-- The file of a page as the second `os.fstat` finds it. -/
def left (i : ℕ) : FileState := h.file (moments i).after (h.named (moments i).opened)

/-- What is assumed of versions. -/
structure Versioned (sha256 : Sha256) : Prop where
  /-- The version tuple distinguishes different contents. -/
  distinguishes : ∀ i j, (h.found moments i).identity = (h.found moments j).identity →
    (h.found moments i).content = (h.found moments j).content
  /-- A change during the read of a page changes the tuple. -/
  changes : ∀ i t, (moments i).before ≤ t → t ≤ (moments i).after →
    (h.left moments i).identity = (h.found moments i).identity →
      (h.file t (h.named (moments i).opened)).content = (h.found moments i).content
  /-- SHA-256 gives different texts different digests, of those that occur. -/
  digest : ∀ i j a b, (a = h.found moments i ∨ a = h.left moments i) →
    (b = h.found moments j ∨ b = h.left moments j) →
      a.version sha256 = b.version sha256 → a.identityText = b.identityText

end FileHistory

/-! ## One page -/

section Page

variable {sha256 : Sha256} {h : FileHistory} {moments : ℕ → PageMoments}

/-- A loop on a file that does not change gets the bytes from the offset on. -/
theorem readLoop_eq {handle : ℕ} {raw : ℕ → RawRead} {content : List UInt8}
    (hsame : ∀ i, (h.file (raw i).time handle).content = content) (i offset : ℕ)
    {fuel remaining : ℕ} (hfuel : remaining ≤ fuel) :
    h.readLoop handle raw fuel i offset remaining = (content.drop offset).take remaining := by
  induction fuel generalizing i offset remaining with
  | zero =>
    obtain rfl := Nat.le_zero.mp hfuel
    rfl
  | succ fuel ih =>
    cases remaining with
    | zero => rfl
    | succ remaining =>
      have hsize := (raw i).size_pos
      rw [FileHistory.readLoop, hsame]
      split_ifs with hempty
      · -- nothing is left at this position
        rcases List.take_eq_nil_iff.mp hempty with hzero | hnil
        · omega
        · rw [hnil, List.take_nil]
      · have hlength : (((content.drop offset).take (min (raw i).size (remaining + 1))).length) ≤
            remaining + 1 := by
          rw [List.length_take]
          omega
        have hpos := List.length_pos_iff.mpr hempty
        have hpart := List.prefix_iff_eq_take.mp
          (List.take_prefix (min (raw i).size (remaining + 1)) (content.drop offset))
        generalize (content.drop offset).take (min (raw i).size (remaining + 1)) = piece at *
        rw [ih _ _ (by omega), ← List.drop_drop]
        have hsum : remaining + 1 = piece.length + (remaining + 1 - piece.length) := by omega
        conv_rhs => rw [hsum, List.take_add, ← hpart]

/-- The version that a caller hands on is that of the first page. -/
def Expects (sha256 : Sha256) (h : FileHistory) (moments : ℕ → PageMoments) (i : ℕ)
    (expected : Option String) : Prop :=
  expected = some ((h.found moments 0).version sha256) ∨ i = 0 ∧ expected = none

/-- A digest is no empty text. -/
theorem Expects.ne_empty {i : ℕ} {expected : Option String}
    (hexpects : Expects sha256 h moments i expected) : expected ≠ some "" := by
  rintro rfl
  rcases hexpects with hsome | ⟨-, hnone⟩
  · have hlength := sha256.length_hexdigest (h.found moments 0).identityText
    have hempty : sha256.hexdigest (h.found moments 0).identityText = "" :=
      (Option.some.inj hsome).symm
    rw [hempty] at hlength
    cases hlength
  · cases hnone

/-- A page that finds the expected version finds the content of the first page. -/
theorem content_of_expects (hversioned : h.Versioned moments sha256) {i : ℕ}
    {expected : Option String} (hexpects : Expects sha256 h moments i expected)
    (hversion : ¬expected.any (· ≠ (h.found moments i).version sha256) = true) :
    (h.found moments i).content = (h.found moments 0).content := by
  rcases hexpects with rfl | ⟨rfl, -⟩
  · have hsame : (h.found moments 0).version sha256 = (h.found moments i).version sha256 := by
      simpa using hversion
    apply hversioned.distinguishes
    exact identity_eq_of_text (hversioned.digest i 0 _ _ (Or.inl rfl) (Or.inl rfl) hsame.symm)
  · rfl

/-- A page is a part of the content of the first page, or the change is noticed. -/
theorem readBytesRange_cases (hversioned : h.Versioned moments sha256) {i offset : ℕ}
    (maxBytes : ℕ) {expected : Option String} (hexpects : Expects sha256 h moments i expected)
    (hoffset : offset ≤ (h.found moments 0).content.length) :
    (∃ text, h.readBytesRange sha256 (moments i) offset maxBytes expected =
      .error ⟨.fileVersionChanged, text⟩) ∨
    ∃ range, h.readBytesRange sha256 (moments i) offset maxBytes expected = .ok range ∧
      range.content = ((h.found moments 0).content.drop offset).take maxBytes ∧
      range.nextOffset = offset + range.content.length ∧
      (range.eof = true ↔ (h.found moments 0).content.length ≤ range.nextOffset) ∧
      expected.getD range.fileVersion = (h.found moments 0).version sha256 := by
  have hfound : h.file (moments i).before (h.named (moments i).opened) = h.found moments i := rfl
  have hleft : h.file (moments i).after (h.named (moments i).opened) = h.left moments i := rfl
  unfold FileHistory.readBytesRange
  dsimp only
  rw [hfound, hleft]
  split_ifs with hversion hsize hchanged
  · exact Or.inl ⟨_, rfl⟩
  · -- the offset lies within the version that was expected
    have hcontent := content_of_expects hversioned hexpects hversion
    rw [FileState.size, hcontent] at hsize
    omega
  · exact Or.inl ⟨_, rfl⟩
  · have hcontent := content_of_expects hversioned hexpects hversion
    have hidentity : (h.left moments i).identity = (h.found moments i).identity :=
      identity_eq_of_text (hversioned.digest i i _ _ (Or.inr rfl) (Or.inl rfl)
        (not_not.mp hchanged))
    have hloop : h.readLoop (h.named (moments i).opened) (moments i).raw maxBytes 0 offset
        maxBytes = ((h.found moments 0).content.drop offset).take maxBytes := by
      refine readLoop_eq (fun j => ?_) 0 offset le_rfl
      rw [hversioned.changes i _ ((moments i).before_le j) ((moments i).le_after j) hidentity,
        hcontent]
    right
    refine ⟨_, rfl, hloop, rfl, ?_, ?_⟩
    · rw [decide_eq_true_iff, FileState.size, hcontent]
    · rcases hexpects with rfl | ⟨rfl, rfl⟩ <;> rfl

end Page

/-! ## The loop -/

section Loop

variable {rt : Runtime} {x : LocalExecutor} {sha256 : Sha256} {h : FileHistory} {laneId : String}
  {fencingToken : ℤ} {path : String} {requests : ℕ → PageRequest}

/-- The limit is one that the workstation allows. -/
def PageRequest.Legal (x : LocalExecutor) (request : PageRequest) : Prop :=
  request.maxBytes = .none ∨ ∃ n, request.maxBytes = .int n ∧ 1 ≤ n ∧ n ≤ x.maxReadChunkBytes

/-- The path leads into an allowed root, and the lane may read there. -/
def PageRequest.Admitted (rt : Runtime) (x : LocalExecutor) (laneId : String) (fencingToken : ℤ)
    (path : String) (request : PageRequest) : Prop :=
  ∃ resolved lane, x.resolveAllowed rt request.fs path = .ok resolved ∧
    (request.registry.authorize rt laneId fencingToken "fs.read" (some (fsResource resolved))
      (some .read) request.now).1 = .ok lane

/-- When the pages of a caller are read. -/
def pageMoments (requests : ℕ → PageRequest) (i : ℕ) : PageMoments := (requests i).moments

/-- The file as the first page finds it. -/
def FileHistory.first (h : FileHistory) (requests : ℕ → PageRequest) : FileState :=
  h.found (pageMoments requests) 0

variable (rt x sha256 h laneId fencingToken path requests) in
/-- Page `i` of a caller. -/
def filePage (i offset : ℕ) (expected : Option String) : Except PyError PyValue :=
  readBytes rt x sha256 h laneId fencingToken path (requests i) offset expected

/-- A legal request is planned as a read of the file. -/
theorem plan_of_legal {request : PageRequest} {offset : ℕ} {expected : Option String}
    {resolved : Path} (hchunk : 1 ≤ x.maxReadChunkBytes) (hlegal : request.Legal x)
    (hresolved : x.resolveAllowed rt request.fs path = .ok resolved)
    (hexpected : expected ≠ some "") :
    ∃ limit : ℕ, 1 ≤ limit ∧
      x.readBytesRange rt request.fs path (.int offset) request.maxBytes
        (expectedVersion expected) =
        .ok ⟨[⟨"fs.read", fsResource resolved, .read⟩],
          .readBytesRange resolved offset limit expected⟩ := by
  obtain ⟨limit, hone, hmost, hlimit⟩ : ∃ limit : ℕ, 1 ≤ limit ∧ (limit : ℤ) ≤
      x.maxReadChunkBytes ∧ (request.maxBytes = .none ∧ x.maxReadChunkBytes = limit ∨
        request.maxBytes = .int limit) := by
    rcases hlegal with hnone | ⟨n, hn, hone, hmost⟩
    · exact ⟨x.maxReadChunkBytes.toNat, by omega, by omega, Or.inl ⟨hnone, by omega⟩⟩
    · refine ⟨n.toNat, by omega, by omega, Or.inr ?_⟩
      rw [hn, Int.toNat_of_nonneg (by omega)]
  have hversion : LocalExecutor.requireFileVersion (expectedVersion expected) = .ok expected := by
    cases expected with
    | none => rfl
    | some version => exact if_neg fun hempty => hexpected (congrArg some hempty)
  refine ⟨limit, hone, ?_⟩
  simp only [LocalExecutor.readBytesRange, LocalExecutor.planOn, bind_eq_ok, pure_eq_ok,
    requireInt_eq_ok]
  refine ⟨offset, ⟨rfl, decide_eq_true (Int.natCast_nonneg _)⟩, limit,
    ⟨?_, decide_eq_true ⟨by omega, hmost⟩⟩, expected, hversion, resolved, hresolved, rfl⟩
  rcases hlimit with ⟨hnone, hmax⟩ | hint
  · rw [hnone]
    exact congrArg PyValue.int hmax
  · rw [hint]

variable (sha256 h) in
/-- A legal request of a lane that may read is a read of the file. -/
theorem readBytes_eq {request : PageRequest} (offset : ℕ) {expected : Option String}
    (hchunk : 1 ≤ x.maxReadChunkBytes) (hlegal : request.Legal x)
    (hadmitted : request.Admitted rt x laneId fencingToken path) (hexpected : expected ≠ some "") :
    ∃ limit : ℕ, 1 ≤ limit ∧
      readBytes rt x sha256 h laneId fencingToken path request offset expected =
        (h.readBytesRange sha256 request.moments offset limit expected).map
          FileByteRange.toJson := by
  obtain ⟨resolved, lane, hresolved, hauthorize⟩ := hadmitted
  obtain ⟨limit, hone, hplan⟩ := plan_of_legal hchunk hlegal hresolved hexpected
  refine ⟨limit, hone, ?_⟩
  have hchecks : request.authorize rt laneId fencingToken
      [⟨"fs.read", fsResource resolved, .read⟩] = .ok () := by
    rw [PageRequest.authorize, hauthorize]
    rfl
  unfold readBytes
  rw [hplan]
  show (request.authorize rt laneId fencingToken [⟨"fs.read", fsResource resolved, .read⟩] >>=
    fun _ => h.readBytesRange sha256 request.moments offset limit expected >>= fun range =>
      pure range.toJson) = _
  rw [hchecks]
  cases h.readBytesRange sha256 request.moments offset limit expected <;> rfl

/-- From a page on, a caller ends with the content of the first page, or notices the change. -/
theorem readPages_of_expects
    (hchunk : 1 ≤ x.maxReadChunkBytes) (hlegal : ∀ i, (requests i).Legal x)
    (hadmitted : ∀ i, (requests i).Admitted rt x laneId fencingToken path)
    (hversioned : h.Versioned (pageMoments requests) sha256) {count i offset : ℕ}
    {expected : Option String} {content : List UInt8}
    (hexpects : Expects sha256 h (pageMoments requests) i expected)
    (hoffset : offset ≤ (h.first requests).content.length)
    (hcontent : content = (h.first requests).content.take offset)
    (hcount : (h.first requests).content.length - offset < count) :
    readPages (filePage rt x sha256 h laneId fencingToken path requests) count i offset expected
        content = .finished (h.first requests).content ∨
      ∃ text, readPages (filePage rt x sha256 h laneId fencingToken path requests) count i offset
        expected content = .failed ⟨.fileVersionChanged, text⟩ := by
  induction count generalizing i offset expected content with
  | zero => exact absurd hcount (Nat.not_lt_zero _)
  | succ count ih =>
    obtain ⟨limit, hone, hpage⟩ := readBytes_eq sha256 h offset hchunk (hlegal i) (hadmitted i)
      hexpects.ne_empty
    have hmoments : (requests i).moments = pageMoments requests i := rfl
    rw [readPages, filePage, hpage, hmoments]
    rcases readBytesRange_cases hversioned limit hexpects hoffset with
      ⟨text, hchanged⟩ | ⟨range, hrange, hbytes, hnext, heof, hversion⟩
    · right
      rw [hchanged]
      exact ⟨text, rfl⟩
    · have hfirst : h.found (pageMoments requests) 0 = h.first requests := rfl
      rw [hfirst] at hbytes heof
      rw [hrange]
      dsimp only [Except.map]
      rw [FileByteRange.ofJson?_toJson]
      dsimp only
      have hlength : range.content.length ≤ (h.first requests).content.length - offset := by
        rw [hbytes, List.length_take, List.length_drop]
        omega
      have hjoined : content ++ range.content =
          (h.first requests).content.take range.nextOffset := by
        have hpart := List.prefix_iff_eq_take.mp
          (List.take_prefix limit ((h.first requests).content.drop offset))
        rw [hcontent, hnext, List.take_add, hbytes, ← hpart]
      split_ifs with hend
      · left
        rw [hjoined, List.take_of_length_le (heof.mp hend)]
      · have hmore : range.nextOffset < (h.first requests).content.length :=
          not_le.mp fun hle => hend (heof.mpr hle)
        have hprogress : 1 ≤ range.content.length := by
          rw [hbytes, List.length_take, List.length_drop]
          omega
        apply ih (Or.inl (congrArg some hversion)) hmore.le hjoined
        omega

/-- **Ranged reads.** A caller that follows the offsets gets exactly the bytes of the file as its
first page found it, or learns that the file has changed, after finitely many pages. -/
theorem rangedRead_one_version
    (hchunk : 1 ≤ x.maxReadChunkBytes) (hlegal : ∀ i, (requests i).Legal x)
    (hadmitted : ∀ i, (requests i).Admitted rt x laneId fencingToken path)
    (hversioned : h.Versioned (pageMoments requests) sha256) :
    ∃ count ≤ (h.first requests).content.length + 1,
      (readPages (filePage rt x sha256 h laneId fencingToken path requests) count 0 0 none [] =
          .finished (h.first requests).content ∨
        ∃ text, readPages (filePage rt x sha256 h laneId fencingToken path requests) count 0 0 none
          [] = .failed ⟨.fileVersionChanged, text⟩) :=
  ⟨_, le_rfl, readPages_of_expects hchunk hlegal hadmitted hversioned (Or.inr ⟨rfl, rfl⟩)
    (Nat.zero_le _) List.take_zero.symm (by omega)⟩

end Loop

/-- SHA-256 on the text of the example file. -/
def exampleSha256 : Sha256 where
  hexdigest text :=
    if text = "1:2:3:0" then "8f51bf54aa2ec64106841887488ce744415e46e81d0f8b437685c5e07b6794f3"
    else String.ofList (List.replicate 64 '0')
  length_hexdigest text := by
    split_ifs
    · rfl
    · rw [String.length_ofList, List.length_replicate]

/-- A file that nobody changes. -/
def exampleHistory : FileHistory := ⟨fun _ => 0, fun _ _ => ⟨1, 2, 0, [97, 98, 99]⟩⟩

/-- A lane that may read the file `/x` asks for two bytes at a time. -/
def examplePageRequest : PageRequest where
  maxBytes := .int 2
  fs := ⟨fun _ => .ok ⟨"/", ["x"]⟩, fun _ => .ok false, fun _ => .ok ⟨"/", ["x"]⟩,
    fun _ => .ok false⟩
  registry :=
    ⟨{"fs.read"}, 4, ⟨[("l", ⟨"l", "t", {"fs.read"}, [⟨⟨"fs:/x", by decide⟩, .read⟩], 1, 10⟩)],
      by decide⟩, 1, false⟩
  now := 5
  moments := ⟨0, 0, fun _ => ⟨0, 1, Nat.one_pos⟩, 0, le_rfl, fun _ => le_rfl, fun _ => le_rfl,
    fun _ => le_rfl⟩

/-- The file is read in two pages, byte by byte. -/
theorem rangedRead_one_version_exampleHistory :
    ∃ count ≤ 4,
      (readPages (filePage (Runtime.ascii false) ⟨[⟨"/", []⟩], 2, false⟩ exampleSha256
          exampleHistory "l" 1 "/x" fun _ => examplePageRequest) count 0 0 none [] = .finished [97, 98, 99] ∨
        ∃ text, readPages (filePage (Runtime.ascii false) ⟨[⟨"/", []⟩], 2, false⟩ exampleSha256
          exampleHistory "l" 1 "/x" fun _ => examplePageRequest) count 0 0 none [] =
            .failed ⟨.fileVersionChanged, text⟩) := by
  have hauthorize : ∃ lane, (examplePageRequest.registry.authorize (Runtime.ascii false) "l" 1
      "fs.read" (some (fsResource ⟨"/", ["x"]⟩)) (some .read) 5).1 = .ok lane := ⟨_, rfl⟩
  obtain ⟨lane, hlane⟩ := hauthorize
  exact rangedRead_one_version (x := ⟨[⟨"/", []⟩], 2, false⟩) (h := exampleHistory) (by decide)
    (fun _ => Or.inr ⟨2, rfl, by decide, by decide⟩) (fun _ => ⟨⟨"/", ["x"]⟩, lane, rfl, hlane⟩)
    ⟨fun _ _ _ => rfl, fun _ _ _ _ _ => rfl, by rintro _ _ _ _ (rfl | rfl) (rfl | rfl) _ <;> rfl⟩

end VeraMesh

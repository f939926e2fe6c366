import VeraMesh.Agent.Executor
import VeraMesh.Lib.Occurrence
import VeraMesh.Python.Text

/-!
# Replacing text

`replace_text` (`executor.py`) decodes a file, counts a string in it, and writes the text with
another string in its place to a temporary file, which it then moves over the file.

* `replaceText`: the operation, on a file of any bytes and for any codec that lays out each
  character as bytes of its own. (In an encoding with shift states an occurrence has no bytes of its
  own.)
* `TouchesOnlySpans`: a request that is refused leaves the file as it is, and one that is carried
  out changes only the bytes of the occurrences.
* `touchesOnlySpans_iff`: it does if and only if the file is laid out as its codec writes files. The
  codecs `utf-8-sig` and `utf-16` read files that they do not write.
-/

namespace VeraMesh

open Python Except

/-! ## The operation -/

/-- The file, and the temporary file next to it. -/
structure Folder where
  file : List UInt8
  tmp : Option (List UInt8)
  deriving DecidableEq

/-- The exceptions of the calls of the operating system. -/
structure FileFaults where
  openRead : Option PyError
  mkdir : Option PyError
  mkstemp : Option PyError
  /-- A failed write may have written something. -/
  write : Option (PyError × List UInt8)
  replace : Option PyError
  unlink : Option PyError

/-- The calls that the operation rests on succeed. -/
def FileFaults.Harmless (faults : FileFaults) : Prop :=
  faults.openRead = none ∧ faults.mkdir = none ∧ faults.mkstemp = none ∧ faults.write = none ∧
    faults.replace = none

/-- Work on the files that may raise an exception. -/
abbrev FolderTask := ExceptT PyError (StateM Folder)

/-- A call of the operating system. -/
def callOs : Option PyError → FolderTask Unit
  | none => pure ()
  | some err => throw err

/-- A step that works on no file. -/
def FolderTask.ofResult {α : Type} : Except PyError α → FolderTask α
  | .ok a => pure a
  | .error err => throw err

/-- What the operation depends on: `max_read_bytes`, and the codecs of the encodings that exist. -/
structure TextFiles where
  maxReadBytes : ℕ
  codecs : String → Option (TextCodec PyChar)

/-- The arguments of `replace_text`. -/
structure ReplaceRequest where
  oldString : PyText
  newString : PyText
  expectedCount : PyValue
  encoding : String
  /-- The outcome of `_resolve_allowed` and `authorize`, for reading and for writing. -/
  admitted : Except PyError Unit

namespace TextFiles

variable (files : TextFiles)

/-- `payload.decode(encoding)`. -/
def decode (payload : List UInt8) (encoding : String) : Except PyError PyText :=
  match files.codecs encoding with
  | none => .error ⟨.lookupError, "unknown encoding: " ++ encoding⟩
  | some codec =>
    match codec.decode payload with
    | none => .error ⟨.unicodeError, "can't decode bytes"⟩
    | some (_, pieces) => .ok (textOf pieces)

/-- What `handle.write(content)` writes. -/
def encode (content : PyText) (encoding : String) : Except PyError (List UInt8) :=
  match files.codecs encoding with
  | none => .error ⟨.lookupError, "unknown encoding: " ++ encoding⟩
  | some codec =>
    match codec.encode content with
    | none => .error ⟨.unicodeEncodeError, "can't encode characters"⟩
    | some payload => .ok payload

variable (faults : FileFaults)

/-- `_read_text_bounded`. -/
def readTextBounded (encoding : String) : FolderTask PyText := do
  callOs faults.openRead
  let folder ← get
  let payload := folder.file.take (files.maxReadBytes + 1)
  FolderTask.ofResult (require (payload.length ≤ files.maxReadBytes)
    ⟨.fileReadLimitExceeded, s!"file exceeds max_read_bytes={files.maxReadBytes}"⟩)
  FolderTask.ofResult (files.decode payload encoding)

/-- The part of `_atomic_write` after the temporary file is there. -/
def writeTmp (content : PyText) (encoding : String) : FolderTask Unit := do
  let payload ← FolderTask.ofResult (files.encode content encoding)
  match faults.write with
  | some (err, written) =>
    modify fun folder => { folder with tmp := some written }
    throw err
  | none =>
    modify fun folder => { folder with tmp := some payload }
    callOs faults.replace
    set (⟨payload, none⟩ : Folder)

/-- The handler of `_atomic_write`. -/
def discardTmp (err : PyError) : FolderTask Unit := do
  match faults.unlink with
  | none => modify fun folder => { folder with tmp := none }
  | some err' =>
    if err'.cls ≠ .fileNotFoundError then throw err'
  throw err

/-- `_atomic_write`. -/
def atomicWrite (content : PyText) (encoding : String) : FolderTask Unit := do
  callOs faults.mkdir
  callOs faults.mkstemp
  modify fun folder => { folder with tmp := some [] }
  tryCatch (files.writeTmp faults content encoding) (discardTmp faults)

/-- `_replace_text_sync`. -/
def replaceTextSync (oldString newString : PyText) (expectedCount : ℤ) (encoding : String) :
    FolderTask ℕ := do
  let content ← files.readTextBounded faults encoding
  let count := Occurrence.count oldString content
  FolderTask.ofResult (require ((count : ℤ) = expectedCount)
    ⟨.replaceCountMismatch, s!"expected {expectedCount} matches, found {count}"⟩)
  files.atomicWrite faults (Occurrence.replace oldString newString content) encoding
  return count

/-- `replace_text`. -/
def replaceText (request : ReplaceRequest) : FolderTask ℕ := do
  FolderTask.ofResult (require (request.oldString ≠ [])
    ⟨.valueError, "old_string must be non-empty"⟩)
  let expectedCount ← FolderTask.ofResult (requireInt request.expectedCount
    (fun n => 1 ≤ n ∧ n ≤ 1000) ⟨.valueError, "expected_count must be in 1..1000"⟩)
  FolderTask.ofResult request.admitted
  files.replaceTextSync faults request.oldString request.newString expectedCount request.encoding

end TextFiles

/-! ## Rules for work on the files -/

namespace FolderTask

variable {α β : Type} {t : FolderTask α} {f : α → FolderTask β} {s s' : Folder}

/-- The outcome of the work, and the files after it. -/
def exec (t : FolderTask α) (s : Folder) : Except PyError α × Folder := (ExceptT.run t).run s

/-- The file stays as it is if the work fails. -/
def KeepsOnError (t : FolderTask α) : Prop :=
  ∀ s err, (t.exec s).1 = .error err → (t.exec s).2.file = s.file

/-- The file stays as it is. -/
def Keeps (t : FolderTask α) : Prop := ∀ s, (t.exec s).2.file = s.file

theorem exec_bind (s : Folder) :
    (t >>= f).exec s = match t.exec s with
      | (.ok a, s') => (f a).exec s'
      | (.error err, s') => (.error err, s') := by
  show (ExceptT.run (t >>= f)).run s = _
  rw [ExceptT.run_bind, StateT.run_bind]
  show (t.exec s >>= fun p => StateT.run _ p.2 : Id _) = _
  generalize t.exec s = r
  rcases r with ⟨err | a, s'⟩ <;> rfl

theorem exec_tryCatch {handler : PyError → FolderTask α} (s : Folder) :
    (tryCatch t handler).exec s = match t.exec s with
      | (.ok a, s') => (.ok a, s')
      | (.error err, s') => (handler err).exec s' := by
  cases h : t.exec s with
  | mk r s' =>
    have hrun : StateT.run t s = (r, s') := h
    simp only [exec, tryCatch, tryCatchThe, MonadExceptOf.tryCatch, ExceptT.tryCatch, ExceptT.mk]
    rw [ExceptT.run, StateT.run_bind, hrun]
    cases r <;> rfl

theorem exec_bind_eq_ok {b : β} :
    (t >>= f).exec s = (.ok b, s') ↔
      ∃ a s₁, t.exec s = (.ok a, s₁) ∧ (f a).exec s₁ = (.ok b, s') := by
  rw [exec_bind]
  rcases t.exec s with ⟨err | a, s₁⟩
  · constructor
    · intro h
      cases h
    · rintro ⟨a, s₂, h, -⟩
      cases h
  · constructor
    · intro h
      exact ⟨a, s₁, rfl, h⟩
    · rintro ⟨a, s₂, h, hrest⟩
      cases h
      exact hrest

theorem exec_throw_ne_ok {err : PyError} {a : α} :
    (throw err : FolderTask α).exec s ≠ (.ok a, s') := by
  intro h
  cases h

theorem exec_pure_eq_ok {a b : α} :
    (pure a : FolderTask α).exec s = (.ok b, s') ↔ b = a ∧ s' = s := by
  constructor
  · intro h
    cases h
    exact ⟨rfl, rfl⟩
  · rintro ⟨rfl, rfl⟩
    rfl

theorem exec_callOs_eq_ok {fault : Option PyError} {u : Unit} :
    (callOs fault).exec s = (.ok u, s') ↔ fault = none ∧ s' = s := by
  cases fault with
  | none =>
    rw [callOs, exec_pure_eq_ok]
    exact ⟨fun h => ⟨rfl, h.2⟩, fun h => ⟨rfl, h.2⟩⟩
  | some err =>
    constructor
    · intro h
      exact absurd h exec_throw_ne_ok
    · rintro ⟨h, -⟩
      cases h

theorem exec_ofResult_eq_ok {r : Except PyError α} {a : α} :
    (ofResult r).exec s = (.ok a, s') ↔ r = .ok a ∧ s' = s := by
  cases r with
  | ok b =>
    rw [ofResult, exec_pure_eq_ok, Except.ok.injEq]
    exact ⟨fun h => ⟨h.1.symm, h.2⟩, fun h => ⟨h.1.symm, h.2⟩⟩
  | error err =>
    constructor
    · intro h
      exact absurd h exec_throw_ne_ok
    · rintro ⟨h, -⟩
      cases h

/-- A handler that raises again. -/
theorem exec_tryCatch_eq_ok {handler : PyError → FolderTask α} {a : α}
    (hhandler : ∀ err s a s', (handler err).exec s ≠ (.ok a, s')) :
    (tryCatch t handler).exec s = (.ok a, s') ↔ t.exec s = (.ok a, s') := by
  rw [exec_tryCatch]
  rcases t.exec s with ⟨err | a, s₁⟩
  · constructor
    · intro h
      exact absurd h (hhandler err s₁ a s')
    · intro h
      cases h
  · rfl

/-! ### What keeps the file -/

theorem Keeps.keepsOnError (ht : Keeps t) : KeepsOnError t := fun s _ _ => ht s

theorem Keeps.bind (ht : Keeps t) (hf : ∀ a, Keeps (f a)) : Keeps (t >>= f) := by
  intro s
  have hfile := ht s
  rw [exec_bind]
  generalize t.exec s = r at *
  rcases r with ⟨err | a, s₁⟩
  · exact hfile
  · exact (hf a s₁).trans hfile

theorem Keeps.bind_keepsOnError (ht : Keeps t) (hf : ∀ a, KeepsOnError (f a)) :
    KeepsOnError (t >>= f) := by
  intro s err herr
  have hfile := ht s
  rw [exec_bind] at herr ⊢
  generalize t.exec s = r at *
  rcases r with ⟨err' | a, s₁⟩
  · exact hfile
  · exact (hf a s₁ err herr).trans hfile

/-- Work that does not fail may follow. -/
theorem KeepsOnError.bind_pure (ht : KeepsOnError t) (g : α → β) :
    KeepsOnError (t >>= fun a => pure (g a)) := by
  intro s err herr
  have hfile := ht s
  rw [exec_bind] at herr ⊢
  generalize t.exec s = r at *
  rcases r with ⟨err' | a, s₁⟩
  · exact hfile err' rfl
  · cases herr

theorem KeepsOnError.handle (ht : KeepsOnError t) {handler : PyError → FolderTask α}
    (hhandler : ∀ err, Keeps (handler err)) : KeepsOnError (tryCatch t handler) := by
  intro s err herr
  have hfile := ht s
  rw [exec_tryCatch] at herr ⊢
  generalize t.exec s = r at *
  rcases r with ⟨err' | a, s₁⟩
  · exact (hhandler err' s₁).trans (hfile err' rfl)
  · cases herr

theorem keeps_throw (err : PyError) : Keeps (throw err : FolderTask α) := fun _ => rfl

theorem keeps_pure (a : α) : Keeps (pure a : FolderTask α) := fun _ => rfl

theorem keeps_callOs (fault : Option PyError) : Keeps (callOs fault) := by
  cases fault with
  | none => exact keeps_pure ()
  | some err => exact keeps_throw err

theorem keeps_ofResult (r : Except PyError α) : Keeps (ofResult r) := by
  cases r with
  | ok a => exact keeps_pure a
  | error err => exact keeps_throw err

/-- What changes the temporary file only. -/
theorem keeps_modify_tmp (tmp : Option (List UInt8)) :
    Keeps (modify fun folder => { folder with tmp := tmp }) := fun _ => rfl

theorem exec_modify_eq_ok {g : Folder → Folder} {u : Unit} :
    (modify g : FolderTask PUnit).exec s = (.ok u, s') ↔ s' = g s := by
  constructor
  · intro h
    cases h
    rfl
  · rintro rfl
    rfl

theorem exec_get_eq_ok {folder : Folder} :
    (get : FolderTask Folder).exec s = (.ok folder, s') ↔ folder = s ∧ s' = s := by
  constructor
  · intro h
    cases h
    exact ⟨rfl, rfl⟩
  · rintro ⟨rfl, rfl⟩
    rfl

theorem keeps_get : Keeps (get : FolderTask Folder) := fun _ => rfl

end FolderTask

/-! ## The parts of the operation -/

namespace TextFiles

open FolderTask

variable {files : TextFiles} {faults : FileFaults} {encoding : String} {content : PyText}
  {s s' : Folder}

/-- A file within the limit is read as a whole. -/
theorem readTextBounded_eq_ok :
    (files.readTextBounded faults encoding).exec s = (.ok content, s') ↔
      faults.openRead = none ∧ s.file.length ≤ files.maxReadBytes ∧
        files.decode s.file encoding = .ok content ∧ s' = s := by
  have hlength : (s.file.take (files.maxReadBytes + 1)).length ≤ files.maxReadBytes ↔
      s.file.length ≤ files.maxReadBytes := by
    rw [List.length_take]
    omega
  simp only [readTextBounded, exec_bind_eq_ok, exec_callOs_eq_ok, exec_get_eq_ok,
    exec_ofResult_eq_ok, require_eq_ok]
  constructor
  · rintro ⟨_, _, ⟨hopen, rfl⟩, _, _, ⟨rfl, rfl⟩, _, _, ⟨hlimit, rfl⟩, hdecode, rfl⟩
    have hfit := hlength.mp hlimit
    rw [List.take_of_length_le (by omega)] at hdecode
    exact ⟨hopen, hfit, hdecode, rfl⟩
  · rintro ⟨hopen, hfit, hdecode, rfl⟩
    refine ⟨(), _, ⟨hopen, rfl⟩, _, _, ⟨rfl, rfl⟩, (), _, ⟨hlength.mpr hfit, rfl⟩, ?_, rfl⟩
    rwa [List.take_of_length_le (by omega)]

theorem writeTmp_eq_ok {u : Unit} :
    (files.writeTmp faults content encoding).exec s = (.ok u, s') ↔
      faults.write = none ∧ faults.replace = none ∧
        ∃ payload, files.encode content encoding = .ok payload ∧ s' = ⟨payload, none⟩ := by
  rw [writeTmp]
  cases hwrite : faults.write with
  | some failure =>
    simp only [exec_bind_eq_ok, exec_ofResult_eq_ok]
    constructor
    · rintro ⟨_, _, _, _, _, _, hthrow⟩
      exact absurd hthrow exec_throw_ne_ok
    · rintro ⟨h, -⟩
      cases h
  | none =>
    simp only [exec_bind_eq_ok, exec_ofResult_eq_ok, exec_callOs_eq_ok, exec_modify_eq_ok]
    constructor
    · rintro ⟨payload, _, ⟨hencode, rfl⟩, _, _, rfl, _, _, ⟨hreplace, rfl⟩, hset⟩
      cases hset
      exact ⟨trivial, hreplace, payload, hencode, rfl⟩
    · rintro ⟨-, hreplace, payload, hencode, rfl⟩
      exact ⟨payload, _, ⟨hencode, rfl⟩, (), _, rfl, (), _, ⟨hreplace, rfl⟩, rfl⟩

/-- The handler raises again. -/
theorem discardTmp_ne_ok (err : PyError) (s : Folder) (u : Unit) (s' : Folder) :
    (discardTmp faults err).exec s ≠ (.ok u, s') := by
  intro h
  rw [discardTmp] at h
  split at h
  · obtain ⟨_, _, -, hthrow⟩ := exec_bind_eq_ok.mp h
    exact exec_throw_ne_ok hthrow
  · split at h
    · obtain ⟨_, _, hthrow, -⟩ := exec_bind_eq_ok.mp h
      exact exec_throw_ne_ok hthrow
    · exact exec_throw_ne_ok h

theorem atomicWrite_eq_ok {u : Unit} :
    (files.atomicWrite faults content encoding).exec s = (.ok u, s') ↔
      faults.mkdir = none ∧ faults.mkstemp = none ∧ faults.write = none ∧ faults.replace = none ∧
        ∃ payload, files.encode content encoding = .ok payload ∧ s' = ⟨payload, none⟩ := by
  simp only [atomicWrite, exec_bind_eq_ok, exec_callOs_eq_ok, exec_modify_eq_ok,
    exec_tryCatch_eq_ok discardTmp_ne_ok, writeTmp_eq_ok]
  constructor
  · rintro ⟨_, _, ⟨hmkdir, rfl⟩, _, _, ⟨hmkstemp, rfl⟩, _, _, rfl, hrest⟩
    exact ⟨hmkdir, hmkstemp, hrest⟩
  · rintro ⟨hmkdir, hmkstemp, hrest⟩
    exact ⟨(), _, ⟨hmkdir, rfl⟩, (), _, ⟨hmkstemp, rfl⟩, (), _, rfl, hrest⟩

variable {request : ReplaceRequest} {n : ℕ}

/-- When a request is carried out, and what becomes of the file. -/
theorem replaceText_eq_ok :
    (files.replaceText faults request).exec s = (.ok n, s') ↔
      faults.Harmless ∧ request.oldString ≠ [] ∧ request.expectedCount = .int n ∧
        (1 ≤ n ∧ n ≤ 1000) ∧ request.admitted = .ok () ∧ s.file.length ≤ files.maxReadBytes ∧
        ∃ content, files.decode s.file request.encoding = .ok content ∧
          Occurrence.count request.oldString content = n ∧
          ∃ payload, files.encode (Occurrence.replace request.oldString request.newString content)
            request.encoding = .ok payload ∧ s' = ⟨payload, none⟩ := by
  simp only [replaceText, replaceTextSync, exec_bind_eq_ok, exec_ofResult_eq_ok, require_eq_ok,
    requireInt_eq_ok, readTextBounded_eq_ok, atomicWrite_eq_ok, exec_pure_eq_ok, decide_eq_true_iff]
  constructor
  · rintro ⟨_, _, ⟨hold, rfl⟩, m, _, ⟨⟨hexpected, hrange⟩, rfl⟩, _, _, ⟨hadmitted, rfl⟩, content, _,
      ⟨hopen, hlimit, hdecode, rfl⟩, _, _, ⟨hcount, rfl⟩, _, _,
      ⟨hmkdir, hmkstemp, hwrite, hreplace, payload, hencode, rfl⟩, rfl, rfl⟩
    subst hcount
    exact ⟨⟨hopen, hmkdir, hmkstemp, hwrite, hreplace⟩, hold, hexpected, by omega, hadmitted,
      hlimit, content, hdecode, rfl, payload, hencode, rfl⟩
  · rintro ⟨⟨hopen, hmkdir, hmkstemp, hwrite, hreplace⟩, hold, hexpected, hrange, hadmitted, hlimit,
      content, hdecode, hcount, payload, hencode, rfl⟩
    exact ⟨(), _, ⟨hold, rfl⟩, n, _, ⟨⟨hexpected, by omega⟩, rfl⟩, (), _, ⟨hadmitted, rfl⟩, content,
      _, ⟨hopen, hlimit, hdecode, rfl⟩, (), _, ⟨congrArg Nat.cast hcount, rfl⟩, (), _,
      ⟨hmkdir, hmkstemp, hwrite, hreplace, payload, hencode, rfl⟩, hcount.symm, rfl⟩

variable (files faults request) in
/-- A request that fails leaves the file as it is. -/
theorem keepsOnError_replaceText : KeepsOnError (files.replaceText faults request) := by
  have hread : Keeps (files.readTextBounded faults request.encoding) :=
    (keeps_callOs _).bind fun _ => keeps_get.bind fun _ => (keeps_ofResult _).bind fun _ =>
      keeps_ofResult _
  have hdiscard : ∀ err, Keeps (discardTmp faults err) := by
    intro err
    rw [discardTmp]
    split
    · exact (keeps_modify_tmp none).bind fun _ => keeps_throw err
    · split
      · exact (keeps_throw (α := PUnit) _).bind fun _ => keeps_throw err
      · exact keeps_throw err
  have hwriteTmp : ∀ content, KeepsOnError (files.writeTmp faults content request.encoding) := by
    intro content
    rw [writeTmp]
    refine (keeps_ofResult _).bind_keepsOnError fun payload => ?_
    split
    · exact ((keeps_modify_tmp _).bind fun _ => keeps_throw _).keepsOnError
    · refine (keeps_modify_tmp _).bind_keepsOnError fun _ => ?_
      refine (keeps_callOs _).bind_keepsOnError fun _ => ?_
      -- the move over the file is the last step
      intro s err herr
      cases herr
  have hwrite : ∀ content, KeepsOnError (files.atomicWrite faults content request.encoding) := by
    intro content
    refine (keeps_callOs _).bind_keepsOnError fun _ => ?_
    refine (keeps_callOs _).bind_keepsOnError fun _ => ?_
    refine (keeps_modify_tmp _).bind_keepsOnError fun _ => ?_
    exact (hwriteTmp content).handle hdiscard
  refine (keeps_ofResult _).bind_keepsOnError fun _ => ?_
  refine (keeps_ofResult _).bind_keepsOnError fun expectedCount => ?_
  refine (keeps_ofResult _).bind_keepsOnError fun _ => ?_
  refine hread.bind_keepsOnError fun content => ?_
  refine (keeps_ofResult _).bind_keepsOnError fun _ => ?_
  exact (hwrite _).bind_pure _

end TextFiles

/-! ## What is changed -/

section Spans

open Occurrence

variable (files : TextFiles) (request : ReplaceRequest) (file : List UInt8)

/-- The file is as the request says: it is within the limit, it decodes to the pieces, the string
occurs as often as expected, and the new text can be encoded. -/
structure Permitted (codec : TextCodec PyChar) (form : codec.Form) (pieces : List (Piece PyChar)) :
    Prop where
  admitted : request.admitted = .ok ()
  oldString_ne_nil : request.oldString ≠ []
  expectedCount : request.expectedCount = .int (count request.oldString (textOf pieces))
  range : 1 ≤ count request.oldString (textOf pieces) ∧
    count request.oldString (textOf pieces) ≤ 1000
  limit : file.length ≤ files.maxReadBytes
  codec_eq : files.codecs request.encoding = some codec
  decode : codec.decode file = some (form, pieces)
  encode : (codec.encode (replace request.oldString request.newString (textOf pieces))).isSome

/-- The bytes of the file with the bytes of the new string in place of those of each occurrence. -/
def editedBytes (codec : TextCodec PyChar) (form : codec.Form) (pieces : List (Piece PyChar)) :
    Option (List UInt8) :=
  ((codec.chars form).write? request.newString).map fun word =>
    codec.mark form ++
      (bytesOf word).intercalate ((segments Prod.fst request.oldString pieces).map bytesOf)

/-- A request that is refused or fails leaves the file as it is, and one that is carried out changes
only the bytes of the occurrences. -/
def TouchesOnlySpans : Prop :=
  ∀ faults outcome folder,
    (files.replaceText faults request).exec ⟨file, none⟩ = (outcome, folder) →
      ((¬(∃ codec form pieces, Permitted files request file codec form pieces) ∨
        ¬faults.Harmless) → (∃ err, outcome = .error err) ∧ folder.file = file) ∧
      ∀ codec form pieces, Permitted files request file codec form pieces → faults.Harmless →
        outcome = .ok (count request.oldString (textOf pieces)) ∧
          some folder.file = editedBytes request codec form pieces

/-- The file is laid out, outside the occurrences, as its codec writes files. -/
def WrittenAsRead : Prop :=
  ∀ codec form pieces, Permitted files request file codec form pieces →
    form = codec.written ∧ ∀ segment ∈ segments Prod.fst request.oldString pieces,
      ∀ p ∈ segment, (codec.chars codec.written).Canonical p

variable {files request file} {codec : TextCodec PyChar} {form : codec.Form}
  {pieces : List (Piece PyChar)}

/-- The bytes of a file are those between the occurrences and those of the occurrences. -/
theorem Permitted.file_eq (h : Permitted files request file codec form pieces) :
    file = codec.mark form ++
        interleave ((segments Prod.fst request.oldString pieces).map bytesOf)
          ((spans Prod.fst request.oldString pieces).map bytesOf) ∧
      (∀ span ∈ spans Prod.fst request.oldString pieces, textOf span = request.oldString) ∧
      (spans Prod.fst request.oldString pieces).length =
        count request.oldString (textOf pieces) := by
  have hold := h.oldString_ne_nil
  refine ⟨?_, map_of_mem_spans Prod.fst hold pieces, length_spans Prod.fst hold pieces⟩
  have hbytes := (TextCodec.of_decode h.decode).1
  have hparts := interleave_segments_spans Prod.fst hold pieces
  calc file = codec.mark form ++ bytesOf pieces := hbytes
    _ = codec.mark form ++ bytesOf (interleave (segments Prod.fst request.oldString pieces)
        (spans Prod.fst request.oldString pieces)) := by rw [hparts]
    _ = _ := congrArg (codec.mark form ++ ·) (flatMap_interleave Prod.snd _ _)

/-- Where a new string is, its characters can be written. -/
theorem Permitted.isSome_write? (h : Permitted files request file codec form pieces) :
    ((codec.chars form).write? request.newString).isSome = true := by
  have hold := h.oldString_ne_nil
  have hencode := h.encode
  rw [TextCodec.encode, Option.isSome_map, CharCode.isSome_write?_iff] at hencode
  rw [CharCode.isSome_write?_iff]
  intro c hc
  rw [codec.isSome_code]
  apply hencode
  rw [textOf, replace_eq_intercalate Prod.fst hold]
  apply mem_intercalate_of_mem_sep _ hc
  have hspans := length_spans Prod.fst hold pieces
  have hrange := h.range.1
  rw [List.length_map, length_segments Prod.fst hold, hspans]
  rw [textOf] at hrange
  omega

/-- The edited bytes are written if and only if the codec writes the rest of the file as it is. -/
theorem Permitted.edited_eq_encode_iff (h : Permitted files request file codec form pieces) :
    editedBytes request codec form pieces =
        codec.encode (replace request.oldString request.newString (textOf pieces)) ↔
      form = codec.written ∧ ∀ segment ∈ segments Prod.fst request.oldString pieces,
        ∀ p ∈ segment, (codec.chars codec.written).Canonical p := by
  have hold := h.oldString_ne_nil
  obtain ⟨-, hpieces⟩ := TextCodec.of_decode h.decode
  obtain ⟨word, hword⟩ := Option.isSome_iff_exists.mp h.isSome_write?
  obtain ⟨hwordtext, hwordcode⟩ := CharCode.write?_eq_some_iff.mp hword
  -- the edited file as pieces
  have hedited : editedBytes request codec form pieces = some (codec.mark form ++
      bytesOf (word.intercalate (segments Prod.fst request.oldString pieces))) := by
    rw [editedBytes, hword]
    exact congrArg (fun bytes => some (codec.mark form ++ bytes))
      (flatMap_intercalate Prod.snd word _).symm
  have htext : textOf (word.intercalate (segments Prod.fst request.oldString pieces)) =
      replace request.oldString request.newString (textOf pieces) := by
    rw [textOf, map_intercalate, textOf, replace_eq_intercalate Prod.fst hold, ← hwordtext]
    rfl
  have hread : ∀ p ∈ word.intercalate (segments Prod.fst request.oldString pieces),
      (codec.chars form).IsPiece p := by
    intro p hp
    rcases mem_intercalate hp with hword | ⟨segment, hsegment, hp⟩
    · exact (hwordcode p hword).isPiece
    · exact hpieces p (mem_of_mem_segments Prod.fst hold pieces segment hsegment p hp)
  -- the written file as pieces
  obtain ⟨written, hwritten⟩ : ∃ written, (codec.chars codec.written).write?
      (replace request.oldString request.newString (textOf pieces)) = some written := by
    rw [← Option.isSome_iff_exists, ← Option.isSome_map]
    exact h.encode
  obtain ⟨hwrittentext, hwrittencode⟩ := CharCode.write?_eq_some_iff.mp hwritten
  have hencode : codec.encode (replace request.oldString request.newString (textOf pieces)) =
      some (codec.mark codec.written ++ bytesOf written) := by
    rw [TextCodec.encode, hwritten]
    rfl
  rw [hedited, hencode, Option.some.injEq]
  constructor
  · intro hbytes
    obtain ⟨hform, heq⟩ := TextCodec.eq_of_bytes_eq hread hwrittencode
      (htext.trans hwrittentext.symm) hbytes
    refine ⟨hform, fun segment hsegment p hp => hwrittencode p ?_⟩
    rw [← heq]
    exact mem_intercalate_of_mem hsegment hp
  · rintro ⟨rfl, hcanonical⟩
    have hall : ∀ p ∈ word.intercalate (segments Prod.fst request.oldString pieces),
        (codec.chars codec.written).Canonical p := by
      intro p hp
      rcases mem_intercalate hp with hword | ⟨segment, hsegment, hp⟩
      · exact hwordcode p hword
      · exact hcanonical segment hsegment p hp
    rw [CharCode.eq_of_canonical hall hwrittencode (htext.trans hwrittentext.symm)]

/-- The texts that `decode` and `encode` give are those of the codec. -/
theorem Permitted.decode_eq (h : Permitted files request file codec form pieces) :
    files.decode file request.encoding = .ok (textOf pieces) := by
  rw [TextFiles.decode, h.codec_eq]
  dsimp only
  rw [h.decode]

/-- A permitted request is carried out if no call fails. -/
theorem Permitted.exec_replaceText (h : Permitted files request file codec form pieces)
    {faults : FileFaults} (hfaults : faults.Harmless) :
    ∃ payload, codec.encode (replace request.oldString request.newString (textOf pieces)) =
        some payload ∧
      (files.replaceText faults request).exec ⟨file, none⟩ =
        (.ok (count request.oldString (textOf pieces)), ⟨payload, none⟩) := by
  obtain ⟨payload, hpayload⟩ := Option.isSome_iff_exists.mp h.encode
  refine ⟨payload, hpayload, TextFiles.replaceText_eq_ok.mpr ⟨hfaults, h.oldString_ne_nil,
    h.expectedCount, h.range, h.admitted, h.limit, _, h.decode_eq, rfl, payload, ?_, rfl⟩⟩
  rw [TextFiles.encode, h.codec_eq]
  dsimp only
  rw [hpayload]

/-- Only a permitted request is carried out. -/
theorem permitted_of_exec {faults : FileFaults} {folder : Folder} {n : ℕ}
    (h : (files.replaceText faults request).exec ⟨file, none⟩ = (.ok n, folder)) :
    faults.Harmless ∧ ∃ codec form pieces, Permitted files request file codec form pieces := by
  obtain ⟨hfaults, hold, hexpected, hrange, hadmitted, hlimit, content, hdecode, rfl, payload,
    hencode, -⟩ := TextFiles.replaceText_eq_ok.mp h
  refine ⟨hfaults, ?_⟩
  rw [TextFiles.decode] at hdecode
  rw [TextFiles.encode] at hencode
  cases hcodec : files.codecs request.encoding with
  | none =>
    rw [hcodec] at hdecode
    cases hdecode
  | some codec =>
    rw [hcodec] at hdecode hencode
    dsimp only at hdecode hencode
    split at hdecode
    next => cases hdecode
    next form pieces hpieces =>
      obtain rfl := Except.ok.inj hdecode
      split at hencode
      next => cases hencode
      next payload' hpayload =>
        exact ⟨codec, form, pieces, hadmitted, hold, hexpected, hrange, hlimit, hcodec, hpieces,
          Option.isSome_iff_exists.mpr ⟨payload', hpayload⟩⟩

theorem writtenAsRead_of_touchesOnlySpans (h : TouchesOnlySpans files request file) :
    WrittenAsRead files request file := by
  intro codec form pieces hpermitted
  rw [← hpermitted.edited_eq_encode_iff]
  have hharmless : (⟨none, none, none, none, none, none⟩ : FileFaults).Harmless :=
    ⟨rfl, rfl, rfl, rfl, rfl⟩
  obtain ⟨payload, hpayload, hexec⟩ := hpermitted.exec_replaceText hharmless
  obtain ⟨-, hedited⟩ := (h _ _ _ hexec).2 codec form pieces hpermitted hharmless
  rw [hpayload]
  exact hedited.symm

theorem touchesOnlySpans_of_writtenAsRead (h : WrittenAsRead files request file) :
    TouchesOnlySpans files request file := by
  intro faults outcome folder hexec
  constructor
  · intro hrefused
    have hfile := TextFiles.keepsOnError_replaceText files faults request ⟨file, none⟩
    rw [hexec] at hfile
    cases outcome with
    | ok n =>
      obtain ⟨hharmless, hpermitted⟩ := permitted_of_exec hexec
      rcases hrefused with hnot | hnot
      · exact absurd hpermitted hnot
      · exact absurd hharmless hnot
    | error err => exact ⟨⟨err, rfl⟩, hfile err rfl⟩
  · intro codec form pieces hpermitted hharmless
    obtain ⟨payload, hpayload, hcarried⟩ := hpermitted.exec_replaceText hharmless
    rw [hcarried] at hexec
    cases hexec
    refine ⟨rfl, ?_⟩
    rw [hpermitted.edited_eq_encode_iff.mpr (h codec form pieces hpermitted), hpayload]

variable (files request file) in
/-- **Replaced text.** The operation touches only the occurrences if and only if the file begins
with the mark that its codec writes, and has the bytes that the codec writes for each character
outside the occurrences. -/
theorem touchesOnlySpans_iff :
    TouchesOnlySpans files request file ↔ WrittenAsRead files request file :=
  ⟨writtenAsRead_of_touchesOnlySpans, touchesOnlySpans_of_writtenAsRead⟩

/-- With `utf-8` it does for every file. -/
theorem touchesOnlySpans_utf8 (hcodec : files.codecs request.encoding = some utf8Codec) :
    TouchesOnlySpans files request file := by
  apply touchesOnlySpans_of_writtenAsRead
  intro codec form pieces h
  have heq := h.codec_eq
  rw [hcodec] at heq
  obtain rfl := Option.some.inj heq
  refine ⟨rfl, fun segment hsegment p hp => canonical_utf8Chars ?_⟩
  exact (TextCodec.of_decode h.decode).2 p
    (mem_of_mem_segments Prod.fst h.oldString_ne_nil pieces segment hsegment p hp)

end Spans

/-- Some codecs of a workstation with little-endian code units. -/
def exampleCodecs (encoding : String) : Option (TextCodec PyChar) :=
  if encoding = "utf-8" then some utf8Codec
  else if encoding = "utf-8-sig" then some utf8Sig
  else if encoding = "utf-16" then some (utf16 .little)
  else none

/-- The one `a` of a file becomes `b`. -/
def exampleReplacement (encoding : String) : ReplaceRequest :=
  ⟨.ofString "a", .ofString "b", .int 1, encoding, .ok ()⟩

/-- With `utf-8-sig` a file without a mark gets one, and with `utf-16` the byte order of a file is
changed. -/
theorem not_touchesOnlySpans :
    ¬TouchesOnlySpans ⟨10, exampleCodecs⟩ (exampleReplacement "utf-8-sig") [0x61] ∧
      ¬TouchesOnlySpans ⟨10, exampleCodecs⟩ (exampleReplacement "utf-16")
        [0xFE, 0xFF, 0x00, 0x61] := by
  constructor
  · intro h
    have hpermitted : Permitted ⟨10, exampleCodecs⟩ (exampleReplacement "utf-8-sig") [0x61] utf8Sig
        false [(.scalar 'a', [0x61])] :=
      ⟨rfl, by decide, rfl, by decide, by decide, rfl, rfl, rfl⟩
    cases (writtenAsRead_of_touchesOnlySpans h _ _ _ hpermitted).1
  · intro h
    have hpermitted : Permitted ⟨10, exampleCodecs⟩ (exampleReplacement "utf-16")
        [0xFE, 0xFF, 0x00, 0x61] (utf16 .little) (.marked .big) [(.scalar 'a', [0x00, 0x61])] :=
      ⟨rfl, by decide, rfl, by decide, by decide, rfl, rfl, rfl⟩
    cases (writtenAsRead_of_touchesOnlySpans h _ _ _ hpermitted).1

example : (TextFiles.replaceText ⟨10, exampleCodecs⟩ ⟨none, none, none, none, none, none⟩
    (exampleReplacement "utf-16")).exec ⟨[0xFE, 0xFF, 0x00, 0x61], none⟩ =
      (.ok 1, ⟨[0xFF, 0xFE, 0x62, 0x00], none⟩) := rfl

end VeraMesh

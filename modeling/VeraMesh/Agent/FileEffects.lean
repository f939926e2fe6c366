import VeraMesh.Agent.Executor
import VeraMesh.Lib.Coroutine

/-!
# File effects of the executor

What `write_text`, `append_text`, `make_directory`, `move_path` and `replace_text` of
`LocalExecutor` (`executor.py`) do once their paths are resolved, call by call of the operating
system. The state of an operation is the list of the changes it made so far. Every call can turn
out in any way that the directories which stand allow.

* `Path.mkdirParents`, `LocalExecutor.atomicWrite`: the steps with effects next to the target.
* `FileRequest.run`: a whole request.
-/

namespace VeraMesh

open Python Except Coroutine

/-- A change that an operation makes to the file system. -/
inductive FileEffect where
  | create (path : Path)
  | write (path : Path)
  | rename (source destination : Path)
  | remove (path : Path)
  deriving DecidableEq

/-- The paths at which a change is made. -/
def FileEffect.paths : FileEffect → List Path
  | create path => [path]
  | write path => [path]
  | rename source destination => [source, destination]
  | remove path => [path]

/-- The calls out of the executor. -/
inductive FileCall where
  /-- `registry.authorize`. -/
  | authorize (check : Check)
  /-- `os.mkdir`. -/
  | mkdir (path : Path)
  /-- `path.is_dir()`. -/
  | isDir (path : Path)
  /-- `tempfile.mkstemp`. It answers with the random part of the name. -/
  | mkstemp (stem suffix : String) (dir : Path)
  /-- Write, flush and sync an open file, and close it. -/
  | write (path : Path) (content encoding : String)
  /-- `path.open("a")`. -/
  | openAppend (path : Path)
  /-- `os.replace`. -/
  | replace (source destination : Path)
  /-- `os.unlink`. -/
  | unlink (path : Path)
  /-- Open a file and read at most `limit` bytes. -/
  | read (path : Path) (limit : ℕ)

/-- How a call ends. -/
def FileCall.Answer : FileCall → Type
  | isDir _ => Bool
  | mkstemp _ _ _ => Except PyError String
  | read _ _ => Except PyError (List UInt8)
  | authorize _ | mkdir _ | write _ _ _ | openAppend _ | replace _ _ | unlink _ =>
    Except PyError Unit

/-- A program of an operation. Its state are the changes made so far. -/
abbrev FileTask := Coroutine (List FileEffect) FileCall FileCall.Answer PyError

/-- The directories around an operation. -/
structure Surroundings where
  /-- The directory exists when the operation starts, and nothing removes it before the end. -/
  Stands : Path → Prop
  stands_parent : ∀ path, Stands path → Stands path.parent

/-- How the calls can end. -/
def Surroundings.answers (around : Surroundings) (_ : List FileEffect) :
    (call : FileCall) → call.Answer → Prop
  -- what stands is not made again, and a drive or the root of the file system is not made at all
  | .mkdir path, .ok () => path.parts ≠ [] ∧ ¬ around.Stands path
  | .mkdir path, .error err => err.cls = .fileNotFoundError → ¬ around.Stands path.parent
  | .isDir path, isDir => around.Stands path → isDir = true
  | .read _ limit, .ok payload => payload.length ≤ limit
  | _, _ => True

/-- Make a call. -/
def ask (call : FileCall) : FileTask call.Answer := answer call

/-- Log a change. -/
def logEffect (effect : FileEffect) : FileTask Unit := update (· ++ [effect])

/-- `isinstance(err, OSError)`. -/
def isOSError (err : PyError) : Bool :=
  err.cls == .osError || err.cls == .fileNotFoundError || err.cls == .notADirectoryError ||
    err.cls == .timeoutError

namespace Path

/-- `os.mkdir(path)`. -/
def osMkdir (path : Path) : FileTask Unit := do
  let outcome ← ask (.mkdir path)
  ofResult outcome
  logEffect (.create path)

/-- The `except OSError` of `mkdir`: a directory that is there already is no failure. -/
def unlessDirectory (path : Path) (err : PyError) : FileTask Unit := do
  let isDir : Bool ← ask (.isDir path)
  if isDir = true then pure () else throw err

/-- `path.mkdir(exist_ok=True)`. -/
def mkdir (path : Path) : FileTask Unit :=
  tryCatch path.osMkdir fun err =>
    if err.cls = .fileNotFoundError then throw err
    else if isOSError err = true then path.unlessDirectory err
    else throw err

/-- `path.mkdir(parents=True, exist_ok=True)`. -/
def mkdirParents (path : Path) : FileTask Unit :=
  tryCatch path.osMkdir fun err =>
    if err.cls = .fileNotFoundError then
      if path.parts = [] then throw err
      else do
        path.parent.mkdirParents
        path.mkdir
    else if isOSError err = true then path.unlessDirectory err
    else throw err
termination_by path.parts.length
decreasing_by
  rename_i hparts
  simpa [parent, List.length_pos_iff] using hparts

end Path

namespace LocalExecutor

/-- What `_read_text_bounded` depends on: `max_read_bytes`, and `payload.decode(encoding)`. -/
structure TextReading where
  maxReadBytes : ℕ
  decode : List UInt8 → String → Except PyError String

/-- `_atomic_write`. -/
def atomicWrite (path : Path) (content encoding : String) : FileTask Unit := do
  path.parent.mkdirParents
  let outcome ← ask (.mkstemp (path.name ++ ".") ".tmp" path.parent)
  let random ← ofResult outcome
  let tmp := path.parent.child (path.name ++ "." ++ random ++ ".tmp")
  logEffect (.create tmp)
  tryCatch
    (do
      -- a write that fails may have written a part
      logEffect (.write tmp)
      let written ← ask (.write tmp content encoding)
      ofResult written
      let replaced ← ask (.replace tmp path)
      ofResult replaced
      logEffect (.rename tmp path))
    fun err => do
      if err.isException = true then
        tryCatch
          (do
            let unlinked ← ask (.unlink tmp)
            ofResult unlinked
            logEffect (.remove tmp))
          fun err' => if err'.cls = .fileNotFoundError then pure () else throw err'
      throw err

/-- `_append_text_sync`. -/
def appendTextSync (path : Path) (content encoding : String) : FileTask Unit := do
  path.parent.mkdirParents
  let opened ← ask (.openAppend path)
  ofResult opened
  logEffect (.create path)
  logEffect (.write path)
  let written ← ask (.write path content encoding)
  ofResult written

/-- The end of `make_directory`. -/
def makeDirectorySync (path : Path) (parents : Bool) : FileTask Unit :=
  if parents = true then path.mkdirParents else path.mkdir

/-- The end of `move_path`. -/
def movePathSync (rt : Runtime) (source destination : Path) : FileTask Unit := do
  let isDir : Bool ← ask (.isDir destination.parent)
  if isDir = true then
    let replaced ← ask (.replace source destination)
    ofResult replaced
    logEffect (.rename source destination)
  else
    throw ⟨.fileNotFoundError,
      "destination parent does not exist: " ++ destination.parent.str rt⟩

/-- `_read_text_bounded`. -/
def readTextBounded (reading : TextReading) (path : Path) (encoding : String) :
    FileTask String := do
  let outcome ← ask (.read path (reading.maxReadBytes + 1))
  let payload : List UInt8 ← ofResult outcome
  ofResult (require (payload.length ≤ reading.maxReadBytes)
    ⟨.fileReadLimitExceeded, s!"file exceeds max_read_bytes={reading.maxReadBytes}"⟩)
  ofResult (reading.decode payload encoding)

/-- `content.count(old_string)`, with `skip` characters of the last match still to pass. -/
def countFrom (old : List Char) : ℕ → List Char → ℕ
  | _, [] => 0
  | skip + 1, _ :: rest => countFrom old skip rest
  | 0, c :: rest =>
    if old.isPrefixOf (c :: rest) = true then countFrom old (old.length - 1) rest + 1
    else countFrom old 0 rest

/-- `content.count(old_string)`. -/
def count (content oldString : String) : ℕ := countFrom oldString.toList 0 content.toList

/-- `_replace_text_sync`. -/
def replaceTextSync (reading : TextReading) (path : Path) (oldString newString : String)
    (expectedCount : ℤ) (encoding : String) : FileTask Unit := do
  let content ← readTextBounded reading path encoding
  ofResult (require (count content oldString = expectedCount) ⟨.replaceCountMismatch,
    s!"expected {expectedCount} matches, found {count content oldString}"⟩)
  atomicWrite path (content.replace oldString newString) encoding

end LocalExecutor

open LocalExecutor in
/-- What the work of a request that changes files does. -/
def Work.changeFiles (rt : Runtime) (reading : TextReading) : Work → FileTask Unit
  | writeText path content encoding => atomicWrite path content encoding
  | appendText path content encoding => appendTextSync path content encoding
  | makeDirectory path parents => makeDirectorySync path parents
  | movePath source destination => movePathSync rt source destination
  | replaceText path oldString newString expectedCount encoding =>
    replaceTextSync reading path oldString newString expectedCount encoding
  -- the work of other requests is not modelled here
  | _ => pure ()

/-- A request that changes files. -/
inductive FileRequest where
  | writeText (path content encoding : String)
  | appendText (path content encoding : String)
  | makeDirectory (path : String) (parents : PyValue)
  | movePath (source destination : String)
  | replaceText (path oldString newString : String) (expectedCount : PyValue) (encoding : String)

namespace FileRequest

variable (rt : Runtime) (x : LocalExecutor) (fs : FileSystem)

/-- The checks and paths of a request. -/
def plan : FileRequest → Except PyError Plan
  | writeText path content encoding => x.writeText rt fs path content encoding
  | appendText path content encoding => x.appendText rt fs path content encoding
  | makeDirectory path parents => x.makeDirectory rt fs path parents
  | movePath source destination => x.movePath rt fs source destination
  | replaceText path oldString newString expectedCount encoding =>
    x.replaceText rt fs path oldString newString expectedCount encoding

/-- The calls of `authorize`. -/
def authorize : List Check → FileTask Unit
  | [] => pure ()
  | check :: checks => do
    let outcome ← ask (.authorize check)
    ofResult outcome
    authorize checks

/-- A whole request. -/
def run (reading : LocalExecutor.TextReading) (request : FileRequest) : FileTask Unit := do
  let plan ← ofResult (request.plan rt x fs)
  authorize plan.checks
  plan.work.changeFiles rt reading

/-- `effects` are the changes of a request at some moment of a call. -/
def Makes (around : Surroundings) (reading : LocalExecutor.TextReading) (request : FileRequest)
    (effects : List FileEffect) : Prop :=
  ∃ rest, Coroutine.Path around.answers (request.run rt x fs reading) [] rest effects

end FileRequest

end VeraMesh

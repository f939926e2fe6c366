import VeraMesh.Lane.Registry

/-!
# Work on a workstation

What the operations of a workstation do once they are authorised. `Work` is one piece of it, with
the paths and the processes it touches; `Work.needs` says which calls of `authorize` it takes. How
a piece of work turns out is left open: it lasts for some time and then returns or raises.
-/

namespace VeraMesh

open Python

/-- An absolute path: its drive and root, and the names below. -/
structure Path where
  anchor : String
  parts : List String
  deriving DecidableEq

namespace Path

/-- The path of an entry of a directory. -/
def child (directory : Path) (name : String) : Path :=
  { directory with parts := directory.parts ++ [name] }

/-- `path.as_posix()`. -/
def asPosix (path : Path) : String :=
  String.ofList (path.anchor.toList.map fun c => if c = '\\' then '/' else c) ++
    "/".intercalate path.parts

/-- `str(path)`. -/
def str (rt : Runtime) (path : Path) : String :=
  path.anchor ++ (if rt.nt then "\\" else "/").intercalate path.parts

/-- `path.relative_to(root)` succeeds. -/
def isRelativeTo (rt : Runtime) (path root : Path) : Bool :=
  let normcase := if rt.nt then rt.lower else id
  normcase path.anchor == normcase root.anchor &&
    (root.parts.map normcase).isPrefixOf (path.parts.map normcase)

/-- `path.parent`. -/
def parent (path : Path) : Path := { path with parts := path.parts.dropLast }

/-- `path.name`. -/
def name (path : Path) : String := path.parts.getLastD ""

end Path

/-- `_fs_resource`. -/
def fsResource (path : Path) : String := "fs:" ++ path.asPosix

/-- `_cwd_resource`. -/
def cwdResource (path : Path) : String := "cwd:" ++ path.asPosix

/-- One call of `authorize`. -/
structure Check where
  capability : String
  resourceKey : String
  resourceMode : ClaimMode
  deriving DecidableEq

/-- What an authorised operation does. -/
inductive Work where
  /-- A call of a WorkBridge tool on a path. -/
  | workBridge (tool candidate : String)
  | readText (path : Path) (encoding : String)
  | readBytesRange (path : Path) (offset limit : ℤ) (expectedFileVersion : Option String)
  | stat (path : Path)
  | statSymlink (parent : Path) (name : String)
  | listDir (directory : Path) (offset maxEntries : ℤ)
  | search (root : Path) (query : String) (offset maxResults maxEntries maxDepth : ℤ)
      (caseSensitive : Bool)
  | searchContent (root : Path) (query filePattern : String)
      (offset maxResults maxEntries maxDepth maxTotalBytes : ℤ) (caseSensitive : Bool)
  | writeText (path : Path) (content encoding : String)
  | appendText (path : Path) (content encoding : String)
  | makeDirectory (path : Path) (parents : Bool)
  | movePath (source destination : Path)
  | replaceText (path : Path) (oldString newString : String) (expectedCount : ℤ)
      (encoding : String)
  | runProcess (argv : List String) (cwd : Path) (timeoutS : PyFloat)
  | startProcess (argv : List String) (cwd : Path) (maxRuntimeS : PyFloat)
  /-- The status of the processes that are visible, by handle. -/
  | processList (visible : List (String × Path))
  | processStatus (handle : String) (cwd : Path)
  | processOutput (handle : String) (cwd : Path) (stdoutOffset stderrOffset maxBytes : ℤ)
  | writeProcessInput (handle : String) (cwd : Path) (payload : String)
  | terminateProcess (handle : String) (cwd : Path) (graceS : PyFloat)

namespace Work

/-- The calls of `authorize` that the work takes. -/
def needs : Work → List Check
  | workBridge _ candidate =>
    [⟨"fs.read", "fs:" ++ String.ofList (candidate.toList.map fun c => if c = '\\' then '/' else c),
      .read⟩]
  | readText path _ => [⟨"fs.read", fsResource path, .read⟩]
  | readBytesRange path _ _ _ => [⟨"fs.read", fsResource path, .read⟩]
  | stat path => [⟨"fs.read", fsResource path, .read⟩]
  | statSymlink parent _ => [⟨"fs.read", fsResource parent, .read⟩]
  | listDir directory _ _ => [⟨"fs.read", fsResource directory, .read⟩]
  | search root _ _ _ _ _ _ => [⟨"fs.read", fsResource root, .read⟩]
  | searchContent root _ _ _ _ _ _ _ _ => [⟨"fs.read", fsResource root, .read⟩]
  | writeText path _ _ => [⟨"fs.write", fsResource path, .write⟩]
  | appendText path _ _ => [⟨"fs.write", fsResource path, .write⟩]
  | makeDirectory path _ => [⟨"fs.write", fsResource path, .write⟩]
  | movePath source destination =>
    [⟨"fs.write", fsResource source, .write⟩, ⟨"fs.write", fsResource destination, .write⟩]
  | replaceText path _ _ _ _ =>
    [⟨"fs.read", fsResource path, .read⟩, ⟨"fs.write", fsResource path, .write⟩]
  | runProcess _ cwd _ => [⟨"process.exec", cwdResource cwd, .write⟩]
  | startProcess _ cwd _ => [⟨"process.exec", cwdResource cwd, .write⟩]
  | processList visible => visible.map fun p => ⟨"process.inspect", cwdResource p.2, .read⟩
  | processStatus _ cwd => [⟨"process.inspect", cwdResource cwd, .read⟩]
  | processOutput _ cwd _ _ _ => [⟨"process.inspect", cwdResource cwd, .read⟩]
  | writeProcessInput _ cwd _ => [⟨"process.interact", cwdResource cwd, .write⟩]
  | terminateProcess _ cwd _ => [⟨"process.control", cwdResource cwd, .write⟩]

/-- The paths that the work is on, except for that of a WorkBridge call. -/
def targets : Work → List Path
  | workBridge _ _ => []
  | readText path _ => [path]
  | readBytesRange path _ _ _ => [path]
  | stat path => [path]
  | statSymlink parent _ => [parent]
  | listDir directory _ _ => [directory]
  | search root _ _ _ _ _ _ => [root]
  | searchContent root _ _ _ _ _ _ _ _ => [root]
  | writeText path _ _ => [path]
  | appendText path _ _ => [path]
  | makeDirectory path _ => [path]
  | movePath source destination => [source, destination]
  | replaceText path _ _ _ _ => [path]
  | runProcess _ cwd _ => [cwd]
  | startProcess _ cwd _ => [cwd]
  | processList visible => visible.map Prod.snd
  | processStatus _ cwd => [cwd]
  | processOutput _ cwd _ _ _ => [cwd]
  | writeProcessInput _ cwd _ => [cwd]
  | terminateProcess _ cwd _ => [cwd]

/-- The managed processes that the work is on, with their working directories. -/
def processes : Work → List (String × Path)
  | processList visible => visible
  | processStatus handle cwd => [(handle, cwd)]
  | processOutput handle cwd _ _ _ => [(handle, cwd)]
  | writeProcessInput handle cwd _ => [(handle, cwd)]
  | terminateProcess handle cwd _ => [(handle, cwd)]
  | _ => []

/-- Only a list of no processes takes no authorisation. -/
theorem eq_processList_nil {work : Work} (h : work.needs = []) : work = processList [] := by
  cases work with
  | processList visible => rw [List.map_eq_nil_iff.mp h]
  | workBridge | readText | readBytesRange | stat | statSymlink | listDir | search | searchContent
  | writeText | appendText | makeDirectory | movePath | replaceText | runProcess | startProcess
  | processStatus | processOutput | writeProcessInput | terminateProcess =>
    simp [needs] at h

end Work

/-! ## Managed processes -/

/-- `_ManagedProcess`. -/
structure ManagedProcess where
  ownerLaneId : String
  ownerFencingToken : ℤ
  cwd : Path
  argv : List String
  /-- `process.poll() is None`. -/
  running : Bool
  watchdogTerminated : Bool
  /-- The lane that `process.start` was authorised on. Nothing reads it. -/
  startedUnder : Option Lane

/-- `_processes`. A process stays in the table when it has ended. -/
abbrev ProcessTable := Dict String ManagedProcess

/-- The owner test of the process operations. -/
def ManagedProcess.ownedBy (p : ManagedProcess) (laneId : String) (fencingToken : ℤ) : Bool :=
  p.ownerLaneId == laneId && p.ownerFencingToken == fencingToken

/-- The handles of the processes of a lane. -/
def ProcessTable.owned (t : ProcessTable) (laneId : String) (fencingToken : ℤ) : List String :=
  (t.filter fun _ p => p.ownedBy laneId fencingToken).keys

/-- The table after the end of a process. -/
def ProcessTable.stop (t : ProcessTable) (handle : String) : ProcessTable :=
  match t.get? handle with
  | none => t
  | some p => t.set handle { p with running := false }

/-- The processes that the work is on belong to the lane. -/
def Work.OwnedBy (t : ProcessTable) (laneId : String) (fencingToken : ℤ) (work : Work) : Prop :=
  ∀ e ∈ work.processes, ∃ p, t.get? e.1 = some p ∧ p.ownedBy laneId fencingToken = true ∧
    p.cwd = e.2

/-- An operation with its checks made, up to the calls of `authorize`. -/
structure Plan where
  /-- The calls of `authorize`, in order. -/
  checks : List Check
  work : Work

end VeraMesh

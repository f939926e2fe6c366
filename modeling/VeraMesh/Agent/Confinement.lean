import Mathlib.Algebra.Order.BigOperators.Group.List
import VeraMesh.Agent.FileEffects

/-!
# Confinement of file effects

`_resolve_allowed` checks the target of a request. The executor also makes the missing directories
on the way to the target, and a temporary file next to it. This file works out when all of that
stays inside the allowed roots.

* `Work.Confined`: the condition, on the target and the directories that stand.
* `effects_in_roots_iff`: a request keeps to the allowed roots exactly under that condition.
-/

namespace VeraMesh

open Python Except Coroutine

/-! ## Paths -/

attribute [ext] Path

/-- `ancestor` is the path or a directory above it. -/
def Path.LeadsTo (ancestor path : Path) : Prop :=
  ancestor.anchor = path.anchor ∧ ancestor.parts <+: path.parts

namespace Path

variable {ancestor path : Path}

theorem leadsTo_refl (path : Path) : path.LeadsTo path := ⟨rfl, List.prefix_rfl⟩

theorem LeadsTo.of_parent (h : ancestor.LeadsTo path.parent) : ancestor.LeadsTo path :=
  ⟨h.1, h.2.trans (List.dropLast_prefix _)⟩

/-- What leads to a path is the path, or leads to its parent. -/
theorem LeadsTo.eq_or_parent (h : ancestor.LeadsTo path) :
    ancestor = path ∨ path.parts ≠ [] ∧ ancestor.LeadsTo path.parent := by
  obtain ⟨hanchor, habove⟩ := h
  by_cases hparts : path.parts = []
  · left
    rw [hparts, List.prefix_nil] at habove
    exact Path.ext hanchor (habove.trans hparts.symm)
  · rw [← List.dropLast_concat_getLast hparts, List.prefix_concat_iff,
      List.dropLast_concat_getLast hparts] at habove
    rcases habove with heq | habove
    · exact Or.inl (Path.ext hanchor heq)
    · exact Or.inr ⟨hparts, hanchor, habove⟩

end Path

namespace LocalExecutor

variable {rt : Runtime} {x : LocalExecutor} {directory path : Path}

/-- The entries of a directory inside the roots are inside the roots. -/
theorem inRoots_child (h : x.InRoots rt directory) (name : String) :
    x.InRoots rt (directory.child name) := by
  obtain ⟨root, hroot, hrelative⟩ := h
  refine ⟨root, hroot, ?_⟩
  simp only [Path.isRelativeTo, Bool.and_eq_true, List.isPrefixOf_iff_prefix, Path.child,
    List.map_append] at hrelative ⊢
  exact ⟨hrelative.1, hrelative.2.trans (List.prefix_append _ _)⟩

/-- A directory outside the roots has entries outside the roots, however they begin and end.
Lower-casing never makes a name shorter, so a name can be too long to be that of a root. -/
theorem exists_child_not_inRoots (hlower : ∀ s, s.length ≤ (rt.lower s).length)
    (h : ¬ x.InRoots rt directory) (stem suffix : String) :
    ∃ random, ¬ x.InRoots rt (directory.child (stem ++ random ++ suffix)) := by
  let normcase := if rt.nt then rt.lower else id
  have hlong : ∀ s, s.length ≤ (normcase s).length := by
    intro s
    dsimp only [normcase]
    split_ifs
    · exact hlower s
    · exact le_rfl
  -- longer than the last name of any root
  let bound := (x.allowedRoots.map fun root => (normcase (root.parts.getLastD "")).length).sum
  let random := String.ofList (List.replicate (bound + 1) 'a')
  refine ⟨random, fun ⟨root, hroot, hrelative⟩ => ?_⟩
  simp only [Path.isRelativeTo, Bool.and_eq_true, List.isPrefixOf_iff_prefix, Path.child,
    List.map_append, List.map_cons, List.map_nil] at hrelative
  obtain ⟨hanchor, habove⟩ := hrelative
  rcases List.prefix_concat_iff.mp habove with heq | hinside
  · have hlast : normcase (root.parts.getLastD "") = normcase (stem ++ random ++ suffix) := by
      have hmap := congrArg (fun l : List String => l.getLast?) heq
      rw [List.getLast?_map, List.getLast?_concat] at hmap
      obtain ⟨name, hname, heq'⟩ := Option.map_eq_some_iff.mp hmap
      rw [List.getLastD_eq_getLast?, hname]
      exact heq'
    have hle : (normcase (root.parts.getLastD "")).length ≤ bound :=
      List.le_sum_of_mem (List.mem_map_of_mem hroot)
    have hlong' := hlong (stem ++ random ++ suffix)
    rw [← hlast] at hlong'
    have hrandom : random.length = bound + 1 := by simp [random]
    simp only [String.length_append, hrandom] at hlong'
    omega
  · exact h ⟨root, hroot, by
      simp only [Path.isRelativeTo, Bool.and_eq_true, List.isPrefixOf_iff_prefix]
      exact ⟨hanchor, hinside⟩⟩

end LocalExecutor

/-! ## The condition -/

section

variable (rt : Runtime) (x : LocalExecutor) (around : Surroundings)

/-- Every directory on the way to the path, and the path itself, stands or lies in the roots. -/
def Path.Provided (path : Path) : Prop :=
  ∀ ancestor, ancestor.LeadsTo path → ancestor.parts ≠ [] →
    x.InRoots rt ancestor ∨ around.Stands ancestor

/-- A file of a size that the executor reads can contain `oldString` so often. -/
def LocalExecutor.TextReading.Finds (reading : LocalExecutor.TextReading) (oldString : String)
    (expectedCount : ℤ) (encoding : String) : Prop :=
  ∃ payload content, payload.length ≤ reading.maxReadBytes ∧
    reading.decode payload encoding = .ok content ∧
      LocalExecutor.count content oldString = expectedCount

/-- Nothing that is outside the roots has to be made for the work. -/
def Work.Confined (reading : LocalExecutor.TextReading) : Work → Prop
  | writeText path _ _ => x.InRoots rt path.parent ∧ path.parent.Provided rt x around
  | appendText path _ _ => path.parent.Provided rt x around
  | makeDirectory path parents => parents = true → path.Provided rt x around
  | replaceText path oldString _ expectedCount encoding =>
    reading.Finds oldString expectedCount encoding →
      x.InRoots rt path.parent ∧ path.parent.Provided rt x around
  | _ => True

/-- The invariant of an operation: its changes so far are inside the roots. -/
def confinement : Discipline (List FileEffect) FileCall FileCall.Answer where
  Inv effects := ∀ effect ∈ effects, ∀ path ∈ effect.paths, x.InRoots rt path
  Rel _ _ := True
  answers := around.answers
  refl _ := trivial
  trans _ _ := trivial

end

/-! ## Confined work keeps to the roots -/

section

variable {rt : Runtime} {x : LocalExecutor} {around : Surroundings} {effects : List FileEffect}
  {path : Path} {t : ℕ}

theorem Path.Provided.parent (h : path.Provided rt x around) :
    path.parent.Provided rt x around :=
  fun ancestor hancestor => h ancestor hancestor.of_parent

theorem upholds_logEffect {effect : FileEffect} (hs : (confinement rt x around).Inv effects)
    (h : ∀ path ∈ effect.paths, x.InRoots rt path) :
    Upholds (confinement rt x around) t (logEffect effect) effects fun _ _ => True := by
  refine .update (fun effect' heffect' => ?_) trivial trivial
  rcases List.mem_append.mp heffect' with hold | hnew
  · exact hs effect' hold
  · rw [List.mem_singleton.mp hnew]
    exact h

theorem upholds_ask {call : FileCall} :
    Upholds (confinement rt x around) t (ask call) effects fun r _ => around.answers [] call r :=
  .answer fun _ _ _ _ h => h

/-- A call that is followed by what it returns. -/
theorem upholds_ofResult {α : Type} {outcome : Except PyError α} :
    Upholds (confinement rt x around) t (ofResult outcome) effects fun a _ => outcome = .ok a :=
  .ofResult fun _ h => h

theorem upholds_osMkdir (hs : (confinement rt x around).Inv effects)
    (h : path.parts ≠ [] → ¬ around.Stands path → x.InRoots rt path) :
    Upholds (confinement rt x around) t path.osMkdir effects fun _ _ => True := by
  refine .bind hs upholds_ask fun outcome effects₁ hs₁ _ hanswer => ?_
  refine .bind hs₁ upholds_ofResult fun _ effects₂ hs₂ _ hok => ?_
  apply upholds_logEffect hs₂
  intro path' hpath'
  rw [List.mem_singleton.mp hpath']
  subst hok
  exact h hanswer.1 hanswer.2

theorem upholds_unlessDirectory (hs : (confinement rt x around).Inv effects) (err : PyError) :
    Upholds (confinement rt x around) t (path.unlessDirectory err) effects fun _ _ => True := by
  refine .bind hs upholds_ask fun isDir effects₁ hs₁ _ _ => ?_
  split_ifs
  · exact .pure trivial
  · exact .throw

theorem upholds_mkdir (hs : (confinement rt x around).Inv effects)
    (h : path.parts ≠ [] → ¬ around.Stands path → x.InRoots rt path) :
    Upholds (confinement rt x around) t path.mkdir effects fun _ _ => True := by
  refine .tryCatch hs (upholds_osMkdir hs h) fun err effects₁ hs₁ _ => ?_
  split_ifs
  · exact .throw
  · exact upholds_unlessDirectory hs₁ err
  · exact .throw

theorem Path.Provided.inRoots (h : path.Provided rt x around) :
    path.parts ≠ [] → ¬ around.Stands path → x.InRoots rt path :=
  fun hparts hstands => (h path (leadsTo_refl path) hparts).resolve_right hstands

/-- The directories that are made on the way to a path are the missing ones. -/
theorem upholds_mkdirParents (hs : (confinement rt x around).Inv effects)
    (h : path.Provided rt x around) :
    Upholds (confinement rt x around) t path.mkdirParents effects fun _ _ => True := by
  induction path using Path.mkdirParents.induct generalizing effects with
  | case1 path ih =>
    rw [Path.mkdirParents]
    refine .tryCatch hs (upholds_osMkdir hs h.inRoots) fun err effects₁ hs₁ _ => ?_
    split_ifs with hmissing hparts hos
    · exact .throw
    · refine .bind hs₁ (ih hparts hs₁ h.parent) fun _ effects₂ hs₂ _ _ => ?_
      exact upholds_mkdir hs₂ h.inRoots
    · exact upholds_unlessDirectory hs₁ err
    · exact .throw

variable {content encoding : String}

/-- The temporary file of a confined write is next to its target. -/
theorem upholds_atomicWrite (hs : (confinement rt x around).Inv effects)
    (htarget : x.InRoots rt path) (hparent : x.InRoots rt path.parent)
    (hprovided : path.parent.Provided rt x around) :
    Upholds (confinement rt x around) t (LocalExecutor.atomicWrite path content encoding) effects
      fun _ _ => True := by
  refine .bind hs (upholds_mkdirParents hs hprovided) fun _ effects₁ hs₁ _ _ => ?_
  refine .bind hs₁ upholds_ask fun outcome effects₂ hs₂ _ _ => ?_
  refine .bind hs₂ upholds_ofResult fun random effects₃ hs₃ _ _ => ?_
  have htmp := LocalExecutor.inRoots_child hparent (path.name ++ "." ++ random ++ ".tmp")
  refine .bind hs₃ (upholds_logEffect hs₃ (by simpa [FileEffect.paths] using htmp))
    fun _ effects₄ hs₄ _ _ => ?_
  refine .tryCatch hs₄ ?_ fun err effects₅ hs₅ _ => ?_
  · refine .bind hs₄ (upholds_logEffect hs₄ (by simpa [FileEffect.paths] using htmp))
      fun _ effects₆ hs₆ _ _ => ?_
    refine .bind hs₆ upholds_ask fun written effects₇ hs₇ _ _ => ?_
    refine .bind hs₇ upholds_ofResult fun _ effects₈ hs₈ _ _ => ?_
    refine .bind hs₈ upholds_ask fun replaced effects₉ hs₉ _ _ => ?_
    refine .bind hs₉ upholds_ofResult fun _ effects₁₀ hs₁₀ _ _ => ?_
    exact upholds_logEffect hs₁₀ (by simp [FileEffect.paths, htmp, htarget])
  · -- the handler removes what `mkstemp` made
    split_ifs
    · refine .bind hs₅ (Q := fun _ _ => True) (.tryCatch hs₅ ?_ fun err' effects₆ hs₆ _ => ?_)
        fun _ _ _ _ _ => .throw
      · refine .bind hs₅ upholds_ask fun unlinked effects₆ hs₆ _ _ => ?_
        refine .bind hs₆ upholds_ofResult fun _ effects₇ hs₇ _ _ => ?_
        exact upholds_logEffect hs₇ (by simpa [FileEffect.paths] using htmp)
      · split_ifs
        · exact .pure trivial
        · exact .throw
    · exact .throw

theorem upholds_appendTextSync (hs : (confinement rt x around).Inv effects)
    (htarget : x.InRoots rt path) (hprovided : path.parent.Provided rt x around) :
    Upholds (confinement rt x around) t (LocalExecutor.appendTextSync path content encoding) effects
      fun _ _ => True := by
  refine .bind hs (upholds_mkdirParents hs hprovided) fun _ effects₁ hs₁ _ _ => ?_
  refine .bind hs₁ upholds_ask fun opened effects₂ hs₂ _ _ => ?_
  refine .bind hs₂ upholds_ofResult fun _ effects₃ hs₃ _ _ => ?_
  refine .bind hs₃ (upholds_logEffect hs₃ (by simpa [FileEffect.paths] using htarget))
    fun _ effects₄ hs₄ _ _ => ?_
  refine .bind hs₄ (upholds_logEffect hs₄ (by simpa [FileEffect.paths] using htarget))
    fun _ effects₅ hs₅ _ _ => ?_
  refine .bind hs₅ upholds_ask fun written effects₆ hs₆ _ _ => ?_
  exact .imp hs₆ upholds_ofResult fun _ _ _ _ _ => trivial

/-- `move_path` changes only what it was asked about. -/
theorem upholds_movePathSync {source destination : Path}
    (hs : (confinement rt x around).Inv effects) (hsource : x.InRoots rt source)
    (hdestination : x.InRoots rt destination) :
    Upholds (confinement rt x around) t (LocalExecutor.movePathSync rt source destination) effects
      fun _ _ => True := by
  refine .bind hs upholds_ask fun isDir effects₁ hs₁ _ _ => ?_
  split_ifs
  · refine .bind hs₁ upholds_ask fun replaced effects₂ hs₂ _ _ => ?_
    refine .bind hs₂ upholds_ofResult fun _ effects₃ hs₃ _ _ => ?_
    exact upholds_logEffect hs₃ (by simp [FileEffect.paths, hsource, hdestination])
  · exact .throw

/-- A text that was read came from a file of a size that may be read. -/
theorem upholds_readTextBounded {reading : LocalExecutor.TextReading}
    (hs : (confinement rt x around).Inv effects) :
    Upholds (confinement rt x around) t (LocalExecutor.readTextBounded reading path encoding)
      effects fun content _ => ∃ payload, payload.length ≤ reading.maxReadBytes ∧
        reading.decode payload encoding = .ok content := by
  refine .bind hs upholds_ask fun outcome effects₁ hs₁ _ _ => ?_
  refine .bind hs₁ upholds_ofResult fun payload effects₂ hs₂ _ _ => ?_
  refine .bind hs₂ upholds_ofResult fun _ effects₃ hs₃ _ hsize => ?_
  exact .imp hs₃ upholds_ofResult fun content _ _ _ hcontent =>
    ⟨payload, require_eq_ok.mp hsize, hcontent⟩

theorem upholds_replaceTextSync {reading : LocalExecutor.TextReading}
    {oldString newString : String} {expectedCount : ℤ} (hs : (confinement rt x around).Inv effects)
    (htarget : x.InRoots rt path)
    (h : reading.Finds oldString expectedCount encoding →
      x.InRoots rt path.parent ∧ path.parent.Provided rt x around) :
    Upholds (confinement rt x around) t
      (LocalExecutor.replaceTextSync reading path oldString newString expectedCount encoding)
      effects fun _ _ => True := by
  refine .bind hs (upholds_readTextBounded hs) fun content effects₁ hs₁ _ hread => ?_
  obtain ⟨payload, hsize, hdecode⟩ := hread
  refine .bind hs₁ upholds_ofResult fun _ effects₂ hs₂ _ hcount => ?_
  obtain ⟨hparent, hprovided⟩ := h ⟨payload, content, hsize, hdecode, require_eq_ok.mp hcount⟩
  exact upholds_atomicWrite hs₂ htarget hparent hprovided

/-- Confined work on targets in the roots keeps to the roots. -/
theorem Work.upholds_changeFiles {reading : LocalExecutor.TextReading} {work : Work}
    (hs : (confinement rt x around).Inv effects)
    (htargets : ∀ path ∈ work.targets, x.InRoots rt path)
    (h : work.Confined rt x around reading) :
    Upholds (confinement rt x around) t (work.changeFiles rt reading) effects
      fun _ _ => True := by
  cases work with
  | writeText path content encoding =>
    exact upholds_atomicWrite hs (htargets path (by simp [targets])) h.1 h.2
  | appendText path content encoding =>
    exact upholds_appendTextSync hs (htargets path (by simp [targets])) h
  | makeDirectory path parents =>
    have htarget := htargets path (by simp [targets])
    rw [changeFiles, LocalExecutor.makeDirectorySync]
    split_ifs with hparents
    · exact upholds_mkdirParents hs (h hparents)
    · exact upholds_mkdir hs fun _ _ => htarget
  | movePath source destination =>
    exact upholds_movePathSync hs (htargets source (by simp [targets]))
      (htargets destination (by simp [targets]))
  | replaceText path oldString newString expectedCount encoding =>
    exact upholds_replaceTextSync hs (htargets path (by simp [targets])) h
  | workBridge | readText | readBytesRange | stat | statSymlink | listDir | search | searchContent
  | runProcess | startProcess | processList | processStatus | processOutput | writeProcessInput
  | terminateProcess => exact .pure trivial

theorem FileRequest.upholds_authorize (checks : List Check)
    (hs : (confinement rt x around).Inv effects) :
    Upholds (confinement rt x around) t (authorize checks) effects fun _ _ => True := by
  induction checks generalizing effects with
  | nil => exact .pure trivial
  | cons check checks ih =>
    refine .bind hs upholds_ask fun outcome effects₁ hs₁ _ _ => ?_
    exact .bind hs₁ upholds_ofResult fun _ effects₂ hs₂ _ _ => ih hs₂

end

/-! ## Other work leaves the roots -/

section

variable {rt : Runtime} {x : LocalExecutor} {around : Surroundings} {effects : List FileEffect}
  {path : Path} {content encoding : String}

/-- The work can come to a change outside the roots. -/
def LeavesRoots (rt : Runtime) (x : LocalExecutor) (around : Surroundings) (task : FileTask Unit)
    (effects : List FileEffect) : Prop :=
  ∃ rest path, Coroutine.Path around.answers task effects rest (effects ++ [.create path]) ∧
    ¬ x.InRoots rt path

theorem LeavesRoots.bind {α : Type} {task : FileTask α} {f : α → FileTask Unit} {a : α}
    (htask : Coroutine.Path around.answers task effects (.ret a) effects)
    (h : LeavesRoots rt x around (f a) effects) : LeavesRoots rt x around (task >>= f) effects := by
  obtain ⟨rest, path, hpath, hout⟩ := h
  exact ⟨rest, path, htask.bind hpath, hout⟩

theorem LeavesRoots.bind_left {task : FileTask Unit} (h : LeavesRoots rt x around task effects)
    (f : Unit → FileTask Unit) : LeavesRoots rt x around (task >>= f) effects := by
  obtain ⟨rest, path, hpath, hout⟩ := h
  exact ⟨rest >>= f, path, hpath.bind_left f, hout⟩

/-- Above a directory that stands, all directories stand. -/
theorem Surroundings.stands_of_leadsTo {ancestor : Path} (h : ancestor.LeadsTo path)
    (hstands : around.Stands path) : around.Stands ancestor := by
  induction hn : path.parts.length generalizing path with
  | zero =>
    rcases h.eq_or_parent with rfl | ⟨hparts, -⟩
    · exact hstands
    · exact absurd (List.length_eq_zero_iff.mp hn) hparts
  | succ n ih =>
    rcases h.eq_or_parent with rfl | ⟨-, habove⟩
    · exact hstands
    · refine ih habove (around.stands_parent path hstands) ?_
      rw [Path.parent, List.length_dropLast, hn, Nat.add_sub_cancel]

theorem path_ask (call : FileCall) (r : call.Answer) (h : around.answers effects call r) :
    Coroutine.Path around.answers (ask call) effects (.ret r) effects :=
  .await h .refl

theorem path_logEffect (effect : FileEffect) :
    Coroutine.Path around.answers (logEffect effect) effects (.ret ()) (effects ++ [effect]) :=
  .act .refl

/-- A directory that does not stand may be missing when it is made. -/
theorem path_osMkdir (hparts : path.parts ≠ []) (h : ¬ around.Stands path) :
    Coroutine.Path around.answers path.osMkdir effects (.ret ()) (effects ++ [.create path]) :=
  (path_ask (.mkdir path) (.ok ()) ⟨hparts, h⟩).bind (path_logEffect _)

/-- Making a directory can fail. -/
theorem path_osMkdir_raise (err : PyError)
    (h : err.cls = .fileNotFoundError → ¬ around.Stands path.parent) :
    Coroutine.Path around.answers path.osMkdir effects (.raise err) effects :=
  (path_ask (.mkdir path) (.error err) h).bind .refl

/-- A missing directory on the way to a path can be made. -/
theorem path_mkdirParents_create {ancestor : Path} (h : ancestor.LeadsTo path)
    (hparts : ancestor.parts ≠ []) (hstands : ¬ around.Stands ancestor) :
    ∃ rest, Coroutine.Path around.answers path.mkdirParents effects rest
      (effects ++ [.create ancestor]) := by
  induction path using Path.mkdirParents.induct with
  | case1 path ih =>
    rw [Path.mkdirParents]
    rcases h.eq_or_parent with rfl | ⟨hbelow, habove⟩
    · exact ⟨_, (path_osMkdir hparts hstands).tryCatch_left _⟩
    · obtain ⟨rest, hrest⟩ := ih hbelow habove
      have hmissing : ¬ around.Stands path.parent :=
        fun hparent => hstands (Surroundings.stands_of_leadsTo habove hparent)
      refine ⟨rest >>= fun _ => path.mkdir,
        (path_osMkdir_raise ⟨.fileNotFoundError, ""⟩ fun _ => hmissing).tryCatch_raise ?_⟩
      rw [if_pos rfl, if_neg hbelow]
      exact hrest.bind_left _

/-- Some other process can have made the directory already. -/
theorem path_mkdirParents :
    Coroutine.Path around.answers path.mkdirParents effects (.ret ()) effects := by
  rw [Path.mkdirParents]
  refine (path_osMkdir_raise ⟨.osError, ""⟩ nofun).tryCatch_raise ?_
  rw [if_neg (by decide), if_pos (by decide)]
  exact (path_ask (.isDir path) true fun _ => rfl).bind .refl

/-- A write can come to its temporary file, which can get any random name. -/
theorem path_atomicWrite_tmp (path : Path) (content encoding random : String) :
    ∃ rest, Coroutine.Path around.answers (LocalExecutor.atomicWrite path content encoding) effects
      rest (effects ++ [.create (path.parent.child (path.name ++ "." ++ random ++ ".tmp"))]) := by
  refine ⟨?rest, ?_⟩
  rotate_left
  · refine .bind path_mkdirParents ?_
    refine .bind (path_ask (.mkstemp _ _ _) (.ok random) trivial) ?_
    refine .bind (a := random) .refl ?_
    exact .bind_left _ (path_logEffect _)

/-- The directory that is missing is the change outside the roots. -/
theorem leavesRoots_mkdirParents (h : ¬ path.Provided rt x around) :
    LeavesRoots rt x around path.mkdirParents effects := by
  simp only [Path.Provided, not_forall, not_or] at h
  obtain ⟨ancestor, hancestor, hparts, hout, hstands⟩ := h
  obtain ⟨rest, hrest⟩ := path_mkdirParents_create hancestor hparts hstands
  exact ⟨rest, ancestor, hrest, hout⟩

/-- The change outside the roots is a missing directory or the temporary file. -/
theorem leavesRoots_atomicWrite (hlower : ∀ s, s.length ≤ (rt.lower s).length)
    (h : ¬ (x.InRoots rt path.parent ∧ path.parent.Provided rt x around)) :
    LeavesRoots rt x around (LocalExecutor.atomicWrite path content encoding) effects := by
  by_cases hprovided : path.parent.Provided rt x around
  · have hparent : ¬ x.InRoots rt path.parent := fun hin => h ⟨hin, hprovided⟩
    obtain ⟨random, hout⟩ :=
      LocalExecutor.exists_child_not_inRoots hlower hparent (path.name ++ ".") ".tmp"
    obtain ⟨rest, hrest⟩ := path_atomicWrite_tmp path content encoding random
    exact ⟨rest, _, hrest, hout⟩
  · exact (leavesRoots_mkdirParents hprovided).bind_left _

theorem leavesRoots_replaceTextSync (hlower : ∀ s, s.length ≤ (rt.lower s).length)
    {reading : LocalExecutor.TextReading} {oldString newString : String} {expectedCount : ℤ}
    (hfinds : reading.Finds oldString expectedCount encoding)
    (h : ¬ (x.InRoots rt path.parent ∧ path.parent.Provided rt x around)) :
    LeavesRoots rt x around
      (LocalExecutor.replaceTextSync reading path oldString newString expectedCount encoding)
      effects := by
  obtain ⟨payload, found, hsize, hdecode, hcount⟩ := hfinds
  have hread : Coroutine.Path around.answers
      (LocalExecutor.readTextBounded reading path encoding) effects (.ret found) effects := by
    have hlimit : payload.length ≤ reading.maxReadBytes + 1 := by omega
    refine (path_ask (.read path (reading.maxReadBytes + 1)) (.ok payload) hlimit).bind ?_
    refine .bind (a := payload) .refl ?_
    rw [hdecode]
    refine .bind (a := ()) ?_ .refl
    rw [require, if_pos hsize]
    exact .refl
  refine .bind hread (.bind (a := ()) ?_ (leavesRoots_atomicWrite hlower h))
  rw [require, if_pos hcount]
  exact .refl

/-- Work that is not confined can leave the roots. -/
theorem Work.leavesRoots_changeFiles (hlower : ∀ s, s.length ≤ (rt.lower s).length)
    {reading : LocalExecutor.TextReading} {work : Work}
    (h : ¬ work.Confined rt x around reading) :
    LeavesRoots rt x around (work.changeFiles rt reading) effects := by
  cases work with
  | writeText path content encoding => exact leavesRoots_atomicWrite hlower h
  | appendText path content encoding => exact (leavesRoots_mkdirParents h).bind_left _
  | makeDirectory path parents =>
    rw [Confined, Classical.not_imp] at h
    rw [changeFiles, LocalExecutor.makeDirectorySync, if_pos h.1]
    exact leavesRoots_mkdirParents h.2
  | replaceText path oldString newString expectedCount encoding =>
    rw [Confined, Classical.not_imp] at h
    exact leavesRoots_replaceTextSync hlower h.1 h.2
  | movePath | workBridge | readText | readBytesRange | stat | statSymlink | listDir | search
  | searchContent | runProcess | startProcess | processList | processStatus | processOutput
  | writeProcessInput | terminateProcess => exact absurd trivial h

/-- All calls of `authorize` can succeed. -/
theorem FileRequest.path_authorize (checks : List Check) :
    Coroutine.Path around.answers (authorize checks) effects (.ret ()) effects := by
  induction checks with
  | nil => exact .refl
  | cons check checks ih =>
    exact (path_ask (.authorize check) (.ok ()) trivial).bind ih

end

/-! ## Requests -/

namespace FileRequest

variable (rt : Runtime) (x : LocalExecutor) (fs : FileSystem) (around : Surroundings)
  (reading : LocalExecutor.TextReading)

/-- Whatever happens, the request changes nothing outside the roots. -/
def KeepsToRoots (request : FileRequest) : Prop :=
  ∀ effects, request.Makes rt x fs around reading effects →
    ∀ effect ∈ effects, ∀ path ∈ effect.paths, x.InRoots rt path

/-- What the request resolves to is confined work. -/
def Confined (request : FileRequest) : Prop :=
  ∀ plan, request.plan rt x fs = .ok plan → plan.work.Confined rt x around reading

variable {rt x fs around reading}

/-- The targets of a request have passed the check of the roots. -/
theorem inRoots_of_plan {request : FileRequest} {plan : Plan}
    (h : request.plan rt x fs = .ok plan) : ∀ path ∈ plan.work.targets, x.InRoots rt path := by
  have hsound : plan.Sound rt x .empty "" 0 := by
    cases request with
    | writeText path content encoding => exact LocalExecutor.sound_writeText h
    | appendText path content encoding => exact LocalExecutor.sound_appendText h
    | makeDirectory path parents => exact LocalExecutor.sound_makeDirectory h
    | movePath source destination => exact LocalExecutor.sound_movePath h
    | replaceText path oldString newString expectedCount encoding =>
      exact LocalExecutor.sound_replaceText h
  exact hsound.inRoots

end FileRequest

/-- Every request of the executor that changes files keeps to the allowed roots if and only if the
directories it may have to make outside of them stand, and the parent directory of a file that is
written through a temporary file is inside. -/
theorem effects_in_roots_iff {rt : Runtime} (hlower : ∀ s, s.length ≤ (rt.lower s).length)
    (x : LocalExecutor) (fs : FileSystem) (around : Surroundings)
    (reading : LocalExecutor.TextReading) (request : FileRequest) :
    request.KeepsToRoots rt x fs around reading ↔ request.Confined rt x fs around reading := by
  constructor
  · intro hkeeps plan hplan
    by_contra hconfined
    have hleaves : LeavesRoots rt x around (plan.work.changeFiles rt reading) [] :=
      Work.leavesRoots_changeFiles hlower hconfined
    obtain ⟨rest, path, hpath, hout⟩ := hleaves
    have hrun : Coroutine.Path around.answers (request.run rt x fs reading) [] rest
        [.create path] := by
      rw [FileRequest.run, hplan]
      exact (FileRequest.path_authorize plan.checks).bind hpath
    exact hout (hkeeps _ ⟨rest, hrun⟩ (.create path) (by simp) path (by simp [FileEffect.paths]))
  · rintro hconfined effects ⟨rest, hpath⟩
    have hstart : (confinement rt x around).Inv [] := by simp [confinement]
    have hrun : Upholds (confinement rt x around) 0 (request.run rt x fs reading) []
        fun _ _ => True := by
      refine .bind hstart upholds_ofResult fun plan effects₁ hs₁ _ hplan => ?_
      refine .bind hs₁ (FileRequest.upholds_authorize plan.checks hs₁)
        fun _ effects₂ hs₂ _ _ => ?_
      exact Work.upholds_changeFiles hs₂ (FileRequest.inRoots_of_plan hplan)
        (hconfined plan hplan)
    exact hpath.inv (P := (confinement rt x around).contract) (fun _ _ _ h => h) hstart hrun

/-! ## A share -/

/-- The allowed root of the example. -/
def exampleShare : Path := ⟨"/", ["srv", "share"]⟩

def exampleShareExecutor : LocalExecutor := ⟨[exampleShare], 1024, false⟩

/-- The agent runs in the share. All other paths of the example are names in it. -/
def exampleShareFiles : FileSystem where
  resolve value := .ok (if value = "/srv/share" then exampleShare else exampleShare.child value)
  sourceIsSymlink _ := .ok false
  absolute value := .ok (if value = "/srv/share" then exampleShare else exampleShare.child value)
  isSymlink _ := .ok false

/-- The directories of the example: the share and those above it. -/
def exampleStanding : Surroundings where
  Stands path := path.LeadsTo exampleShare
  stands_parent _ h := ⟨h.1, (List.dropLast_prefix _).trans h.2⟩

/-- Text files are read as they are. -/
def exampleReading : LocalExecutor.TextReading where
  maxReadBytes := 1024
  decode payload _ := .ok (String.ofList (payload.map fun byte => Char.ofNat byte.toNat))

theorem length_le_lower_ascii (nt : Bool) (s : String) :
    s.length ≤ ((Runtime.ascii nt).lower s).length := by
  rw [Runtime.ascii, String.length_ofList, List.length_map, String.length_toList]

/-- A file in the share is written inside the share. -/
theorem effects_in_roots_iff_exampleShare :
    (FileRequest.writeText "notes.txt" "done" "utf-8").KeepsToRoots (Runtime.ascii false)
      exampleShareExecutor exampleShareFiles exampleStanding exampleReading := by
  apply (effects_in_roots_iff (length_le_lower_ascii false) _ _ _ _ _).mpr
  intro plan hplan
  have hwork : plan.work = .writeText (exampleShare.child "notes.txt") "done" "utf-8" := by
    have hok : (FileRequest.writeText "notes.txt" "done" "utf-8").plan (Runtime.ascii false)
        exampleShareExecutor exampleShareFiles =
        .ok ⟨[⟨"fs.write", fsResource (exampleShare.child "notes.txt"), .write⟩],
          .writeText (exampleShare.child "notes.txt") "done" "utf-8"⟩ := rfl
    rw [hok, Except.ok.injEq] at hplan
    rw [← hplan]
  rw [hwork]
  exact ⟨⟨exampleShare, by simp [exampleShareExecutor], by decide⟩, fun _ h _ => Or.inr h⟩

/-- Writing to the share itself puts the temporary file beside the share. -/
theorem not_effects_in_roots :
    ¬ ∀ (rt : Runtime) (x : LocalExecutor) (fs : FileSystem) (around : Surroundings)
      (reading : LocalExecutor.TextReading) (request : FileRequest),
      request.KeepsToRoots rt x fs around reading := by
  intro hkeeps
  let tmp : Path := ⟨"/", ["srv", "share.q7h2k0_d.tmp"]⟩
  obtain ⟨rest, hmake⟩ : ∃ rest, Coroutine.Path exampleStanding.answers
      (LocalExecutor.atomicWrite exampleShare "done" "utf-8") [] rest [.create tmp] :=
    path_atomicWrite_tmp exampleShare "done" "utf-8" "q7h2k0_d"
  have hmakes : (FileRequest.writeText "/srv/share" "done" "utf-8").Makes (Runtime.ascii false)
      exampleShareExecutor exampleShareFiles exampleStanding exampleReading [.create tmp] :=
    ⟨_, (FileRequest.path_authorize _).bind hmake⟩
  obtain ⟨root, hroot, hrelative⟩ := hkeeps _ _ _ _ _ _ _ hmakes (.create tmp)
    (List.mem_singleton_self _) tmp (List.mem_singleton_self _)
  rw [List.mem_singleton.mp hroot] at hrelative
  exact absurd hrelative (by decide)

end VeraMesh

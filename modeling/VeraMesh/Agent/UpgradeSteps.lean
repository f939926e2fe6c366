import VeraMesh.Agent.Upgrade
import VeraMesh.Lib.Replacement

/-!
# The steps of an upgrade

What each step of an upgrade does to the configuration files and to the flags, given the calls that
fail.

* `UpgradeTask.atomicReplace_spec`: a replacement is refused, or torn, or done, and which of them
  the faults tell (`ReplaceFaults.ending`). It is torn if a step after the rename fails: hardening
  the new file, or looking for the temporary one.
* `Upgrade.replaceFiles_spec`, `Upgrade.rollback_spec`: the same for the files one after the other.
-/

namespace VeraMesh

open Python Except Replacement

/-! ## The steps -/

namespace UpgradeTask

variable {s : UpgradeState}

@[simp]
theorem exec_call (fault : Option PyError) (s : UpgradeState) :
    (call fault).exec s = (match fault with
      | none => .ok ()
      | some err => .error (.raised err), s) := by
  cases fault <;> rfl

@[simp]
theorem exec_setFile (file : UpgradeFile) (content : Option (List UInt8)) (s : UpgradeState) :
    (setFile file content).exec s =
      (.ok (), { s with files := Function.update s.files file content }) := rfl

theorem exec_hardenOnWindows (nt : Bool) (fault : Option PyError) (s : UpgradeState) :
    (hardenOnWindows nt fault).exec s = (match fault with
      | none => .ok ()
      | some err => if nt then .error (.raised err) else .ok (), s) := by
  rw [hardenOnWindows]
  cases nt <;> cases fault <;> rfl

end UpgradeTask

/-- A call of `_write_new` fails. -/
def WriteFaults.refuses (faults : WriteFaults) : Bool :=
  faults.mkdir.isSome || faults.occupied || faults.create.isSome || faults.write.isSome

namespace UpgradeTask

theorem exec_writeNew {faults : WriteFaults} (h : faults.refuses = false) (file : UpgradeFile)
    (path : String) (payload : List UInt8) (s : UpgradeState) :
    (writeNew faults file path payload).exec s =
      (.ok (), { s with files := Function.update s.files file (some payload) }) := by
  simp only [WriteFaults.refuses, Bool.or_eq_false_iff, Option.isSome_eq_false_iff,
    Option.isNone_iff_eq_none] at h
  obtain ⟨⟨⟨hmkdir, hoccupied⟩, hcreate⟩, hwrite⟩ := h
  simp [writeNew, Attempt.exec_bind, hmkdir, hoccupied, hcreate, hwrite]

theorem writeNew_ne_ok {faults : WriteFaults} (h : faults.refuses = true) (file : UpgradeFile)
    (path : String) (payload : List UInt8) (s : UpgradeState) :
    ∃ err s', (writeNew faults file path payload).exec s = (.error err, s') ∧
      s'.changed = s.changed ∧ ∀ other ≠ file, s'.files other = s.files other := by
  rcases faults with ⟨mkdir | err, occupied, create, write, unlink⟩
  · cases occupied
    · rcases create with _ | err
      · rcases write with _ | ⟨err, written⟩
        · cases h
        · rcases unlink with _ | err'
          · simp +contextual [writeNew, discardNew, Attempt.exec_bind]
          · by_cases herr : err'.cls = .fileNotFoundError
            · simp +contextual [writeNew, discardNew, Attempt.exec_bind, herr]
            · simp +contextual [writeNew, discardNew, Attempt.exec_bind, herr]
      · simp [writeNew, Attempt.exec_bind]
    · simp [writeNew, Attempt.exec_bind]
  · simp [writeNew, Attempt.exec_bind]

end UpgradeTask

/-- How a call of `_atomic_replace` ends. It is torn if a step after the rename fails. -/
def ReplaceFaults.ending (nt : Bool) (faults : ReplaceFaults) : Ending :=
  if faults.new.refuses || (nt && faults.hardenTemp.isSome) || faults.replace.isSome then .refused
  else if (nt && faults.hardenTarget.isSome) || faults.probe.isSome then .torn
  else .done

namespace UpgradeTask

/-- The configuration files and the flags. -/
def view (s : UpgradeState) : ConfigFiles × (ConfigFile → Bool) := (s.configs, s.changed)

/-- No temporary file, backup or lock is a configuration file. -/
theorem configs_update_of_ne {file : UpgradeFile} (h : ∀ config, file ≠ .config config)
    (files : UpgradeFile → Option (List UInt8)) (content : Option (List UInt8))
    (changed : ConfigFile → Bool) :
    (UpgradeState.mk (Function.update files file content) changed).configs =
      (UpgradeState.mk files changed).configs := by
  funext config
  exact Function.update_of_ne (h config).symm _ _

theorem view_update_temp (files : UpgradeFile → Option (List UInt8))
    (content : Option (List UInt8)) (changed : ConfigFile → Bool) :
    view (UpgradeState.mk (Function.update files .temp content) changed) =
      view (UpgradeState.mk files changed) := by
  rw [view, configs_update_of_ne]
  · rfl
  · exact nofun

theorem keeps_call (fault : Option PyError) : Attempt.Keeps view (call fault) := by
  intro s
  rw [exec_call]

theorem keeps_setFile {file : UpgradeFile} (h : ∀ config, file ≠ .config config)
    (content : Option (List UInt8)) : Attempt.Keeps view (setFile file content) := by
  intro s
  rw [exec_setFile, view, configs_update_of_ne h]
  rfl

theorem keeps_discardTemp (faults : ReplaceFaults) :
    Attempt.Keeps view (discardTemp faults) := by
  apply (keeps_call _).bind
  intro _
  apply Attempt.keeps_get.bind
  intro s
  split
  · split
    · apply keeps_setFile
      exact nofun
    · split
      · exact Attempt.keeps_throw _
      · exact Attempt.keeps_pure _
  · exact Attempt.keeps_pure _

/-- Without a temporary file there is nothing left to do. -/
theorem exec_discardTemp {faults : ReplaceFaults} {s : UpgradeState} (h : s.files .temp = none) :
    (discardTemp faults).exec s = (match faults.probe with
      | none => .ok ()
      | some err => .error (.raised err), s) := by
  rw [discardTemp, Attempt.exec_bind, exec_call]
  cases faults.probe <;> simp [Attempt.exec_bind, h]

/-- The files once the temporary file is moved. -/
def renamed (s : UpgradeState) (file : ConfigFile) (payload : List UInt8) : UpgradeState :=
  { s with
    files := Function.update (Function.update s.files (.config file) (some payload)) .temp none }

theorem view_renamed (s : UpgradeState) (file : ConfigFile) (payload : List UInt8) :
    view (renamed s file payload) = (Function.update s.configs file (some payload), s.changed) := by
  rw [renamed, view_update_temp]
  refine Prod.ext (funext fun config => ?_) rfl
  by_cases h : config = file
  · simp [view, UpgradeState.configs, h]
  · simp [view, UpgradeState.configs, Function.update_of_ne, h]

theorem moveTemp_ne_ok {nt : Bool} {faults : ReplaceFaults}
    (h : (nt && faults.hardenTemp.isSome || faults.replace.isSome) = true) (file : ConfigFile)
    (s : UpgradeState) : ∃ err, (moveTemp nt faults file).exec s = (.error err, s) := by
  rw [moveTemp, Attempt.exec_bind, exec_hardenOnWindows]
  cases nt <;> cases hharden : faults.hardenTemp <;> cases hreplace : faults.replace <;>
    simp_all [Attempt.exec_bind]

theorem exec_moveTemp {nt : Bool} {faults : ReplaceFaults}
    (h : (nt && faults.hardenTemp.isSome || faults.replace.isSome) = false) (file : ConfigFile)
    {s : UpgradeState} {payload : List UInt8} (htemp : s.files .temp = some payload) :
    (moveTemp nt faults file).exec s =
      (hardenOnWindows nt faults.hardenTarget).exec (renamed s file payload) := by
  rw [moveTemp, Attempt.exec_bind, exec_hardenOnWindows]
  cases nt <;> cases hharden : faults.hardenTemp <;> cases hreplace : faults.replace <;>
    simp_all [Attempt.exec_bind, renamed]

/-- A replacement ends as its faults say. -/
theorem atomicReplace_spec (nt : Bool) (faults : ReplaceFaults) (file : ConfigFile) (path : String)
    (payload : List UInt8) (s : UpgradeState) :
    (((atomicReplace nt faults file path payload).exec s).1 = .ok () ↔
      faults.ending nt = .done) ∧
    view ((atomicReplace nt faults file path payload).exec s).2 =
      ((faults.ending nt).write s.configs file (some payload), s.changed) := by
  rw [atomicReplace, Attempt.exec_bind]
  cases hnew : faults.new.refuses with
  | true =>
    -- there is no temporary file to move
    obtain ⟨err, s', hexec, hchanged, hfiles⟩ :=
      writeNew_ne_ok hnew .temp (path ++ ".tmp-" ++ faults.hex) payload s
    have hconfigs : s'.configs = s.configs := funext fun config => hfiles _ nofun
    rw [hexec]
    simp [ReplaceFaults.ending, hnew, view, Ending.write, hchanged, hconfigs]
  | false =>
    rw [exec_writeNew hnew]
    dsimp only
    set t : UpgradeState := { s with files := Function.update s.files .temp (some payload) } with ht
    have hview : view t = view s := view_update_temp ..
    have htemp : t.files .temp = some payload := by simp [ht]
    rw [Attempt.exec_ensure]
    cases hmove : (nt && faults.hardenTemp.isSome || faults.replace.isSome) with
    | true =>
      obtain ⟨err, hexec⟩ := moveTemp_ne_ok hmove file t
      have hkeeps := keeps_discardTemp faults t
      rw [hexec]
      have hending : faults.ending nt = .refused := by
        rw [ReplaceFaults.ending, hnew, Bool.false_or, hmove, if_pos rfl]
      rw [hending]
      revert hkeeps
      rcases (discardTemp faults).exec t with ⟨err' | u, s'⟩ <;> intro hkeeps
      · exact ⟨by simp, hkeeps.trans hview⟩
      · exact ⟨by simp, hkeeps.trans hview⟩
    | false =>
      rw [exec_moveTemp hmove file htemp, exec_hardenOnWindows]
      dsimp only
      rw [exec_discardTemp (show (renamed t file payload).files .temp = none by
        simp [renamed])]
      have hrenamed : view (renamed t file payload) =
          (Function.update s.configs file (some payload), s.changed) := by
        rw [view_renamed, ← show t.configs = s.configs from congrArg Prod.fst hview]
      have hending : faults.ending nt =
          if (nt && faults.hardenTarget.isSome || faults.probe.isSome) = true then .torn
          else .done := by
        rw [ReplaceFaults.ending, hnew, Bool.false_or, hmove, if_neg (by simp)]
      rw [hending]
      cases nt <;> cases hprobe : faults.probe <;> cases hharden : faults.hardenTarget <;>
        simp [hrenamed, Ending.write]

end UpgradeTask

/-! ## Before the transaction -/

/-- `_write_or_verify` succeeds where the backup is `backup`. -/
def BackupFaults.backsUp (nt : Bool) (faults : BackupFaults) (backup : Option (List UInt8))
    (raw : List UInt8) : Bool :=
  faults.probe.isNone &&
    match backup with
    | some content => faults.read.isNone && !faults.irregular && content == raw
    | none => !faults.new.refuses && !(nt && faults.harden.isSome)

/-- `_acquire_recovery_lock` succeeds where the lock is `lock`. -/
def LockFaults.acquires (nt : Bool) (faults : LockFaults) (lock : Option (List UInt8)) : Bool :=
  faults.mkdir.isNone && lock.isNone && faults.create.isNone && faults.write.isNone &&
    !(nt && faults.harden.isSome)

namespace UpgradeTask

/-- At most this one file is touched, and no flag. -/
def TouchesOnly (file : UpgradeFile) (s s' : UpgradeState) : Prop :=
  s'.changed = s.changed ∧ ∀ other ≠ file, s'.files other = s.files other

theorem TouchesOnly.view_eq {file : UpgradeFile} {s s' : UpgradeState} (h : TouchesOnly file s s')
    (hfile : ∀ config, UpgradeFile.config config ≠ file) : view s' = view s :=
  Prod.ext (funext fun config => h.2 _ (hfile config)) h.1

theorem touchesOnly_update (file : UpgradeFile) (content : Option (List UInt8))
    (s : UpgradeState) :
    TouchesOnly file s { s with files := Function.update s.files file content } :=
  ⟨rfl, fun _ hne => Function.update_of_ne hne ..⟩

theorem writeOrVerify_spec (nt : Bool) (faults : BackupFaults) (file : ConfigFile) (path : String)
    (raw : List UInt8) (s : UpgradeState) :
    (((writeOrVerify nt faults file path raw).exec s).1 = .ok () ↔
      faults.backsUp nt (s.files (.backup file)) raw = true) ∧
    TouchesOnly (.backup file) s ((writeOrVerify nt faults file path raw).exec s).2 := by
  rw [writeOrVerify, Attempt.exec_bind, exec_call, BackupFaults.backsUp.eq_def]
  cases faults.probe with
  | some err => exact ⟨by simp, rfl, fun _ _ => rfl⟩
  | none =>
    dsimp only
    rw [Attempt.exec_bind, Attempt.exec_get]
    dsimp only
    cases s.files (.backup file) with
    | some content =>
      -- the backup is there, and is only compared
      dsimp only
      rw [Attempt.exec_bind, exec_call]
      cases faults.read with
      | some err => exact ⟨by simp, rfl, fun _ _ => rfl⟩
      | none =>
        dsimp only
        by_cases h : faults.irregular = true ∨ content ≠ raw
        · rw [if_pos h]
          refine ⟨⟨nofun, fun hok => ?_⟩, rfl, fun _ _ => rfl⟩
          rcases h with h | h <;> simp [h] at hok
        · rw [if_neg h]
          push Not at h
          refine ⟨⟨fun _ => ?_, fun _ => rfl⟩, rfl, fun _ _ => rfl⟩
          simp [h]
    | none =>
      dsimp only
      rw [Attempt.exec_bind]
      cases hnew : faults.new.refuses with
      | true =>
        obtain ⟨err, s', hexec, htouches⟩ := writeNew_ne_ok hnew (.backup file) path raw s
        rw [hexec]
        exact ⟨by simp, htouches⟩
      | false =>
        rw [exec_writeNew hnew]
        dsimp only
        rw [exec_hardenOnWindows]
        refine ⟨?_, touchesOnly_update ..⟩
        cases nt <;> cases faults.harden <;> simp

theorem TouchesOnly.trans {file : UpgradeFile} {s s' s'' : UpgradeState}
    (h : TouchesOnly file s s') (h' : TouchesOnly file s' s'') : TouchesOnly file s s'' :=
  ⟨h'.1.trans h.1, fun other hne => (h'.2 other hne).trans (h.2 other hne)⟩

/-- The handler of the lock raises. -/
theorem exec_discardLock (fault : Option PyError) (path : String) (err : UpgradeError)
    (s : UpgradeState) : ∃ err' s', (discardLock fault path err).exec s = (.error err', s') ∧
      TouchesOnly .lock s s' := by
  cases fault with
  | none => exact ⟨err, _, rfl, touchesOnly_update ..⟩
  | some err' =>
    rw [discardLock]
    by_cases h : isOSError err' = true
    · rw [if_pos h]
      exact ⟨_, s, rfl, rfl, fun _ _ => rfl⟩
    · rw [if_neg h]
      exact ⟨_, s, rfl, rfl, fun _ _ => rfl⟩

theorem acquireRecoveryLock_spec (nt : Bool) (faults : LockFaults) (path : String) (pid : ℕ)
    (s : UpgradeState) :
    (((acquireRecoveryLock nt faults path pid).exec s).1 = .ok () ↔
      faults.acquires nt (s.files .lock) = true) ∧
    TouchesOnly .lock s ((acquireRecoveryLock nt faults path pid).exec s).2 := by
  rw [acquireRecoveryLock, Attempt.exec_bind, exec_call, LockFaults.acquires]
  cases faults.mkdir with
  | some err => exact ⟨by simp, rfl, fun _ _ => rfl⟩
  | none =>
    dsimp only
    rw [Attempt.exec_bind, Attempt.exec_get]
    dsimp only
    cases s.files .lock with
    | some content => exact ⟨by simp, rfl, fun _ _ => rfl⟩
    | none =>
      rw [if_neg (by simp), Attempt.exec_bind, exec_call]
      cases faults.create with
      | some err => exact ⟨by simp, rfl, fun _ _ => rfl⟩
      | none =>
        dsimp only
        rw [Attempt.exec_bind, exec_setFile]
        dsimp only
        have htouches := touchesOnly_update .lock (some (lockPayload pid)) s
        rw [Attempt.exec_tryCatch, Attempt.exec_bind, exec_call]
        cases faults.write with
        | some err =>
          obtain ⟨err', s', hexec, hdiscard⟩ :=
            exec_discardLock faults.unlink path (.raised err) { s with
              files := Function.update s.files .lock (some (lockPayload pid)) }
          dsimp only
          rw [hexec]
          exact ⟨by simp, htouches.trans hdiscard⟩
        | none =>
          dsimp only
          rw [exec_hardenOnWindows]
          cases hharden : (nt && faults.harden.isSome) with
          | true =>
            obtain ⟨rfl, hsome⟩ := Bool.and_eq_true_iff.mp hharden
            obtain ⟨err, hsome⟩ := Option.isSome_iff_exists.mp hsome
            obtain ⟨err', s', hexec, hdiscard⟩ :=
              exec_discardLock faults.unlink path (.raised err) { s with
                files := Function.update s.files .lock (some (lockPayload pid)) }
            rw [hsome]
            dsimp only
            rw [if_pos rfl]
            dsimp only
            rw [hexec]
            exact ⟨by simp, htouches.trans hdiscard⟩
          | false =>
            refine ⟨?_, ?_⟩ <;> cases nt <;> cases hsome : faults.harden <;> simp_all

end UpgradeTask

/-! ## The transaction file by file -/

/-- The content that the upgrade has for a file. -/
def UpgradeStep.target (step : UpgradeStep) : List UInt8 :=
  match step.desired with
  | .ok (some payload) => payload
  | _ => step.raw

/-- A step as a replacement. -/
def UpgradeStep.change (step : UpgradeStep) : Change ConfigFile (Option (List UInt8)) :=
  ⟨step.file, some step.raw, some step.target⟩

/-- The replacements that the steps ask for, up to a step whose content cannot be computed. -/
def changesOf : List UpgradeStep → List (Change ConfigFile (Option (List UInt8)))
  | [] => []
  | step :: steps =>
    match step.desired with
    | .ok none => changesOf steps
    | .ok (some _) => step.change :: changesOf steps
    | .error _ => []

/-- The content is computed for all steps. -/
def Computes (steps : List UpgradeStep) : Prop :=
  ∀ step ∈ steps, ∃ content, step.desired = .ok content

theorem computes_cons {step : UpgradeStep} {steps : List UpgradeStep} :
    Computes (step :: steps) ↔ (∃ content, step.desired = .ok content) ∧ Computes steps :=
  List.forall_mem_cons

theorem changesOf_sublist (steps : List UpgradeStep) :
    (changesOf steps).Sublist (steps.map UpgradeStep.change) := by
  induction steps with
  | nil => exact List.Sublist.refl []
  | cons step steps ih =>
    rw [changesOf, List.map_cons]
    split
    · exact ih.cons _
    · exact ih.cons_cons _
    · exact List.nil_sublist _

namespace Upgrade

variable (host : UpgradeHost) (faults : UpgradeFaults)

/-- How the replacement of a file ends. -/
def replaceEnding (file : ConfigFile) : Ending := (faults.replace file).ending host.runtime.nt

/-- How writing a file back ends. -/
def undoEnding (file : ConfigFile) : Ending := (faults.rollback file).ending host.runtime.nt

theorem replaceFiles_spec (steps : List UpgradeStep) (s : UpgradeState) :
    (((replaceFiles host faults steps).exec s).1 = .ok () ↔
      AllDone (replaceEnding host faults) (changesOf steps) ∧ Computes steps) ∧
    UpgradeTask.view ((replaceFiles host faults steps).exec s).2 =
      (writeAll Change.after (landed (replaceEnding host faults) (changesOf steps)) s.configs,
        fun file => s.changed file ||
          decide (file ∈ (marked (replaceEnding host faults) (changesOf steps)).map
            Change.cell)) := by
  induction steps generalizing s with
  | nil => simp [replaceFiles, changesOf, Computes, AllDone, landed, marked, UpgradeTask.view]
  | cons step steps ih =>
    rw [replaceFiles, Attempt.exec_bind, Attempt.exec_ofResult, computes_cons]
    cases hdesired : step.desired with
    | error err => simp [changesOf, hdesired, landed, marked, UpgradeTask.view]
    | ok content =>
      cases content with
      | none =>
        rw [changesOf, hdesired]
        simpa using ih s
      | some payload =>
        have hspec := UpgradeTask.atomicReplace_spec host.runtime.nt (faults.replace step.file)
          step.file step.path payload s
        have htarget : step.change.after = some payload := by
          rw [UpgradeStep.change, UpgradeStep.target, hdesired]
        rw [changesOf, hdesired]
        dsimp only
        rw [Attempt.exec_bind]
        revert hspec
        rcases (UpgradeTask.atomicReplace host.runtime.nt (faults.replace step.file) step.file
          step.path payload).exec s with ⟨err | u, s₁⟩ <;> rintro ⟨hok, hview⟩
        · have hne : replaceEnding host faults step.file ≠ .done := fun h => by cases hok.mpr h
          refine ⟨⟨by rintro ⟨⟩, fun h => absurd (h.1 _ List.mem_cons_self) hne⟩, hview.trans ?_⟩
          rw [writeAll_landed_cons_of_ne hne, marked_cons_of_ne hne, htarget]
          simp [replaceEnding, UpgradeStep.change]
        · have hdone : replaceEnding host faults step.change.cell = .done := hok.mp rfl
          have hstate : s₁.configs = Function.update s.configs step.file (some payload) ∧
              s₁.changed = s.changed := by
            rw [UpgradeTask.view,
              show (faults.replace step.file).ending host.runtime.nt = .done from hdone] at hview
            exact ⟨congrArg Prod.fst hview, congrArg Prod.snd hview⟩
          obtain ⟨hconfigs, hchanged⟩ := hstate
          have hrest := ih { s₁ with changed := Function.update s₁.changed step.file true }
          rw [landed_cons_of_done hdone, marked_cons_of_done hdone, allDone_cons, writeAll_cons,
            htarget]
          dsimp only
          rw [Attempt.exec_bind, Attempt.exec_modify]
          dsimp only
          refine ⟨?_, ?_⟩
          · rw [hrest.1]
            simp [hdone]
          · rw [hrest.2]
            refine Prod.ext ?_ (funext fun file => ?_)
            · exact congrArg (writeAll Change.after _) hconfigs
            · dsimp only
              rw [hchanged]
              by_cases hfile : file = step.file
              · subst hfile
                simp [UpgradeStep.change]
              · simp [UpgradeStep.change, hfile]

/-- The files whose flags are set are written back. -/
theorem rollback_spec (steps : List UpgradeStep) (s : UpgradeState) :
    let undone := (steps.filter fun step => s.changed step.file).map UpgradeStep.change
    (((rollback host faults steps).exec s).1 = .ok () ↔
      AllDone (undoEnding host faults) undone) ∧
    UpgradeTask.view ((rollback host faults steps).exec s).2 =
      (writeAll Change.before (landed (undoEnding host faults) undone) s.configs, s.changed) := by
  induction steps generalizing s with
  | nil => simp [rollback, AllDone, landed, UpgradeTask.view]
  | cons step steps ih =>
    rw [rollback, Attempt.exec_bind, Attempt.exec_get]
    dsimp only
    cases hflag : s.changed step.file with
    | false =>
      rw [List.filter_cons_of_neg (by simp [hflag])]
      simpa using ih s
    | true =>
      have hspec := UpgradeTask.atomicReplace_spec host.runtime.nt (faults.rollback step.file)
        step.file step.path step.raw s
      rw [List.filter_cons_of_pos (by simpa using hflag), List.map_cons, if_pos rfl,
        Attempt.exec_bind]
      revert hspec
      rcases (UpgradeTask.atomicReplace host.runtime.nt (faults.rollback step.file) step.file
        step.path step.raw).exec s with ⟨err | u, s₁⟩ <;> rintro ⟨hok, hview⟩
      · have hne : undoEnding host faults step.change.cell ≠ .done := fun h => by cases hok.mpr h
        refine ⟨⟨by rintro ⟨⟩, fun h => absurd (h _ List.mem_cons_self) hne⟩, hview.trans ?_⟩
        rw [writeAll_landed_cons_of_ne hne]
        rfl
      · have hdone : undoEnding host faults step.change.cell = .done := hok.mp rfl
        have hstate : s₁.configs = Function.update s.configs step.file (some step.raw) ∧
            s₁.changed = s.changed := by
          rw [UpgradeTask.view, show (faults.rollback step.file).ending host.runtime.nt = .done from
            hdone] at hview
          exact ⟨congrArg Prod.fst hview, congrArg Prod.snd hview⟩
        obtain ⟨hconfigs, hchanged⟩ := hstate
        have hrest := ih s₁
        rw [hchanged] at hrest
        rw [landed_cons_of_done hdone, allDone_cons, writeAll_cons]
        refine ⟨?_, ?_⟩
        · exact hrest.1.trans (by simp [hdone])
        · exact hrest.2.trans (congrArg (fun configs => (writeAll Change.before _ configs, _))
            hconfigs)

theorem backUp_spec (upgrade : Upgrade) {steps : List UpgradeStep}
    (hnodup : (steps.map UpgradeStep.file).Nodup) (s : UpgradeState) :
    (((upgrade.backUp host faults steps).exec s).1 = .ok () ↔
      ∀ step ∈ steps, (faults.backup step.file).backsUp host.runtime.nt
        (s.files (.backup step.file)) step.raw = true) ∧
    UpgradeTask.view ((upgrade.backUp host faults steps).exec s).2 = UpgradeTask.view s := by
  induction steps generalizing s with
  | nil => simp [backUp]
  | cons step steps ih =>
    rw [List.map_cons, List.nodup_cons] at hnodup
    rw [backUp, Attempt.exec_bind, List.forall_mem_cons]
    have hspec := UpgradeTask.writeOrVerify_spec host.runtime.nt (faults.backup step.file) step.file
      (upgrade.backupPath host step) step.raw s
    revert hspec
    rcases (UpgradeTask.writeOrVerify host.runtime.nt (faults.backup step.file) step.file
      (upgrade.backupPath host step) step.raw).exec s with ⟨err | u, s₁⟩ <;> rintro ⟨hok, htouches⟩
    · refine ⟨⟨nofun, fun h => nomatch hok.mpr h.1⟩, ?_⟩
      apply htouches.view_eq
      exact nofun
    · obtain ⟨hrest, hview⟩ := ih hnodup.2 s₁
      refine ⟨?_, hview.trans ?_⟩
      · -- the other backups are as they were
        have hothers : ∀ other ∈ steps,
            s₁.files (.backup other.file) = s.files (.backup other.file) := by
          intro other hother
          apply htouches.2
          intro heq
          apply hnodup.1
          rw [← UpgradeFile.backup.inj heq]
          exact List.mem_map_of_mem hother
        rw [hrest, ← hok]
        constructor
        · intro h
          exact ⟨rfl, fun other hother => hothers other hother ▸ h other hother⟩
        · intro h other hother
          rw [hothers other hother]
          exact h.2 other hother
      · apply htouches.view_eq
        exact nofun

end Upgrade

end VeraMesh

import VeraMesh.Agent.UpgradeSteps

/-!
# Upgrades are all or nothing, or are they

An upgrade that fails is to leave the configuration files as they were, unless it says that its
rollback failed, and one that returns is to leave them with their new contents.

* `Upgrade.AllOrNothing`: both, for the calls that fail.
* `Upgrade.allOrNothing_iff`: it holds if and only if the upgrade accounts for every file that it
  leaves replaced. A rollback goes by flags that are set only after a replacement as a whole, so a
  torn replacement is never undone; and the release of the lock may raise once everything is
  replaced.
-/

namespace VeraMesh

open Python Except Replacement

/-! ## The upgrade -/

namespace UpgradeTask

/-- The lock is released. -/
def Releases (fault : Option PyError) : Prop :=
  ∀ err, fault = some err → err.cls = .fileNotFoundError

theorem releaseRecoveryLock_spec (fault : Option PyError) (path : String) (s : UpgradeState) :
    (((releaseRecoveryLock fault path).exec s).1 = .ok () ↔ Releases fault) ∧
    view ((releaseRecoveryLock fault path).exec s).2 = view s := by
  rw [releaseRecoveryLock.eq_def]
  cases fault with
  | none =>
    refine ⟨by simp [Releases], (touchesOnly_update .lock none s).view_eq ?_⟩
    exact nofun
  | some err =>
    dsimp only
    split_ifs with hmissing hos
    · simp [Releases, hmissing]
    · simp [Releases, hmissing]
    · simp [Releases, hmissing]

end UpgradeTask

namespace Upgrade

variable (upgrade : Upgrade) (host : UpgradeHost) (faults : UpgradeFaults) (plan : UpgradePlan)

/-- The replacements of the upgrade. -/
def changes : List (Change ConfigFile (Option (List UInt8))) := changesOf (upgrade.steps host plan)

/-- The files are what was read, and are backed up. -/
def Ready (files : UpgradeFile → Option (List UInt8)) : Prop :=
  upgrade.recheck faults (fun file => files (.config file)) (upgrade.steps host plan) = .ok () ∧
    ∀ step ∈ upgrade.steps host plan, (faults.backup step.file).backsUp host.runtime.nt
      (files (.backup step.file)) step.raw = true

/-- The upgrade gets to its replacements: it holds the lock, the files are still what was read, and
they are backed up. -/
def Starts (files : UpgradeFile → Option (List UInt8)) : Prop :=
  faults.lock.acquires host.runtime.nt (files .lock) = true ∧
    upgrade.Ready host faults plan files

/-- All replacements succeed, and the new contents pass the checks. -/
def Completes (configs : ConfigFiles) : Prop :=
  AllDone (replaceEnding host faults) (upgrade.changes host plan) ∧
    Computes (upgrade.steps host plan) ∧
    upgrade.verify host faults
      (writeAll Change.after (upgrade.changes host plan) configs) plan.principal = .ok ()

/-- The files that have their new content when the replacements end. -/
def replaced : List (Change ConfigFile (Option (List UInt8))) :=
  landed (replaceEnding host faults) (upgrade.changes host plan)

/-- The files that the upgrade knows to have replaced. -/
def flagged : List (Change ConfigFile (Option (List UInt8))) :=
  marked (replaceEnding host faults) (upgrade.changes host plan)

/-- The files that a rollback writes back. -/
def undone : List (Change ConfigFile (Option (List UInt8))) :=
  landed (undoEnding host faults) (upgrade.flagged host faults plan)

theorem changes_sublist :
    (upgrade.changes host plan).Sublist ((upgrade.steps host plan).map UpgradeStep.change) :=
  changesOf_sublist _

theorem nodup_files : ((upgrade.steps host plan).map UpgradeStep.file).Nodup := by
  rw [steps]
  cases plan.service <;> simp

theorem nodup_cells : ((upgrade.changes host plan).map Change.cell).Nodup := by
  have h := (upgrade.changes_sublist host plan).map Change.cell
  rw [List.map_map] at h
  exact (upgrade.nodup_files host plan).sublist h

variable {upgrade host faults plan}

theorem transaction_of_not_ready {s : UpgradeState}
    (h : ¬ Ready upgrade host faults plan s.files) :
    (∃ err, ((upgrade.transaction host faults plan).exec s).1 = .error err) ∧
      UpgradeTask.view ((upgrade.transaction host faults plan).exec s).2 = UpgradeTask.view s := by
  rw [transaction, Attempt.exec_bind, Attempt.exec_get]
  dsimp only
  rw [Attempt.exec_bind, Attempt.exec_ofResult]
  cases hrecheck : upgrade.recheck faults s.configs (upgrade.steps host plan) with
  | error err => exact ⟨⟨err, rfl⟩, rfl⟩
  | ok u =>
    dsimp only
    rw [Attempt.exec_bind]
    have hspec := backUp_spec host faults upgrade (upgrade.nodup_files host plan) s
    revert hspec
    rcases (upgrade.backUp host faults (upgrade.steps host plan)).exec s with ⟨err | u, s₁⟩ <;>
      rintro ⟨hok, hview⟩
    · exact ⟨⟨err, rfl⟩, hview⟩
    · exact absurd ⟨hrecheck, hok.mp rfl⟩ h

theorem transaction_of_ready {s : UpgradeState} (h : Ready upgrade host faults plan s.files)
    (hflags : s.changed = fun _ => false) :
    ((∃ report, ((upgrade.transaction host faults plan).exec s).1 = .ok report) ↔
        upgrade.Completes host faults plan s.configs) ∧
      UpgradeTask.view ((upgrade.transaction host faults plan).exec s).2 =
        (writeAll Change.after (upgrade.replaced host faults plan) s.configs,
          fun file => decide (file ∈ (upgrade.flagged host faults plan).map Change.cell)) := by
  rw [transaction, Attempt.exec_bind, Attempt.exec_get]
  dsimp only
  rw [Attempt.exec_bind, Attempt.exec_ofResult,
    show upgrade.recheck faults s.configs (upgrade.steps host plan) = .ok () from h.1]
  dsimp only
  rw [Attempt.exec_bind]
  have hspec := backUp_spec host faults upgrade (upgrade.nodup_files host plan) s
  revert hspec
  rcases (upgrade.backUp host faults (upgrade.steps host plan)).exec s with ⟨err | u, s₁⟩ <;>
    rintro ⟨hok, hview⟩
  · cases hok.mpr h.2
  · have hconfigs : s₁.configs = s.configs := congrArg Prod.fst hview
    have hchanged : s₁.changed = fun _ => false := (congrArg Prod.snd hview).trans hflags
    dsimp only
    rw [Attempt.exec_bind]
    have hspec := replaceFiles_spec host faults (upgrade.steps host plan) s₁
    rw [hconfigs, hchanged] at hspec
    simp only [Bool.false_or] at hspec
    revert hspec
    rcases (replaceFiles host faults (upgrade.steps host plan)).exec s₁ with ⟨err | u, s₂⟩ <;>
      rintro ⟨hok, hview⟩
    · refine ⟨⟨by rintro ⟨_, ⟨⟩⟩, fun hcompletes => ?_⟩, hview⟩
      cases hok.mpr ⟨hcompletes.1, hcompletes.2.1⟩
    · obtain ⟨hdone, hcomputes⟩ := hok.mp rfl
      -- nothing was refused, so the new contents are all there
      have hconfigs : s₂.configs =
          writeAll Change.after (upgrade.changes host plan) s.configs := by
        have hlanded : upgrade.replaced host faults plan = upgrade.changes host plan :=
          landed_eq_self hdone
        rw [← hlanded]
        exact congrArg Prod.fst hview
      dsimp only
      rw [Attempt.exec_bind, Attempt.exec_get]
      dsimp only
      rw [Attempt.exec_bind, Attempt.exec_ofResult, hconfigs]
      cases hverify : upgrade.verify host faults
          (writeAll Change.after (upgrade.changes host plan) s.configs) plan.principal with
      | error err =>
        refine ⟨⟨by rintro ⟨_, ⟨⟩⟩, fun hcompletes => ?_⟩, hview⟩
        cases hverify.symm.trans hcompletes.2.2
      | ok u =>
        exact ⟨⟨fun _ => ⟨hdone, hcomputes, hverify⟩, fun _ => ⟨_, rfl⟩⟩, hview⟩

variable (upgrade host faults plan) in
/-- A file is written back if and only if the upgrade knows that it replaced it. -/
theorem recover_spec {s : UpgradeState} (err : UpgradeError)
    (hflags : s.changed = fun file =>
      decide (file ∈ (upgrade.flagged host faults plan).map Change.cell)) :
    (∃ failure, ((upgrade.recover host faults plan err).exec s).1 = .error failure ∧
        (failure = .failed err ↔
          AllDone (undoEnding host faults) (upgrade.flagged host faults plan)) ∧
        ∀ err', failure = .failed err' → failure = .failed err) ∧
      ((upgrade.recover host faults plan err).exec s).2.configs =
        writeAll Change.before (upgrade.undone host faults plan) s.configs := by
  have hundone : ((upgrade.steps host plan).filter fun step => s.changed step.file).map
      UpgradeStep.change = upgrade.flagged host faults plan := by
    have hsublist : (upgrade.flagged host faults plan).Sublist
        ((upgrade.steps host plan).map UpgradeStep.change) :=
      ((marked_sublist_landed _ _).trans (landed_sublist _ _)).trans
        (upgrade.changes_sublist host plan)
    have hnodup : (((upgrade.steps host plan).map UpgradeStep.change).map Change.cell).Nodup := by
      rw [List.map_map]
      exact upgrade.nodup_files host plan
    rw [hflags]
    exact (List.filter_map.symm).trans (filter_cell_mem hnodup hsublist)
  have hspec := rollback_spec host faults (upgrade.steps host plan) s
  simp only [hundone] at hspec
  rw [recover, Attempt.exec_bind, Attempt.exec_rescue]
  revert hspec
  rcases (rollback host faults (upgrade.steps host plan)).exec s with ⟨cause | u, s₁⟩ <;>
    rintro ⟨hok, hview⟩
  · refine ⟨⟨_, rfl, ⟨by rintro ⟨⟩, fun h => by cases hok.mpr h⟩, by rintro _ ⟨⟩⟩,
      congrArg Prod.fst hview⟩
  · exact ⟨⟨_, rfl, ⟨fun _ => hok.mp rfl, fun _ => rfl⟩, fun _ _ => rfl⟩,
      congrArg Prod.fst hview⟩

variable (upgrade host faults plan) in
/-- Without flags the handler only raises the exception again. -/
theorem exec_recover_of_unflagged {s : UpgradeState} (err : UpgradeError)
    (hflags : s.changed = fun _ => false) :
    ((upgrade.recover host faults plan err).exec s).1 = .error (.failed err) ∧
      ((upgrade.recover host faults plan err).exec s).2.configs = s.configs := by
  have hspec := rollback_spec host faults (upgrade.steps host plan) s
  simp only [hflags, List.filter_false, List.map_nil, landed, writeAll_nil] at hspec
  rw [recover, Attempt.exec_bind, Attempt.exec_rescue]
  revert hspec
  rcases (rollback host faults (upgrade.steps host plan)).exec s with ⟨cause | u, s₁⟩ <;>
    rintro ⟨hok, hview⟩
  · cases hok.mpr (by rintro _ ⟨⟩)
  · exact ⟨rfl, congrArg Prod.fst hview⟩

theorem exec_unhandled {α : Type} (t : UpgradeTask α) (s : UpgradeState) :
    (unhandled t).exec s = ((t.exec s).1.mapError .failed, (t.exec s).2) := by
  rw [unhandled, Attempt.exec_rescue]
  rcases t.exec s with ⟨err | a, s'⟩ <;> rfl

/-- The lock is released at the end, and its exception takes the place of the outcome. -/
theorem exec_ensure_release {t : Attempt UpgradeFailure UpgradeState Report} {s : UpgradeState}
    (fault : Option PyError) (path : String) :
    (UpgradeTask.Releases fault →
      ((t.ensure (unhandled (UpgradeTask.releaseRecoveryLock fault path))).exec s).1 =
        (t.exec s).1) ∧
    (¬ UpgradeTask.Releases fault → ∃ err,
      ((t.ensure (unhandled (UpgradeTask.releaseRecoveryLock fault path))).exec s).1 =
        .error (.failed err)) ∧
    ((t.ensure (unhandled (UpgradeTask.releaseRecoveryLock fault path))).exec s).2.configs =
      (t.exec s).2.configs := by
  have hspec := UpgradeTask.releaseRecoveryLock_spec fault path (t.exec s).2
  rw [Attempt.exec_ensure, exec_unhandled]
  revert hspec
  rcases (UpgradeTask.releaseRecoveryLock fault path).exec (t.exec s).2 with ⟨err | u, s₁⟩ <;>
    rintro ⟨hok, hview⟩
  · exact ⟨fun h => (nomatch hok.mpr h), fun _ => ⟨err, rfl⟩, congrArg Prod.fst hview⟩
  · exact ⟨fun _ => rfl, fun h => absurd (hok.mp rfl) h, congrArg Prod.fst hview⟩

theorem recheck_eq_ok {configs : ConfigFiles} {steps : List UpgradeStep}
    (h : upgrade.recheck faults configs steps = .ok ()) :
    ∀ step ∈ steps, configs step.file = some step.raw := by
  induction steps with
  | nil => exact nofun
  | cons step steps ih =>
    rw [recheck, bind_eq_ok] at h
    obtain ⟨raw, hread, h⟩ := h
    rw [bind_eq_ok] at h
    obtain ⟨_, hraw, h⟩ := h
    rw [require_eq_ok] at hraw
    rw [List.forall_mem_cons]
    refine ⟨?_, ih h⟩
    rw [UpgradeHost.readBytes.eq_def, bind_eq_ok] at hread
    obtain ⟨_, -, hread⟩ := hread
    revert hread
    cases configs step.file with
    | none => exact nofun
    | some content =>
      intro hread
      rw [← hraw]
      exact congrArg some (Except.ok.inj hread)

variable (upgrade host faults plan)

/-- Whatever is left replaced is announced: all of it is undone, or the upgrade returns normally, or
its rollback fails and says so. -/
def Accounts (configs : ConfigFiles) : Prop :=
  (∀ change ∈ upgrade.replaced host faults plan, change.before = change.after ∨
    ¬ upgrade.Completes host faults plan configs ∧ change ∈ upgrade.undone host faults plan) ∨
  UpgradeTask.Releases faults.release ∧ (upgrade.Completes host faults plan configs ∨
    ¬ AllDone (undoEnding host faults) (upgrade.flagged host faults plan))

variable {upgrade host faults plan}

theorem ready_congr {files files' : UpgradeFile → Option (List UInt8)}
    (h : ∀ file ≠ .lock, files' file = files file) :
    upgrade.Ready host faults plan files' ↔ upgrade.Ready host faults plan files := by
  have hconfigs : (fun file => files' (.config file)) = fun file => files (.config file) :=
    funext fun file => h _ nofun
  have hbackups : ∀ file, files' (.backup file) = files (.backup file) := fun file => h _ nofun
  rw [Ready, Ready, hconfigs]
  simp only [hbackups]

/-- The `try` of the upgrade. -/
def attempt (upgrade : Upgrade) (host : UpgradeHost) (faults : UpgradeFaults)
    (plan : UpgradePlan) : Attempt UpgradeFailure UpgradeState Report :=
  (upgrade.transaction host faults plan).rescue (upgrade.recover host faults plan)

theorem attempt_of_not_ready {s : UpgradeState} (hready : ¬ upgrade.Ready host faults plan s.files)
    (hflags : s.changed = fun _ => false) :
    (∃ err, ((upgrade.attempt host faults plan).exec s).1 = .error (.failed err)) ∧
      ((upgrade.attempt host faults plan).exec s).2.configs = s.configs := by
  obtain ⟨⟨err, herr⟩, hview⟩ := transaction_of_not_ready hready
  rw [attempt, Attempt.exec_rescue]
  rcases htransaction : (upgrade.transaction host faults plan).exec s with ⟨err' | report, s₁⟩
  · rw [htransaction] at hview
    have hflags₁ : s₁.changed = fun _ => false := (congrArg Prod.snd hview).trans hflags
    obtain ⟨hfailed, hconfigs⟩ := exec_recover_of_unflagged upgrade host faults plan err' hflags₁
    exact ⟨⟨err', hfailed⟩, hconfigs.trans (congrArg Prod.fst hview)⟩
  · rw [htransaction] at herr
    cases herr

theorem attempt_of_ready {s : UpgradeState} (hready : upgrade.Ready host faults plan s.files)
    (hflags : s.changed = fun _ => false) :
    ((∃ report, ((upgrade.attempt host faults plan).exec s).1 = .ok report) ↔
        upgrade.Completes host faults plan s.configs) ∧
      ((∃ err, ((upgrade.attempt host faults plan).exec s).1 = .error (.failed err)) ↔
        ¬ upgrade.Completes host faults plan s.configs ∧
          AllDone (undoEnding host faults) (upgrade.flagged host faults plan)) ∧
      (upgrade.Completes host faults plan s.configs →
        ((upgrade.attempt host faults plan).exec s).2.configs =
          writeAll Change.after (upgrade.replaced host faults plan) s.configs) ∧
      (¬ upgrade.Completes host faults plan s.configs →
        ((upgrade.attempt host faults plan).exec s).2.configs =
          writeAll Change.before (upgrade.undone host faults plan)
            (writeAll Change.after (upgrade.replaced host faults plan) s.configs)) := by
  obtain ⟨hok, hview⟩ := transaction_of_ready hready hflags
  rw [attempt, Attempt.exec_rescue]
  revert hok hview
  rcases (upgrade.transaction host faults plan).exec s with ⟨err | report, s₁⟩ <;>
    intro hok hview
  · have hnot : ¬ upgrade.Completes host faults plan s.configs := by
      intro hcompletes
      obtain ⟨report, hreport⟩ := hok.mpr hcompletes
      cases hreport
    obtain ⟨⟨failure, hfailure, hdone, hfailed⟩, hconfigs⟩ :=
      recover_spec upgrade host faults plan err (congrArg Prod.snd hview)
    dsimp only
    rw [hfailure, hconfigs, ← hdone]
    refine ⟨⟨nofun, fun h => absurd h hnot⟩, ⟨?_, ?_⟩, fun h => absurd h hnot, fun _ => ?_⟩
    · rintro ⟨err', herr'⟩
      exact ⟨hnot, hfailed err' (Except.error.inj herr')⟩
    · rintro ⟨-, rfl⟩
      exact ⟨err, rfl⟩
    · exact congrArg (writeAll Change.before _) (congrArg Prod.fst hview)
  · have hcompletes := hok.mp ⟨report, rfl⟩
    exact ⟨⟨fun _ => hcompletes, fun _ => ⟨report, rfl⟩⟩, ⟨nofun, fun h => absurd hcompletes h.1⟩,
      fun _ => congrArg Prod.fst hview, fun h => absurd hcompletes h⟩

/-- An upgrade that does not get to its replacements fails, and changes nothing. -/
theorem carryOut_of_not_starts {files : UpgradeFile → Option (List UInt8)}
    (h : ¬ upgrade.Starts host faults plan files) :
    (∃ err, ((upgrade.carryOut host faults plan).exec ⟨files, fun _ => false⟩).1 =
      .error (.failed err)) ∧
    ((upgrade.carryOut host faults plan).exec ⟨files, fun _ => false⟩).2.configs =
      fun file => files (.config file) := by
  rw [carryOut, Attempt.exec_bind, exec_unhandled]
  have hspec := UpgradeTask.acquireRecoveryLock_spec host.runtime.nt faults.lock (lockPath plan)
    host.pid ⟨files, fun _ => false⟩
  revert hspec
  rcases (UpgradeTask.acquireRecoveryLock host.runtime.nt faults.lock (lockPath plan)
    host.pid).exec ⟨files, fun _ => false⟩ with ⟨err | u, s₁⟩ <;> rintro ⟨hok, htouches⟩
  · exact ⟨⟨_, rfl⟩, congrArg Prod.fst (htouches.view_eq nofun)⟩
  · have hready : ¬ upgrade.Ready host faults plan s₁.files := by
      intro hready
      exact h ⟨hok.mp rfl, (ready_congr htouches.2).mp hready⟩
    obtain ⟨⟨err, herr⟩, hconfigs⟩ := attempt_of_not_ready hready htouches.1
    obtain ⟨hreleased, hkept, hsame⟩ := exec_ensure_release
      (t := upgrade.attempt host faults plan) (s := s₁) faults.release (lockPath plan)
    refine ⟨?_, (hsame.trans hconfigs).trans (congrArg Prod.fst (htouches.view_eq nofun))⟩
    by_cases hrelease : UpgradeTask.Releases faults.release
    · exact ⟨err, (hreleased hrelease).trans herr⟩
    · exact hkept hrelease

/-- How an upgrade ends that gets to its replacements. -/
theorem carryOut_of_starts {files : UpgradeFile → Option (List UInt8)} {configs : ConfigFiles}
    (hconfigs : (fun file => files (.config file)) = configs)
    (h : upgrade.Starts host faults plan files) :
    ((∃ report, ((upgrade.carryOut host faults plan).exec ⟨files, fun _ => false⟩).1 =
        .ok report) ↔
      UpgradeTask.Releases faults.release ∧ upgrade.Completes host faults plan configs) ∧
    ((∃ err, ((upgrade.carryOut host faults plan).exec ⟨files, fun _ => false⟩).1 =
        .error (.failed err)) ↔
      ¬ UpgradeTask.Releases faults.release ∨ ¬ upgrade.Completes host faults plan configs ∧
        AllDone (undoEnding host faults) (upgrade.flagged host faults plan)) ∧
    (upgrade.Completes host faults plan configs →
      ((upgrade.carryOut host faults plan).exec ⟨files, fun _ => false⟩).2.configs =
        writeAll Change.after (upgrade.replaced host faults plan) configs) ∧
    (¬ upgrade.Completes host faults plan configs →
      ((upgrade.carryOut host faults plan).exec ⟨files, fun _ => false⟩).2.configs =
        writeAll Change.before (upgrade.undone host faults plan)
          (writeAll Change.after (upgrade.replaced host faults plan) configs)) := by
  rw [carryOut, Attempt.exec_bind, exec_unhandled]
  have hspec := UpgradeTask.acquireRecoveryLock_spec host.runtime.nt faults.lock (lockPath plan)
    host.pid ⟨files, fun _ => false⟩
  revert hspec
  rcases (UpgradeTask.acquireRecoveryLock host.runtime.nt faults.lock (lockPath plan)
    host.pid).exec ⟨files, fun _ => false⟩ with ⟨err | u, s₁⟩ <;> rintro ⟨hok, htouches⟩
  · exact nomatch hok.mpr h.1
  · have hready := (ready_congr htouches.2).mpr h.2
    have hsame : s₁.configs = configs :=
      (congrArg Prod.fst (htouches.view_eq nofun)).trans hconfigs
    have hattempt := attempt_of_ready hready htouches.1
    rw [hsame] at hattempt
    obtain ⟨hreport, hfailed, hafter, hbefore⟩ := hattempt
    obtain ⟨hreleased, hkept, hconfigs⟩ := exec_ensure_release
      (t := upgrade.attempt host faults plan) (s := s₁) faults.release (lockPath plan)
    refine ⟨?_, ?_, fun hc => hconfigs.trans (hafter hc), fun hc => hconfigs.trans (hbefore hc)⟩
    · rw [← hreport]
      by_cases hrelease : UpgradeTask.Releases faults.release
      · rw [and_iff_right hrelease, ← hreleased hrelease]
        rfl
      · obtain ⟨err, herr⟩ := hkept hrelease
        refine ⟨?_, fun hc => absurd hc.1 hrelease⟩
        rintro ⟨report, hreturns⟩
        exact nomatch herr.symm.trans hreturns
    · rw [← hfailed]
      by_cases hrelease : UpgradeTask.Releases faults.release
      · rw [or_iff_right (not_not_intro hrelease), ← hreleased hrelease]
        rfl
      · exact ⟨fun _ => Or.inl hrelease, fun _ => hkept hrelease⟩

theorem inspect_files {configs : ConfigFiles}
    (h : upgrade.inspect host faults configs = .ok plan) :
    (upgrade.steps host plan).map UpgradeStep.file = upgrade.files := by
  simp only [inspect, bind_eq_ok] at h
  obtain ⟨service, -, _, -, _, -, config, -, principal, -, policy, -, h⟩ := h
  split at h
  · cases h
  · simp only [bind_eq_ok] at h
    obtain ⟨_, -, _, -, _, -, trust, -, controller, -, serviceDoc, hservice, _, -, h⟩ := h
    cases h
    cases upgrade with
    | readwrite =>
      cases hservice
      rfl
    | fullControl =>
      obtain ⟨document, -, rfl⟩ := map_eq_ok.mp hservice
      rfl

theorem change_mem_changesOf {steps : List UpgradeStep} (h : Computes steps) {step : UpgradeStep}
    (hstep : step ∈ steps) {payload : List UInt8} (hdesired : step.desired = .ok (some payload)) :
    step.change ∈ changesOf steps := by
  induction steps with
  | nil => cases hstep
  | cons other steps ih =>
    rw [computes_cons] at h
    obtain ⟨⟨content, hcontent⟩, hrest⟩ := h
    rcases List.mem_cons.mp hstep with rfl | hstep
    · rw [changesOf, hdesired]
      exact List.mem_cons_self
    · rw [changesOf, hcontent]
      cases content with
      | none => exact ih hrest hstep
      | some payload => exact List.mem_cons_of_mem _ (ih hrest hstep)

theorem of_mem_changesOf {steps : List UpgradeStep}
    {change : Change ConfigFile (Option (List UInt8))} (h : change ∈ changesOf steps) :
    ∃ step ∈ steps, (∃ payload, step.desired = .ok (some payload)) ∧ step.change = change := by
  induction steps with
  | nil => cases h
  | cons other steps ih =>
    rw [changesOf] at h
    split at h
    · obtain ⟨step, hstep, hrest⟩ := ih h
      exact ⟨step, List.mem_cons_of_mem _ hstep, hrest⟩
    · rename_i payload hdesired
      rcases List.mem_cons.mp h with rfl | h
      · exact ⟨other, List.mem_cons_self, ⟨payload, hdesired⟩, rfl⟩
      · obtain ⟨step, hstep, hrest⟩ := ih h
        exact ⟨step, List.mem_cons_of_mem _ hstep, hrest⟩
    · cases h

/-- Once everything is replaced, every file has its target content. -/
theorem writeAll_changes_apply {configs : ConfigFiles}
    (hrecheck : upgrade.recheck faults configs (upgrade.steps host plan) = .ok ())
    (hcomputes : Computes (upgrade.steps host plan)) {step : UpgradeStep}
    (hstep : step ∈ upgrade.steps host plan) :
    writeAll Change.after (upgrade.changes host plan) configs step.file = some step.target := by
  obtain ⟨content, hcontent⟩ := hcomputes step hstep
  cases content with
  | none =>
    -- the file is not to change, and no other step is about it
    have hne : ∀ change ∈ upgrade.changes host plan, change.cell ≠ step.file := by
      intro change hchange hcell
      obtain ⟨other, hother, ⟨payload, hdesired⟩, rfl⟩ := of_mem_changesOf hchange
      have heq := List.inj_on_of_nodup_map (upgrade.nodup_files host plan) hother hstep hcell
      rw [heq, hcontent] at hdesired
      cases hdesired
    rw [writeAll_apply_of_forall_ne hne, recheck_eq_ok hrecheck step hstep, UpgradeStep.target,
      hcontent]
  | some payload =>
    exact writeAll_apply_of_mem (upgrade.nodup_cells host plan)
      (change_mem_changesOf hcomputes hstep hcontent)

/-- The replacements start from what the files hold. -/
theorem changes_before {configs : ConfigFiles}
    (hrecheck : upgrade.recheck faults configs (upgrade.steps host plan) = .ok ()) :
    ∀ change ∈ upgrade.changes host plan, configs change.cell = change.before := by
  intro change hchange
  obtain ⟨step, hstep, -, rfl⟩ := of_mem_changesOf hchange
  exact recheck_eq_ok hrecheck step hstep

variable (upgrade host faults)

/-- An upgrade that raises anything but the error of a failed rollback leaves all configuration
files as they were, and one that returns leaves each with its target content. -/
def AllOrNothing (files : UpgradeFile → Option (List UInt8)) : Prop :=
  let outcome := (upgrade.run host faults).exec ⟨files, fun _ => false⟩
  (∀ err, outcome.1 = .error (.failed err) →
    outcome.2.configs = fun file => files (.config file)) ∧
  ∀ report, outcome.1 = .ok report →
    ∃ plan, upgrade.inspect host faults (fun file => files (.config file)) = .ok plan ∧
      ∀ file ∈ upgrade.files, ∃ step ∈ upgrade.steps host plan, step.file = file ∧
        outcome.2.configs file = some step.target

variable {upgrade host faults}

/-- Once the replacements start, the files are accounted for exactly when the upgrade is all or
nothing. -/
theorem accounts_iff {files : UpgradeFile → Option (List UInt8)} {configs : ConfigFiles}
    (hconfigs : (fun file => files (.config file)) = configs)
    (h : upgrade.Starts host faults plan files) :
    upgrade.Accounts host faults plan configs ↔
      ∀ err, ((upgrade.carryOut host faults plan).exec ⟨files, fun _ => false⟩).1 =
          .error (.failed err) →
        ((upgrade.carryOut host faults plan).exec ⟨files, fun _ => false⟩).2.configs = configs := by
  obtain ⟨-, hfailed, hafter, hbefore⟩ := carryOut_of_starts hconfigs h
  have hrecheck : upgrade.recheck faults configs (upgrade.steps host plan) = .ok () :=
    hconfigs ▸ h.2.1
  have hsublist : (upgrade.replaced host faults plan).Sublist (upgrade.changes host plan) :=
    landed_sublist _ _
  have hnodup : ((upgrade.replaced host faults plan).map Change.cell).Nodup :=
    (upgrade.nodup_cells host plan).sublist (hsublist.map Change.cell)
  have hheld : ∀ change ∈ upgrade.replaced host faults plan, configs change.cell = change.before :=
    fun change hchange => changes_before hrecheck change (hsublist.subset hchange)
  rw [Accounts, ← exists_imp, hfailed]
  by_cases hcompletes : upgrade.Completes host faults plan configs
  · rw [hafter hcompletes, writeAll_after_eq_iff hnodup hheld]
    simp only [hcompletes, not_true_eq_false, false_and, or_false, true_or, and_true]
    tauto
  · have hundone : (upgrade.undone host faults plan).Sublist (upgrade.replaced host faults plan) :=
      (landed_sublist _ _).trans (marked_sublist_landed _ _)
    rw [hbefore hcompletes, writeAll_undo_eq_iff hnodup hheld hundone]
    simp only [hcompletes, not_false_eq_true, true_and, false_or]
    tauto

variable (upgrade host faults)

/-- An upgrade is all or nothing if and only if, once it gets to its replacements, it accounts for
every file that it leaves replaced. -/
theorem allOrNothing_iff (files : UpgradeFile → Option (List UInt8)) :
    AllOrNothing upgrade host faults files ↔
      ∀ plan, upgrade.inspect host faults (fun file => files (.config file)) = .ok plan →
        upgrade.Starts host faults plan files →
        upgrade.Accounts host faults plan fun file => files (.config file) := by
  rw [AllOrNothing, run, Attempt.exec_bind, Attempt.exec_get]
  dsimp only
  rw [Attempt.exec_bind, exec_unhandled, Attempt.exec_ofResult]
  cases hinspect : upgrade.inspect host faults (UpgradeState.configs ⟨files, fun _ => false⟩) with
  | error err =>
    refine ⟨fun _ plan hplan => ?_, fun _ => ⟨fun _ _ => rfl, nofun⟩⟩
    exact nomatch hinspect.symm.trans hplan
  | ok plan =>
    have hplan : ∀ plan',
        upgrade.inspect host faults (fun file => files (.config file)) = .ok plan' →
          plan' = plan :=
      fun plan' hplan' => Except.ok.inj (hplan'.symm.trans hinspect)
    have hright : (∀ plan',
        upgrade.inspect host faults (fun file => files (.config file)) = .ok plan' →
          upgrade.Starts host faults plan' files →
          upgrade.Accounts host faults plan' fun file => files (.config file)) ↔
        (upgrade.Starts host faults plan files →
          upgrade.Accounts host faults plan fun file => files (.config file)) := by
      constructor
      · exact fun h => h plan hinspect
      · intro h plan' hplan'
        rw [hplan plan' hplan']
        exact h
    rw [hright]
    dsimp only [Except.mapError]
    by_cases hstarts : upgrade.Starts host faults plan files
    · rw [accounts_iff rfl hstarts, forall_prop_of_true hstarts]
      refine ⟨And.left, fun h => ⟨h, fun report hreport => ⟨plan, hinspect, fun file hfile => ?_⟩⟩⟩
      obtain ⟨hreturns, -, hafter, -⟩ := carryOut_of_starts rfl hstarts
      obtain ⟨-, hcompletes⟩ := hreturns.mp ⟨report, hreport⟩
      rw [← inspect_files hinspect] at hfile
      obtain ⟨step, hstep, rfl⟩ := List.mem_map.mp hfile
      refine ⟨step, hstep, rfl, ?_⟩
      rw [hafter hcompletes, replaced, landed_eq_self hcompletes.1]
      exact writeAll_changes_apply hstarts.2.1 hcompletes.2.1 hstep
    · obtain ⟨⟨err, herr⟩, hsame⟩ := carryOut_of_not_starts hstarts
      refine ⟨fun _ h => absurd h hstarts, fun _ => ⟨fun _ _ => hsame, fun report hreport => ?_⟩⟩
      exact nomatch herr.symm.trans hreport

end Upgrade

/-! ## A torn upgrade -/

/-- No call of `_write_new` fails. -/
def WriteFaults.quiet : WriteFaults := ⟨none, false, none, none, none⟩

/-- No call of `_atomic_replace` fails. -/
def ReplaceFaults.quiet : ReplaceFaults :=
  ⟨"0f8fad5bd9cb469fa16570867728950e", .quiet, none, none, none, none, none⟩

/-- No call fails, for the controller `principal`. -/
def UpgradeFaults.quiet (principal : String) : UpgradeFaults where
  service := none
  runtimeFiles := none
  controller := none
  controllerKey := .ok principal
  identity := none
  read _ := none
  reread _ := none
  lock := ⟨none, none, none, none, none⟩
  backup _ := ⟨none, false, none, .quiet, none⟩
  replace _ := .quiet
  afterService := none
  afterRuntimeFiles := none
  afterIdentity := none
  afterController := none
  rollback _ := .quiet
  release := none

namespace Upgrade

/-- A trust file with one controller. -/
def exampleTrust (capabilities : List String) : PyValue :=
  .dict [("controllers", .list [.dict [("capabilities", .list (capabilities.map .str)),
    ("principal", .str "controller:vera")]]), ("schema", .str "VERAPORT_CONTROLLER_TRUST_V1")]

/-- A controller configuration. -/
def exampleController : PyValue :=
  .dict [("gateway_operations", .list [.str "fs.read_text"]),
    ("requested_capabilities", .list [.str "fs.read"]),
    ("schema", .str "VERAPORT_CONTROLLER_MCP_CONFIG_V1")]

/-- The bytes of an ASCII text. -/
def exampleBytes (text : String) : List UInt8 := text.toList.map fun c => UInt8.ofNat c.toNat

/-- The trust file before the upgrade. -/
def exampleTrustRaw : List UInt8 :=
  exampleBytes ("\x7b\"controllers\": [\x7b\"capabilities\": [\"fs.read\"], " ++
    "\"principal\": \"controller:vera\"\x7d], \"schema\": \"VERAPORT_CONTROLLER_TRUST_V1\"\x7d")

/-- The controller configuration before the upgrade. -/
def exampleControllerRaw : List UInt8 :=
  exampleBytes ("\x7b\"gateway_operations\": [\"fs.read_text\"], " ++
    "\"requested_capabilities\": [\"fs.read\"], " ++
    "\"schema\": \"VERAPORT_CONTROLLER_MCP_CONFIG_V1\"\x7d")

/-- The trust file that the upgrade writes. -/
def exampleTrustPayload : List UInt8 :=
  exampleBytes ("\x7b\n  \"controllers\": [\n    \x7b\n      \"capabilities\": [\n" ++
    "        \"fs.read\",\n        \"fs.write\"\n      ],\n" ++
    "      \"principal\": \"controller:vera\"\n    \x7d\n  ],\n" ++
    "  \"schema\": \"VERAPORT_CONTROLLER_TRUST_V1\"\n\x7d\n")

/-- A Windows host, with the texts of the documents that come up. -/
def exampleHost : UpgradeHost where
  runtime := .ascii true
  pid := 4711
  servicePath := "veraport.json"
  controllerPath := "controller.json"
  sha256 _ := "9f86d081884c7d659a2feaa0c55ad015a3bf4f1b2b0b822cd15d6c15b0f00a08"
  loads raw :=
    if raw = exampleTrustRaw then .ok (exampleTrust ["fs.read"])
    else if raw = exampleControllerRaw then .ok exampleController
    else .error ⟨.valueError, "Expecting value: line 1 column 1 (char 0)"⟩
  dumps v :=
    if v = exampleTrust ["fs.read", "fs.write"] then .ok exampleTrustPayload
    else .error ⟨.recursionError, "maximum recursion depth exceeded"⟩
  service _ := .ok ⟨"controllers.json", false⟩
  controller _ := .ok ⟨{"fs.read"}, {"fs.read_text"}⟩
  capabilityPolicy _ :=
    .ok fun principal => if principal = "controller:vera" then some {"fs.read"} else none

/-- The files of the installation. -/
def exampleFiles : UpgradeFile → Option (List UInt8)
  | .config .trust => some exampleTrustRaw
  | .config .controller => some exampleControllerRaw
  | .config .service => some (exampleBytes "\x7b\x7d")
  | _ => none

/-- The new trust file cannot be hardened. -/
def exampleFaults : UpgradeFaults :=
  { UpgradeFaults.quiet "controller:vera" with
    replace := fun _ =>
      { ReplaceFaults.quiet with hardenTarget := some ⟨.osError, "SetNamedSecurityInfo"⟩ } }

/-- The outcome is an exception other than that of a failed rollback. -/
def failsOnly (outcome : Except UpgradeFailure Report) : Bool :=
  match outcome with
  | .error (.failed _) => true
  | _ => false

theorem failsOnly_iff {outcome : Except UpgradeFailure Report} :
    failsOnly outcome = true ↔ ∃ err, outcome = .error (.failed err) := by
  rcases outcome with (err | _) | report <;> simp [failsOnly]

/-- The new trust file stays, and the upgrade only says that it cannot be hardened. -/
theorem not_allOrNothing : ¬ AllOrNothing readwrite exampleHost exampleFaults exampleFiles := by
  intro h
  have hfails : failsOnly ((readwrite.run exampleHost exampleFaults).exec
      ⟨exampleFiles, fun _ => false⟩).1 = true := by
    decide +kernel
  have htrust : ((readwrite.run exampleHost exampleFaults).exec
      ⟨exampleFiles, fun _ => false⟩).2.configs .trust ≠ exampleFiles (.config .trust) := by
    decide +kernel
  obtain ⟨err, herr⟩ := failsOnly_iff.mp hfails
  exact htrust (congrFun (h.1 err herr) .trust)

end Upgrade

end VeraMesh

import VeraMesh.Agent.TrustContract

/-!
# No enrolment is lost

Whatever the writers of the trust file do at the same time, and whichever of their calls fail, every
controller that the trust file enrols stays enrolled, with its key and with at least its ceiling,
and so does every controller that a recovery has returned.

* `Recovery.triple_ensureReadonlyController`, `Upgrade.triple_live`: the programs keep the contract.
* `trust_chain`: the contents at the releases of the lock, and what the file holds now.
-/

namespace VeraMesh

open Python Except Coroutine

variable {PrivateKey PublicKey : Type} {inst : Installation PrivateKey PublicKey}
  {init : Option (List UInt8)} {t : ℕ} {base trust temp : Option (List UInt8)}

/-! ## What is read under the lock -/

theorem readBytes_ok {fault : Option PyError} {content : Option (List UInt8)} {raw : List UInt8}
    (h : UpgradeHost.readBytes fault content = .ok raw) : content = some raw := by
  obtain ⟨-, -, h⟩ := bind_eq_ok.mp h
  cases content with
  | none => cases h
  | some raw' => rw [pure_eq_ok.mp h]

theorem Installation.trustList_none (inst : Installation PrivateKey PublicKey)
    (controllers : TrustList PublicKey) : inst.trustList none ≠ .ok controllers := by
  intro h
  obtain ⟨raw, -, -, hcontent, -⟩ := loadTrust_ok_iff.mp h
  cases hcontent

theorem Installation.identity_ok {workstationKey content : Option (List UInt8)}
    {identity : LoadedIdentity PrivateKey PublicKey}
    (h : inst.identity workstationKey content = .ok identity) :
    inst.trustList content = .ok identity.controllers := by
  rw [Installation.identity, loadIdentity.eq_def] at h
  split at h
  · obtain ⟨controllers, hload, rfl⟩ := map_eq_ok.mp h
    exact hload
  · cases h
  · cases h

theorem trustList_readable {fault : Option PyError} {content : Option (List UInt8)}
    {controllers : TrustList PublicKey}
    (h : inst.trustList (readable fault content) = .ok controllers) :
    inst.trustList content = .ok controllers := by
  cases fault with
  | none => exact h
  | some err => exact absurd h (inst.trustList_none controllers)

namespace Recovery

/-- The identity that is loaded under the lock has the controllers of the trust file. -/
theorem under_loadIdentity :
    Under inst init t base trust temp (loadIdentity inst) fun identity s =>
      inst.trustList trust = .ok identity.controllers ∧ LockHeld init t base trust temp s := by
  refine (reads_answer DiskCall.call).under.bind fun keyFault => ?_
  refine (under_readTrust _).post fun identity s _ h => ⟨?_, h.2⟩
  obtain ⟨fault, hload⟩ := h.1
  exact trustList_readable (Installation.identity_ok (mapError_eq_ok.mp hload))

theorem trustDocument_ok {fault : Option PyError} {content : Option (List UInt8)}
    {document : TrustDocument} (h : trustDocument inst fault content = .ok document) :
    content = some document.raw ∧ inst.codec.loads document.raw = .ok document.doc ∧
      IsTrust document.doc document.entries := by
  obtain ⟨raw, hraw, h⟩ := bind_eq_ok.mp h
  split at h
  · split_ifs at h
  · rename_i doc hloads
    obtain ⟨_, hschema, h⟩ := bind_eq_ok.mp h
    split at h
    · rename_i entry entries hentries
      rw [← pure_eq_ok.mp h]
      exact ⟨readBytes_ok hraw, hloads, require_eq_ok.mp hschema, hentries, List.cons_ne_nil _ _⟩
    · cases h

theorem reads_loadPrivate (path : String) : Reads inst init t (loadPrivate inst path) := by
  refine (reads_answer DiskCall.call).bind fun fault => reads_read.bind fun s => ?_
  split
  · exact reads_pure _
  · exact reads_throw _
  · exact reads_throw _

theorem reads_validateMarker (r : Recovery) (key : PrivateKey) :
    Reads inst init t (r.validateMarker inst key) := by
  refine (reads_answer DiskCall.call).bind fun fault => reads_read.bind fun s => ?_
  split
  · exact reads_refuseIf _ _
  · exact reads_throw _

theorem capabilityPolicy_get? (identity : LoadedIdentity PrivateKey PublicKey)
    (principal : String) :
    identity.capabilityPolicy.get? principal =
      (identity.controllers.get? principal).map (·.2) := by
  rw [LoadedIdentity.capabilityPolicy, Dict.get?_mapValues]

/-- A controller with the ceiling for reading is one that can be reused. -/
theorem enrolsReader_of_policy {before : LoadedIdentity PrivateKey PublicKey} {principal : String}
    (hload : inst.trustList trust = .ok before.controllers)
    (hpolicy : before.capabilityPolicy.get? principal = some readOnlyCapabilities) :
    EnrolsReader inst principal trust := by
  rw [capabilityPolicy_get?, Option.map_eq_some_iff] at hpolicy
  obtain ⟨⟨key, ceiling⟩, hget, hceiling⟩ := hpolicy
  refine ⟨before.controllers, key, ceiling, hload, hget, ?_⟩
  rw [show ceiling = readOnlyCapabilities from hceiling]
  exact Finset.mem_singleton_self _

/-- A report is about a controller that the trust file enrols. -/
def Reports (inst : Installation PrivateKey PublicKey) (trust : Option (List UInt8))
    (report : RecoveryReport) : Prop := EnrolsReader inst report.controllerPrincipal trust

theorem under_tryPreferred (r : Recovery) {before : LoadedIdentity PrivateKey PublicKey}
    (hload : inst.trustList trust = .ok before.controllers) (digest : String) :
    Under inst init t base trust temp (r.tryPreferred inst before digest) fun found s =>
      (∀ report, found = .inl report → Reports inst trust report) ∧
        LockHeld init t base trust temp s := by
  refine (reads_lookup _).under.bind fun found => ?_
  refine Triple.ite (fun _ => .pure fun s _ h => ⟨by simp, h⟩) fun _ => ?_
  refine (reads_loadPrivate _).under.bind fun key => ?_
  split
  · exact .pure fun s _ h => ⟨by simp, h⟩
  · rename_i ceiling hpolicy
    refine Triple.ite (fun hceiling => .pure fun s _ h => ⟨?_, h⟩) fun _ => ?_
    · rintro report hreport
      obtain rfl := Sum.inl.inj hreport
      exact enrolsReader_of_policy hload (hceiling ▸ hpolicy)
    · exact Triple.ite (fun _ => .pure fun s _ h => ⟨by simp, h⟩)
        fun _ => .pure fun s _ h => ⟨by simp, h⟩

/-- A key that was just generated is nobody's. -/
theorem under_generate (r : Recovery) {controllers : TrustList PublicKey}
    (hload : inst.trustList trust = .ok controllers) :
    Under inst init t base trust temp (r.generate inst) fun key s =>
      controllers.get? (inst.principal key) = none ∧ LockHeld init t base trust temp s := by
  refine (reads_lookup _).under.bind fun found => (reads_refuseIf _ _).under.bind fun _ => ?_
  refine reads_call.under.bind fun _ => (reads_hardenIf _).under.bind fun _ => ?_
  have hkey : Under inst init t base trust temp (WriterTask.generateKey) fun key s =>
      controllers.get? (inst.principal key) = none ∧ LockHeld init t base trust temp s :=
    Triple.answer (stable_held base trust temp) fun s key _ h hanswer =>
      ⟨hanswer controllers (h.trust_eq.symm ▸ hload), h⟩
  refine hkey.bind_fact fun key hfresh => ?_
  refine (under_writeNew_other _ _ _).bind fun _ => ?_
  refine ((under_ofStep _).post fun _ _ _ h => h.2).bind fun payload => ?_
  refine (under_writeNew_other _ _ _).bind fun _ => (reads_hardenIf _).under.bind fun _ => ?_
  refine (reads_hardenIf _).under.bind fun _ => ?_
  exact .pure fun s _ h => ⟨hfresh, h⟩

theorem under_obtainKey (r : Recovery) {before : LoadedIdentity PrivateKey PublicKey}
    (hload : inst.trustList trust = .ok before.controllers) (status digest : String) :
    Under inst init t base trust temp (r.obtainKey inst before status digest) fun found s =>
      ((∀ report, found = .inl report → Reports inst trust report) ∧
        ∀ key new, found = .inr (key, new) →
          before.controllers.get? (inst.principal key) = none) ∧
      LockHeld init t base trust temp s := by
  refine (reads_lookup _).under.bind fun found => Triple.ite (fun _ => ?_) fun _ => ?_
  · refine (reads_refuseIf _ _).under.bind fun _ => (reads_loadPrivate _).under.bind fun key => ?_
    split
    · rename_i ceiling hpolicy
      refine Triple.bind_fact ((triple_refuseIf _ _).conseq (fun _ _ h => h) (fun _ _ _ h => h)
        fun _ _ _ h => h.toHolding) fun _ hceiling => .pure fun s _ h => ⟨⟨?_, by simp⟩, h⟩
      rintro report hreport
      obtain rfl := Sum.inl.inj hreport
      rw [bne_eq_false_iff_eq] at hceiling
      exact enrolsReader_of_policy hload (hceiling ▸ hpolicy)
    · rename_i hpolicy
      refine (reads_lookup _).under.bind fun marker => (reads_refuseIf _ _).under.bind fun _ => ?_
      refine (reads_validateMarker r key).under.bind fun _ => ?_
      refine .pure fun s _ h => ⟨⟨by simp, ?_⟩, h⟩
      rintro key' new hfound
      obtain ⟨rfl, -⟩ := Prod.mk.inj (Sum.inr.inj hfound)
      rwa [capabilityPolicy_get?, Option.map_eq_none_iff] at hpolicy
  · refine Triple.bind_fact (under_generate r hload) fun key hfresh => ?_
    refine .pure fun s _ h => ⟨⟨by simp, ?_⟩, h⟩
    rintro key' new hfound
    obtain ⟨rfl, -⟩ := Prod.mk.inj (Sum.inr.inj hfound)
    exact hfresh

/-- The trust file with a new controller extends the one it was computed from. -/
theorem mayReplace_enrolled {document : TrustDocument} {controllers : TrustList PublicKey}
    {key : PrivateKey} {payload : List UInt8}
    (hdoc : inst.codec.loads document.raw = .ok document.doc)
    (htrust : IsTrust document.doc document.entries)
    (hplain : PlainTrust inst.codec (some document.raw))
    (hload : inst.trustList (some document.raw) = .ok controllers)
    (hfresh : controllers.get? (inst.principal key) = none)
    (hdumps : inst.codec.dumps (enrolled inst document key) = .ok payload) :
    MayReplace inst (some document.raw) .trust payload ∧
      EnrolsReader inst (inst.principal key) (some payload) := by
  obtain ⟨raw, doc, entries, hraw, hloads, htrust', hloaded⟩ := loadTrust_ok_iff.mp hload
  obtain rfl := Option.some.inj hraw
  obtain rfl := Except.ok.inj (hdoc.symm.trans hloads)
  obtain rfl := PyValue.list.inj (Option.some.inj (htrust.2.1.symm.trans htrust'.2.1))
  obtain ⟨hload', hplain'⟩ := loadTrust_append hdoc htrust hloaded hplain hfresh hdumps
  have hextends := TrustList.extends_set hfresh (inst.keys.publicKey key, ["fs.read"].toFinset)
  refine ⟨fun _ => ⟨fun controllers' h => ?_, hplain'⟩, _, _, _, hload', Dict.get?_set_self _ _ _,
    by simp⟩
  obtain rfl := Except.ok.inj (hload.symm.trans h)
  exact ⟨_, hload', hextends⟩

theorem under_enrol (r : Recovery) {document : TrustDocument}
    {before : LoadedIdentity PrivateKey PublicKey} {key : PrivateKey}
    (hraw : trust = some document.raw) (hdoc : inst.codec.loads document.raw = .ok document.doc)
    (htrust : IsTrust document.doc document.entries)
    (hload : inst.trustList trust = .ok before.controllers)
    (hfresh : before.controllers.get? (inst.principal key) = none) (trustPath status : String)
    (new : Bool) :
    Under inst init t trust trust temp (r.enrol inst t trustPath document before status key new)
      fun report s => EnrolsReader inst report.controllerPrincipal s.trust ∧
        Holding init t trust s := by
  subst hraw
  refine Triple.of_inv fun s hs hheld => ?_
  have hplain : PlainTrust inst.codec (some document.raw) := hheld.trust_eq ▸ hs.plain
  refine ((under_readTrust _).post fun _ _ _ h => h.2).bind fun latest => ?_
  refine (reads_refuseIf _ _).under.bind fun _ => (under_writeOrVerify _ _ _ _).bind fun _ => ?_
  refine (reads_hardenIf _).under.bind fun _ => ?_
  refine Triple.bind_fact (under_ofStep _) fun payload hpayload => ?_
  obtain ⟨hmay, henrols⟩ := mayReplace_enrolled hdoc htrust hplain hload hfresh
    (mapError_eq_ok.mp hpayload)
  refine (under_atomicReplace hmay _ _ _).bind fun _ => Triple.exists_pre fun temp => ?_
  refine (under_loadIdentity.post fun _ _ _ h => h.2).bind fun after => ?_
  refine ((under_ofStep _).post fun _ _ _ h => h.2).bind fun _ => ?_
  refine ((under_readTrust _).post fun _ _ _ h => h.2).bind fun last => ?_
  refine .pure fun s _ h => ⟨?_, h.toHolding⟩
  rw [h.trust_eq]
  exact henrols

/-- Under the lock a recovery keeps the contract, and what it reports is enrolled. -/
theorem under_locked (r : Recovery) :
    Under inst init t base base temp (r.locked inst t) fun report s =>
      EnrolsReader inst report.controllerPrincipal s.trust ∧ Holding init t base s := by
  refine (reads_readWith _ _).under.bind fun service => reads_call.under.bind fun _ => ?_
  refine ((under_ofStep _).post fun _ _ _ h => h.2).bind fun _ => ?_
  refine ((under_ofStep _).post fun _ _ _ h => h.2).bind fun _ => ?_
  refine (reads_refuseIf _ _).under.bind fun _ => ?_
  refine Triple.bind_fact under_loadIdentity fun before hload => ?_
  refine Triple.bind_fact (under_readTrust _) fun document hdocument => ?_
  obtain ⟨fault, hread⟩ := hdocument
  obtain ⟨hraw, hdoc, htrust⟩ := trustDocument_ok hread
  have hreport : ∀ {report : RecoveryReport}, Reports inst base report →
      Under inst init t base base temp (pure report) fun report s =>
        EnrolsReader inst report.controllerPrincipal s.trust ∧ Holding init t base s :=
    fun hreports => .pure fun s _ h => ⟨h.trust_eq.symm ▸ hreports, h.toHolding⟩
  refine Triple.bind_fact (under_tryPreferred r hload _) fun found hfound => ?_
  cases found with
  | inl report => exact hreport (hfound report rfl)
  | inr status =>
    refine Triple.bind_fact (under_obtainKey r hload _ _) fun found hfound => ?_
    cases found with
    | inl report => exact hreport (hfound.1 report rfl)
    | inr obtained =>
      exact under_enrol r hraw hdoc htrust hload (hfound.2 _ _ rfl) _ _ _

/-- A recovery returns with a controller that the settled trust file enrols. -/
theorem guarantee_report {s : Disk} {principal : String} (hs : DiskInv inst init s)
    (h : EnrolsReader inst principal (s.base init)) :
    (writers inst init).Guarantee t s (s.report principal) := by
  refine ⟨⟨hs.locked, hs.idle, hs.extends_base, hs.plain, hs.chain, fun p hp => ?_⟩,
    fun t' _ => ⟨fun hholder => ⟨hholder, rfl, rfl⟩, rfl⟩⟩
  rcases List.mem_append.mp hp with hold | hnew
  · exact hs.reported p hold
  · rw [List.mem_singleton.mp hnew]
    exact h

theorem stable_enrols_holding (principal : String) :
    Stable (writers inst init) t fun s =>
      EnrolsReader inst principal s.trust ∧ Holding init t base s := by
  rintro s s' - hkeeps ⟨henrols, hholding⟩
  rw [← (hkeeps.holds hholding.holder).2.1] at henrols
  exact ⟨henrols, hholding.of_keeps hkeeps⟩

/-- A recovery keeps the contract. -/
theorem triple_ensureReadonlyController (r : Recovery) :
    Triple (writers inst init) t (fun _ => True) (r.ensureReadonlyController inst t)
      (fun _ _ => True) fun _ _ => True := by
  refine (reads_readWith _ _ _ stable_true).bind fun service => ?_
  refine (triple_acquireRecoveryLock _ _ _).bind fun _ => ?_
  refine Triple.exists_pre fun base => Triple.exists_pre fun temp => ?_
  have hrelease : Triple (writers inst init) t (Holding init t base)
      (WriterTask.releaseRecoveryLock (service.controllerTrust ++ ".recovery.lock"))
      (fun _ _ => True) fun _ _ => True :=
    (triple_releaseRecoveryLock (stable_holding base) (fun _ h => h.holder) _).post
      fun _ _ _ _ => trivial
  have hlocked : Triple (writers inst init) t (LockHeld init t base base temp)
      (ensure (r.locked inst t)
        (WriterTask.releaseRecoveryLock (service.controllerTrust ++ ".recovery.lock")))
      (fun report s => EnrolsReader inst report.controllerPrincipal (s.base init))
      fun _ _ => True := by
    refine Triple.ensure (under_locked r) (fun report => ?_) fun _ => hrelease
    -- the release settles what is enrolled
    refine (triple_releaseRecoveryLock (stable_enrols_holding _) (fun s h => h.2.holder) _).post ?_
    rintro _ _ - ⟨s, ⟨henrols, -⟩, rfl⟩
    rwa [Disk.base_release]
  refine hlocked.bind fun report => ?_
  refine (Triple.update (B := fun _ _ => True) fun s hs h => ⟨?_, trivial⟩).bind fun _ =>
    .pure fun _ _ _ => trivial
  exact guarantee_report hs h

end Recovery

namespace Upgrade

variable {upgrade : Upgrade} {pid : ℕ}

/-! ## Upgrades -/

theorem subset_targetCapabilities {ceiling : Finset String}
    (h : ceiling ∈ upgrade.sourceCapabilities) : ceiling ⊆ upgrade.targetCapabilities := by
  revert ceiling
  cases upgrade <;> decide

/-- What the plan says about the trust file it was made from. -/
structure PlansTrust (upgrade : Upgrade) (inst : Installation PrivateKey PublicKey) (pid : ℕ)
    (plan : UpgradePlan) : Prop where
  loads : inst.codec.loads plan.trust.raw = .ok plan.trust.doc
  schema : plan.trust.doc.member? "schema" = some (.str "VERAPORT_CONTROLLER_TRUST_V1")
  ceiling : plan.ceiling ∈ upgrade.sourceCapabilities
  checked : upgrade.checkTrust (inst.upgradeHost pid) plan = .ok ()

/-- The entries of the plan's trust file. The controller's is the only one of its principal, and it
has the ceiling that the plan goes by. -/
theorem PlansTrust.entries {plan : UpgradePlan} (h : PlansTrust upgrade inst pid plan) :
    ∃ entries entry capabilities, IsTrust plan.trust.doc entries ∧
      entries.filter (isEntryOf plan.principal) = [entry] ∧
      ((entry.member? "capabilities").getD (.list [])).iterate = .ok capabilities ∧
      (capabilities.map inst.runtime.str).toFinset = plan.ceiling := by
  have hchecked := h.checked
  rw [checkTrust.eq_def] at hchecked
  split at hchecked
  · rename_i entries hentries
    split at hchecked
    · rename_i entry hfilter
      obtain ⟨capabilities, hcapabilities, hrequire⟩ := bind_eq_ok.mp hchecked
      refine ⟨entries, entry, capabilities, ⟨h.schema, hentries, ?_⟩, hfilter,
        mapError_eq_ok.mp hcapabilities, require_eq_ok.mp hrequire⟩
      rintro rfl
      simp at hfilter
    · cases hchecked
  · cases hchecked

/-- The new trust file extends the one it was computed from. -/
theorem PlansTrust.mayReplace {plan : UpgradePlan} (h : PlansTrust upgrade inst pid plan)
    (hplain : PlainTrust inst.codec (some plan.trust.raw)) {payload : List UInt8}
    (hdesired : upgrade.desiredTrust (inst.upgradeHost pid) plan = .ok (some payload)) :
    MayReplace inst (some plan.trust.raw) .trust payload := by
  obtain ⟨entries, entry, capabilities, htrust, hfilter, hiterate, hceiling⟩ := h.entries
  have hdumps : inst.codec.dumps (plan.trust.doc.withMember "controllers"
      (.list (entries.map (upgrade.grant plan.principal)))) = .ok payload := by
    rw [desiredTrust.eq_def] at hdesired
    split_ifs at hdesired
    · simp at hdesired
    · simp only [htrust.2.1] at hdesired
      obtain ⟨payload', hpayload, heq⟩ := map_eq_ok.mp (mapError_eq_ok.mp hdesired)
      rw [← Option.some.inj heq]
      exact hpayload
  intro _
  refine ⟨fun controllers hload => ?_, plainTrust_rewrite h.loads htrust hdumps
    (by simpa using htrust.2.2) (keyed_plain_grant upgrade plan.principal h.loads htrust hplain)⟩
  obtain ⟨raw, doc, entries', hraw, hloads, htrust', hloaded⟩ := loadTrust_ok_iff.mp hload
  obtain rfl := Option.some.inj hraw
  obtain rfl := Except.ok.inj (h.loads.symm.trans hloads)
  obtain rfl := PyValue.list.inj (Option.some.inj (htrust.2.1.symm.trans htrust'.2.1))
  obtain ⟨controllers', hload', hentries'⟩ := loadTrust_grant h.loads htrust hloaded hplain hdumps
  refine ⟨controllers', hload', TrustList.extends_granted hentries' fun key ceiling hget => ?_⟩
  -- the entry that was loaded for the principal is the one that was checked
  obtain ⟨entry', hentry', hload⟩ := hloaded.exists_entry (Dict.get?_eq_some_iff.mp hget)
  obtain ⟨-, -, -, hprincipal, -, capabilities', hcapabilities, hceiling'⟩ :=
    loadEntry_ok_iff.mp hload
  have hmem : entry' ∈ entries.filter (isEntryOf plan.principal) :=
    List.mem_filter.mpr ⟨hentry', by simp [isEntryOf, hprincipal]⟩
  rw [hfilter, List.mem_singleton] at hmem
  subst hmem
  rw [hcapabilities] at hiterate
  obtain rfl := Except.ok.inj hiterate
  rw [show ceiling = plan.ceiling from hceiling'.trans hceiling]
  exact subset_targetCapabilities h.ceiling

theorem strictJson_ok {fault : Option PyError} {content : Option (List UInt8)}
    {path schema : String} {document : ConfigDocument}
    (h : (inst.upgradeHost pid).strictJson fault content path schema = .ok document) :
    inst.codec.loads document.raw = .ok document.doc ∧
      document.doc.member? "schema" = some (.str schema) := by
  obtain ⟨raw, -, h⟩ := bind_eq_ok.mp h
  split at h
  · cases h
  · rename_i doc hloads
    obtain ⟨_, hschema, h⟩ := bind_eq_ok.mp h
    rw [← pure_eq_ok.mp h]
    exact ⟨hloads, require_eq_ok.mp hschema⟩

theorem reads_liveServiceDocument :
    Reads inst init t (upgrade.liveServiceDocument inst pid) := by
  cases upgrade with
  | readwrite => exact reads_pure _
  | fullControl => exact (reads_readWith _ _).bind fun _ => reads_pure _

/-- An upgrade inspects without touching anything. Its plan is about a trust file it has read. -/
theorem triple_liveInspect (controllerKey : Except String String) :
    Triple (writers inst init) t (fun _ => True) (upgrade.liveInspect inst pid controllerKey)
      (fun plan _ => PlansTrust upgrade inst pid plan) fun _ _ => True := by
  refine (reads_readWith _ _ _ stable_true).bind fun service => ?_
  refine (reads_call _ stable_true).bind fun _ => (reads_ofStep _ _ stable_true).bind fun _ => ?_
  refine (reads_readWith _ _ _ stable_true).bind fun config => ?_
  refine (reads_ofStep _ _ stable_true).bind fun principal => ?_
  refine (reads_readWith _ _ _ stable_true).bind fun policy => ?_
  split
  · exact .throw fun _ _ _ => trivial
  · rename_i ceiling _
    refine Triple.bind_fact (triple_ofStep _) fun _ hceiling => ?_
    refine (reads_ofStep _ _ stable_true).bind fun _ => ?_
    refine (reads_ofStep _ _ stable_true).bind fun _ => ?_
    have hread : Triple (writers inst init) t (fun _ => True)
        (WriterTask.readWith (fun fault content => (inst.upgradeHost pid).strictJson fault content
          service.controllerTrust "VERAPORT_CONTROLLER_TRUST_V1") .trust)
        (fun (document : ConfigDocument) _ => (inst.codec.loads document.raw = .ok document.doc ∧
          document.doc.member? "schema" = some (.str "VERAPORT_CONTROLLER_TRUST_V1")) ∧ True)
        fun _ _ => True := by
      refine (triple_readWith stable_true _ _).post ?_
      rintro document s - ⟨⟨fault, hread⟩, -⟩
      exact ⟨strictJson_ok hread, trivial⟩
    refine hread.bind_fact fun trust htrust => ?_
    refine (reads_readWith _ _ _ stable_true).bind fun controller => ?_
    refine (reads_liveServiceDocument _ stable_true).bind fun service => ?_
    refine Triple.bind_fact (triple_ofStep _) fun _ hchecked => ?_
    have hmem : ceiling ∈ upgrade.sourceCapabilities :=
      List.contains_iff_mem.mp (require_eq_ok.mp hceiling)
    exact .pure fun _ _ _ => ⟨htrust.1, htrust.2, hmem, hchecked⟩

/-! ## The transaction of an upgrade -/

theorem mem_steps_trust {plan : UpgradePlan} {step : UpgradeStep}
    (h : step ∈ upgrade.steps (inst.upgradeHost pid) plan) (hfile : step.file = .trust) :
    step.raw = plan.trust.raw ∧
      step.desired = upgrade.desiredTrust (inst.upgradeHost pid) plan := by
  rw [steps, List.mem_append, List.mem_cons, List.mem_singleton, List.mem_map] at h
  rcases h with (rfl | rfl) | ⟨service, -, rfl⟩
  · exact ⟨rfl, rfl⟩
  · cases hfile
  · cases hfile

/-- Where all files are what was read, so is the trust file. -/
theorem under_liveRecheck (steps : List UpgradeStep) :
    Under inst init t base trust temp (upgrade.liveRecheck steps) fun _ s =>
      (∀ step ∈ steps, step.file = .trust → trust = some step.raw) ∧
        LockHeld init t base trust temp s := by
  induction steps with
  | nil => exact .pure fun s _ h => ⟨by simp, h⟩
  | cons step steps ih =>
    have hread : Under inst init t base trust temp
        (WriterTask.readWith UpgradeHost.readBytes step.file)
        fun raw s => (step.file = .trust → trust = some raw) ∧
          LockHeld init t base trust temp s := by
      by_cases hfile : step.file = .trust
      · rw [hfile]
        refine (under_readTrust _).post fun raw s _ h => ⟨fun _ => ?_, h.2⟩
        obtain ⟨fault, hread⟩ := h.1
        exact readBytes_ok hread
      · exact (reads_readWith _ _).under.post fun _ _ _ h => ⟨fun h' => absurd h' hfile, h⟩
    refine hread.bind_fact fun raw htrust => ?_
    refine Triple.bind_fact (under_ofStep _) fun _ hraw => ih.post fun _ _ _ h => ⟨?_, h.2⟩
    rw [List.forall_mem_cons]
    exact ⟨fun hfile => require_eq_ok.mp hraw ▸ htrust hfile, h.1⟩

theorem under_liveBackUp (steps : List UpgradeStep) :
    Under inst init t base trust temp (upgrade.liveBackUp inst pid steps) fun _ =>
      LockHeld init t base trust temp := by
  induction steps with
  | nil => exact .pure fun _ _ h => h
  | cons step steps ih =>
    refine (under_writeOrVerify _ _ _ _).bind fun created => ?_
    exact (reads_hardenIf _).under.bind fun _ => ih

/-- What every holder can do, whatever the files hold. -/
theorem triple_of_under {α : Type} {c : WriterTask PrivateKey α} {B : α → Disk → Prop}
    (h : ∀ trust temp, Under inst init t base trust temp c B) :
    Triple (writers inst init) t (Holding init t base) c B fun _ => Holding init t base :=
  ⟨fun s hs hholding => (h s.trust (s.files (.temp t))).run s hs ⟨hholding, rfl, rfl⟩⟩

theorem triple_atomicReplace {file : ConfigFile} {payload : List UInt8}
    (hmay : MayReplace inst base file payload) (nt : Bool) (taken : String → UpgradeError)
    (path : String) :
    Triple (writers inst init) t (Holding init t base)
      (WriterTask.atomicReplace nt t taken file path payload) (fun _ => Holding init t base)
      fun _ => Holding init t base :=
  triple_of_under fun _ _ => (under_atomicReplace hmay nt taken path).post
    fun _ _ _ h => h.choose_spec.toHolding

/-- The payloads that the steps are to write may replace the files. -/
def MayApply (inst : Installation PrivateKey PublicKey) (base : Option (List UInt8))
    (steps : List UpgradeStep) : Prop :=
  ∀ step ∈ steps, ∀ payload, step.desired = .ok (some payload) →
    MayReplace inst base step.file payload

theorem triple_liveReplace {step : UpgradeStep}
    (hmay : ∀ payload, step.desired = .ok (some payload) → MayReplace inst base step.file payload) :
    Triple (writers inst init) t (Holding init t base) (liveReplace inst t step)
      (fun _ => Holding init t base) fun _ => Holding init t base := by
  refine Triple.bind_fact (triple_ofStep _) fun desired hdesired => ?_
  cases desired with
  | none => exact .pure fun _ _ h => h
  | some payload =>
    exact (triple_atomicReplace (hmay payload hdesired) _ _ _).bind fun _ => .pure fun _ _ h => h

theorem triple_liveReplaceFiles {steps : List UpgradeStep} (hmay : MayApply inst base steps)
    (changed : ConfigFile → Bool) :
    Triple (writers inst init) t (Holding init t base) (liveReplaceFiles inst t steps changed)
      (fun _ => Holding init t base) fun _ => Holding init t base := by
  induction steps generalizing changed with
  | nil => exact .pure fun _ _ h => h
  | cons step steps ih =>
    obtain ⟨hstep, hsteps⟩ := List.forall_mem_cons.mp hmay
    refine (triple_liveReplace hstep).attempt.bind fun outcome => ?_
    cases outcome with
    | ok replaced => exact ih hsteps _
    | error err => exact .pure fun _ _ h => h

theorem triple_liveRollback {changed : ConfigFile → Bool} {steps : List UpgradeStep}
    (hmay : ∀ step ∈ steps, changed step.file = true → MayReplace inst base step.file step.raw) :
    Triple (writers inst init) t (Holding init t base) (liveRollback inst t changed steps)
      (fun _ => Holding init t base) fun _ => Holding init t base := by
  induction steps with
  | nil => exact .pure fun _ _ h => h
  | cons step steps ih =>
    obtain ⟨hstep, hsteps⟩ := List.forall_mem_cons.mp hmay
    refine Triple.ite (fun hchanged => ?_) fun _ => ih hsteps
    exact (triple_atomicReplace (hstep hchanged) _ _ _).bind fun _ => ih hsteps

theorem reads_liveVerifyIdentity (message principal : String) :
    Reads inst init t (upgrade.liveVerifyIdentity inst pid message principal) :=
  (reads_readWith _ _).bind fun _ => reads_ofStep _

theorem reads_liveVerifyController (requested missing : String) :
    Reads inst init t (upgrade.liveVerifyController inst requested missing) :=
  (reads_readWith _ _).bind fun _ => (reads_ofStep _).bind fun _ =>
    (reads_ofStep _).bind fun _ => reads_ofStep _

theorem reads_liveVerify (principal : String) :
    Reads inst init t (upgrade.liveVerify inst pid principal) := by
  cases upgrade with
  | readwrite =>
    exact (reads_liveVerifyIdentity _ _).bind fun _ => reads_liveVerifyController _ _
  | fullControl =>
    refine ((reads_readWith _ _).bind fun _ => reads_call.bind fun _ => reads_ofStep _).bind
      fun _ => ?_
    exact (reads_liveVerifyIdentity _ _).bind fun _ => reads_liveVerifyController _ _

/-- The trust file at the time of the lock is the one that the plan was made from. -/
def Unchanged (inst : Installation PrivateKey PublicKey) (plan : UpgradePlan)
    (base : Option (List UInt8)) : Prop :=
  base = some plan.trust.raw ∧ PlainTrust inst.codec base

/-- Nothing is replaced unless the trust file is unchanged. -/
theorem triple_liveBody {plan : UpgradePlan} (hplan : PlansTrust upgrade inst pid plan) :
    Triple (writers inst init) t (LockHeld init t base base temp) (upgrade.liveBody inst pid t plan)
      (fun body s => (∀ file, body.1 file = true → Unchanged inst plan base) ∧
        Holding init t base s) fun _ => Holding init t base := by
  have hprepare : Under inst init t base base temp
      (do
        upgrade.liveRecheck (upgrade.steps (inst.upgradeHost pid) plan)
        upgrade.liveBackUp inst pid (upgrade.steps (inst.upgradeHost pid) plan))
      fun _ s => Unchanged inst plan base ∧ LockHeld init t base base temp s := by
    refine Triple.bind_fact (under_liveRecheck _) fun _ hsame => ?_
    refine (under_liveBackUp _).post fun _ s hs h => ⟨⟨?_, h.trust_eq ▸ hs.plain⟩, h⟩
    exact hsame _ (List.mem_append_left _ List.mem_cons_self) rfl
  refine hprepare.attempt.bind fun prepared => ?_
  cases prepared with
  | error err => exact .pure fun _ _ h => ⟨by simp, h⟩
  | ok _ =>
    refine Triple.of_pre fun hsame => ?_
    have hmay : MayApply inst base (upgrade.steps (inst.upgradeHost pid) plan) := by
      intro step hstep payload hdesired hfile
      obtain ⟨-, hdesired'⟩ := mem_steps_trust hstep hfile
      rw [hsame.1]
      exact hplan.mayReplace (hsame.1 ▸ hsame.2) (hdesired' ▸ hdesired) rfl
    refine ((triple_liveReplaceFiles hmay _).pre fun _ _ h => h.toHolding).bind fun replaced => ?_
    obtain ⟨changed, replaced⟩ := replaced
    cases replaced with
    | error err => exact .pure fun _ _ h => ⟨fun _ _ => hsame, h⟩
    | ok _ =>
      refine (Triple.attempt (reads_liveVerify _ _ (stable_holding base))).bind fun verified => ?_
      refine .pure fun s _ h => ⟨fun _ _ => hsame, ?_⟩
      cases verified with
      | ok _ => exact h
      | error err => exact h

/-- The transaction leaves a trust file that extends the one it found. -/
theorem triple_liveTransaction {plan : UpgradePlan} (hplan : PlansTrust upgrade inst pid plan) :
    Triple (writers inst init) t (LockHeld init t base base temp)
      (upgrade.liveTransaction inst pid t plan) (fun _ => Holding init t base)
      fun _ => Holding init t base := by
  refine Triple.bind_fact (triple_liveBody hplan) fun body hsame => ?_
  obtain ⟨changed, ended⟩ := body
  cases ended with
  | ok _ => exact .pure fun _ _ h => h
  | error err =>
    refine Triple.bind (B := fun _ => Holding init t base) ?_ fun _ => .throw fun _ _ h => h
    refine Triple.tryCatch (triple_liveRollback ?_) fun cause => .throw fun _ _ h => h
    intro step hstep hchanged hfile
    obtain ⟨hraw, hplain⟩ := hsame step.file hchanged
    rw [(mem_steps_trust hstep hfile).1, hraw]
    exact ⟨.refl _, hraw ▸ hplain⟩

/-- An upgrade keeps the contract. -/
theorem triple_live (controllerKey : Except String String) :
    Triple (writers inst init) t (fun _ => True) (upgrade.live inst pid t controllerKey)
      (fun _ _ => True) fun _ _ => True := by
  refine ((triple_liveInspect controllerKey).post fun _ _ _ h => ⟨h, trivial⟩).bind_fact
    fun plan hplan => ?_
  refine (triple_acquireRecoveryLock _ _ _).bind fun _ => ?_
  refine Triple.exists_pre fun base => Triple.exists_pre fun temp => ?_
  have hrelease : Triple (writers inst init) t (Holding init t base)
      (WriterTask.releaseRecoveryLock (lockPath plan)) (fun _ _ => True) fun _ _ => True :=
    (triple_releaseRecoveryLock (stable_holding base) (fun _ h => h.holder) _).post
      fun _ _ _ _ => trivial
  exact Triple.ensure (triple_liveTransaction hplan) (fun _ => hrelease) fun _ => hrelease

end Upgrade

/-! ## Runs of any number of writers -/

/-- Other programs touch neither the trust file nor the lock nor temporary files of the writers. -/
structure Disk.Others (s s' : Disk) : Prop where
  trust : s'.trust = s.trust
  lock : s'.files .lock = s.files .lock
  temp : ∀ writer, s'.files (.temp writer) = s.files (.temp writer)
  holder : s'.holder = s.holder
  settled : s'.settled = s.settled
  reported : s'.reported = s.reported

/-- The programs that run as writers. -/
inductive TrustWriter (inst : Installation PrivateKey PublicKey) (t : ℕ) :
    WriterTask PrivateKey (RecoveryReport ⊕ Upgrade.Report) → Prop
  | recovery (r : Recovery) :
      TrustWriter inst t (Sum.inl <$> r.ensureReadonlyController inst t)
  | upgrade (upgrade : Upgrade) (pid : ℕ) (controllerKey : Except String String) :
      TrustWriter inst t (Sum.inr <$> upgrade.live inst pid t controllerKey)

/-- Recoveries and upgrades, started at any time. -/
def trustDriver (inst : Installation PrivateKey PublicKey) :
    Driver Disk DiskCall (DiskCall.Answer PrivateKey) UpgradeFailure
      (RecoveryReport ⊕ Upgrade.Report) where
  calls _ t := TrustWriter inst t
  answers := DiskCall.answers inst
  environment := Disk.Others

theorem Disk.Others.inv {s s' : Disk} (h : s.Others s') (hs : DiskInv inst init s) :
    DiskInv inst init s' := by
  have hbase : s'.base init = s.base init := by rw [Disk.base, Disk.base, h.settled]
  constructor
  · rw [h.holder, h.lock]
    exact hs.locked
  · rw [h.holder, h.trust, hbase]
    exact hs.idle
  · rw [h.trust, hbase]
    exact hs.extends_base
  · rw [h.trust]
    exact hs.plain
  · rw [h.settled]
    exact hs.chain
  · rw [h.reported, hbase]
    exact hs.reported

theorem covers_trustDriver :
    (writers inst init).Covers (trustDriver inst) where
  calls hs hcall := by
    cases hcall with
    | recovery r =>
      exact ((Recovery.triple_ensureReadonlyController r).bind (C := fun _ _ => True) fun _ =>
        .pure fun _ _ _ => trivial).meets hs
    | upgrade upgrade pid controllerKey =>
      exact ((Upgrade.triple_live controllerKey).bind (C := fun _ _ => True) fun _ =>
        .pure fun _ _ _ => trivial).meets hs
  answers h := h
  environment hs h := by
    refine ⟨h.inv hs, fun t => ⟨fun hholder => ⟨?_, h.trust, h.settled⟩, h.temp t⟩⟩
    rw [h.holder]
    exact hholder

/-- In every run the contents of the trust file at the releases of the lock, and what it holds now,
each extend all the earlier ones, and every controller that a recovery has returned is enrolled.
While nobody has the lock, the file is as the last release has left it. -/
theorem trust_chain (inst : Installation PrivateKey PublicKey) (start : Disk)
    (hfree : start.holder = none) (hsettled : start.settled = []) (hreported : start.reported = [])
    (hplain : PlainTrust inst.codec start.trust)
    {sys : System Disk DiskCall (DiskCall.Answer PrivateKey) UpgradeFailure
      (RecoveryReport ⊕ Upgrade.Report)} (h : Reachable (trustDriver inst) start sys) :
    (start.trust :: sys.state.settled ++ [sys.state.trust]).Pairwise (TrustExtends inst) ∧
      (∀ principal ∈ sys.state.reported, EnrolsReader inst principal sys.state.trust) ∧
      (sys.state.holder = none → sys.state.trust = sys.state.settled.getLastD start.trust) := by
  have hstart : DiskInv inst start.trust start := by
    have hbase : start.base start.trust = start.trust := by
      rw [Disk.base, hsettled, List.getLastD_nil]
    refine ⟨fun hholder => ?_, fun _ => hbase.symm, ?_, hplain, ?_, ?_⟩
    · rw [hfree] at hholder
      cases hholder
    · rw [hbase]
      exact .refl _
    · rw [hsettled]
      exact List.pairwise_singleton _ _
    · simp [hreported]
  have hinv := covers_trustDriver.inv hstart h
  refine ⟨?_, fun principal hp => (hinv.reported principal hp).extends hinv.extends_base, hinv.idle⟩
  rw [List.pairwise_append]
  refine ⟨hinv.chain, List.pairwise_singleton _ _, fun content hcontent now hnow => ?_⟩
  rw [List.mem_singleton.mp hnow]
  exact (hinv.extends_of_mem hcontent).trans hinv.extends_base

/-! ## A run of a recovery -/

/-- Three keys, with short texts for their encodings. -/
def fewKeys : KeyFiles (Fin 3) (Fin 3) where
  crypto := ⟨fun key => String.ofList [Char.ofNat (48 + key)], by decide, fun _ _ _ => false⟩
  publicKey := id
  loadPublicKey text :=
    if text = "PEM 0" then .p256 0 else if text = "PEM 1" then .p256 1
    else if text = "PEM 2" then .p256 2 else .invalid
  loadPrivateKey raw :=
    if raw = [0] then .p256 0 else if raw = [1] then .p256 1
    else if raw = [2] then .p256 2 else .invalid
  publicPem key := String.ofList ['P', 'E', 'M', ' ', Char.ofNat (48 + key)]
  privatePem key := [UInt8.ofNat key]
  loadPublicKey_publicPem key := by fin_cases key <;> rfl
  loadPrivateKey_privatePem key := by fin_cases key <;> rfl

/-- The entry of a controller that may read, with sorted members. -/
def readerEntry (key : Fin 3) : PyValue :=
  .dict [("capabilities", .list [.str "fs.read"]), ("key_id", .str (fewKeys.crypto.keyId key)),
    ("principal", .str (principalId fewKeys.crypto key "controller")),
    ("public_key_pem", .str (fewKeys.publicPem key))]

/-- A trust file, with sorted members. -/
def readersTrust (keys : List (Fin 3)) : PyValue :=
  .dict [("controllers", .list (keys.map readerEntry)),
    ("schema", .str "VERAPORT_CONTROLLER_TRUST_V1")]

/-- The marker of the generated key, with sorted members. -/
def generatedMarker : PyValue :=
  .dict [("capabilities", .list [.str "fs.read"]), ("controller_key_id", .str "1"),
    ("controller_principal", .str "controller:1"), ("controller_private_key", .str "generated.pem"),
    ("schema", .str "VERAPORT_CONTROLLER_RECOVERY_MARKER_V1")]

/-- A codec that knows three documents by a byte each. -/
def fewDocuments : JsonCodec where
  loads raw :=
    if raw = [0] then .ok (readersTrust [0]) else if raw = [1] then .ok (readersTrust [0, 1])
    else if raw = [2] then .ok generatedMarker else .error ⟨.jsonDecodeError, ""⟩
  dumps v :=
    if v.sortKeys = readersTrust [0] then .ok [0]
    else if v.sortKeys = readersTrust [0, 1] then .ok [1]
    else if v.sortKeys = generatedMarker then .ok [2] else .error ⟨.typeError, ""⟩
  keyed {raw v} h := by
    split_ifs at h <;> obtain rfl := Except.ok.inj h <;>
      simp [readersTrust, readerEntry, generatedMarker, PyValue.Keyed, PyValue.KeyedMembers,
        PyValue.KeyedList]
  loads_dumps {v raw} _ h := by
    split_ifs at h with hv hv hv <;> obtain rfl := Except.ok.inj h <;> simp [hv]

/-- An installation that trusts controller 0 for reading. -/
def readerInstallation : Installation (Fin 3) (Fin 3) where
  runtime := .ascii false
  codec := fewDocuments
  keys := fewKeys
  servicePath := "service.json"
  controllerPath := "controller.json"
  root := "root"
  inside _ := true
  workstationKey := some [0]
  sha256 raw := String.ofList (raw.map fun byte => Char.ofNat byte.toNat)
  service _ := .ok ⟨"trust.json", false⟩
  controller _ := .ok ⟨{"fs.read"}, {"read_file"}⟩

def readerDisk : Disk where
  files := Function.update (fun _ => none) (.config .trust) (some [0])

/-- No call fails. -/
def smoothReply (s : Disk) : (i : DiskCall) → DiskCall.Answer (Fin 3) i
  | .call | .unlink _ | .write => none
  | .probe => .ok false
  | .generateKey => if s.trust = some [0] then 1 else 2
  | .randomHex => "7f"

theorem answers_smoothReply (s : Disk) (i : DiskCall) :
    DiskCall.answers readerInstallation s i (smoothReply s i) := by
  cases i with
  | call | probe | write | randomHex => trivial
  | unlink file => rintro err ⟨⟩
  | generateKey =>
    intro controllers hload
    have hzero : readerInstallation.trustList (some [0]) =
        .ok ⟨[("controller:0", 0, {"fs.read"})], by simp⟩ := rfl
    have hone : readerInstallation.trustList (some [1]) =
        .ok ⟨[("controller:0", 0, {"fs.read"}), ("controller:1", 1, {"fs.read"})], by simp⟩ := rfl
    by_cases h₀ : s.trust = some [0]
    · rw [h₀, hzero] at hload
      obtain rfl := Except.ok.inj hload
      simp only [smoothReply, h₀]
      rfl
    · obtain ⟨raw, doc, entries, hraw, hloads, htrust, -⟩ := loadTrust_ok_iff.mp hload
      rw [smoothReply, if_neg h₀]
      by_cases h₁ : raw = [1]
      · rw [hraw, h₁, hone] at hload
        obtain rfl := Except.ok.inj hload
        rfl
      · -- no other document is a trust file
        have hne : raw ≠ [0] := fun h => h₀ (h ▸ hraw)
        simp only [readerInstallation, fewDocuments, if_neg hne, if_neg h₁] at hloads
        split_ifs at hloads
        obtain rfl := Except.ok.inj hloads
        exact absurd htrust.1 (by decide)

def readerRecovery : Recovery := ⟨"preferred.pem", "generated.pem", false, 4⟩

/-- The recovery, run alone. -/
def recoveredReader :
    Coroutine Disk DiskCall (DiskCall.Answer (Fin 3)) UpgradeFailure
      (RecoveryReport ⊕ Upgrade.Report) :=
  Sum.inl <$> readerRecovery.ensureReadonlyController readerInstallation 0

theorem plainTrust_reader : PlainTrust readerInstallation.codec readerDisk.trust := by
  intro raw doc entries hraw hloads hentries entry hentry
  obtain rfl := Option.some.inj (show some [0] = some raw from hraw)
  obtain rfl := Except.ok.inj (show Except.ok (readersTrust [0]) = .ok doc from hloads)
  obtain rfl := PyValue.list.inj (Option.some.inj
    (show some (PyValue.list [readerEntry 0]) = some (.list entries) from hentries))
  rw [List.mem_singleton.mp hentry]
  rintro v (hv | hv)
  · rw [← Option.some.inj hv]
    rfl
  · rw [← Option.some.inj hv]
    rfl

theorem trust_chain_recovery :
    EnrolsReader readerInstallation "controller:1"
      (recoveredReader.eval smoothReply readerDisk).2.trust :=
  (trust_chain readerInstallation readerDisk rfl rfl rfl plainTrust_reader
    (Reachable.eval .refl (TrustWriter.recovery readerRecovery) answers_smoothReply)).2.1
    "controller:1" (List.mem_singleton_self _)

end VeraMesh

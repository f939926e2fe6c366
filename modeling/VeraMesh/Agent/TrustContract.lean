import VeraMesh.Agent.TrustWriters

/-!
# The contract of the trust writers

Between its acquisition and its release the lock has one holder, and nobody else changes the trust
file. So what a writer has read under the lock is still there when it replaces the file.

* `DiskInv`: the invariant of the disk, and `Disk.Keeps`, what a writer can count on.
* `LockHeld`: what a holder knows of the disk, with a rule for each of its steps
  (`under_readTrust`, `Tracks.writeNew`, `under_atomicReplace`).
* `triple_acquireRecoveryLock`, `triple_releaseRecoveryLock`: the ends of a transaction.
-/

namespace VeraMesh

open Python Except Coroutine

variable {PrivateKey PublicKey : Type} (inst : Installation PrivateKey PublicKey)

/-! ## The contract of the writers -/

/-- What a trust file enrols, the next one enrols too. -/
def TrustExtends (content content' : Option (List UInt8)) : Prop :=
  ∀ controllers, inst.trustList content = .ok controllers →
    ∃ controllers', inst.trustList content' = .ok controllers' ∧ controllers.Extends controllers'

/-- The trust file enrols the controller for reading. -/
def EnrolsReader (principal : String) (content : Option (List UInt8)) : Prop :=
  ∃ controllers key ceiling, inst.trustList content = .ok controllers ∧
    controllers.get? principal = some (key, ceiling) ∧ "fs.read" ∈ ceiling

variable {inst} in
theorem TrustExtends.refl (content : Option (List UInt8)) : TrustExtends inst content content :=
  fun controllers h => ⟨controllers, h, .refl _⟩

variable {inst} in
theorem TrustExtends.trans {c₁ c₂ c₃ : Option (List UInt8)} (h₁ : TrustExtends inst c₁ c₂)
    (h₂ : TrustExtends inst c₂ c₃) : TrustExtends inst c₁ c₃ := by
  intro controllers h
  obtain ⟨controllers₂, hload₂, hextends₂⟩ := h₁ controllers h
  obtain ⟨controllers₃, hload₃, hextends₃⟩ := h₂ controllers₂ hload₂
  exact ⟨controllers₃, hload₃, hextends₂.trans hextends₃⟩

variable {inst} in
theorem EnrolsReader.extends {principal : String} {content content' : Option (List UInt8)}
    (h : EnrolsReader inst principal content) (hextends : TrustExtends inst content content') :
    EnrolsReader inst principal content' := by
  obtain ⟨controllers, key, ceiling, hload, hget, hread⟩ := h
  obtain ⟨controllers', hload', hext⟩ := hextends controllers hload
  obtain ⟨ceiling', hget', hsub⟩ := hext principal key ceiling hget
  exact ⟨controllers', key, ceiling', hload', hget', hsub hread⟩

variable (init : Option (List UInt8))

/-- What the trust file held at the last release of the lock, or at first. -/
def Disk.base (s : Disk) : Option (List UInt8) := s.settled.getLastD init

/-- The invariant of the disk. -/
structure DiskInv (s : Disk) : Prop where
  locked : s.holder.isSome = true → (s.files .lock).isSome = true
  idle : s.holder = none → s.trust = s.base init
  extends_base : TrustExtends inst (s.base init) s.trust
  plain : PlainTrust inst.codec s.trust
  chain : (init :: s.settled).Pairwise (TrustExtends inst)
  reported : ∀ principal ∈ s.reported, EnrolsReader inst principal (s.base init)

/-- What a writer can count on while it waits. -/
structure Disk.Keeps (writer : ℕ) (s s' : Disk) : Prop where
  holds : s.holder = some writer →
    s'.holder = some writer ∧ s'.trust = s.trust ∧ s'.settled = s.settled
  temp : s'.files (.temp writer) = s.files (.temp writer)

/-- How the calls can end: what is there is not found missing, and a new key is nobody's. -/
def DiskCall.answers (s : Disk) : (i : DiskCall) → DiskCall.Answer PrivateKey i → Prop
  | .unlink file, fault =>
    ∀ err, fault = some err → err.cls = .fileNotFoundError → s.files file = none
  | .generateKey, key =>
    ∀ controllers, inst.trustList s.trust = .ok controllers →
      controllers.get? (inst.principal key) = none
  | .call, _ | .probe, _ | .write, _ | .randomHex, _ => True

/-- The contract of the writers. -/
def writers : Contract Disk DiskCall (DiskCall.Answer PrivateKey) where
  Inv := DiskInv inst init
  Rely := Disk.Keeps
  answers := DiskCall.answers inst
  refl _ _ := ⟨fun h => ⟨h, rfl, rfl⟩, rfl⟩
  trans _ := fun h₁ h₂ =>
    ⟨fun h => ⟨(h₂.holds (h₁.holds h).1).1, (h₂.holds (h₁.holds h).1).2.1.trans (h₁.holds h).2.1,
      (h₂.holds (h₁.holds h).1).2.2.trans (h₁.holds h).2.2⟩, h₂.temp.trans h₁.temp⟩

variable {inst init} {t : ℕ} {s : Disk}

theorem Disk.setFile_files (s : Disk) (file file' : SharedFile) (content : Option (List UInt8)) :
    (s.setFile file content).files file' = if file' = file then content else s.files file' := by
  show Function.update s.files file content file' = _
  rw [Function.update_apply]

/-- Changing another file than the trust file. -/
theorem guarantee_setFile {file : SharedFile} {content : Option (List UInt8)}
    (hs : DiskInv inst init s) (htrust : file ≠ .config .trust) (htemp : ∀ t' ≠ t, file ≠ .temp t')
    (hlock : file = .lock → content.isSome = true) :
    (writers inst init).Guarantee t s (s.setFile file content) := by
  have hsame : (s.setFile file content).trust = s.trust := by
    rw [Disk.trust, s.setFile_files, if_neg htrust.symm]
    rfl
  refine ⟨⟨fun hholder => ?_, fun hholder => ?_, ?_, ?_, hs.chain, hs.reported⟩, fun t' ht' => ?_⟩
  · rw [s.setFile_files]
    split_ifs with hfile
    · exact hlock hfile.symm
    · exact hs.locked hholder
  · rw [hsame]
    exact hs.idle hholder
  · rw [hsame]
    exact hs.extends_base
  · rw [hsame]
    exact hs.plain
  · refine ⟨fun hholder => ⟨hholder, hsame, rfl⟩, ?_⟩
    rw [s.setFile_files, if_neg (htemp t' ht').symm]

theorem Disk.replace_files (s : Disk) (writer : ℕ) (file : ConfigFile) (file' : SharedFile) :
    (s.replace writer file).files file' =
      if file' = .temp writer then none
      else if file' = .config file then s.files (.temp writer) else s.files file' := by
  rw [replace, setFile_files, setFile_files]

/-- Replacing a configuration file, where the new trust file extends the settled one. -/
theorem guarantee_replace {file : ConfigFile} (hs : DiskInv inst init s)
    (hholder : s.holder = some t)
    (hextends : file = .trust → TrustExtends inst (s.base init) (s.files (.temp t)))
    (hplain : file = .trust → PlainTrust inst.codec (s.files (.temp t))) :
    (writers inst init).Guarantee t s (s.replace t file) := by
  have htrust : (s.replace t file).trust =
      if file = .trust then s.files (.temp t) else s.trust := by
    rw [Disk.trust, s.replace_files, if_neg (by simp)]
    by_cases hfile : file = .trust
    · rw [if_pos (by rw [hfile]), if_pos hfile]
    · rw [if_neg fun h => hfile (SharedFile.config.inj h).symm, if_neg hfile]
      rfl
  refine ⟨⟨fun h => ?_, fun h => ?_, ?_, ?_, hs.chain, hs.reported⟩,
    fun t' ht' => ⟨fun h => ?_, ?_⟩⟩
  · rw [s.replace_files, if_neg (by simp), if_neg (by simp)]
    exact hs.locked h
  · exact absurd (hholder.symm.trans h) (by simp)
  · rw [htrust]
    split_ifs with hfile
    · exact hextends hfile
    · exact hs.extends_base
  · rw [htrust]
    split_ifs with hfile
    · exact hplain hfile
    · exact hs.plain
  · exact absurd (Option.some.inj (h.symm.trans hholder)) ht'
  · rw [s.replace_files, if_neg (by simpa using ht'), if_neg (by simp)]

/-- Creating the lock, which is not there. -/
theorem guarantee_lock (hs : DiskInv inst init s) (hfree : s.files .lock = none) :
    (writers inst init).Guarantee t s (s.lock t) := by
  have hidle : s.holder = none := by
    by_contra hholder
    have := hs.locked (Option.isSome_iff_ne_none.mpr hholder)
    simp [hfree] at this
  refine ⟨⟨fun _ => ?_, fun h => ?_, hs.extends_base, hs.plain, hs.chain, hs.reported⟩,
    fun t' _ => ⟨fun h => ?_, rfl⟩⟩
  · simp [Disk.lock, Disk.setFile]
  · exact absurd h (by simp [Disk.lock])
  · exact absurd (hidle.symm.trans h) (by simp)

/-- Removing the lock before anything was written. -/
theorem guarantee_unlock (hs : DiskInv inst init s) (hholder : s.holder = some t)
    (htrust : s.trust = s.base init) : (writers inst init).Guarantee t s s.unlock := by
  refine ⟨⟨fun h => ?_, fun _ => htrust, hs.extends_base, hs.plain, hs.chain, hs.reported⟩,
    fun t' ht' => ⟨fun h => ?_, rfl⟩⟩
  · exact absurd h (by simp [Disk.unlock])
  · exact absurd (Option.some.inj (h.symm.trans hholder)) ht'

theorem Disk.base_release (s : Disk) : s.release.base init = s.trust := by
  simp [base, release]

/-- The settled trust file extends all before it. -/
theorem DiskInv.extends_of_mem (hs : DiskInv inst init s) {content : Option (List UInt8)}
    (h : content ∈ init :: s.settled) : TrustExtends inst content (s.base init) := by
  have hchain := hs.chain
  rw [Disk.base]
  rcases List.eq_nil_or_concat s.settled with hnil | ⟨before, last, hconcat⟩
  · rw [hnil, List.mem_singleton] at h
    rw [hnil, h]
    exact .refl init
  · rw [hconcat, List.concat_eq_append, ← List.cons_append] at h hchain
    rw [hconcat, List.concat_eq_append, List.getLastD_concat]
    rcases List.mem_append.mp h with hbefore | hlast
    · exact (List.pairwise_append.mp hchain).2.2 content hbefore last List.mem_cons_self
    · rw [List.mem_singleton.mp hlast]
      exact .refl last

/-- Removing the lock at the end of a transaction. -/
theorem guarantee_release (hs : DiskInv inst init s) (hholder : s.holder = some t) :
    (writers inst init).Guarantee t s s.release := by
  refine ⟨⟨fun h => ?_, fun _ => ?_, ?_, hs.plain, ?_, fun principal hp => ?_⟩,
    fun t' ht' => ⟨fun h => ?_, rfl⟩⟩
  · exact absurd h (by simp [Disk.release, Disk.unlock])
  · exact s.base_release.symm
  · rw [s.base_release]
    exact .refl s.trust
  · show (init :: (s.settled ++ [s.trust])).Pairwise _
    rw [← List.cons_append, List.pairwise_append]
    refine ⟨hs.chain, List.pairwise_singleton _ _, fun content hcontent last hlast => ?_⟩
    rw [List.mem_singleton.mp hlast]
    exact (hs.extends_of_mem hcontent).trans hs.extends_base
  · rw [s.base_release]
    exact (hs.reported principal hp).extends hs.extends_base
  · exact absurd (Option.some.inj (h.symm.trans hholder)) ht'

/-! ## Steps of a holder -/

/-- The writer holds the lock. The trust file was `base` when it was taken. -/
structure Holding (init : Option (List UInt8)) (t : ℕ) (base : Option (List UInt8)) (s : Disk) :
    Prop where
  holder : s.holder = some t
  base_eq : s.base init = base

/-- The writer holds the lock, and knows what the trust file and its temporary file hold. -/
structure LockHeld (init : Option (List UInt8)) (t : ℕ) (base trust temp : Option (List UInt8))
    (s : Disk) : Prop extends Holding init t base s where
  trust_eq : s.trust = trust
  temp_eq : s.files (.temp t) = temp

theorem Holding.of_keeps {base : Option (List UInt8)} {s' : Disk} (h : Holding init t base s)
    (hkeeps : Disk.Keeps t s s') : Holding init t base s' := by
  obtain ⟨hholder, -, hsettled⟩ := hkeeps.holds h.holder
  exact ⟨hholder, by rw [← h.base_eq, Disk.base, Disk.base, hsettled]⟩

theorem stable_holding (base : Option (List UInt8)) :
    Stable (writers inst init) t (Holding init t base) :=
  fun _ _ _ hkeeps h => h.of_keeps hkeeps

theorem stable_held (base trust temp : Option (List UInt8)) :
    Stable (writers inst init) t (LockHeld init t base trust temp) := by
  intro s s' _ hkeeps h
  exact ⟨h.toHolding.of_keeps hkeeps, (hkeeps.holds h.holder).2.1.trans h.trust_eq,
    hkeeps.temp.trans h.temp_eq⟩

section Reading

variable {α β : Type} {A : Disk → Prop}

/-- A program that leaves every assertion a writer can make as it is. -/
def Reads (inst : Installation PrivateKey PublicKey) (init : Option (List UInt8)) (t : ℕ)
    (c : WriterTask PrivateKey α) : Prop :=
  ∀ A, Stable (writers inst init) t A → Triple (writers inst init) t A c (fun _ => A) fun _ => A

theorem Reads.bind {c : WriterTask PrivateKey α} {f : α → WriterTask PrivateKey β}
    (hc : Reads inst init t c) (hf : ∀ a, Reads inst init t (f a)) : Reads inst init t (c >>= f) :=
  fun A hA => (hc A hA).bind fun a => hf a A hA

theorem reads_pure (a : α) : Reads inst init t (pure a) := fun _ _ => .pure fun _ _ h => h

theorem reads_throw (err : UpgradeFailure) :
    Reads inst init t (throw err : WriterTask PrivateKey α) := fun _ _ => .throw fun _ _ h => h

theorem reads_answer (i : DiskCall) :
    Reads inst init t (answer i : WriterTask PrivateKey (DiskCall.Answer PrivateKey i)) :=
  fun _ hA => .answer hA fun _ _ _ h _ => h

theorem reads_read : Reads inst init t (read : WriterTask PrivateKey Disk) :=
  fun _ _ => .read fun _ _ h => h

theorem reads_ofStep (x : Except UpgradeError α) :
    Reads inst init t (WriterTask.ofStep x : WriterTask PrivateKey α) :=
  fun _ _ => .ofResult (fun _ _ _ _ h => h) fun _ _ _ _ h => h

theorem reads_call : Reads inst init t (WriterTask.call : WriterTask PrivateKey Unit) := by
  refine (reads_answer DiskCall.call).bind fun fault => ?_
  cases fault with
  | none => exact reads_pure ()
  | some err => exact reads_throw _

theorem reads_hardenIf (condition : Bool) :
    Reads inst init t (WriterTask.hardenIf condition : WriterTask PrivateKey Unit) := by
  cases condition with
  | true => exact reads_call
  | false => exact reads_pure ()

theorem reads_irregular :
    Reads inst init t (WriterTask.irregular : WriterTask PrivateKey Bool) := by
  refine (reads_answer DiskCall.probe).bind fun found => ?_
  cases found with
  | error err => exact reads_throw _
  | ok irregular => exact reads_pure _

theorem reads_refuseIf (condition : Bool) (err : UpgradeFailure) :
    Reads inst init t (WriterTask.refuseIf condition err : WriterTask PrivateKey Unit) := by
  cases condition with
  | true => exact reads_throw _
  | false => exact reads_pure ()

theorem reads_lookup (file : SharedFile) :
    Reads inst init t
      (WriterTask.lookup file : WriterTask PrivateKey (Option (List UInt8) × Bool)) :=
  reads_irregular.bind fun _ => reads_read.bind fun _ => reads_pure _

theorem reads_readWith (reader : Option PyError → Option (List UInt8) → Except UpgradeError α)
    (file : ConfigFile) :
    Reads inst init t (WriterTask.readWith reader file : WriterTask PrivateKey α) :=
  (reads_answer DiskCall.call).bind fun _ => reads_read.bind fun _ => reads_ofStep _

theorem mapError_eq_ok {ε ε' : Type} {x : Except ε α} {f : ε → ε'} {a : α} :
    x.mapError f = .ok a ↔ x = .ok a := by
  cases x <;> simp [Except.mapError]

/-- A computation that comes to something. -/
theorem triple_ofStep (x : Except UpgradeError α) :
    Triple (writers inst init) t A (WriterTask.ofStep x : WriterTask PrivateKey α)
      (fun a s => x = .ok a ∧ A s) fun _ => A :=
  .ofResult (fun _ ha _ _ h => ⟨mapError_eq_ok.mp ha, h⟩) fun _ _ _ _ h => h

/-- What goes on was not refused. -/
theorem triple_refuseIf (condition : Bool) (err : UpgradeFailure) :
    Triple (writers inst init) t A
      (WriterTask.refuseIf condition err : WriterTask PrivateKey Unit)
      (fun _ s => condition = false ∧ A s) fun _ => A := by
  cases condition with
  | true => exact .throw fun _ _ h => h
  | false => exact .pure fun _ _ h => ⟨rfl, h⟩

/-- What is read is what the file holds. -/
theorem triple_readWith (hA : Stable (writers inst init) t A)
    (reader : Option PyError → Option (List UInt8) → Except UpgradeError α) (file : ConfigFile) :
    Triple (writers inst init) t A (WriterTask.readWith reader file : WriterTask PrivateKey α)
      (fun a s => (∃ fault, reader fault (s.files (.config file)) = .ok a) ∧ A s) fun _ => A := by
  refine (reads_answer DiskCall.call A hA).bind fun fault => ?_
  refine (Triple.read (B := fun seen s => seen = s ∧ A s) fun s _ h => ⟨rfl, h⟩).bind fun seen => ?_
  refine Triple.ofResult (fun a ha s _ h => ?_) fun _ _ _ _ h => h.2
  obtain ⟨rfl, hs⟩ := h
  exact ⟨⟨fault, mapError_eq_ok.mp ha⟩, hs⟩

end Reading

/-! ## Writing under the lock -/

section Under

variable {α β : Type} {base trust temp : Option (List UInt8)}

/-- What a program of the holder does, where it knows what the trust file holds. -/
def Under (inst : Installation PrivateKey PublicKey) (init : Option (List UInt8)) (t : ℕ)
    (base trust temp : Option (List UInt8)) (c : WriterTask PrivateKey α) (B : α → Disk → Prop) :
    Prop :=
  Triple (writers inst init) t (LockHeld init t base trust temp) c B fun _ => Holding init t base

theorem Reads.under {c : WriterTask PrivateKey α} (hc : Reads inst init t c) :
    Under inst init t base trust temp c fun _ => LockHeld init t base trust temp :=
  (hc _ (stable_held base trust temp)).conseq (fun _ _ h => h) (fun _ _ _ h => h)
    fun _ _ _ h => h.toHolding

theorem under_ofStep (x : Except UpgradeError α) :
    Under inst init t base trust temp (WriterTask.ofStep x : WriterTask PrivateKey α)
      fun a s => x = .ok a ∧ LockHeld init t base trust temp s :=
  (triple_ofStep x).conseq (fun _ _ h => h) (fun _ _ _ h => h) fun _ _ _ h => h.toHolding

/-- Reading the trust file under the lock. -/
theorem under_readTrust (reader : Option PyError → Option (List UInt8) → Except UpgradeError α) :
    Under inst init t base trust temp
      (WriterTask.readWith reader .trust : WriterTask PrivateKey α)
      fun a s => (∃ fault, reader fault trust = .ok a) ∧ LockHeld init t base trust temp s := by
  refine (triple_readWith (stable_held base trust temp) reader .trust).conseq (fun _ _ h => h)
    (fun a s _ h => ?_) fun _ _ _ h => h.toHolding
  obtain ⟨⟨fault, hread⟩, hheld⟩ := h
  have htrust : s.files (.config .trust) = trust := hheld.trust_eq
  exact ⟨⟨fault, htrust ▸ hread⟩, hheld⟩

/-- What assertions about the content of a file keep, when the writer changes it. -/
structure Tracks (inst : Installation PrivateKey PublicKey) (init : Option (List UInt8)) (t : ℕ)
    (file : SharedFile) (K : Option (List UInt8) → Disk → Prop) : Prop where
  stable : ∀ content, Stable (writers inst init) t (K content)
  set : ∀ {content s} content', DiskInv inst init s → K content s →
    (writers inst init).Guarantee t s (s.setFile file content') ∧
      K content' (s.setFile file content')

section Tracks

variable {K : Option (List UInt8) → Disk → Prop} {file : SharedFile}

theorem Tracks.update (hK : Tracks inst init t file K) (content content' : Option (List UInt8)) :
    Triple (writers inst init) t (K content)
      (update (·.setFile file content') : WriterTask PrivateKey Unit) (fun _ => K content')
      fun _ s => ∃ content, K content s :=
  Triple.update fun _ hs h => hK.set content' hs h

theorem Tracks.reads (hK : Tracks inst init t file K) {c : WriterTask PrivateKey α}
    (hc : Reads inst init t c) (content : Option (List UInt8)) :
    Triple (writers inst init) t (K content) c (fun _ => K content)
      fun _ s => ∃ content, K content s :=
  (hc _ (hK.stable content)).conseq (fun _ _ h => h) (fun _ _ _ h => h) fun _ _ _ h => ⟨content, h⟩

theorem Tracks.fill (hK : Tracks inst init t file K) (payload : List UInt8)
    (content : Option (List UInt8)) :
    Triple (writers inst init) t (K content)
      (WriterTask.fill file payload : WriterTask PrivateKey Unit)
      (fun _ => K (some payload)) fun _ s => ∃ content, K content s := by
  refine (hK.reads (reads_answer DiskCall.write) content).bind fun written => ?_
  cases written with
  | none => exact hK.update content (some payload)
  | some fault =>
    obtain ⟨err, written⟩ := fault
    refine (hK.update content (some written)).bind fun _ => ?_
    refine (hK.reads (reads_answer (DiskCall.unlink file)) _).bind fun unlinked => ?_
    cases unlinked with
    | none =>
      refine (hK.update _ none).bind fun _ => ?_
      exact .throw fun _ _ h => ⟨_, h⟩
    | some err' =>
      refine (hK.reads (reads_refuseIf _ _) _).bind fun _ => ?_
      exact .throw fun _ _ h => ⟨_, h⟩

/-- After `_write_new` the file holds the payload. -/
theorem Tracks.writeNew (hK : Tracks inst init t file K) (taken : UpgradeError)
    (payload : List UInt8) (content : Option (List UInt8)) :
    Triple (writers inst init) t (K content)
      (WriterTask.writeNew file taken payload : WriterTask PrivateKey Unit)
      (fun _ => K (some payload)) fun _ s => ∃ content, K content s := by
  refine (hK.reads reads_call content).bind fun _ => ?_
  refine (hK.reads reads_irregular content).bind fun _ => ?_
  refine (hK.reads reads_read content).bind fun _ => ?_
  refine (hK.reads (reads_refuseIf _ _) content).bind fun _ => ?_
  exact (hK.update content (some [])).bind fun _ => hK.fill payload _

end Tracks

/-- The holder knows what its temporary file holds. -/
theorem tracks_temp (base trust : Option (List UInt8)) :
    Tracks inst init t (.temp t) (LockHeld init t base trust) where
  stable := stable_held base trust
  set content' hs h := by
    refine ⟨guarantee_setFile hs (by simp) (fun t' ht' => by simpa using ht'.symm) (by simp),
      ⟨h.holder, h.base_eq⟩, ?_, ?_⟩
    · rw [← h.trust_eq, Disk.trust, Disk.trust, Disk.setFile_files, if_neg (by simp)]
    · rw [Disk.setFile_files, if_pos rfl]

/-- Other files are of no account. -/
theorem tracks_other (base trust temp : Option (List UInt8)) (path : String) :
    Tracks inst init t (.other path) (fun _ => LockHeld init t base trust temp) where
  stable _ := stable_held base trust temp
  set content' hs h := by
    refine ⟨guarantee_setFile hs (by simp) (by simp) (by simp), ⟨h.holder, h.base_eq⟩, ?_, ?_⟩
    · rw [← h.trust_eq, Disk.trust, Disk.trust, Disk.setFile_files, if_neg (by simp)]
    · rw [← h.temp_eq, Disk.setFile_files, if_neg (by simp)]

theorem under_writeNew_other (path : String) (taken : UpgradeError) (payload : List UInt8) :
    Under inst init t base trust temp
      (WriterTask.writeNew (.other path) taken payload : WriterTask PrivateKey Unit)
      fun _ => LockHeld init t base trust temp :=
  ((tracks_other base trust temp path).writeNew taken payload none).conseq (fun _ _ h => h)
    (fun _ _ _ h => h) fun _ _ _ h => h.choose_spec.toHolding

theorem under_writeOrVerify (path : String) (diverges taken : UpgradeError)
    (payload : List UInt8) :
    Under inst init t base trust temp
      (WriterTask.writeOrVerify (.other path) diverges taken payload : WriterTask PrivateKey Bool)
      fun _ => LockHeld init t base trust temp := by
  refine (reads_lookup _).under.bind fun found => ?_
  refine Triple.ite (fun _ => ?_) fun _ => ?_
  · refine (reads_refuseIf _ _).under.bind fun _ => reads_call.under.bind fun _ => ?_
    exact reads_read.under.bind fun _ => (reads_refuseIf _ _).under.bind fun _ =>
      (reads_pure false).under
  · exact (under_writeNew_other path taken payload).bind fun _ => (reads_pure true).under

/-- The `finally` of a replacement removes the temporary file, and nothing else. -/
theorem triple_discardTemp {A : Disk → Prop} (hA : Stable (writers inst init) t A)
    (hset : ∀ s, DiskInv inst init s → A s → A (s.setFile (.temp t) none)) :
    Triple (writers inst init) t A (WriterTask.discardTemp t : WriterTask PrivateKey Unit)
      (fun _ => A) fun _ => A := by
  refine (reads_lookup (.temp t) A hA).bind fun found => ?_
  refine Triple.ite (fun _ => ?_) fun _ => reads_pure _ A hA
  refine (reads_answer (DiskCall.unlink (.temp t)) A hA).bind fun fault => ?_
  cases fault with
  | none =>
    refine Triple.update fun s hs h => ⟨?_, hset s hs h⟩
    exact guarantee_setFile hs (by simp) (fun t' ht' => by simpa using ht'.symm) (by simp)
  | some err =>
    refine Triple.ite (fun _ => reads_throw _ A hA) fun _ => reads_pure _ A hA

/-- What the trust file holds after a configuration file was replaced. -/
def replacedTrust (file : ConfigFile) (trust : Option (List UInt8)) (payload : List UInt8) :
    Option (List UInt8) := if file = .trust then some payload else trust

/-- A payload that may replace a configuration file: a trust file extends the settled one. -/
def MayReplace (inst : Installation PrivateKey PublicKey) (base : Option (List UInt8))
    (file : ConfigFile) (payload : List UInt8) : Prop :=
  file = .trust → TrustExtends inst base (some payload) ∧ PlainTrust inst.codec (some payload)

/-- `os.replace` of the temporary file. -/
theorem under_replace {file : ConfigFile} {payload : List UInt8}
    (hmay : MayReplace inst base file payload) :
    Under inst init t base trust (some payload)
      (update (·.replace t file) : WriterTask PrivateKey Unit)
      fun _ => LockHeld init t base (replacedTrust file trust payload) none := by
  refine Triple.update fun s hs h => ⟨?_, ⟨h.holder, h.base_eq⟩, ?_, ?_⟩
  · refine guarantee_replace hs h.holder (fun hfile => ?_) fun hfile => ?_
    · rw [h.base_eq, h.temp_eq]
      exact (hmay hfile).1
    · rw [h.temp_eq]
      exact (hmay hfile).2
  · rw [Disk.trust, s.replace_files, if_neg (by simp), replacedTrust]
    by_cases hfile : file = .trust
    · rw [if_pos (by rw [hfile]), if_pos hfile, h.temp_eq]
    · rw [if_neg fun heq => hfile (SharedFile.config.inj heq).symm, if_neg hfile]
      exact h.trust_eq
  · rw [s.replace_files, if_pos rfl]

/-- `_atomic_replace`. If it returns, the file holds the payload. -/
theorem under_atomicReplace {file : ConfigFile} {payload : List UInt8}
    (hmay : MayReplace inst base file payload) (nt : Bool) (taken : String → UpgradeError)
    (path : String) :
    Under inst init t base trust temp
      (WriterTask.atomicReplace nt t taken file path payload : WriterTask PrivateKey Unit)
      fun _ s => ∃ temp, LockHeld init t base (replacedTrust file trust payload) temp s := by
  refine (reads_answer DiskCall.randomHex).under.bind fun hex => ?_
  have hwrite : Triple (writers inst init) t (LockHeld init t base trust temp)
      (WriterTask.writeNew (.temp t) (taken (path ++ ".tmp-" ++ hex)) payload)
      (fun _ => LockHeld init t base trust (some payload))
      fun _ s => ∃ content, LockHeld init t base trust content s :=
    (tracks_temp base trust).writeNew _ payload temp
  refine (hwrite.conseq (fun _ _ h => h) (fun _ _ _ h => h)
    fun _ _ _ h => h.choose_spec.toHolding).bind fun _ => ?_
  refine Triple.ensure (B := fun _ => LockHeld init t base (replacedTrust file trust payload) none)
    (E := fun _ => Holding init t base) ?_ (fun _ => ?_) fun _ => ?_
  · refine (reads_hardenIf nt).under.bind fun _ => reads_call.under.bind fun _ => ?_
    exact (under_replace hmay).bind fun _ => (reads_hardenIf nt).under
  · refine (triple_discardTemp (stable_held _ _ _) fun s hs h => ?_).conseq (fun _ _ h => h)
      (fun _ _ _ h => ⟨_, h⟩) fun _ _ _ h => h.toHolding
    exact ((tracks_temp base _).set none hs h).2
  · exact triple_discardTemp (stable_holding base) fun s _ h => ⟨h.holder, h.base_eq⟩

theorem under_setLock (content : List UInt8) :
    Under inst init t base trust temp
      (update (·.setFile .lock (some content)) : WriterTask PrivateKey Unit)
      fun _ => LockHeld init t base trust temp := by
  refine Triple.update fun s hs h => ⟨?_, ⟨h.holder, h.base_eq⟩, ?_, ?_⟩
  · exact guarantee_setFile hs (by simp) (by simp) (by simp)
  · rw [← h.trust_eq, Disk.trust, Disk.trust, s.setFile_files, if_neg (by simp)]
  · rw [← h.temp_eq, s.setFile_files, if_neg (by simp)]

theorem triple_fillLock (nt : Bool) (pid : ℕ) :
    Triple (writers inst init) t (LockHeld init t base trust temp)
      (WriterTask.fillLock nt pid : WriterTask PrivateKey Unit)
      (fun _ => LockHeld init t base trust temp) fun _ => LockHeld init t base trust temp := by
  have hset : ∀ content, Triple (writers inst init) t (LockHeld init t base trust temp)
      (update (·.setFile .lock (some content)) : WriterTask PrivateKey Unit)
      (fun _ => LockHeld init t base trust temp) fun _ => LockHeld init t base trust temp :=
    fun content => ⟨(under_setLock content).run⟩
  have hstable : Stable (writers inst init) t (LockHeld init t base trust temp) :=
    stable_held base trust temp
  refine (reads_answer DiskCall.write _ hstable).bind fun written => ?_
  cases written with
  | none => exact (hset _).bind fun _ => reads_hardenIf nt _ hstable
  | some fault => exact (hset _).bind fun _ => reads_throw _ _ hstable

theorem triple_discardLock (path : String) (err : UpgradeFailure) :
    Triple (writers inst init) t (LockHeld init t base base temp)
      (WriterTask.discardLock path err : WriterTask PrivateKey Unit)
      (fun _ _ => False) fun _ _ => True := by
  refine ((reads_answer (DiskCall.unlink .lock)).under.conseq (fun _ _ h => h) (fun _ _ _ h => h)
    fun _ _ _ _ => trivial).bind fun fault => ?_
  cases fault with
  | none =>
    refine Triple.bind (B := fun _ _ => True) (.update fun s hs h => ⟨?_, trivial⟩)
      fun _ => .throw fun _ _ _ => trivial
    exact guarantee_unlock hs h.holder (h.trust_eq.trans h.base_eq.symm)
  | some err' =>
    exact Triple.ite (fun _ => .throw fun _ _ _ => trivial) fun _ => .throw fun _ _ _ => trivial

/-- A writer that gets the lock finds the trust file as it was left. -/
theorem triple_acquireRecoveryLock (nt : Bool) (pid : ℕ) (path : String) :
    Triple (writers inst init) t (fun _ => True)
      (WriterTask.acquireRecoveryLock nt t pid path : WriterTask PrivateKey Unit)
      (fun _ s => ∃ base temp, LockHeld init t base base temp s) fun _ _ => True := by
  refine (reads_call _ stable_true).bind fun _ => ?_
  refine (reads_irregular _ stable_true).bind fun found => ?_
  refine (Triple.read (B := fun seen s => seen = s) fun s _ _ => rfl).bind fun seen => ?_
  refine Triple.bind_fact ((triple_refuseIf (A := fun s => seen = s) _ _).conseq
    (fun _ _ h => h) (fun _ _ _ h => h) fun _ _ _ _ => trivial) fun _ hfree => ?_
  have hnone : seen.files .lock = none := by
    rw [Bool.or_eq_false_iff] at hfree
    exact Option.not_isSome_iff_eq_none.mp (by simp [hfree.2])
  have hlock : Triple (writers inst init) t (fun s => seen = s)
      (update (·.lock t) : WriterTask PrivateKey Unit)
      (fun _ s => ∃ base temp, LockHeld init t base base temp s) fun _ _ => True := by
    refine Triple.update fun s hs hseen => ?_
    subst hseen
    have hidle : seen.holder = none := by
      by_contra hholder
      have hsome := hs.locked (Option.isSome_iff_ne_none.mpr hholder)
      simp [hnone] at hsome
    refine ⟨guarantee_lock hs hnone, seen.base init, _, ⟨rfl, rfl⟩, ?_, rfl⟩
    rw [← hs.idle hidle, Disk.trust, Disk.trust]
    simp [Disk.lock, Disk.setFile]
  refine hlock.bind fun _ => Triple.exists_pre fun base => Triple.exists_pre fun temp => ?_
  refine Triple.tryCatch ((triple_fillLock nt pid).post fun _ _ _ h => ⟨base, temp, h⟩)
    fun err => ?_
  exact (triple_discardLock path err).post fun _ _ _ h => h.elim

/-- The end of a transaction. -/
theorem triple_releaseRecoveryLock {A : Disk → Prop} (hA : Stable (writers inst init) t A)
    (hholding : ∀ s, A s → s.holder = some t) (path : String) :
    Triple (writers inst init) t A
      (WriterTask.releaseRecoveryLock path : WriterTask PrivateKey Unit)
      (fun _ s' => ∃ s, A s ∧ s' = s.release) fun _ _ => True := by
  refine Triple.bind (B := fun fault s =>
      (∀ err, fault = some err → err.cls ≠ .fileNotFoundError) ∧ A s) ?_ fun fault => ?_
  · refine Triple.answer hA fun s fault hs h hanswer => ⟨fun err hfault hcls => ?_, h⟩
    have hlock := hs.locked (by rw [hholding s h]; rfl)
    rw [show s.files .lock = none from hanswer err hfault hcls] at hlock
    cases hlock
  · refine Triple.of_pre fun hfault => ?_
    cases fault with
    | none =>
      exact Triple.update fun s hs h => ⟨guarantee_release hs (hholding s h), s, h, rfl⟩
    | some err =>
      refine Triple.ite (fun hcls => absurd hcls (hfault err rfl)) fun _ => ?_
      exact Triple.ite (fun _ => .throw fun _ _ _ => trivial) fun _ => .throw fun _ _ _ => trivial

end Under

end VeraMesh

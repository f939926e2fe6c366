import VeraMesh.Agent.Upgrade
import VeraMesh.Session.Handshake

/-!
# The identity of a workstation

`load_identity` of `identity_store.py` reads who the workstation is and which controllers it trusts,
with the ceiling of what each may do. The trust file is a JSON document with one entry for each
controller, and a whole file is refused for one entry that is not in order.

A `TrustList` is what a trust file comes to: some controllers, with their keys and ceilings.

## Main results

* `loadTrust_ok_iff`: when a trust file loads, entry by entry.
* `loadTrust_append`, `loadTrust_grant`: what a trust file with one more entry, or with a higher
  ceiling for one controller, loads as.
* `TrustList.Extends`: nobody loses what they had.
-/

namespace VeraMesh

open Python Except

/-! ## Documents -/

namespace Python.PyValue

mutual

/-- No object in the value names a member twice, as in everything that `json.loads` returns. -/
def Keyed : PyValue → Prop
  | .list l => KeyedList l
  | .dict d => (d.map Prod.fst).Nodup ∧ KeyedMembers d
  | _ => True

/-- `Keyed` for each item. -/
def KeyedList : List PyValue → Prop
  | [] => True
  | v :: l => v.Keyed ∧ KeyedList l

/-- `Keyed` for each member. -/
def KeyedMembers : List (String × PyValue) → Prop
  | [] => True
  | (_, v) :: d => v.Keyed ∧ KeyedMembers d

end

theorem keyedList_iff {l : List PyValue} : KeyedList l ↔ ∀ v ∈ l, v.Keyed := by
  induction l with
  | nil => simp [KeyedList]
  | cons v l ih => simp [KeyedList, ih]

theorem keyedMembers_iff {d : List (String × PyValue)} :
    KeyedMembers d ↔ ∀ m ∈ d, m.2.Keyed := by
  induction d with
  | nil => simp [KeyedMembers]
  | cons m d ih =>
    obtain ⟨k, v⟩ := m
    simp [KeyedMembers, ih]

theorem sortKeysList_eq_map (l : List PyValue) : sortKeysList l = l.map sortKeys := by
  induction l with
  | nil => rfl
  | cons v l ih => rw [sortKeysList, ih, List.map_cons]

theorem sortKeysMembers_eq_map (d : List (String × PyValue)) :
    sortKeysMembers d = d.map fun m => (m.1, m.2.sortKeys) := by
  induction d with
  | nil => rfl
  | cons m d ih =>
    obtain ⟨k, v⟩ := m
    rw [sortKeysMembers, ih, List.map_cons]

/-- The members of an object, as a dictionary. -/
theorem lookup_eq_get? {d : List (String × PyValue)} (h : (d.map Prod.fst).Nodup) (k : String) :
    d.lookup k = (Dict.mk d h).get? k := rfl

/-- A member of a value keeps its place when the members are sorted. -/
theorem member?_sortKeys {v : PyValue} (h : v.Keyed) (k : String) :
    v.sortKeys.member? k = (v.member? k).map sortKeys := by
  cases v with
  | dict d =>
    have hsorted :
        (((sortKeysMembers d).insertionSort fun a b => a.1 ≤ b.1).map Prod.fst).Nodup := by
      refine (((List.perm_insertionSort _ _).map Prod.fst).nodup_iff).mpr ?_
      simpa [sortKeysMembers_eq_map, Function.comp_def] using h.1
    simp only [sortKeys, member?]
    rw [lookup_eq_get? hsorted, lookup_eq_get? h.1]
    ext w
    rw [Dict.get?_eq_some_iff, List.mem_insertionSort, mem_sortKeysMembers, Option.map_eq_some_iff]
    simp only [Dict.get?_eq_some_iff]
  | none | bool b | int n | float x | str s => rfl
  | list l => rfl

theorem isDict_sortKeys (v : PyValue) : v.sortKeys.isDict = v.isDict := by
  cases v <;> rfl

/-- Assigning a member of an object. -/
theorem member?_withMember {v : PyValue} (h : v.Keyed) (hdict : v.isDict = true) (k : String)
    (item : PyValue) (k' : String) :
    (v.withMember k item).member? k' = if k' = k then some item else v.member? k' := by
  cases v with
  | dict d =>
    have hofList : ∀ k', (Dict.ofList d).get? k' = d.lookup k' := by
      intro k'
      have hupdate := Dict.get?_update Dict.empty (Dict.mk d h.1) k'
      rwa [Dict.get?_empty, Option.or_none] at hupdate
    show ((Dict.ofList d).set k item).get? k' = _
    rw [Dict.get?_set, hofList]
    rfl
  | none | bool b | int n | float x | str s => cases hdict
  | list l => cases hdict

theorem isDict_withMember {v : PyValue} (hdict : v.isDict = true) (k : String) (item : PyValue) :
    (v.withMember k item).isDict = true := by
  cases v with
  | dict d => rfl
  | none | bool b | int n | float x | str s => cases hdict
  | list l => cases hdict

/-- A member of an object without repeated names is without them. -/
theorem Keyed.of_member? {v w : PyValue} (h : v.Keyed) {k : String} (hget : v.member? k = some w) :
    w.Keyed := by
  cases v with
  | dict d =>
    have hmem : (k, w) ∈ d := (Dict.get?_eq_some_iff (d := Dict.mk d h.1)).mp hget
    exact keyedMembers_iff.mp h.2 _ hmem
  | none | bool b | int n | float x | str s => exact Option.some.inj hget ▸ trivial
  | list l => exact Option.some.inj hget ▸ trivial

theorem Keyed.withMember {v item : PyValue} (h : v.Keyed) (k : String) (hitem : item.Keyed) :
    (v.withMember k item).Keyed := by
  by_cases hdict : v.isDict = true
  · cases v with
    | dict d =>
      refine ⟨((Dict.ofList d).set k item).nodup, keyedMembers_iff.mpr fun m hm => ?_⟩
      obtain ⟨k', w⟩ := m
      have hget := Dict.get?_eq_some_iff.mpr hm
      have hmember : ((PyValue.dict d).withMember k item).member? k' = some w := hget
      rw [member?_withMember h hdict] at hmember
      split_ifs at hmember with hk
      · exact Option.some.inj hmember ▸ hitem
      · exact h.of_member? hmember
    | none | bool b | int n | float x | str s => cases hdict
    | list l => cases hdict
  · cases v with
    | dict d => exact absurd rfl hdict
    | none | bool b | int n | float x | str s => exact h
    | list l => exact h

end Python.PyValue

/-- The JSON codec of the files. -/
structure JsonCodec where
  /-- `json.loads(raw.decode("utf-8"))`. -/
  loads : List UInt8 → Except PyError PyValue
  /-- `(json.dumps(value, indent=2, sort_keys=True) + "\n").encode("utf-8")`. -/
  dumps : PyValue → Except PyError (List UInt8)
  keyed : ∀ {raw v}, loads raw = .ok v → v.Keyed
  /-- What was written is read back, with the members of every object sorted. -/
  loads_dumps : ∀ {v raw}, v.Keyed → dumps v = .ok raw → loads raw = .ok v.sortKeys

/-! ## Keys -/

/-- What a PEM text turns out to be. -/
inductive PemKey (Key : Type) where
  | invalid
  /-- A key that is not EC P-256. -/
  | otherKind
  | p256 (key : Key)

/-- The cryptography of the key files. -/
structure KeyFiles (PrivateKey PublicKey : Type) where
  crypto : Crypto PublicKey
  publicKey : PrivateKey → PublicKey
  /-- `load_pem_public_key(text.encode("ascii"))`. -/
  loadPublicKey : String → PemKey PublicKey
  /-- `load_pem_private_key`. -/
  loadPrivateKey : List UInt8 → PemKey PrivateKey
  /-- `_public_pem`. -/
  publicPem : PublicKey → String
  /-- `_private_pem`. -/
  privatePem : PrivateKey → List UInt8
  loadPublicKey_publicPem : ∀ key, loadPublicKey (publicPem key) = .p256 key
  loadPrivateKey_privatePem : ∀ key, loadPrivateKey (privatePem key) = .p256 key

/-- `IdentityStoreError`, a `ValueError`. -/
def identityStoreError (message : String) : PyError := ⟨.valueError, message⟩

/-- A controller's entry in order: its principal, its key and its ceiling. -/
abbrev TrustEntry (PublicKey : Type) := String × PublicKey × Finset String

/-- The controllers of a trust file. `allowed` and `policy` always have the same keys. -/
abbrev TrustList (PublicKey : Type) := Dict String (PublicKey × Finset String)

/-- `LoadedIdentity`. -/
structure LoadedIdentity (PrivateKey PublicKey : Type) where
  workstationPrivateKey : PrivateKey
  controllers : TrustList PublicKey

namespace LoadedIdentity

variable {PrivateKey PublicKey : Type} (identity : LoadedIdentity PrivateKey PublicKey)

def allowedControllers : Dict String PublicKey := identity.controllers.mapValues (·.1)

def capabilityPolicy : Dict String (Finset String) := identity.controllers.mapValues (·.2)

end LoadedIdentity

/-! ## Reading the trust file -/

section Load

variable {PrivateKey PublicKey : Type} (rt : Runtime) (codec : JsonCodec)
  (files : KeyFiles PrivateKey PublicKey)

/-- `_load_public_pem`. -/
def loadPublicPem (text : String) : Except PyError PublicKey :=
  match files.loadPublicKey text with
  | .invalid => .error (identityStoreError "invalid controller public key PEM")
  | .otherKind => .error (identityStoreError "controller key must be EC P-256")
  | .p256 key => .ok key

/-- The checks of one entry. -/
def loadEntry (entry : PyValue) : Except PyError (TrustEntry PublicKey) := do
  require (entry.isDict = true) (identityStoreError "controller trust entry must be object")
  let key ← loadPublicPem files (rt.str ((entry.member? "public_key_pem").getD (.str "")))
  let derived := principalId files.crypto key "controller"
  require (entry.member? "principal" = some (.str derived))
    (identityStoreError "controller principal does not match public key")
  require (entry.member? "key_id" = some (.str (files.crypto.keyId key)))
    (identityStoreError "controller key_id does not match public key")
  match entry.member? "capabilities" with
  | some (.list capabilities) => return (derived, key, (capabilities.map rt.str).toFinset)
  | _ => .error (identityStoreError "controller capabilities must be list")

/-- One round of the loop over the entries. -/
def addEntry (controllers : TrustList PublicKey) (entry : PyValue) :
    Except PyError (TrustList PublicKey) := do
  let (principal, enrolled) ← loadEntry rt files entry
  require (controllers.get? principal = none) (identityStoreError "duplicate controller principal")
  return controllers.set principal enrolled

/-- The part of `load_identity` that reads the trust file. -/
def loadTrust (content : Option (List UInt8)) : Except PyError (TrustList PublicKey) :=
  match content.map codec.loads with
  | some (.ok trust) => do
    require (trust.member? "schema" = some (.str "VERAPORT_CONTROLLER_TRUST_V1"))
      (identityStoreError "wrong controller trust schema")
    match trust.member? "controllers" with
    | some (.list (entry :: entries)) => (entry :: entries).foldlM (addEntry rt files) .empty
    | _ => .error (identityStoreError "controller trust list must be non-empty")
  | _ => .error (identityStoreError "cannot load controller trust JSON")

/-- `load_identity`. -/
def loadIdentity (workstationKey content : Option (List UInt8)) :
    Except PyError (LoadedIdentity PrivateKey PublicKey) :=
  match workstationKey.map files.loadPrivateKey with
  | some (.p256 key) => (loadTrust rt codec files content).map (⟨key, ·⟩)
  | some .otherKind => .error (identityStoreError "workstation private key must be EC P-256")
  | _ => .error (identityStoreError "cannot load workstation private key")

variable {rt codec files}

/-- The entries are in order, one by one. -/
def Loads (rt : Runtime) (files : KeyFiles PrivateKey PublicKey) :
    List PyValue → List (TrustEntry PublicKey) → Prop :=
  List.Forall₂ fun entry loaded => loadEntry rt files entry = .ok loaded

theorem Loads.exists_entry {entries : List PyValue} {loaded : List (TrustEntry PublicKey)}
    (h : Loads rt files entries loaded) {e : TrustEntry PublicKey} (he : e ∈ loaded) :
    ∃ entry ∈ entries, loadEntry rt files entry = .ok e := by
  induction h with
  | nil => cases he
  | @cons entry first entries loaded hfirst _ ih =>
    rcases List.mem_cons.mp he with rfl | hrest
    · exact ⟨entry, List.mem_cons_self, hfirst⟩
    · obtain ⟨entry', hentry', hload⟩ := ih hrest
      exact ⟨entry', List.mem_cons_of_mem _ hentry', hload⟩

/-- Assigning to a new key appends. -/
theorem entries_set_of_get?_eq_none {κ α : Type} [DecidableEq κ] {d : Dict κ α} {k : κ} (v : α)
    (h : d.get? k = none) : (d.set k v).entries = d.entries ++ [(k, v)] := by
  rw [Dict.set, dif_neg (Dict.get?_eq_none_iff.mp h)]

theorem addEntry_ok_iff {controllers controllers' : TrustList PublicKey} {entry : PyValue} :
    addEntry rt files controllers entry = .ok controllers' ↔
      ∃ loaded, loadEntry rt files entry = .ok loaded ∧ controllers.get? loaded.1 = none ∧
        controllers' = controllers.set loaded.1 loaded.2 := by
  rw [addEntry, bind_eq_ok]
  refine exists_congr fun loaded => and_congr_right fun _ => ?_
  obtain ⟨principal, enrolled⟩ := loaded
  simp only [bind_eq_ok, pure_eq_ok, require_eq_ok, exists_and_left, exists_const]
  exact and_congr_right fun _ => eq_comm

/-- The loop over the entries: all of them are in order, and no principal comes twice. -/
theorem foldlM_addEntry_ok_iff (entries : List PyValue) (start result : TrustList PublicKey) :
    entries.foldlM (addEntry rt files) start = .ok result ↔
      ∃ loaded, Loads rt files entries loaded ∧ result.entries = start.entries ++ loaded := by
  induction entries generalizing start with
  | nil =>
    rw [List.foldlM_nil, pure_eq_ok]
    constructor
    · rintro rfl
      exact ⟨[], .nil, by rw [List.append_nil]⟩
    · rintro ⟨loaded, hloads, hresult⟩
      cases hloads
      exact Dict.ext (by rw [hresult, List.append_nil])
  | cons entry entries ih =>
    rw [List.foldlM_cons, bind_eq_ok]
    constructor
    · rintro ⟨next, hadd, hrest⟩
      obtain ⟨first, hfirst, hfresh, rfl⟩ := addEntry_ok_iff.mp hadd
      obtain ⟨loaded, hloads, hresult⟩ := (ih _).mp hrest
      refine ⟨first :: loaded, .cons hfirst hloads, ?_⟩
      rw [hresult, entries_set_of_get?_eq_none _ hfresh, List.append_assoc]
      rfl
    · rintro ⟨loaded, hloads, hresult⟩
      cases hloads with
      | @cons _ first _ rest hfirst hrest =>
        have hfresh : start.get? first.1 = none := by
          rw [Dict.get?_eq_none_iff]
          intro hmem
          have hnodup := result.nodup
          rw [hresult, List.map_append, List.nodup_append] at hnodup
          exact hnodup.2.2 _ hmem _ List.mem_cons_self rfl
        refine ⟨start.set first.1 first.2, addEntry_ok_iff.mpr ⟨first, hfirst, hfresh, rfl⟩, ?_⟩
        refine (ih _).mpr ⟨rest, hrest, ?_⟩
        rw [hresult, entries_set_of_get?_eq_none _ hfresh, List.append_assoc]
        rfl

/-- A document is the trust file of the entries. -/
def IsTrust (trust : PyValue) (entries : List PyValue) : Prop :=
  trust.member? "schema" = some (.str "VERAPORT_CONTROLLER_TRUST_V1") ∧
    trust.member? "controllers" = some (.list entries) ∧ entries ≠ []

/-- When a trust file loads. -/
theorem loadTrust_ok_iff {content : Option (List UInt8)} {controllers : TrustList PublicKey} :
    loadTrust rt codec files content = .ok controllers ↔
      ∃ raw trust entries, content = some raw ∧ codec.loads raw = .ok trust ∧
        IsTrust trust entries ∧ Loads rt files entries controllers.entries := by
  rw [loadTrust]
  constructor
  · intro h
    split at h
    · rename_i trust hcontent
      obtain ⟨raw, rfl, hloads⟩ := Option.map_eq_some_iff.mp hcontent
      obtain ⟨_, hschema, hrest⟩ := bind_eq_ok.mp h
      split at hrest
      · rename_i entry entries hentries
        obtain ⟨loaded, hloaded, hresult⟩ := (foldlM_addEntry_ok_iff _ _ _).mp hrest
        obtain rfl : controllers.entries = loaded := hresult
        exact ⟨raw, trust, _, rfl, hloads,
          ⟨require_eq_ok.mp hschema, hentries, List.cons_ne_nil _ _⟩, hloaded⟩
      · cases hrest
    · cases h
  · rintro ⟨raw, trust, entries, rfl, hloads, ⟨hschema, hentries, hne⟩, hloaded⟩
    obtain ⟨entry, entries, rfl⟩ := List.exists_cons_of_ne_nil hne
    have hrequire : require (trust.member? "schema" = some (.str "VERAPORT_CONTROLLER_TRUST_V1"))
        (identityStoreError "wrong controller trust schema") = .ok () := require_eq_ok.mpr hschema
    simp only [Option.map_some, hloads, hrequire, hentries]
    exact (foldlM_addEntry_ok_iff _ _ _).mpr ⟨_, hloaded, rfl⟩

/-! ## Writing the trust file -/

/-- What an entry is read from has no objects inside, so that it does not matter in which order
their members are written. -/
def PlainEntry (entry : PyValue) : Prop :=
  ∀ v, entry.member? "public_key_pem" = some v ∨ entry.member? "capabilities" = some v →
    v.sortKeys = v

/-- All entries of a trust file are plain. -/
def PlainTrust (codec : JsonCodec) (content : Option (List UInt8)) : Prop :=
  ∀ raw trust entries, content = some raw → codec.loads raw = .ok trust →
    trust.member? "controllers" = some (.list entries) → ∀ entry ∈ entries, PlainEntry entry

theorem isDict_of_member?_str {v : PyValue} {k s : String} (h : v.member? k = some (.str s)) :
    v.isDict = true := by
  cases v with
  | dict d => rfl
  | none | bool b | int n | float x | str s => cases h
  | list l => cases h

theorem sortKeys_str (s : String) : (PyValue.str s).sortKeys = .str s :=
  sortKeys_eq_str_iff.mpr rfl

/-- Sorting the members of an entry changes nothing of what is read from it. -/
theorem loadEntry_sortKeys {entry : PyValue} (hkeyed : entry.Keyed) (hplain : PlainEntry entry) :
    loadEntry rt files entry.sortKeys = loadEntry rt files entry := by
  have hsame : ∀ k, k = "public_key_pem" ∨ k = "capabilities" →
      entry.sortKeys.member? k = entry.member? k := by
    intro k hk
    rw [PyValue.member?_sortKeys hkeyed]
    cases hget : entry.member? k with
    | none => rfl
    | some v =>
      rw [Option.map_some, hplain v]
      rcases hk with rfl | rfl
      · exact Or.inl hget
      · exact Or.inr hget
  have hstr : ∀ k s,
      entry.sortKeys.member? k = some (.str s) ↔ entry.member? k = some (.str s) := by
    intro k s
    rw [PyValue.member?_sortKeys hkeyed, Option.map_eq_some_iff]
    simp only [sortKeys_eq_str_iff, exists_eq_right]
  rw [loadEntry.eq_def, loadEntry.eq_def]
  simp only [PyValue.isDict_sortKeys, hsame _ (Or.inl rfl), hsame _ (Or.inr rfl), hstr]

/-- A sorted entry is as plain as the entry. -/
theorem PlainEntry.sortKeys {entry : PyValue} (hkeyed : entry.Keyed) (h : PlainEntry entry) :
    PlainEntry entry.sortKeys := by
  intro v hv
  have hback : ∀ k, entry.sortKeys.member? k = some v →
      (∀ w, entry.member? k = some w → w.sortKeys = w) → v.sortKeys = v := by
    intro k hget hfixed
    rw [PyValue.member?_sortKeys hkeyed, Option.map_eq_some_iff] at hget
    obtain ⟨w, hw, rfl⟩ := hget
    rw [hfixed w hw, hfixed w hw]
  rcases hv with hv | hv
  · exact hback _ hv fun w hw => h w (Or.inl hw)
  · exact hback _ hv fun w hw => h w (Or.inr hw)

/-- The document that is read back after the entries were replaced. -/
theorem loads_rewrite {raw raw' : List UInt8} {trust : PyValue} {entries entries' : List PyValue}
    (hloads : codec.loads raw = .ok trust) (htrust : IsTrust trust entries)
    (hdumps : codec.dumps (trust.withMember "controllers" (.list entries')) = .ok raw')
    (hne : entries' ≠ []) (hentries : ∀ entry ∈ entries', entry.Keyed) :
    ∃ trust', codec.loads raw' = .ok trust' ∧ IsTrust trust' (entries'.map PyValue.sortKeys) := by
  have hdict : trust.isDict = true := isDict_of_member?_str htrust.1
  have hkeyed : (trust.withMember "controllers" (.list entries')).Keyed :=
    (codec.keyed hloads).withMember _ (PyValue.keyedList_iff.mpr hentries)
  have hmember : ∀ k, (trust.withMember "controllers" (.list entries')).sortKeys.member? k =
      (if k = "controllers" then some (.list entries') else trust.member? k).map
        PyValue.sortKeys := by
    intro k
    rw [PyValue.member?_sortKeys hkeyed,
      PyValue.member?_withMember (codec.keyed hloads) hdict]
  have hschema := hmember "schema"
  rw [if_neg (by decide), htrust.1, Option.map_some, sortKeys_str] at hschema
  have hlist := hmember "controllers"
  rw [if_pos rfl, Option.map_some, PyValue.sortKeys, PyValue.sortKeysList_eq_map] at hlist
  exact ⟨_, codec.loads_dumps hkeyed hdumps, hschema, hlist, by simpa using hne⟩

/-- The new trust file is as plain as its entries. -/
theorem plainTrust_rewrite {raw raw' : List UInt8} {trust : PyValue}
    {entries entries' : List PyValue} (hloads : codec.loads raw = .ok trust)
    (htrust : IsTrust trust entries)
    (hdumps : codec.dumps (trust.withMember "controllers" (.list entries')) = .ok raw')
    (hne : entries' ≠ []) (hentries : ∀ entry ∈ entries', entry.Keyed ∧ PlainEntry entry) :
    PlainTrust codec (some raw') := by
  obtain ⟨trust', hread, htrust'⟩ :=
    loads_rewrite hloads htrust hdumps hne fun entry h => (hentries entry h).1
  intro raw'' trust'' entries'' hraw hloads'' hentries'' entry hentry
  obtain rfl := Option.some.inj hraw
  obtain rfl := Except.ok.inj (hread.symm.trans hloads'')
  obtain rfl := PyValue.list.inj (Option.some.inj (htrust'.2.1.symm.trans hentries''))
  obtain ⟨e, he, rfl⟩ := List.mem_map.mp hentry
  exact (hentries e he).2.sortKeys (hentries e he).1

/-- What the new trust file loads as. -/
theorem loadTrust_rewrite {raw raw' : List UInt8} {trust : PyValue}
    {entries entries' : List PyValue} {controllers : TrustList PublicKey}
    (hloads : codec.loads raw = .ok trust) (htrust : IsTrust trust entries)
    (hdumps : codec.dumps (trust.withMember "controllers" (.list entries')) = .ok raw')
    (hne : entries' ≠ []) (hentries : ∀ entry ∈ entries', entry.Keyed ∧ PlainEntry entry)
    (hloaded : Loads rt files entries' controllers.entries) :
    loadTrust rt codec files (some raw') = .ok controllers := by
  obtain ⟨trust', hread, htrust'⟩ :=
    loads_rewrite hloads htrust hdumps hne fun entry h => (hentries entry h).1
  refine loadTrust_ok_iff.mpr ⟨raw', trust', _, rfl, hread, htrust', ?_⟩
  rw [Loads, List.forall₂_map_left_iff]
  refine ((List.forall₂_and_left _ _).mpr ⟨hentries, hloaded⟩).imp fun entry loaded h => ?_
  exact (loadEntry_sortKeys h.1.1 h.1.2).trans h.2

/-- When an entry is in order. -/
theorem loadEntry_ok_iff {entry : PyValue} {loaded : TrustEntry PublicKey} :
    loadEntry rt files entry = .ok loaded ↔
      entry.isDict = true ∧
      loadPublicPem files (rt.str ((entry.member? "public_key_pem").getD (.str ""))) =
        .ok loaded.2.1 ∧
      loaded.1 = principalId files.crypto loaded.2.1 "controller" ∧
      entry.member? "principal" = some (.str loaded.1) ∧
      entry.member? "key_id" = some (.str (files.crypto.keyId loaded.2.1)) ∧
      ∃ capabilities, entry.member? "capabilities" = some (.list capabilities) ∧
        loaded.2.2 = (capabilities.map rt.str).toFinset := by
  obtain ⟨principal, key, ceiling⟩ := loaded
  simp only [loadEntry, bind_eq_ok, require_eq_ok]
  constructor
  · rintro ⟨-, hdict, key', hkey, -, hprincipal, -, hid, h⟩
    split at h
    · rename_i capabilities hcapabilities
      obtain ⟨rfl, rfl, rfl⟩ : _ = principal ∧ key' = key ∧ _ = ceiling := by
        simpa [pure_eq_ok] using h
      exact ⟨hdict, hkey, rfl, hprincipal, hid, capabilities, hcapabilities, rfl⟩
    · cases h
  · rintro ⟨hdict, hkey, rfl, hprincipal, hid, capabilities, hcapabilities, rfl⟩
    refine ⟨(), hdict, key, hkey, (), hprincipal, (), hid, ?_⟩
    rw [hcapabilities]
    rfl

/-- The entry that is written for a controller. -/
def newEntry (files : KeyFiles PrivateKey PublicKey) (key : PublicKey)
    (capabilities : List String) : PyValue :=
  .dict [("principal", .str (principalId files.crypto key "controller")),
    ("key_id", .str (files.crypto.keyId key)), ("public_key_pem", .str (files.publicPem key)),
    ("capabilities", .list (capabilities.map .str))]

theorem map_str_map_str (rt : Runtime) (names : List String) :
    (names.map PyValue.str).map rt.str = names := by
  rw [List.map_map]
  exact List.map_id'' (fun _ => rfl) names

/-- A new entry is in order. -/
theorem loadEntry_newEntry (key : PublicKey) (capabilities : List String) :
    loadEntry rt files (newEntry files key capabilities) =
      .ok (principalId files.crypto key "controller", key, capabilities.toFinset) := by
  refine loadEntry_ok_iff.mpr ⟨rfl, ?_, rfl, rfl, rfl, _, rfl, ?_⟩
  · show loadPublicPem files (files.publicPem key) = _
    rw [loadPublicPem, files.loadPublicKey_publicPem]
  · rw [map_str_map_str]

theorem sortKeys_list_str (names : List String) :
    (PyValue.list (names.map .str)).sortKeys = .list (names.map .str) := by
  rw [PyValue.sortKeys, PyValue.sortKeysList_eq_map, List.map_map, PyValue.list.injEq]
  exact List.map_congr_left fun s _ => sortKeys_str s

theorem keyed_list_str (names : List String) : (PyValue.list (names.map .str)).Keyed := by
  refine PyValue.keyedList_iff.mpr fun v hv => ?_
  obtain ⟨s, -, rfl⟩ := List.mem_map.mp hv
  trivial

theorem keyed_newEntry (key : PublicKey) (capabilities : List String) :
    (newEntry files key capabilities).Keyed :=
  ⟨by simp, trivial, trivial, trivial, keyed_list_str capabilities, trivial⟩

theorem plainEntry_newEntry (key : PublicKey) (capabilities : List String) :
    PlainEntry (newEntry files key capabilities) := by
  rintro v (hv | hv)
  · obtain rfl := Option.some.inj (show some (PyValue.str (files.publicPem key)) = some v from hv)
    exact sortKeys_str _
  · obtain rfl := Option.some.inj
      (show some (PyValue.list (capabilities.map .str)) = some v from hv)
    exact sortKeys_list_str capabilities

/-- The controller with the target capabilities. -/
def granted (target : Finset String) (principal : String) (loaded : TrustEntry PublicKey) :
    TrustEntry PublicKey :=
  if loaded.1 = principal then (loaded.1, loaded.2.1, target) else loaded

theorem toFinset_sortedTarget (upgrade : Upgrade) :
    upgrade.sortedTarget.toFinset = upgrade.targetCapabilities := by
  cases upgrade <;> decide

/-- An entry in order stays in order when its controller is granted more. -/
theorem loadEntry_grant {upgrade : Upgrade} {principal : String} {entry : PyValue}
    {loaded : TrustEntry PublicKey} (hkeyed : entry.Keyed)
    (h : loadEntry rt files entry = .ok loaded) :
    loadEntry rt files (upgrade.grant principal entry) =
      .ok (granted upgrade.targetCapabilities principal loaded) := by
  obtain ⟨hdict, hkey, hderived, hprincipal, hid, capabilities, hcapabilities, hceiling⟩ :=
    loadEntry_ok_iff.mp h
  have hentry : isEntryOf principal entry = true ↔ loaded.1 = principal := by
    simp [isEntryOf, hprincipal]
  rw [Upgrade.grant, granted]
  split_ifs with hof hloaded hloaded
  · refine loadEntry_ok_iff.mpr ?_
    simp only [PyValue.member?_withMember hkeyed hdict, reduceIte, String.reduceEq]
    refine ⟨PyValue.isDict_withMember hdict _ _, hkey, hderived, hprincipal, hid, _, rfl, ?_⟩
    rw [map_str_map_str, toFinset_sortedTarget]
  · exact absurd (hentry.mp hof) hloaded
  · exact absurd (hentry.mpr hloaded) hof
  · exact h

theorem keyed_grant {upgrade : Upgrade} {principal : String} {entry : PyValue}
    (hkeyed : entry.Keyed) : (upgrade.grant principal entry).Keyed := by
  rw [Upgrade.grant]
  split_ifs
  · exact hkeyed.withMember _ (keyed_list_str _)
  · exact hkeyed

theorem plainEntry_grant {upgrade : Upgrade} {principal : String} {entry : PyValue}
    (hkeyed : entry.Keyed) (hplain : PlainEntry entry) :
    PlainEntry (upgrade.grant principal entry) := by
  rw [Upgrade.grant]
  split_ifs with hof
  · intro v hv
    have hdict : entry.isDict = true := isDict_of_member?_str (by simpa [isEntryOf] using hof)
    simp only [PyValue.member?_withMember hkeyed hdict, reduceIte, String.reduceEq] at hv
    rcases hv with hv | hv
    · exact hplain v (Or.inl hv)
    · exact Option.some.inj hv ▸ sortKeys_list_str _
  · exact hplain

theorem keyed_of_isTrust {raw : List UInt8} {trust : PyValue} {entries : List PyValue}
    (hloads : codec.loads raw = .ok trust) (htrust : IsTrust trust entries) :
    ∀ entry ∈ entries, entry.Keyed :=
  PyValue.keyedList_iff.mp ((codec.keyed hloads).of_member? htrust.2.1)

/-- The trust file with one more entry. -/
theorem loadTrust_append {raw raw' : List UInt8} {trust : PyValue} {entries : List PyValue}
    {controllers : TrustList PublicKey} {key : PublicKey} {capabilities : List String}
    (hloads : codec.loads raw = .ok trust) (htrust : IsTrust trust entries)
    (hloaded : Loads rt files entries controllers.entries) (hplain : PlainTrust codec (some raw))
    (hfresh : controllers.get? (principalId files.crypto key "controller") = none)
    (hdumps : codec.dumps (trust.withMember "controllers"
      (.list (entries ++ [newEntry files key capabilities]))) = .ok raw') :
    loadTrust rt codec files (some raw') = .ok (controllers.set
        (principalId files.crypto key "controller") (key, capabilities.toFinset)) ∧
      PlainTrust codec (some raw') := by
  have hentries : ∀ entry ∈ entries ++ [newEntry files key capabilities],
      entry.Keyed ∧ PlainEntry entry := by
    intro entry hentry
    rcases List.mem_append.mp hentry with hold | hnew
    · exact ⟨keyed_of_isTrust hloads htrust entry hold,
        hplain raw trust entries rfl hloads htrust.2.1 entry hold⟩
    · rw [List.mem_singleton.mp hnew]
      exact ⟨keyed_newEntry key capabilities, plainEntry_newEntry key capabilities⟩
  refine ⟨loadTrust_rewrite hloads htrust hdumps (by simp) hentries ?_,
    plainTrust_rewrite hloads htrust hdumps (by simp) hentries⟩
  rw [entries_set_of_get?_eq_none _ hfresh]
  exact List.rel_append hloaded (.cons (loadEntry_newEntry key capabilities) .nil)

theorem keyed_plain_grant {raw : List UInt8} {trust : PyValue} {entries : List PyValue}
    (upgrade : Upgrade) (principal : String) (hloads : codec.loads raw = .ok trust)
    (htrust : IsTrust trust entries) (hplain : PlainTrust codec (some raw)) :
    ∀ entry ∈ entries.map (upgrade.grant principal), entry.Keyed ∧ PlainEntry entry := by
  intro entry hentry
  obtain ⟨e, he, rfl⟩ := List.mem_map.mp hentry
  have hkeyed := keyed_of_isTrust hloads htrust e he
  exact ⟨keyed_grant hkeyed,
    plainEntry_grant hkeyed (hplain raw trust entries rfl hloads htrust.2.1 e he)⟩

/-- The trust file after one controller was granted more. -/
theorem loadTrust_grant {raw raw' : List UInt8} {trust : PyValue} {entries : List PyValue}
    {controllers : TrustList PublicKey} {upgrade : Upgrade} {principal : String}
    (hloads : codec.loads raw = .ok trust) (htrust : IsTrust trust entries)
    (hloaded : Loads rt files entries controllers.entries) (hplain : PlainTrust codec (some raw))
    (hdumps : codec.dumps (trust.withMember "controllers"
      (.list (entries.map (upgrade.grant principal)))) = .ok raw') :
    ∃ controllers', loadTrust rt codec files (some raw') = .ok controllers' ∧
      controllers'.entries =
        controllers.entries.map (granted upgrade.targetCapabilities principal) := by
  have hkeys : (controllers.entries.map (granted upgrade.targetCapabilities principal)).map
      Prod.fst = controllers.entries.map Prod.fst := by
    rw [List.map_map]
    refine List.map_congr_left fun loaded _ => ?_
    rw [Function.comp_apply, granted]
    split_ifs <;> rfl
  refine ⟨⟨_, hkeys ▸ controllers.nodup⟩, loadTrust_rewrite hloads htrust hdumps
    (by simpa using htrust.2.2) (keyed_plain_grant upgrade principal hloads htrust hplain) ?_, rfl⟩
  rw [Loads, List.forall₂_map_left_iff, List.forall₂_map_right_iff]
  exact ((List.forall₂_and_left _ _).mpr ⟨keyed_of_isTrust hloads htrust, hloaded⟩).imp
    fun entry loaded h => loadEntry_grant h.1 h.2

/-! ## What is enrolled -/

/-- Every controller is still enrolled, with the same key, for at least what it was enrolled for. -/
def TrustList.Extends (controllers controllers' : TrustList PublicKey) : Prop :=
  ∀ principal key ceiling, controllers.get? principal = some (key, ceiling) →
    ∃ ceiling', controllers'.get? principal = some (key, ceiling') ∧ ceiling ⊆ ceiling'

theorem TrustList.Extends.refl (controllers : TrustList PublicKey) :
    controllers.Extends controllers :=
  fun _ _ ceiling h => ⟨ceiling, h, subset_rfl⟩

theorem TrustList.Extends.trans {c₁ c₂ c₃ : TrustList PublicKey} (h₁ : c₁.Extends c₂)
    (h₂ : c₂.Extends c₃) : c₁.Extends c₃ := by
  intro principal key ceiling h
  obtain ⟨ceiling₂, hget₂, hsub₂⟩ := h₁ principal key ceiling h
  obtain ⟨ceiling₃, hget₃, hsub₃⟩ := h₂ principal key ceiling₂ hget₂
  exact ⟨ceiling₃, hget₃, hsub₂.trans hsub₃⟩

/-- A new controller takes nothing from the others. -/
theorem TrustList.extends_set {controllers : TrustList PublicKey} {principal : String}
    (hfresh : controllers.get? principal = none) (enrolled : PublicKey × Finset String) :
    controllers.Extends (controllers.set principal enrolled) := by
  intro principal' key ceiling h
  have hne : principal' ≠ principal := by
    rintro rfl
    rw [hfresh] at h
    cases h
  exact ⟨ceiling, (Dict.get?_set_ne _ _ hne).trans h, subset_rfl⟩

/-- Granting a controller more than it had takes nothing away. -/
theorem TrustList.extends_granted {controllers controllers' : TrustList PublicKey}
    {target : Finset String} {principal : String}
    (hentries : controllers'.entries = controllers.entries.map (granted target principal))
    (hceiling : ∀ key ceiling, controllers.get? principal = some (key, ceiling) →
      ceiling ⊆ target) :
    controllers.Extends controllers' := by
  intro principal' key ceiling h
  have hmem : granted target principal (principal', key, ceiling) ∈ controllers'.entries := by
    rw [hentries]
    exact List.mem_map_of_mem (Dict.get?_eq_some_iff.mp h)
  rw [granted] at hmem
  split_ifs at hmem with hp
  · exact ⟨target, Dict.get?_eq_some_iff.mpr hmem, hceiling key ceiling (hp ▸ h)⟩
  · exact ⟨ceiling, Dict.get?_eq_some_iff.mpr hmem, subset_rfl⟩

end Load

end VeraMesh

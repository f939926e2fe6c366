import VeraMesh.Gateway.WorkBridge

/-!
# Staying in the allowed roots

`CanHandlePublic` looks at the canonical copy of a path, and `CallPublic` forwards the path itself.
For WorkBridge on a POSIX system the two need not be the same path: the copy is trimmed, its
backslashes are slashes, and a copy that begins with `/:/` is taken for one of Windows.

## Main results

* `safe_iff`: for which paths the check is right, whatever the POSIX roots.
-/

namespace VeraMesh.Gateway

variable {u : Unicode}

/-! ## The check by components -/

section WithinRoot

variable {cs ds : List (List Char)}

theorem map_intercalate {α β : Type} (f : α → β) (sep : List α) (l : List (List α)) :
    (sep.intercalate l).map f = (sep.map f).intercalate (l.map (List.map f)) := by
  have hmap : (l.intersperse sep).map (List.map f) = (l.map (List.map f)).intersperse (sep.map f) := by
    induction l with
    | nil => rfl
    | cons a l ih =>
      cases l with
      | nil => rfl
      | cons b l =>
        rw [List.intersperse_cons_cons, List.map_cons, List.map_cons, ih]
        rfl
  rw [List.intercalate, List.intercalate, List.map_flatten, hmap]

theorem Unicode.toLower_joinPath (cs : List (List Char)) :
    u.toLower (joinPath cs) = joinPath (cs.map u.toLower) := by
  have hslash : u.lower '/' = '/' := (u.lower_eq_iff '/' (by simp) '/').mpr rfl
  unfold Unicode.toLower joinPath
  rw [List.map_cons, map_intercalate, List.map_cons, List.map_nil, hslash]

theorem IsSegment.toLower {c : List Char} (h : IsSegment c) : IsSegment (u.toLower c) := by
  refine ⟨fun hnil => h.1 (List.map_eq_nil_iff.mp hnil), fun hslash => ?_⟩
  obtain ⟨d, hd, hlower⟩ := List.mem_map.mp hslash
  exact h.2 ((u.lower_eq_iff '/' (by simp) d).mp hlower ▸ hd)

theorem map_toLower_isSegment (hcs : ∀ c ∈ cs, IsSegment c) :
    ∀ c ∈ cs.map u.toLower, IsSegment c := by
  intro c hc
  obtain ⟨d, hd, rfl⟩ := List.mem_map.mp hc
  exact (hcs d hd).toLower

/-- The check of a path against a root, when it looks at the case of letters and when not. -/
theorem workBridgePathWithinRoot_iff (hcs : ∀ c ∈ cs, IsSegment c) (hds : ∀ d ∈ ds, IsSegment d) :
    workBridgePathWithinRoot u (joinPath cs) (joinPath ds) = true ↔
      if workBridgeCaseInsensitivePath (joinPath cs) || workBridgeCaseInsensitivePath (joinPath ds)
      then ds.map u.toLower <+: cs.map u.toLower else ds <+: cs := by
  unfold workBridgePathWithinRoot
  dsimp only
  split_ifs with hfold
  · rw [Bool.or_eq_true, beq_iff_eq, List.isPrefixOf_iff_prefix, Unicode.toLower_joinPath,
      Unicode.toLower_joinPath]
    exact within_iff (map_toLower_isSegment hcs) (map_toLower_isSegment hds)
  · rw [Bool.or_eq_true, beq_iff_eq, List.isPrefixOf_iff_prefix]
    exact within_iff hcs hds

/-- A lowered path begins with a slash exactly if the path does. -/
theorem head?_toLower {s : List Char} : (u.toLower s).head? = some '/' ↔ s.head? = some '/' := by
  cases s with
  | nil => simp [Unicode.toLower]
  | cons a s => simpa [Unicode.toLower] using u.lower_eq_iff '/' (by simp) a

/-- What lies below a root begins like it. -/
theorem head?_of_workBridgePathWithinRoot {candidate : List Char}
    (h : workBridgePathWithinRoot u candidate (joinPath ds) = true) :
    candidate.head? = some '/' := by
  have hbelow : ∀ {c r : List Char}, r.head? = some '/' → c = r ∨ rootPrefix r <+: c →
      c.head? = some '/' := by
    rintro c r hr (rfl | ⟨rest, rfl⟩)
    · exact hr
    · unfold rootPrefix
      split_ifs
      · rw [List.head?_append, hr]
        rfl
      · rw [List.append_assoc, List.head?_append, hr]
        rfl
  unfold workBridgePathWithinRoot at h
  dsimp only at h
  rw [Bool.or_eq_true, beq_iff_eq, List.isPrefixOf_iff_prefix] at h
  split_ifs at h
  · exact head?_toLower.mp (hbelow (head?_toLower.mpr rfl) h)
  · exact hbelow rfl h

/-- A UNC path lies below no POSIX root but the root directory. -/
theorem eq_nil_of_workBridgePathWithinRoot {rest : List Char} (hds : ∀ d ∈ ds, IsSegment d)
    (h : workBridgePathWithinRoot u ('/' :: '/' :: rest) (joinPath ds) = true) : ds = [] := by
  by_contra hne
  obtain ⟨d, ds, rfl⟩ := List.exists_cons_of_ne_nil hne
  have hsecond : ∀ {e : List Char} {es : List (List Char)} {rest : List Char}, IsSegment e →
      ¬('/' :: '/' :: rest = joinPath (e :: es) ∨
        rootPrefix (joinPath (e :: es)) <+: '/' :: '/' :: rest) := by
    intro e es rest he hor
    obtain ⟨a, e, rfl⟩ := List.exists_cons_of_ne_nil he.1
    have ha : a ≠ '/' := fun heq => he.2 (heq ▸ List.mem_cons_self)
    obtain ⟨tail, htail⟩ : ∃ tail, joinPath ((a :: e) :: es) = '/' :: a :: tail := by
      cases es <;> exact ⟨_, rfl⟩
    rcases hor with heq | ⟨more, hmore⟩
    · rw [htail] at heq
      exact ha (List.cons.inj (List.cons.inj heq).2).1.symm
    · unfold rootPrefix at hmore
      rw [htail] at hmore
      split_ifs at hmore
      · exact ha (List.cons.inj (List.cons.inj hmore).2).1
      · exact ha (List.cons.inj (List.cons.inj hmore).2).1
  unfold workBridgePathWithinRoot at h
  dsimp only at h
  rw [Bool.or_eq_true, beq_iff_eq, List.isPrefixOf_iff_prefix] at h
  rw [List.forall_mem_cons] at hds
  have hfold : (workBridgeCaseInsensitivePath ('/' :: '/' :: rest) ||
      workBridgeCaseInsensitivePath (joinPath (d :: ds))) = true := by
    simp [workBridgeCaseInsensitivePath]
  have hslash : u.lower '/' = '/' := (u.lower_eq_iff '/' (by simp) '/').mpr rfl
  rw [hfold, if_pos rfl, if_pos rfl, Unicode.toLower_joinPath, List.map_cons] at h
  have hlowered : u.toLower ('/' :: '/' :: rest) = '/' :: '/' :: u.toLower rest := by
    simp [Unicode.toLower, hslash]
  rw [hlowered] at h
  exact hsecond hds.1.toLower h

/-- Everything absolute lies below the root directory. -/
theorem workBridgePathWithinRoot_nil {path : List Char} (h : path.head? = some '/') :
    workBridgePathWithinRoot u path (joinPath []) = true := by
  have hslash : u.lower '/' = '/' := (u.lower_eq_iff '/' (by simp) '/').mpr rfl
  have hnil : u.toLower (joinPath []) = joinPath [] := by rw [Unicode.toLower_joinPath, List.map_nil]
  have hbelow : ∀ {path : List Char}, path.head? = some '/' →
      rootPrefix (joinPath []) <+: path := by
    intro path hpath
    obtain ⟨rest, rfl⟩ := List.head?_eq_some_iff.mp hpath
    exact ⟨rest, rfl⟩
  unfold workBridgePathWithinRoot
  dsimp only
  rw [Bool.or_eq_true, List.isPrefixOf_iff_prefix]
  split_ifs
  · rw [hnil]
    exact Or.inr (hbelow (head?_toLower.mpr h))
  · exact Or.inr (hbelow h)

/-- A joined path is no UNC path. -/
theorem joinPath_ne_unc (hcs : ∀ c ∈ cs, IsSegment c) : ¬∃ rest, joinPath cs = '/' :: '/' :: rest := by
  rintro ⟨rest, h⟩
  cases cs with
  | nil => exact absurd (congrArg List.length h) (by simp [joinPath, List.intercalate])
  | cons c cs =>
    obtain ⟨hne, hslash⟩ := hcs c List.mem_cons_self
    obtain ⟨a, c, rfl⟩ := List.exists_cons_of_ne_nil hne
    obtain ⟨tail, htail⟩ : ∃ tail, joinPath ((a :: c) :: cs) = '/' :: a :: tail := by
      cases cs <;> exact ⟨_, rfl⟩
    rw [htail] at h
    exact hslash ((List.cons.inj (List.cons.inj h).2).1 ▸ List.mem_cons_self)

/-- A joined path is taken for one of Windows if its first component is a colon and not the last. -/
theorem workBridgeCaseInsensitivePath_joinPath (hcs : ∀ c ∈ cs, IsSegment c) :
    workBridgeCaseInsensitivePath (joinPath cs) = true ↔ ∃ c rest, cs = [':'] :: c :: rest := by
  constructor
  · intro h
    unfold workBridgeCaseInsensitivePath at h
    split at h
    · next first rest heq =>
      cases cs with
      | nil => exact absurd (congrArg List.length heq) (by simp [joinPath, List.intercalate])
      | cons c cs =>
        obtain ⟨hne, hslash⟩ := hcs c List.mem_cons_self
        obtain ⟨a, c, rfl⟩ := List.exists_cons_of_ne_nil hne
        cases cs with
        | nil =>
          have htail : joinPath [a :: c] = '/' :: a :: c := by simp [joinPath, List.intercalate]
          rw [htail] at heq
          have hc : c = '/' :: rest := (List.cons.inj (List.cons.inj heq).2).2
          exact absurd (hc ▸ List.mem_cons_of_mem _ List.mem_cons_self) hslash
        | cons d cs =>
          have htail : joinPath ((a :: c) :: d :: cs) =
              '/' :: a :: (c ++ '/' :: ['/'].intercalate (d :: cs)) := by
            simp [joinPath, List.intercalate]
          rw [htail] at heq
          obtain ⟨ha, hc⟩ := List.cons.inj (List.cons.inj heq).2
          cases c with
          | nil => exact ⟨d, cs, by rw [ha]⟩
          | cons b c =>
            have hb : b = '/' := (List.cons.inj hc).1
            exact absurd (hb ▸ List.mem_cons_of_mem _ List.mem_cons_self) hslash
    · next rest heq => exact absurd ⟨_, heq⟩ (joinPath_ne_unc hcs)
    · cases h
  · rintro ⟨c, rest, rfl⟩
    have htail : joinPath ([':'] :: c :: rest) = '/' :: ':' :: '/' :: ['/'].intercalate (c :: rest) := by
      simp [joinPath, List.intercalate]
    rw [htail]
    rfl

/-- What lies below a root that is taken for one of Windows is taken so itself. -/
theorem caseInsensitive_of_map_prefix (hcs : ∀ c ∈ cs, IsSegment c) (hds : ∀ d ∈ ds, IsSegment d)
    (h : ds.map u.toLower <+: cs.map u.toLower)
    (hroot : workBridgeCaseInsensitivePath (joinPath ds) = true) :
    workBridgeCaseInsensitivePath (joinPath cs) = true := by
  rw [workBridgeCaseInsensitivePath_joinPath hds] at hroot
  rw [workBridgeCaseInsensitivePath_joinPath hcs]
  obtain ⟨d, rest, rfl⟩ := hroot
  have hcolon : ∀ {c}, u.toLower [':'] = u.toLower c → c = [':'] := by
    intro c hc
    have hlower : u.lower ':' = ':' := (u.lower_eq_iff ':' (by simp) ':').mpr rfl
    obtain ⟨a, rfl, ha⟩ := List.map_eq_singleton_iff.mp hc.symm
    rw [(u.lower_eq_iff ':' (by simp) a).mp (ha.trans hlower)]
  have hlength : 2 ≤ cs.length := by
    have hle := h.length_le
    simp only [List.length_map, List.length_cons] at hle
    omega
  obtain ⟨c, e, cs, rfl⟩ : ∃ c e rest, cs = c :: e :: rest := by
    match cs, hlength with
    | c :: e :: rest, _ => exact ⟨c, e, rest, rfl⟩
  simp only [List.map_cons, List.cons_prefix_cons] at h
  exact ⟨e, cs, by rw [hcolon h.1]⟩

end WithinRoot

/-! ## Normalised roots -/

section Roots

/-- A root by POSIX rules: the root of a drive and a UNC share are none. -/
def PosixRoot (root : String) : Prop :=
  root.toList.head? = some '/' ∧ ¬∃ rest, root.toList = '/' :: '/' :: rest

/-- A normalised root is the canonical copy of some path. -/
theorem exists_of_mem_normalizeRoots {values : List String} {seen : List (List Char)}
    {roots : List String} (h : normalizeRoots u seen values = .ok roots) :
    ∀ root ∈ roots, ∃ value, canonicalRemotePath value = .ok root := by
  induction values generalizing seen roots with
  | nil =>
    obtain rfl : [] = roots := Except.ok.inj h
    simp
  | cons raw values ih =>
    unfold normalizeRoots at h
    cases hcanon : canonicalRemotePath raw with
    | error err =>
      rw [hcanon] at h
      cases h
    | ok canon =>
    rw [hcanon] at h
    dsimp only at h
    generalize (if workBridgeCaseInsensitivePath canon.toList then u.toLower canon.toList
      else canon.toList) = key at h
    by_cases hseen : key ∈ seen
    · rw [if_pos hseen] at h
      exact ih h
    · rw [if_neg hseen] at h
      obtain ⟨rest, hrest, rfl⟩ := Except.map_eq_ok.mp h
      exact List.forall_mem_cons.mpr ⟨⟨raw, hcanon⟩, ih hrest⟩

/-- A POSIX root that is normalised is a joined path. -/
theorem PosixRoot.eq_joinPath {value root : String} (hroot : PosixRoot root)
    (h : canonicalRemotePath value = .ok root) :
    ∃ ds, (∀ d ∈ ds, IsCanonicalComponent d) ∧ root.toList = joinPath ds := by
  rcases canonicalRemotePath_copyForm h with hdrive | hunc | hjoin
  · exact absurd hroot.1 hdrive
  · exact absurd hunc hroot.2
  · exact hjoin

end Roots

/-! ## What is forwarded -/

namespace WorkBridgeClient

variable {w : WorkBridgeClient u} {args : GoMap} {name raw : String}

/-- Only a request that passes the check is made, and it has the path as it was given. -/
theorem index_path_of_publicRequest {request : WorkBridgeRequest}
    (hpath : args.index "path" = .str raw) (h : w.publicRequest name args = .ok request) :
    request.arguments.index "path" = .str raw := by
  have hreq : ∀ {path}, reqString args "path" = .ok path → path = raw := by
    intro path hok
    unfold reqString at hok
    rw [hpath] at hok
    dsimp only [GoValue.asString?] at hok
    split_ifs at hok
    exact (Except.ok.inj hok).symm
  unfold publicRequest at h
  by_cases hhandle : (!w.canHandlePublic name args) = true
  · rw [if_pos hhandle] at h
    cases h
  · rw [if_neg hhandle] at h
    -- one case for each tool
    split at h
    · obtain ⟨path, hok, h⟩ := Except.bind_eq_ok.mp h
      rw [hreq hok] at h
      rw [← Except.ok.inj h]
      rfl
    · obtain ⟨path, hok, h⟩ := Except.bind_eq_ok.mp h
      rw [hreq hok] at h
      rw [← Except.ok.inj h]
      rfl
    · obtain ⟨path, hok, h⟩ := Except.bind_eq_ok.mp h
      obtain ⟨offset, -, h⟩ := Except.bind_eq_ok.mp h
      obtain ⟨maxEntries, -, h⟩ := Except.bind_eq_ok.mp h
      rw [hreq hok] at h
      by_cases hrange : offset < 0 ∨ maxEntries < 1
      · rw [if_pos hrange] at h
        cases h
      · rw [if_neg hrange] at h
        rw [← Except.ok.inj h]
        rfl
    · obtain ⟨path, hok, h⟩ := Except.bind_eq_ok.mp h
      obtain ⟨content, -, h⟩ := Except.bind_eq_ok.mp h
      rw [hreq hok] at h
      rw [← Except.ok.inj h]
      rfl
    · obtain ⟨path, hok, h⟩ := Except.bind_eq_ok.mp h
      rw [hreq hok] at h
      rw [← Except.ok.inj h]
      rfl
    · cases h

/-- Every submitted request was made. -/
theorem publicRequest_of_mem_callPublic {answer : WorkBridgeRequest → Except GoError GoMap}
    {request : WorkBridgeRequest} (h : request ∈ (w.callPublic answer name args).2) :
    w.publicRequest name args = .ok request := by
  unfold callPublic at h
  cases hrequest : w.publicRequest name args with
  | error err =>
    rw [hrequest] at h
    cases h
  | ok made =>
  rw [hrequest] at h
  dsimp only at h
  split_ifs at h
  · rw [List.mem_singleton.mp h]
  · cases h

end WorkBridgeClient

/-! ## Safe paths -/

/-- By POSIX rules the path is absolute and lies in the root. -/
def Inside (path root : String) : Prop :=
  path.toList.head? = some '/' ∧ posixComponents root.toList <+: posixComponents path.toList

/-- **Staying in the allowed roots**: whatever the POSIX roots and the tool, a call with this path
that the client takes forwards a path that lies in one of them. -/
def Safe (u : Unicode) (raw : String) : Prop :=
  ∀ (w : WorkBridgeClient u) (name : String) (args : GoMap),
    (∀ root ∈ w.allowedRoots, PosixRoot root) → args.index "path" = .str raw →
    w.canHandlePublic name args = true → ∀ answer, ∀ request ∈ (w.callPublic answer name args).2,
      ∃ path, request.arguments.index "path" = .str path ∧
        ∃ root ∈ w.allowedRoots, Inside path root

/-- The canonical copy of a path, one that begins with a slash, says by POSIX rules what the path
says. A UNC path only lies in the root directory. -/
structure Faithful (u : Unicode) (raw canon : String) : Prop where
  /-- The path has no blank in front and no backslash there. -/
  rooted : raw.toList.head? = some '/'
  /-- The path has the components of its copy, and maybe more. -/
  components : (¬∃ rest, canon.toList = '/' :: '/' :: rest) →
    posixComponents canon.toList <+: posixComponents raw.toList
  /-- A copy that is taken for a path of Windows has no letter of another case. -/
  unique : (¬∃ rest, canon.toList = '/' :: '/' :: rest) →
    workBridgeCaseInsensitivePath canon.toList = true →
    ∀ value other, canonicalRemotePath value = .ok other →
      u.toLower other.toList = u.toLower canon.toList → other = canon

section Safe

variable {raw canon value root : String}

/-- A client whose only tool is `workspace_stat`, for one allowed root. -/
def statClient (u : Unicode) (h : canonicalRemotePath value = .ok root) : WorkBridgeClient u where
  available := ["workspace_stat"]
  allowedRoots := [root]
  normalized := by
    refine ⟨[value], ?_⟩
    have hroots : normalizeRoots u [] [value] = .ok [root] := by
      unfold normalizeRoots
      rw [h]
      dsimp only
      rw [if_neg List.not_mem_nil]
      rfl
    unfold normalizeWorkBridgeRoots
    rw [hroots]

/-- If the check of the copy against every root is right for the path then the path is safe. -/
theorem safe_of_inside (h : ∀ canon, canonicalRemotePath raw = .ok canon → ∀ value root,
    canonicalRemotePath value = .ok root → PosixRoot root →
    workBridgePathWithinRoot u canon.toList root.toList = true → Inside raw root) : Safe u raw := by
  intro w name args hposix hpath hhandle answer request hrequest
  have hforward := WorkBridgeClient.index_path_of_publicRequest hpath
    (WorkBridgeClient.publicRequest_of_mem_callPublic hrequest)
  refine ⟨raw, hforward, ?_⟩
  -- what the check says
  have hallowed : w.pathAllowed raw = true := by
    unfold WorkBridgeClient.canHandlePublic at hhandle
    simp only [Bool.and_eq_true] at hhandle
    obtain ⟨⟨-, hallowed⟩, -⟩ := hhandle
    unfold reqString at hallowed
    rw [hpath] at hallowed
    dsimp only [GoValue.asString?] at hallowed
    split_ifs at hallowed
    exact hallowed
  unfold WorkBridgeClient.pathAllowed at hallowed
  cases hcanon : canonicalRemotePath raw with
  | error err =>
    rw [hcanon] at hallowed
    cases hallowed
  | ok canon =>
  rw [hcanon] at hallowed
  obtain ⟨root, hroot, hwithin⟩ := List.any_eq_true.mp hallowed
  -- the root is a canonical copy itself
  obtain ⟨values, hvalues⟩ := w.normalized
  obtain ⟨value, hvalue⟩ : ∃ value, canonicalRemotePath value = .ok root := by
    unfold normalizeWorkBridgeRoots at hvalues
    split at hvalues
    · cases hvalues
    · cases hvalues
    · next heq => exact exists_of_mem_normalizeRoots heq root (Except.ok.inj hvalues ▸ hroot)
  exact ⟨root, hroot, h canon hcanon value root hvalue (hposix root hroot) hwithin⟩

/-- A safe path lies in every root that its copy is in. -/
theorem Safe.inside (hsafe : Safe u raw) (hcanon : canonicalRemotePath raw = .ok canon)
    (hvalue : canonicalRemotePath value = .ok root) (hroot : PosixRoot root)
    (hwithin : workBridgePathWithinRoot u canon.toList root.toList = true) : Inside raw root := by
  have hblank : trimSpace raw.toList ≠ [] := by
    intro hblank
    unfold canonicalRemotePath at hcanon
    dsimp only at hcanon
    rw [if_pos hblank] at hcanon
    cases hcanon
  let args : GoMap := .ofList [("path", .str raw)]
  have hpath : args.index "path" = .str raw := rfl
  have hreq : reqString args "path" = .ok raw := by
    unfold reqString
    rw [hpath]
    exact if_neg hblank
  have hallowed : (statClient u hvalue).pathAllowed raw = true := by
    unfold WorkBridgeClient.pathAllowed
    rw [hcanon]
    exact List.any_eq_true.mpr ⟨root, List.mem_singleton_self root, hwithin⟩
  have hhandle : (statClient u hvalue).canHandlePublic "stat_path" args = true := by
    unfold WorkBridgeClient.canHandlePublic
    rw [hreq]
    dsimp only
    rw [hallowed]
    rfl
  have hrequest : (statClient u hvalue).publicRequest "stat_path" args =
      .ok ⟨"workspace_stat", .ofList [("path", .str raw)]⟩ := by
    unfold WorkBridgeClient.publicRequest
    rw [hhandle]
    show (reqString args "path" >>= fun path => _) = _
    rw [hreq]
    rfl
  have hmem : (⟨"workspace_stat", .ofList [("path", .str raw)]⟩ : WorkBridgeRequest) ∈
      ((statClient u hvalue).callPublic (fun _ => .ok .empty) "stat_path" args).2 := by
    unfold WorkBridgeClient.callPublic
    rw [hrequest]
    exact List.mem_singleton_self _
  obtain ⟨path, hforward, root', hroot', hinside⟩ := hsafe (statClient u hvalue) "stat_path" args
    (fun other hother => List.mem_singleton.mp hother ▸ hroot) hpath hhandle _ _ hmem
  obtain rfl : raw = path := GoValue.str.inj hforward
  obtain rfl : root' = root := List.mem_singleton.mp hroot'
  exact hinside

/-- Where the copy of a faithful path is taken for one of Windows, a root that it is below when case is
ignored is one that it is below. -/
theorem Faithful.prefix_of_lowered {cs ds : List (List Char)} (hcs : ∀ c ∈ cs, IsCanonicalComponent c)
    (hds : ∀ d ∈ ds, IsCanonicalComponent d) (hcanon : canon.toList = joinPath cs)
    (hfold : workBridgeCaseInsensitivePath canon.toList = true)
    (hlower : ds.map u.toLower <+: cs.map u.toLower) (hfaithful : Faithful u raw canon) :
    ds <+: cs := by
  have hother : ∀ c ∈ ds ++ cs.drop ds.length, IsCanonicalComponent c := by
    intro c hc
    rcases List.mem_append.mp hc with hc | hc
    · exact hds c hc
    · exact hcs c (List.mem_of_mem_drop hc)
  have hsame : (ds ++ cs.drop ds.length).map u.toLower = cs.map u.toLower := by
    have hcut := List.prefix_iff_eq_append.mp hlower
    rw [List.length_map] at hcut
    rw [List.map_append, List.map_drop, hcut]
  have heq := hfaithful.unique
    (hcanon ▸ joinPath_ne_unc fun c hc => (hcs c hc).1.isSegment) hfold _ _
    (canonicalRemotePath_dotted hother) (by
      rw [String.toList_ofList, hcanon, Unicode.toLower_joinPath, Unicode.toLower_joinPath, hsame])
  have hjoin : joinPath (ds ++ cs.drop ds.length) = joinPath cs := by
    rw [← hcanon, ← heq, String.toList_ofList]
  exact ⟨_, joinPath_injective (fun c hc => (hother c hc).1.isSegment)
    (fun c hc => (hcs c hc).1.isSegment) hjoin⟩

/-- **Staying in the allowed roots.** A path is safe exactly if its canonical copy, where that begins
with a slash, says what the path says. -/
theorem safe_iff : Safe u raw ↔ ∀ canon, canonicalRemotePath raw = .ok canon →
    canon.toList.head? = some '/' → Faithful u raw canon := by
  constructor
  · intro hsafe canon hcanon hhead
    rcases canonicalRemotePath_copyForm hcanon with hdrive | hunc | ⟨cs, hcs, hjoin⟩
    · exact absurd hhead hdrive
    · -- the root directory holds the UNC path
      have hinside := hsafe.inside hcanon (canonicalRemotePath_dotted (List.forall_mem_nil _))
        ⟨rfl, by rintro ⟨rest, hrest⟩; cases hrest⟩
        (by rw [String.toList_ofList]; exact workBridgePathWithinRoot_nil hhead)
      exact ⟨hinside.1, fun hnot => absurd hunc hnot, fun hnot => absurd hunc hnot⟩
    · have hsegments : ∀ c ∈ cs, IsSegment c := fun c hc => (hcs c hc).1.isSegment
      have hunc : ¬∃ rest, canon.toList = '/' :: '/' :: rest := hjoin ▸ joinPath_ne_unc hsegments
      -- the copy is a root
      have hinside := hsafe.inside hcanon hcanon ⟨hhead, hunc⟩ (by
        unfold workBridgePathWithinRoot
        simp)
      refine ⟨hinside.1, fun _ => hinside.2, fun _ hfold value other hvalue hlower => ?_⟩
      -- so is a path that differs from it in the case of letters
      have hother : other.toList.head? = some '/' := by
        rw [← head?_toLower (u := u), hlower, head?_toLower]
        exact hhead
      have hotherUnc : ¬∃ rest, other.toList = '/' :: '/' :: rest := by
        rintro ⟨rest, hrest⟩
        have hslash : u.lower '/' = '/' := (u.lower_eq_iff '/' (by simp) '/').mpr rfl
        rw [hrest, hjoin, Unicode.toLower_joinPath, Unicode.toLower, List.map_cons, List.map_cons,
          hslash] at hlower
        exact joinPath_ne_unc (map_toLower_isSegment hsegments) ⟨_, hlower.symm⟩
      obtain ⟨ds, hds, hotherJoin⟩ := PosixRoot.eq_joinPath ⟨hother, hotherUnc⟩ hvalue
      have hotherInside := hsafe.inside hcanon hvalue ⟨hother, hotherUnc⟩ (by
        unfold workBridgePathWithinRoot
        simp [hfold, hlower])
      have hdsSegments : ∀ d ∈ ds, IsSegment d := fun d hd => (hds d hd).1.isSegment
      have hbelow := hinside.2
      have hotherPrefix := hotherInside.2
      rw [hjoin, posixComponents_joinPath fun c hc => (hcs c hc).1] at hbelow
      rw [hotherJoin, posixComponents_joinPath fun d hd => (hds d hd).1] at hotherPrefix
      -- two beginnings of one list that are of the same length
      have hlength : ds.length = cs.length := by
        rw [hotherJoin, hjoin, Unicode.toLower_joinPath, Unicode.toLower_joinPath] at hlower
        have hmap := joinPath_injective (map_toLower_isSegment hdsSegments)
          (map_toLower_isSegment hsegments) hlower
        simpa using congrArg List.length hmap
      have heq : ds = cs := (List.prefix_of_prefix_length_le hotherPrefix hbelow hlength.le).eq_of_length
        hlength
      exact String.toList_injective (by rw [hotherJoin, hjoin, heq])
  · intro hfaithful
    refine safe_of_inside fun canon hcanon value root hvalue hroot hwithin => ?_
    obtain ⟨ds, hds, hrootJoin⟩ := hroot.eq_joinPath hvalue
    have hdsSegments : ∀ d ∈ ds, IsSegment d := fun d hd => (hds d hd).1.isSegment
    rw [hrootJoin] at hwithin
    have hhead := head?_of_workBridgePathWithinRoot hwithin
    have hcopy := hfaithful canon hcanon hhead
    refine ⟨hcopy.rooted, ?_⟩
    rw [hrootJoin, posixComponents_joinPath fun d hd => (hds d hd).1]
    rcases canonicalRemotePath_copyForm hcanon with hdrive | ⟨rest, hunc⟩ | ⟨cs, hcs, hjoin⟩
    · exact absurd hhead hdrive
    · rw [hunc] at hwithin
      rw [eq_nil_of_workBridgePathWithinRoot hdsSegments hwithin]
      exact List.nil_prefix
    · have hsegments : ∀ c ∈ cs, IsSegment c := fun c hc => (hcs c hc).1.isSegment
      have hcomponents := hcopy.components (hjoin ▸ joinPath_ne_unc hsegments)
      rw [hjoin, posixComponents_joinPath fun c hc => (hcs c hc).1] at hcomponents
      refine List.IsPrefix.trans ?_ hcomponents
      rw [hjoin, workBridgePathWithinRoot_iff hsegments hdsSegments] at hwithin
      split_ifs at hwithin with hfold
      · have hcaseInsensitive : workBridgeCaseInsensitivePath (joinPath cs) = true := by
          rcases Bool.or_eq_true_iff.mp hfold with hfold | hfold
          · exact hfold
          · exact caseInsensitive_of_map_prefix hsegments hdsSegments hwithin hfold
        exact hcopy.prefix_of_lowered hcs hds hjoin (hjoin ▸ hcaseInsensitive) hwithin
      · exact hwithin

/-- On a POSIX system the path is `/etc/passwd`, and with its backslash for a slash it is
`/srv/etc/passwd`, in the root `/srv`. -/
theorem not_safe_backslash : ¬Safe asciiUnicode "/srv/data\\x/../../etc/passwd" := by
  intro hsafe
  have hcanon : canonicalRemotePath "/srv/data\\x/../../etc/passwd" = .ok "/srv/etc/passwd" := by
    decide +kernel
  have hroot : canonicalRemotePath "/srv" = .ok "/srv" := by decide +kernel
  have hwithin : workBridgePathWithinRoot asciiUnicode "/srv/etc/passwd".toList "/srv".toList =
      true := by
    decide +kernel
  have hinside := hsafe.inside hcanon hroot ⟨by decide, by rintro ⟨rest, hrest⟩; cases hrest⟩ hwithin
  exact absurd hinside.2 (by decide +kernel)

end Safe

end VeraMesh.Gateway

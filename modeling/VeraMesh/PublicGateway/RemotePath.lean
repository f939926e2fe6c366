import VeraMesh.Gateway.NormalForm
import VeraMesh.Python.Path

/-!
# Remote paths of the public gateway

`canonical_remote_path` of `public_gateway.py` and the resource claims on its paths.

## Main definitions

* `canonicalRemotePath`: the function, and `fsClaim` and `cwdClaim`.
* `driveNames`: how many names of a UNC path `ntpath` takes for its drive, and `uncNames` for the
  names that it leaves.

## Main results

* `canonicalRemotePath_drive`, `canonicalRemotePath_unc`, `canonicalRemotePath_posix`: the canonical
  path by the components that `..` leaves, for each of the three kinds of paths.
-/

namespace VeraMesh.PublicGateway

open Python Gateway

/-! ## The function -/

/-- The test for a path on a drive. -/
def hasDrive (raw : List Char) : Bool :=
  3 ≤ raw.length && raw[1]? == some ':' && (raw[2]? == some '\\' || raw[2]? == some '/')

/-- The test for the syntax of Windows. -/
def isWindows (raw : List Char) : Bool := hasDrive raw || ['\\', '\\'].isPrefixOf raw

/-- `c` of `s.replace("\\", "/")`. -/
def slash (c : Char) : Char := if c = '\\' then '/' else c

/-- `canonical_remote_path` of a string. -/
def canonicalRemotePath (value : String) : Except PyError String :=
  let raw := strip value.toList
  if raw = [] then .error ⟨.valueError, "path must be a non-empty absolute string"⟩
  else if isWindows raw then
    let normalized := (NtPath.normpath raw).map slash
    if !NtPath.isabs raw then .error ⟨.valueError, "path must be absolute"⟩
    else .ok (.ofList normalized)
  else
    let normalized := PosixPath.normpath raw
    if !PosixPath.isabs normalized then .error ⟨.valueError, "path must be absolute"⟩
    else .ok (.ofList normalized)

/-- How many names of a UNC path belong to its drive: a host and a share, or the four of
`//?/UNC/host/share`. -/
def driveNames (raw : List Char) : ℕ :=
  if ((raw.map NtPath.backslash).take 8).map Char.toUpper = NtPath.uncPrefix then 4 else 2

/-- What is between the separators of a UNC path. -/
def uncPieces (raw : List Char) : List (List Char) := ((raw.drop 2).map slash).splitOn '/'

/-- The components that are left below the drive of a UNC path. -/
def belowDrive (raw : List Char) : List (List Char) :=
  (((uncPieces raw).drop (driveNames raw)).foldl resolveSegment []).reverse

/-- The names of a canonical UNC path, with an empty one for a slash at the end. -/
def uncNames (raw : List Char) : List (List Char) :=
  (uncPieces raw).take (driveNames raw) ++
    if (uncPieces raw).drop (driveNames raw) = [] then []
    else if belowDrive raw = [] then [[]] else belowDrive raw

/-- `_fs_claim` and `_cwd_claim`, by the scheme of the key. -/
def pathClaim (scheme path mode : String) : Except PyError (List (String × String)) := do
  let canon ← canonicalRemotePath path
  return [("key", scheme ++ canon), ("mode", mode)]

/-- `_fs_claim`. -/
def fsClaim (path mode : String) : Except PyError (List (String × String)) :=
  pathClaim "fs:" path mode

/-- `_cwd_claim`. -/
def cwdClaim (path mode : String) : Except PyError (List (String × String)) :=
  pathClaim "cwd:" path mode

/-! ## What is left of `..` -/

section Resolve

variable {s : List Char} {segments stack : List (List Char)}
  {read : List (List Char) → List Char → List (List Char)}

/-- A loop that reads by POSIX rules as long as no `..` is left leaves none. -/
theorem foldl_read (hread : ∀ stack segment, ['.', '.'] ∉ stack →
      read stack segment = resolveSegment stack segment) (hstack : ['.', '.'] ∉ stack) :
    segments.foldl read stack = segments.foldl resolveSegment stack := by
  induction segments generalizing stack with
  | nil => rfl
  | cons segment segments ih =>
    have hnext : ['.', '.'] ∉ resolveSegment stack segment := by
      rw [resolveSegment]
      split_ifs with hskip hparent
      · exact hstack
      · exact fun hmem => hstack (List.mem_of_mem_tail hmem)
      · rw [List.mem_cons, not_or]
        exact ⟨fun heq => hparent heq.symm, hstack⟩
    rw [List.foldl_cons, List.foldl_cons, hread stack segment hstack]
    exact ih hnext

/-- `ntpath.normpath` reads by POSIX rules below a root. -/
theorem foldl_ntReadComp (segments : List (List Char)) :
    segments.foldl (NtPath.readComp true) [] = segments.foldl resolveSegment [] := by
  apply foldl_read
  · intro stack segment hstack
    by_cases hskip : segment = [] ∨ segment = ['.']
    · rw [NtPath.readComp.eq_def, resolveSegment, if_pos hskip, if_pos hskip]
    · rw [NtPath.readComp.eq_def, resolveSegment, if_neg hskip, if_neg hskip]
      by_cases hparent : segment = ['.', '.']
      · rw [if_pos hparent, if_pos hparent]
        cases stack with
        | nil => rfl
        | cons last earlier =>
          have hlast : last ≠ ['.', '.'] := fun heq => hstack (heq ▸ List.mem_cons_self)
          exact if_pos hlast
      · rw [if_neg hparent, if_neg hparent]
  · exact List.not_mem_nil

/-- `posixpath.normpath` reads by POSIX rules below a root. -/
theorem foldl_posixReadComp {slashes : ℕ} (hslashes : slashes ≠ 0) (segments : List (List Char)) :
    segments.foldl (PosixPath.readComp slashes) [] = segments.foldl resolveSegment [] := by
  apply foldl_read
  · intro stack segment hstack
    have hhead : stack.head? ≠ some ['.', '.'] := fun heq => hstack (List.mem_of_mem_head? heq)
    rw [PosixPath.readComp, resolveSegment]
    simp only [hslashes, hhead, false_and, or_false, ne_eq, ite_not]
  · exact List.not_mem_nil

/-- Separators in front do not matter. -/
theorem foldl_resolveSegment_lstrip (s : List Char) (stack : List (List Char)) :
    ((s.dropWhile (· = '\\')).splitOn '\\').foldl resolveSegment stack =
      (s.splitOn '\\').foldl resolveSegment stack := by
  induction s with
  | nil => rfl
  | cons c s ih =>
    by_cases hc : c = '\\'
    · have hempty : resolveSegment stack [] = stack := if_pos (Or.inl rfl)
      rw [List.dropWhile_cons_of_pos (by simpa using hc), ih,
        List.splitOn_cons_eq_if_modifyHead, if_pos (by simpa using hc), List.foldl_cons, hempty]
    · rw [List.dropWhile_cons_of_neg (by simpa using hc)]

end Resolve

/-! ## Separators -/

section Separators

variable {s : List Char} {l : List (List Char)}

theorem slash_eq_self {c : Char} (h : c ≠ '\\') : slash c = c := if_neg h

@[simp] theorem slash_backslash (c : Char) : slash (NtPath.backslash c) = slash c := by
  rw [NtPath.backslash]
  split_ifs with hc
  · rw [hc]
    rfl
  · rfl

@[simp] theorem map_slash_backslash (s : List Char) :
    (s.map NtPath.backslash).map slash = s.map slash := by
  rw [List.map_map]
  exact List.map_congr_left fun c _ => slash_backslash c

@[simp] theorem backslash_backslash (c : Char) :
    NtPath.backslash (NtPath.backslash c) = NtPath.backslash c := by
  unfold NtPath.backslash
  split_ifs with h h'
  · exact absurd h' (by decide)
  · rfl
  · rfl

@[simp] theorem map_backslash_backslash (s : List Char) :
    (s.map NtPath.backslash).map NtPath.backslash = s.map NtPath.backslash := by
  rw [List.map_map]
  exact List.map_congr_left fun c _ => backslash_backslash c

/-- The pieces between separators, whichever stands for both. -/
theorem splitOn_backslash (s : List Char) :
    (s.map NtPath.backslash).splitOn '\\' = (s.map slash).splitOn '/' := by
  induction s with
  | nil => rfl
  | cons c s ih =>
    rw [List.map_cons, List.map_cons, List.splitOn_cons_eq_if_modifyHead,
      List.splitOn_cons_eq_if_modifyHead, ih]
    by_cases hslash : c = '/'
    · subst hslash
      rfl
    · by_cases hback : c = '\\'
      · subst hback
        rfl
      · rw [slash_eq_self hback, NtPath.backslash, if_neg hslash]
        simp only [beq_iff_eq, hslash, hback, if_false]

theorem map_slash_eq_self (h : '\\' ∉ s) : s.map slash = s := by
  conv_rhs => rw [← List.map_id s]
  exact List.map_congr_left fun c hc => slash_eq_self fun heq => h (heq ▸ hc)

theorem map_slash_intercalate (h : ∀ a ∈ l, '\\' ∉ a) :
    (['\\'].intercalate l).map slash = ['/'].intercalate l := by
  induction l with
  | nil => rfl
  | cons a l ih =>
    obtain ⟨ha, hl⟩ := List.forall_mem_cons.mp h
    cases l with
    | nil => simp [map_slash_eq_self ha]
    | cons b l =>
      rw [List.intercalate_cons_cons, List.intercalate_cons_cons, List.map_append, List.map_append,
        map_slash_eq_self ha, ih hl]
      rfl

end Separators

/-! ## `ntpath.normpath` -/

section Normpath

variable {path drive rest : List Char}

/-- A path that is all drive is kept. -/
theorem normpath_of_drive (h : NtPath.splitdrive (path.map NtPath.backslash) = (drive, []))
    (hne : drive ≠ []) : NtPath.normpath path = drive := by
  rw [NtPath.normpath, h]
  simp [hne, NtPath.readComp]

/-- Below a drive, the components that are left. -/
theorem normpath_of_root
    (h : NtPath.splitdrive (path.map NtPath.backslash) = (drive, '\\' :: rest)) :
    (NtPath.normpath path).map slash = drive.map slash ++
      '/' :: ['/'].intercalate ((rest.splitOn '\\').foldl resolveSegment []).reverse := by
  have hcomps : ((('\\' :: rest).dropWhile (· = '\\')).splitOn '\\').foldl
      (NtPath.readComp true) [] = (rest.splitOn '\\').foldl resolveSegment [] := by
    rw [foldl_ntReadComp, List.dropWhile_cons_of_pos (by simp), foldl_resolveSegment_lstrip]
  have hpieces : ∀ a ∈ ((rest.splitOn '\\').foldl resolveSegment []).reverse, '\\' ∉ a := by
    intro a ha
    have hmem := mem_foldl_resolveSegment (List.mem_reverse.mp ha)
    exact not_mem_of_mem_splitOn (hmem.resolve_left List.not_mem_nil)
  rw [NtPath.normpath, h]
  simp only [List.head?_cons, if_true, List.getLast?_concat, beq_self_eq_true]
  rw [hcomps, if_neg (by simp), List.map_append, List.map_append, map_slash_intercalate hpieces,
    List.append_assoc]
  rfl

end Normpath

/-! ## The drive of a UNC path -/

section Drive

variable {below : List Char}

theorem toUpper_eq_backslash {c : Char} : c.toUpper = '\\' ↔ c = '\\' := by
  constructor
  · intro h
    rw [Char.toUpper] at h
    split_ifs at h with hlower
    · -- an upper-case letter
      have hval := congrArg Char.val h
      dsimp only at hval
      have hshift : '\\'.val - ('A'.val - 'a'.val) = '|'.val := by decide
      have hletter : c.val = '|'.val := by
        rw [← hshift, ← hval]
        exact (UInt32.add_sub_cancel _ _).symm
      rw [hletter] at hlower
      exact absurd hlower.2 (by decide)
    · exact h
  · rintro rfl
    rfl

theorem uncPieces_eq (below : List Char) :
    uncPieces ('\\' :: '\\' :: below) = (below.map NtPath.backslash).splitOn '\\' := by
  rw [splitOn_backslash]
  rfl

/-- The pieces of a path that begins with the prefix of a UNC share of a device. -/
theorem uncPieces_of_device {path : List Char}
    (h : (path.take 8).map Char.toUpper = NtPath.uncPrefix) :
    ∃ host share, host.length = 1 ∧ share.length = 3 ∧
      path.take 8 = '\\' :: '\\' :: (host ++ '\\' :: (share ++ ['\\'])) ∧
        (path.drop 2).splitOn '\\' = host :: share :: (path.drop 8).splitOn '\\' := by
  have hdevice : NtPath.uncPrefix = ['\\', '\\', '?', '\\', 'U', 'N', 'C', '\\'] := rfl
  rw [hdevice] at h
  simp only [List.map_eq_cons_iff, List.map_eq_nil_iff] at h
  obtain ⟨c₀, _, htake, h₀, c₁, _, rfl, h₁, c₂, _, rfl, h₂, c₃, _, rfl, h₃, c₄, _, rfl, h₄, c₅, _,
    rfl, h₅, c₆, _, rfl, h₆, c₇, _, rfl, h₇, rfl⟩ := h
  obtain rfl := toUpper_eq_backslash.mp h₀
  obtain rfl := toUpper_eq_backslash.mp h₁
  obtain rfl := toUpper_eq_backslash.mp h₃
  obtain rfl := toUpper_eq_backslash.mp h₇
  have hnot : ∀ {c d : Char}, c.toUpper = d → d ≠ '\\' → '\\' ≠ c := by
    rintro c d hc hd rfl
    exact hd (hc.symm.trans (toUpper_eq_backslash.mpr rfl))
  refine ⟨[c₂], [c₄, c₅, c₆], rfl, rfl, htake, ?_⟩
  have hdrop : path.drop 2 = [c₂] ++ '\\' :: ([c₄, c₅, c₆] ++ '\\' :: path.drop 8) := by
    conv_lhs => rw [← List.take_append_drop 8 path, htake]
    rfl
  have hhost : '\\' ∉ [c₂] := by
    simpa using hnot h₂ (by decide)
  have hshare : '\\' ∉ [c₄, c₅, c₆] := by
    simpa using ⟨hnot h₄ (by decide), hnot h₅ (by decide), hnot h₆ (by decide)⟩
  rw [hdrop, List.splitOn_append_cons_self, List.splitOn_append_cons_self,
    List.splitOn_eq_singleton hhost, List.splitOn_eq_singleton hshare]
  rfl

/-- The drive of a UNC path are its first names, and all of it if there are no others. -/
theorem splitdrive_unc {raw : List Char} (hraw : raw = '\\' :: '\\' :: below) :
    NtPath.splitdrive (raw.map NtPath.backslash) =
      if (uncPieces raw).drop (driveNames raw) = [] then (raw.map NtPath.backslash, [])
      else ('\\' :: '\\' :: ['\\'].intercalate ((uncPieces raw).take (driveNames raw)),
        '\\' :: ['\\'].intercalate ((uncPieces raw).drop (driveNames raw))) := by
  have hpieces : uncPieces raw = ((raw.map NtPath.backslash).drop 2).splitOn '\\' := by
    rw [hraw, uncPieces_eq]
    rfl
  have htwo : (raw.map NtPath.backslash).take 2 = ['\\', '\\'] := by
    rw [hraw]
    rfl
  rw [NtPath.splitdrive, map_backslash_backslash, if_pos htwo, hpieces, driveNames]
  generalize raw.map NtPath.backslash = path at htwo
  split_ifs with hdevice hnil hnil
  · -- the prefix and at most two names
    obtain ⟨host, share, -, -, -, hsplit⟩ := uncPieces_of_device hdevice
    apply NtPath.splitShare_of_length
    rw [hsplit] at hnil
    have hle := List.drop_eq_nil_iff.mp hnil
    simp only [List.length_cons] at hle
    omega
  · obtain ⟨host, share, -, -, htake, hsplit⟩ := uncPieces_of_device hdevice
    rw [hsplit] at hnil ⊢
    match hrest : (path.drop 8).splitOn '\\' with
    | [] | [_] | [_, _] => exact absurd (by rw [hrest]; rfl) hnil
    | host' :: share' :: next :: rest =>
      rw [NtPath.splitShare_of_cons hrest, htake]
      simp [List.intercalate_cons_cons]
  · apply NtPath.splitShare_of_length
    have hle := List.drop_eq_nil_iff.mp hnil
    omega
  · match hrest : (path.drop 2).splitOn '\\' with
    | [] | [_] | [_, _] => exact absurd (by rw [hrest]; rfl) hnil
    | host :: share :: next :: rest =>
      rw [NtPath.splitShare_of_cons hrest, htwo]
      simp [List.intercalate_cons_cons]

end Drive

/-! ## The canonical path -/

section Canonical

variable {value canon : String} {letter c : Char} {raw rest : List Char}

theorem posixComponents_slash (s : List Char) :
    posixComponents ('/' :: s) = ((s.splitOn '/').foldl resolveSegment []).reverse := by
  have hcut := List.splitOn_append_cons_self (a := '/') [] s
  rw [List.nil_append, List.splitOn_nil] at hcut
  rw [posixComponents, hcut]
  rfl

/-- An accepted path of Windows. -/
theorem canonicalRemotePath_windows (hraw : strip value.toList = raw)
    (hwin : isWindows raw = true) (h : canonicalRemotePath value = .ok canon) :
    canon.toList = (NtPath.normpath raw).map slash := by
  unfold canonicalRemotePath at h
  rw [hraw] at h
  dsimp only at h
  split_ifs at h
  rw [← Except.ok.inj h, String.toList_ofList]

/-- On a drive. -/
theorem canonicalRemotePath_drive (hraw : strip value.toList = letter :: ':' :: c :: rest)
    (hc : slash c = '/') (h : canonicalRemotePath value = .ok canon) :
    canon.toList = slash letter :: ':' :: joinPath (posixComponents ('/' :: rest.map slash)) := by
  have hsep : c = '\\' ∨ c = '/' := by
    by_contra hnot
    rw [not_or] at hnot
    rw [slash_eq_self hnot.1] at hc
    exact hnot.2 hc
  have hwin : isWindows (letter :: ':' :: c :: rest) = true := by
    rcases hsep with rfl | rfl <;> simp [isWindows, hasDrive]
  have hback : NtPath.backslash c = '\\' := by
    rcases hsep with rfl | rfl <;> rfl
  have hsplit : NtPath.splitdrive ((letter :: ':' :: c :: rest).map NtPath.backslash) =
      ([NtPath.backslash letter, ':'], '\\' :: rest.map NtPath.backslash) := by
    have hcolon : NtPath.backslash ':' = ':' := rfl
    rw [NtPath.splitdrive, map_backslash_backslash]
    simp [hback, hcolon]
  rw [canonicalRemotePath_windows hraw hwin h, normpath_of_root hsplit, splitOn_backslash,
    posixComponents_slash]
  simp [joinPath]
  rfl

/-- With the syntax of UNC. -/
theorem canonicalRemotePath_unc {below : List Char} (hraw : strip value.toList = raw)
    (hunc : raw = '\\' :: '\\' :: below) (h : canonicalRemotePath value = .ok canon) :
    canon.toList = '/' :: '/' :: ['/'].intercalate (uncNames raw) := by
  have hwin : isWindows raw = true := by
    rw [hunc]
    simp [isWindows, hasDrive]
  have hback : ∀ a ∈ uncPieces raw, '\\' ∉ a := by
    rw [hunc, uncPieces_eq]
    exact fun a ha => not_mem_of_mem_splitOn ha
  have hdrive := splitdrive_unc hunc
  rw [canonicalRemotePath_windows hraw hwin h, uncNames]
  split_ifs at hdrive ⊢ with hnil hbelow hbelow
  · -- all drive
    have hall : (uncPieces raw).take (driveNames raw) = uncPieces raw :=
      List.take_of_length_le (List.drop_eq_nil_iff.mp hnil)
    have hne : raw.map NtPath.backslash ≠ [] := by
      rw [hunc]
      exact List.cons_ne_nil _ _
    rw [normpath_of_drive hdrive hne, map_slash_backslash, List.append_nil, hall, uncPieces,
      List.intercalate_splitOn, hunc]
    rfl
  all_goals
    have htake : (uncPieces raw).take (driveNames raw) ≠ [] := by
      intro htake
      rw [List.take_eq_nil_iff] at htake
      rcases htake with hzero | hpieces
      · rw [driveNames] at hzero
        split_ifs at hzero
      · exact hnil (by rw [hpieces, List.drop_nil])
    have hsplit : (['\\'].intercalate ((uncPieces raw).drop (driveNames raw))).splitOn '\\' =
        (uncPieces raw).drop (driveNames raw) :=
      List.splitOn_intercalate '\\' (fun a ha => hback a (List.mem_of_mem_drop ha)) hnil
    have htext := normpath_of_root hdrive
    rw [hsplit, List.map_cons, List.map_cons,
      map_slash_intercalate fun a ha => hback a (List.mem_of_mem_take ha)] at htext
    change _ = _ ++ '/' :: ['/'].intercalate (belowDrive raw) at htext
    rw [htext, intercalate_sep_append htake (by simp [hbelow])]
  · rw [hbelow]
    rfl
  · rfl

/-- A relative path stays relative. -/
theorem normpath_of_relative (hrel : raw.head? ≠ some '/') :
    PosixPath.normpath raw = cleanPath raw := by
  have hrooted : (raw.head? == some '/') = false := by simpa using hrel
  have hread : PosixPath.readComp 0 = cleanSegment false := by
    ext1 stack
    ext1 segment
    rw [PosixPath.readComp, cleanSegment.eq_def]
    cases stack with
    | nil => simp
    | cons top rest =>
      by_cases htop : top = ['.', '.']
      · simp [htop]
      · simp [htop]
  unfold PosixPath.normpath cleanPath
  simp [PosixPath.initialSlashes, hrel, hrooted, hread]

/-- With the syntax of POSIX: the path is absolute, and two slashes at its beginning are kept. -/
theorem canonicalRemotePath_posix (hraw : strip value.toList = raw)
    (hwin : isWindows raw = false) (h : canonicalRemotePath value = .ok canon) :
    raw.head? = some '/' ∧
      canon.toList = List.replicate (PosixPath.initialSlashes raw - 1) '/' ++
        joinPath (posixComponents raw) := by
  unfold canonicalRemotePath at h
  rw [hraw] at h
  dsimp only at h
  rw [hwin] at h
  simp only [Bool.false_eq_true, if_false] at h
  split_ifs at h with hempty habs
  have hhead : raw.head? = some '/' := by
    by_contra hrel
    rw [normpath_of_relative hrel] at habs
    exact habs (by simpa [PosixPath.isabs] using head?_cleanPath_of_not_rooted hrel)
  refine ⟨hhead, ?_⟩
  have hslashes : PosixPath.initialSlashes raw ≠ 0 := by
    rw [PosixPath.initialSlashes]
    split_ifs <;> simp_all
  obtain ⟨n, hn⟩ := Nat.exists_eq_succ_of_ne_zero hslashes
  have hnormal : PosixPath.normpath raw =
      List.replicate (n + 1) '/' ++ ['/'].intercalate (posixComponents raw) := by
    rw [PosixPath.normpath, hn, foldl_posixReadComp (Nat.succ_ne_zero n), if_neg (by simp [List.replicate_succ])]
    rfl
  rw [← Except.ok.inj h, String.toList_ofList, hnormal, hn, joinPath, List.replicate_succ']
  simp

end Canonical

end VeraMesh.PublicGateway

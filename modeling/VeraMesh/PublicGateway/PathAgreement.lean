import Mathlib.Data.List.TakeWhile
import VeraMesh.Gateway.Facade
import VeraMesh.PublicGateway.RemotePath

/-!
# Paths of the two gateways

`CanonicalRemotePath` (`facade.go`) and `canonical_remote_path` (`public_gateway.py`) derive the key
of a lane claim from the path that a client names. They agree on paths on a drive, and on paths of
POSIX without backslashes, up to the separators `U+001C` to `U+001F`, which are white space for one
of them only, and dots as the host or the share.

* On a POSIX path the one takes a backslash for a separator, the other for a character of a name.
* The one leaves a share without a slash at the end, the other with the one that was there.
* For `ntpath` the drive of `//?/UNC/host/share` ends with the share.

## Main results

* `canonicalisedAlike_iff`: the gateways make the same path and the same claims of an argument that
  both accept exactly if it is `ReadAlike`.
-/

namespace VeraMesh.PublicGateway

open Python Gateway

/-- A claim as it stands in a request. -/
def claimValue (claim : List (String × String)) : GoValue :=
  .map (claim.map fun (name, text) => (name, .str text))

/-- The gateways make the same path of an argument that both accept, and the same claims. -/
def CanonicalisedAlike (value : String) : Prop :=
  ∀ go python, Gateway.canonicalRemotePath value = .ok go →
    canonicalRemotePath value = .ok python →
      go = python ∧ ∀ mode,
        (Gateway.fsClaim value mode).toOption =
            ((fsClaim value mode).map claimValue).toOption ∧
          (Gateway.cwdClaim value mode).toOption =
            ((cwdClaim value mode).map claimValue).toOption

/-- Both gateways accept an argument. -/
def Accepted (value : String) : Prop :=
  (∃ go, Gateway.canonicalRemotePath value = .ok go) ∧
    ∃ python, canonicalRemotePath value = .ok python

/-- What makes the gateways read an argument alike. `raw` is the argument without white space
around it as `str.strip` takes it, `trimmed` as `strings.TrimSpace` takes it. -/
def ReadAlike (value : String) : Prop :=
  let raw := strip value.toList
  let trimmed := trimSpace value.toList
  if hasDrive raw then raw = trimmed
  else if ['\\', '\\'].isPrefixOf raw then
    -- a share with nothing below it, or with some component that is left below it
    ((uncPieces raw).drop (driveNames raw) = [] ∨ belowDrive raw ≠ []) ∧
      if driveNames raw = 2 then raw = trimmed
      else (uncPieces raw).take 4 ++ belowDrive raw = (readPath (slashed value)).names
  else if '\\' ∈ raw then
    -- the same components are left whatever a backslash is
    raw[1]? ≠ some '\\' ∧ posixComponents raw = (readPath (slashed value)).names
  else raw = trimmed ∧ ∀ name ∈ (readPath raw).root.names, name ≠ ['.'] ∧ name ≠ ['.', '.']

/-! ## White space -/

section Blank

variable {value go : String} {s t z : List Char} {front stack : List (List Char)}

theorem dropWhile_dropWhile_of_imp {p q : Char → Bool} (h : ∀ c, p c = true → q c = true)
    (l : List Char) : (l.dropWhile p).dropWhile q = l.dropWhile q := by
  induction l with
  | nil => rfl
  | cons c l ih =>
    by_cases hp : p c = true
    · rw [List.dropWhile_cons_of_pos hp, List.dropWhile_cons_of_pos (h c hp), ih]
    · rw [List.dropWhile_cons_of_neg hp]

/-- White space for the one is white space for the other. -/
theorem isSpace_of_isSpace {c : Char} (h : Gateway.isSpace c = true) :
    Python.isSpace c = true := by
  have hle : ∀ {a b : Char}, a ≤ b → a.toNat ≤ b.toNat := fun h => UInt32.le_iff_toNat_le.mp h
  simp only [Gateway.isSpace, Bool.or_eq_true, Bool.and_eq_true, decide_eq_true_eq] at h
  rcases h with (⟨hfirst, hlast⟩ | hmem) | ⟨hfirst, hlast⟩
  · have h₁ : 9 ≤ c.toNat := hle hfirst
    have h₂ : c.toNat ≤ 13 := hle hlast
    simp [Python.isSpace, h₁, h₂]
  · simp only [List.mem_cons, List.not_mem_nil, or_false] at hmem
    rcases hmem with rfl | rfl | rfl | rfl | rfl | rfl | rfl | rfl | rfl <;> rfl
  · have h₁ : 0x2000 ≤ c.toNat := hle hfirst
    have h₂ : c.toNat ≤ 0x200A := hle hlast
    simp [Python.isSpace, h₁, h₂]

/-- An accepted path begins with a slash or a letter. -/
theorem head_of_canonicalSlashed {out : List Char} (hback : '\\' ∉ s) (hnul : '\x00' ∉ s)
    (h : canonicalSlashed s = .ok out) :
    ∃ a rest, s = a :: rest ∧ (a = '/' ∨ a.isAlpha = true ∧ a.toNat < 128) := by
  obtain ⟨-, hwell, hposix⟩ := canonicalSlashed_eq_text hback hnul h
  rcases readPath_cases s with ⟨letter, rest, rfl, hread⟩ | ⟨rest, -, -, -, rfl, -, -⟩ | hread
  · exact ⟨letter, _, rfl, Or.inr (hwell.letter letter (by rw [hread]))⟩
  · exact ⟨'/', _, rfl, Or.inl rfl⟩
  · obtain ⟨rest, rfl⟩ := List.head?_eq_some_iff.mp (hposix (by rw [hread]))
    exact ⟨'/', rest, rfl, Or.inl rfl⟩

/-- `str.strip` may take more at the end. -/
theorem trimSpace_eq_strip_append (h : Gateway.canonicalRemotePath value = .ok go) :
    ∃ t, trimSpace value.toList = strip value.toList ++ t ∧ ∀ c ∈ t, Python.isSpace c = true := by
  obtain ⟨hslashed, hback, hnul⟩ := canonicalRemotePath_eq_ok h
  obtain ⟨a, rest, hhead, ha⟩ := head_of_canonicalSlashed hback hnul hslashed
  -- the first character is white space for neither
  have hfirst : ∀ c l, trimSpace value.toList = c :: l → Python.isSpace c = false := by
    intro c l hl
    rw [slashed, hl, List.map_cons] at hhead
    have hc : slash c = a := (List.cons.inj hhead).1
    rw [slash] at hc
    split_ifs at hc with hsep
    · rw [hsep]
      rfl
    · subst hc
      rcases ha with rfl | ⟨halpha, hascii⟩
      · rfl
      · have hall : ∀ n : Fin 128, (Char.ofNat n).isAlpha = true →
            Python.isSpace (Char.ofNat n) = false := by decide
        have hletter := hall ⟨c.toNat, hascii⟩
        rw [Char.ofNat_toNat] at hletter
        exact hletter halpha
  have himp : ∀ c, Gateway.isSpace c = true → Python.isSpace c = true := fun c hc =>
    isSpace_of_isSpace hc
  have hlead : value.toList.dropWhile Python.isSpace = value.toList.dropWhile Gateway.isSpace := by
    obtain ⟨c, l, hcons⟩ : ∃ c l, trimSpace value.toList = c :: l := by
      apply List.exists_cons_of_ne_nil
      rintro hnil
      rw [slashed, hnil] at hhead
      cases hhead
    obtain ⟨tail, htail⟩ : trimSpace value.toList <+: value.toList.dropWhile Gateway.isSpace := by
      rw [trimSpace, ← List.reverse_suffix, List.reverse_reverse]
      exact List.dropWhile_suffix _
    rw [hcons, List.cons_append] at htail
    rw [← dropWhile_dropWhile_of_imp himp, ← htail,
      List.dropWhile_cons_of_neg (by rw [hfirst c l hcons]; decide)]
  have hstrip : strip value.toList =
      ((trimSpace value.toList).reverse.dropWhile Python.isSpace).reverse := by
    rw [strip, hlead, ← dropWhile_dropWhile_of_imp himp (List.reverse _), trimSpace,
      List.reverse_reverse]
  refine ⟨((trimSpace value.toList).reverse.takeWhile Python.isSpace).reverse, ?_, ?_⟩
  · rw [hstrip, ← List.reverse_append, List.takeWhile_append_dropWhile, List.reverse_reverse]
  · intro c hc
    exact List.mem_takeWhile_imp (List.mem_reverse.mp hc)

theorem not_mem_of_blank (hblank : ∀ c ∈ t, Python.isSpace c = true) {c : Char}
    (hc : Python.isSpace c = false) : c ∉ t := fun hmem => by
  rw [hblank c hmem] at hc
  cases hc

/-- A segment that goes on with white space is a name. -/
theorem resolveSegment_append (ht : t ≠ []) (hblank : ∀ c ∈ t, Python.isSpace c = true) :
    resolveSegment stack (z ++ t) = (z ++ t) :: stack := by
  obtain ⟨b, hb⟩ := List.exists_mem_of_ne_nil t ht
  have hnot : ∀ {w : List Char}, (∀ c ∈ w, Python.isSpace c = false) → z ++ t ≠ w := by
    rintro w hw rfl
    have hfalse := hw b (List.mem_append_right z hb)
    rw [hblank b hb] at hfalse
    cases hfalse
  have hdot : Python.isSpace '.' = false := rfl
  have hskip : ¬(z ++ t = [] ∨ z ++ t = ['.']) := by
    rw [not_or]
    exact ⟨hnot (by simp), hnot (by simp [hdot])⟩
  rw [resolveSegment, if_neg hskip, if_neg (hnot (by simp [hdot]))]

/-- White space after the last segment makes a difference to what is left. -/
theorem foldl_resolveSegment_append (ht : t ≠ []) (hblank : ∀ c ∈ t, Python.isSpace c = true) :
    (front ++ [z]).foldl resolveSegment stack ≠ (front ++ [z ++ t]).foldl resolveSegment stack := by
  rw [List.foldl_append, List.foldl_append]
  show resolveSegment _ z ≠ resolveSegment _ (z ++ t)
  generalize front.foldl resolveSegment stack = left
  rw [resolveSegment_append ht hblank, resolveSegment]
  intro heq
  have hlength := congrArg List.length heq
  split_ifs at heq hlength
  · simp at hlength
  · simp at hlength
  · exact ht (List.append_right_eq_self.mp (List.cons.inj heq).1.symm)

/-- So it does to the components of a path. -/
theorem posixComponents_append_iff (hblank : ∀ c ∈ t, Python.isSpace c = true) :
    posixComponents s = posixComponents (s ++ t) ↔ t = [] := by
  refine ⟨fun heq => ?_, fun ht => by rw [ht, List.append_nil]⟩
  by_contra ht
  obtain ⟨front, z, hsplit⟩ :=
    (List.eq_nil_or_concat' (s.splitOn '/')).resolve_left (List.splitOn_ne_nil '/' s)
  have hmore := splitOn_append_of_not_mem hsplit (not_mem_of_blank hblank (c := '/') rfl)
  rw [posixComponents, posixComponents, List.reverse_inj, hsplit, hmore] at heq
  exact foldl_resolveSegment_append ht hblank heq

theorem map_slash_blank (hblank : ∀ c ∈ t, Python.isSpace c = true) : t.map slash = t :=
  map_slash_eq_self (not_mem_of_blank hblank rfl)

end Blank

/-! ## The three kinds of paths -/

section Kinds

variable {value go python : String} {raw t below : List Char} {letter c : Char}
  {rest : List Char} (hgo : Gateway.canonicalRemotePath value = .ok go)
  (hpython : canonicalRemotePath value = .ok python) (hraw : strip value.toList = raw)
  (htrim : trimSpace value.toList = raw ++ t) (hblank : ∀ c ∈ t, Python.isSpace c = true)

include hgo in
theorem text_of_go : go.toList = (readPath (slashed value)).text ∧
    (readPath (slashed value)).WellFormed := by
  obtain ⟨hslashed, hback, hnul⟩ := canonicalRemotePath_eq_ok hgo
  obtain ⟨htext, hwell, -⟩ := canonicalSlashed_eq_text hback hnul hslashed
  exact ⟨htext, hwell⟩

include htrim hblank in
theorem slashed_of_trim : slashed value = raw.map slash ++ t := by
  have hslashed : slashed value = (trimSpace value.toList).map slash := rfl
  rw [hslashed, htrim, List.map_append, map_slash_blank hblank]

include htrim in
theorem raw_eq_trimmed_iff : raw = trimSpace value.toList ↔ t = [] := by
  rw [htrim]
  exact List.self_eq_append_right

include hgo hpython hraw htrim hblank in
/-- On a drive only the white space can make a difference. -/
theorem drive_iff (hcons : raw = letter :: ':' :: c :: rest) (hc : slash c = '/') :
    go = python ↔ t = [] := by
  have hread : readPath (slashed value) =
      ⟨.drive (slash letter), posixComponents ('/' :: rest.map slash ++ t)⟩ := by
    rw [slashed_of_trim htrim hblank, hcons, List.map_cons, List.map_cons, List.map_cons, hc]
    rfl
  obtain ⟨htext, hwell⟩ := text_of_go hgo
  have hcomponents : ∀ s, ∀ d ∈ posixComponents s, IsSegment d := fun s d hd =>
    (posixComponents_isComponent s d hd).isSegment
  rw [← String.toList_inj, htext, hread,
    canonicalRemotePath_drive (hraw.trans hcons) hc hpython]
  rw [← posixComponents_append_iff (s := '/' :: rest.map slash) hblank]
  constructor
  · intro heq
    have hjoin := (List.cons.inj (List.cons.inj heq).2).2
    exact (joinPath_injective (hcomponents _) (hcomponents _) hjoin).symm
  · intro heq
    rw [heq]
    rfl

theorem canonicalSlashed_unc (rest : List Char) :
    canonicalSlashed ('/' :: '/' :: rest) = canonicalUNC rest := rfl

/-- An accepted UNC path names a host and a share, and does not leave the share. -/
theorem unc_of_canonicalSlashed {out : List Char}
    (h : canonicalSlashed ('/' :: '/' :: rest) = .ok out) :
    ∃ host share segments stack, rest.splitOn '/' = host :: share :: segments ∧
      host ≠ [] ∧ share ≠ [] ∧ uncSegments [] segments = some stack := by
  rw [canonicalSlashed_unc, canonicalUNC.eq_def] at h
  split at h
  · next host share segments hsplit =>
    split_ifs at h with hnames
    rw [not_or] at hnames
    cases hstack : uncSegments [] segments with
    | none =>
      rw [hstack] at h
      cases h
    | some stack => exact ⟨host, share, segments, stack, hsplit, hnames.1, hnames.2, hstack⟩
  · cases h

/-- A path that does not leave its share resolves below any other names too. -/
theorem foldl_resolveSegment_of_uncSegments {segments stack names : List (List Char)}
    (base : List (List Char)) (h : uncSegments stack segments = some names) :
    segments.foldl resolveSegment (stack ++ base) = names ++ base := by
  induction segments generalizing stack with
  | nil =>
    rw [← Option.some.inj h]
    rfl
  | cons segment segments ih =>
    rw [uncSegments.eq_def] at h
    rw [List.foldl_cons, resolveSegment]
    dsimp only at h
    split_ifs at h ⊢ with hskip hparent
    · exact ih h
    · cases stack with
      | nil => cases h
      | cons top stack => exact ih h
    · exact ih h

/-- The names of a UNC path whose host and share are no dots are what is left of all segments. -/
theorem posixComponents_unc {host share : List Char} {segments stack : List (List Char)}
    (hsplit : rest.splitOn '/' = host :: share :: segments)
    (hstack : uncSegments [] segments = some stack) (hhost : IsComponent host)
    (hshare : IsComponent share) :
    posixComponents ('/' :: '/' :: rest) = (readPath ('/' :: '/' :: rest)).names := by
  have hfirst : resolveSegment [] host = [host] := by
    rw [resolveSegment, if_neg (by simp [hhost.1, hhost.2.1]), if_neg hhost.2.2.1]
  have hsecond : resolveSegment [host] share = [share, host] := by
    rw [resolveSegment, if_neg (by simp [hshare.1, hshare.2.1]), if_neg hshare.2.2.1]
  have hcut := List.splitOn_append_cons_self (a := '/') [] rest
  rw [List.nil_append, List.splitOn_nil, hsplit] at hcut
  have hempty : resolveSegment [] [] = [] := rfl
  rw [readPath_unc hsplit, posixComponents_slash, hcut]
  simp only [List.singleton_append, List.foldl_cons, hempty, hfirst, hsecond]
  rw [← uncSegments_eq hstack]
  have hbelow := foldl_resolveSegment_of_uncSegments [share, host] hstack
  rw [List.nil_append] at hbelow
  rw [hbelow, List.reverse_append]
  rfl

theorem belowDrive_of_nil (h : (uncPieces raw).drop (driveNames raw) = []) :
    belowDrive raw = [] := by
  rw [belowDrive, h]
  rfl

/-- No name in a reading is empty, so that a slash at the end makes a difference. -/
theorem uncNames_eq_iff {names : List (List Char)} (hnames : ∀ name ∈ names, name ≠ []) :
    uncNames raw = names ↔
      ((uncPieces raw).drop (driveNames raw) = [] ∨ belowDrive raw ≠ []) ∧
        (uncPieces raw).take (driveNames raw) ++ belowDrive raw = names := by
  rw [uncNames]
  split_ifs with hnil hbelow
  · rw [belowDrive_of_nil hnil]
    simp [hnil]
  · constructor
    · rintro rfl
      exact absurd rfl (hnames [] (by simp))
    · rintro ⟨hnil' | hne, -⟩
      · exact absurd hnil' hnil
      · exact absurd hbelow hne
  · simp [hbelow]

theorem not_mem_uncNames : ∀ name ∈ uncNames raw, '/' ∉ name := by
  have hpieces : ∀ name ∈ uncPieces raw, '/' ∉ name := fun name hname =>
    not_mem_of_mem_splitOn hname
  intro name hname
  rw [uncNames, List.mem_append] at hname
  rcases hname with hname | hname
  · exact hpieces name (List.mem_of_mem_take hname)
  · split_ifs at hname
    · cases hname
    · rw [List.mem_singleton.mp hname]
      exact List.not_mem_nil
    · have hmem := mem_foldl_resolveSegment (List.mem_reverse.mp hname)
      exact hpieces name (List.mem_of_mem_drop (hmem.resolve_left List.not_mem_nil))

theorem uncNames_ne_nil : uncNames raw ≠ [] := by
  have hpos : driveNames raw ≠ 0 := by
    rw [driveNames]
    split_ifs <;> decide
  have hpieces : uncPieces raw ≠ [] := List.splitOn_ne_nil '/' _
  rw [uncNames]
  simp [List.take_eq_nil_iff, hpos, hpieces]

include hgo hpython hraw htrim hblank in
/-- The two canonical paths of a UNC path are told by their names. -/
theorem unc_iff (hcons : raw = '\\' :: '\\' :: below) :
    go = python ↔ uncNames raw = (readPath (slashed value)).names := by
  have hslashed : slashed value = '/' :: '/' :: (below.map slash ++ t) := by
    rw [slashed_of_trim htrim hblank, hcons]
    rfl
  obtain ⟨hcanon, -, -⟩ := canonicalRemotePath_eq_ok hgo
  obtain ⟨host, share, segments, stack, hsplit, -, -, -⟩ :=
    unc_of_canonicalSlashed (hslashed ▸ hcanon)
  obtain ⟨htext, hwell⟩ := text_of_go hgo
  have hread := readPath_unc hsplit
  rw [← hslashed] at hread
  have hlead : (readPath (slashed value)).text =
      '/' :: '/' :: ['/'].intercalate (readPath (slashed value)).names := by
    rw [hread]
    rfl
  have hne : (readPath (slashed value)).names ≠ [] := by
    rw [hread]
    exact List.cons_ne_nil _ _
  rw [← String.toList_inj, htext, hlead, canonicalRemotePath_unc hraw hcons hpython]
  have hnames : ∀ name ∈ (readPath (slashed value)).names, '/' ∉ name := fun name hname =>
    (hwell.names name hname).1.2
  rw [List.cons_inj_right, List.cons_inj_right,
    intercalate_sep_inj hnames not_mem_uncNames hne uncNames_ne_nil]
  exact eq_comm

include hgo htrim hblank in
/-- Where the drive is a host and a share, only the white space can make a difference. -/
theorem share_iff (hcons : raw = '\\' :: '\\' :: below) (hdrive : driveNames raw = 2) :
    (uncPieces raw).take 2 ++ belowDrive raw = (readPath (slashed value)).names ↔ t = [] := by
  have hslashed : slashed value = '/' :: '/' :: (below.map slash ++ t) := by
    rw [slashed_of_trim htrim hblank, hcons]
    rfl
  have hpieces : uncPieces raw = (below.map slash).splitOn '/' := by
    rw [hcons]
    rfl
  obtain ⟨hcanon, -, -⟩ := canonicalRemotePath_eq_ok hgo
  obtain ⟨host, share, segments, stack, hsplit, -, -, -⟩ :=
    unc_of_canonicalSlashed (hslashed ▸ hcanon)
  obtain ⟨front, z, hfront⟩ := (List.eq_nil_or_concat' ((below.map slash).splitOn '/')).resolve_left
    (List.splitOn_ne_nil '/' _)
  have hmore := splitOn_append_of_not_mem hfront (not_mem_of_blank hblank (c := '/') rfl)
  rw [hslashed, readPath_unc hsplit, belowDrive, hdrive, hpieces, hfront]
  rw [hsplit] at hmore
  show _ = host :: share :: (segments.foldl resolveSegment []).reverse ↔ _
  -- the white space belongs to the share or to the last segment below it
  match front with
  | [] => cases hmore
  | [first] =>
    obtain ⟨rfl, hrest⟩ := List.cons.inj hmore
    obtain ⟨rfl, rfl⟩ := List.cons.inj hrest
    simp
  | first :: second :: front =>
    obtain ⟨rfl, hrest⟩ := List.cons.inj hmore
    obtain ⟨rfl, rfl⟩ := List.cons.inj hrest
    show host :: share :: ((front ++ [z]).foldl resolveSegment []).reverse = _ ↔ _
    rw [List.cons_inj_right, List.cons_inj_right, List.reverse_inj]
    constructor
    · intro heq
      by_contra ht
      exact foldl_resolveSegment_append ht hblank heq
    · rintro rfl
      rw [List.append_nil]
      rfl

include hgo hpython hraw htrim hblank in
/-- A POSIX path with a backslash after its first slash is a UNC path for the one. -/
theorem ne_of_slash_backslash (hwin : isWindows raw = false) (hcons : raw = '/' :: '\\' :: rest) :
    go ≠ python := by
  have hslashed : slashed value = '/' :: '/' :: (rest.map slash ++ t) := by
    rw [slashed_of_trim htrim hblank, hcons]
    rfl
  obtain ⟨hcanon, -, -⟩ := canonicalRemotePath_eq_ok hgo
  obtain ⟨host, share, segments, stack, hsplit, -, -, -⟩ :=
    unc_of_canonicalSlashed (hslashed ▸ hcanon)
  have htext := (text_of_go hgo).1
  rw [hslashed, readPath_unc hsplit] at htext
  obtain ⟨-, hposix⟩ := canonicalRemotePath_posix hraw hwin hpython
  rw [hcons] at hposix
  rintro rfl
  rw [htext] at hposix
  -- the second character of the one is a slash, the other's belongs to a name
  have hsecond : '/' :: ['/'].intercalate (host :: share :: _) =
      ['/'].intercalate (posixComponents ('/' :: '\\' :: rest)) := (List.cons.inj hposix).2
  have hcomponents := posixComponents_isComponent ('/' :: '\\' :: rest)
  cases hnames : posixComponents ('/' :: '\\' :: rest) with
  | nil =>
    rw [hnames] at hsecond
    cases hsecond
  | cons name names =>
    rw [hnames] at hsecond hcomponents
    obtain ⟨hne, -, -, hslash⟩ := hcomponents name List.mem_cons_self
    obtain ⟨a, name, rfl⟩ := List.exists_cons_of_ne_nil hne
    have ha : '/' = a := by
      cases names with
      | nil => exact (List.cons.inj hsecond).1
      | cons => exact (List.cons.inj hsecond).1
    exact hslash (ha ▸ List.mem_cons_self)

include hgo hpython hraw htrim hblank in
/-- Any other POSIX path is told by its names. -/
theorem posix_iff (hwin : isWindows raw = false) (hsecond : raw[1]? ≠ some '\\') :
    go = python ↔ posixComponents raw = (readPath (slashed value)).names := by
  obtain ⟨hhead, hposix⟩ := canonicalRemotePath_posix hraw hwin hpython
  obtain ⟨rest, rfl⟩ := List.head?_eq_some_iff.mp hhead
  obtain ⟨htext, hwell⟩ := text_of_go hgo
  obtain ⟨hcanon, hback, hnul⟩ := canonicalRemotePath_eq_ok hgo
  have hslashed : slashed value = '/' :: (rest.map slash ++ t) := by
    rw [slashed_of_trim htrim hblank]
    rfl
  have hcomponents : ∀ d ∈ posixComponents ('/' :: rest), IsSegment d := fun d hd =>
    (posixComponents_isComponent _ d hd).isSegment
  have hnames : ∀ d ∈ (readPath (slashed value)).names, IsSegment d := fun d hd =>
    (hwell.names d hd).1
  -- both have the same slashes in front
  have hlead : (readPath (slashed value)).root.lead =
      List.replicate (PosixPath.initialSlashes ('/' :: rest) - 1) '/' := by
    by_cases hdouble : rest.head? = some '/'
    · obtain ⟨rest, rfl⟩ := List.head?_eq_some_iff.mp hdouble
      have htwo : slashed value = '/' :: '/' :: (rest.map slash ++ t) := hslashed
      obtain ⟨host, share, segments, stack, hsplit, hhost, -, -⟩ :=
        unc_of_canonicalSlashed (htwo ▸ hcanon)
      have hread := readPath_unc hsplit
      have hthird : rest.head? ≠ some '/' := by
        intro hthird
        obtain ⟨rest, rfl⟩ := List.head?_eq_some_iff.mp hthird
        rw [List.map_cons, List.cons_append, List.splitOn_cons_eq_if_modifyHead] at hsplit
        exact hhost (List.cons.inj hsplit).1.symm
      have hslashes : PosixPath.initialSlashes ('/' :: '/' :: rest) = 2 := by
        cases rest with
        | nil => rfl
        | cons a rest =>
          have ha : a ≠ '/' := fun heq => hthird (by rw [heq]; rfl)
          simp [PosixPath.initialSlashes, ha.symm]
      rw [hslashes, htwo, hread]
      rfl
    · have hslashes : PosixPath.initialSlashes ('/' :: rest) = 1 := by
        cases rest with
        | nil => rfl
        | cons a rest =>
          have ha : a ≠ '/' := fun heq => hdouble (by rw [heq]; rfl)
          simp [PosixPath.initialSlashes, ha.symm]
      rw [hslashes]
      rcases readPath_cases (slashed value) with ⟨letter, more, heq, hread⟩ |
        ⟨more, -, -, -, heq, -, -⟩ | hread
      · -- a slash is no letter of a drive
        have hletter := (hwell.letter letter (by rw [hread])).1
        rw [hslashed] at heq
        rw [← (List.cons.inj heq).1] at hletter
        exact absurd hletter (by decide)
      · rw [hslashed] at heq
        have htail := (List.cons.inj heq).2
        cases rest with
        | nil =>
          have hmem : '/' ∈ t := by
            rw [List.map_nil, List.nil_append] at htail
            rw [htail]
            exact List.mem_cons_self
          exact absurd hmem (not_mem_of_blank hblank rfl)
        | cons a rest =>
          have ha : slash a = '/' := (List.cons.inj htail).1
          rw [slash_eq_self fun heq => hsecond (by rw [heq]; rfl)] at ha
          exact absurd (by rw [ha]; rfl) hdouble
      · rw [hread]
        rfl
  rw [← String.toList_inj, htext, hposix, PathReading.text, hlead, List.append_cancel_left_eq]
  constructor
  · intro heq
    exact (joinPath_injective hnames hcomponents heq).symm
  · intro heq
    rw [heq]

include hgo in
/-- Unless the host or the share are dots, an accepted POSIX path is what is left of it. -/
theorem posixComponents_slashed (hhead : (slashed value).head? = some '/')
    (hdots : ∀ name ∈ (readPath (slashed value)).root.names, name ≠ ['.'] ∧ name ≠ ['.', '.']) :
    posixComponents (slashed value) = (readPath (slashed value)).names := by
  obtain ⟨-, hwell⟩ := text_of_go hgo
  obtain ⟨hcanon, -, -⟩ := canonicalRemotePath_eq_ok hgo
  rcases readPath_cases (slashed value) with ⟨letter, rest, heq, hread⟩ |
    ⟨rest, -, -, -, heq, -, -⟩ | hread
  · have hletter := (hwell.letter letter (by rw [hread])).1
    rw [heq] at hhead
    rw [Option.some.inj hhead] at hletter
    exact absurd hletter (by decide)
  · rw [heq] at hcanon hdots hwell ⊢
    obtain ⟨host, share, segments, stack, hsplit, -, -, hstack⟩ := unc_of_canonicalSlashed hcanon
    rw [readPath_unc hsplit] at hdots hwell
    have hcomponent : ∀ name ∈ [host, share], IsComponent name := by
      intro name hname
      have hsegment := (hwell.names name (List.mem_append_left _ hname)).1
      have hdot := hdots name hname
      exact ⟨hsegment.1, hdot.1, hdot.2, hsegment.2⟩
    exact posixComponents_unc hsplit hstack (hcomponent host (by simp))
      (hcomponent share (by simp))
  · rw [hread]
    rfl

end Kinds

/-! ## The result -/

section Agreement

variable {value go python : String} {raw : List Char}

theorem hasDrive_eq (h : hasDrive raw = true) :
    ∃ letter c rest, raw = letter :: ':' :: c :: rest ∧ slash c = '/' := by
  rcases raw with _ | ⟨letter, _ | ⟨colon, _ | ⟨c, rest⟩⟩⟩
  · simp [hasDrive] at h
  · simp [hasDrive] at h
  · simp [hasDrive] at h
  · simp only [hasDrive, Bool.and_eq_true, Bool.or_eq_true, beq_iff_eq, List.getElem?_cons_succ,
      List.getElem?_cons_zero, Option.some.injEq] at h
    obtain ⟨⟨-, rfl⟩, rfl | rfl⟩ := h
    · exact ⟨letter, _, rest, rfl, rfl⟩
    · exact ⟨letter, _, rest, rfl, rfl⟩

/-- Two accepted paths are the same exactly if the argument is read alike. -/
theorem eq_iff_readAlike (hgo : Gateway.canonicalRemotePath value = .ok go)
    (hpython : canonicalRemotePath value = .ok python) : go = python ↔ ReadAlike value := by
  obtain ⟨t, htrim, hblank⟩ := trimSpace_eq_strip_append hgo
  generalize hraw : strip value.toList = raw at htrim
  rw [ReadAlike, hraw]
  rw [raw_eq_trimmed_iff htrim]
  have hnames : ∀ name ∈ (readPath (slashed value)).names, name ≠ [] := fun name hname =>
    ((text_of_go hgo).2.names name hname).1.1
  split_ifs with hdrive hunc hshare hback
  · obtain ⟨letter, c, rest, hcons, hc⟩ := hasDrive_eq hdrive
    exact drive_iff hgo hpython hraw htrim hblank hcons hc
  · obtain ⟨below, hcons⟩ := List.isPrefixOf_iff_prefix.mp hunc
    rw [unc_iff hgo hpython hraw htrim hblank hcons.symm, uncNames_eq_iff hnames]
    rw [hshare, share_iff hgo htrim hblank hcons.symm hshare]
  · obtain ⟨below, hcons⟩ := List.isPrefixOf_iff_prefix.mp hunc
    have hfour : driveNames raw = 4 := by
      unfold driveNames at hshare ⊢
      split_ifs at hshare ⊢
      · rfl
      · exact absurd rfl hshare
    rw [unc_iff hgo hpython hraw htrim hblank hcons.symm, uncNames_eq_iff hnames, hfour]
  · have hwin : isWindows raw = false := by
      rw [isWindows, Bool.or_eq_false_iff]
      exact ⟨Bool.eq_false_iff.mpr hdrive, Bool.eq_false_iff.mpr hunc⟩
    by_cases hsecond : raw[1]? = some '\\'
    · obtain ⟨hhead, -⟩ := canonicalRemotePath_posix hraw hwin hpython
      obtain ⟨rest, rfl⟩ := List.head?_eq_some_iff.mp hhead
      obtain ⟨rest, rfl⟩ : ∃ more, rest = '\\' :: more := List.head?_eq_some_iff.mp (by
        simpa [List.head?_eq_getElem?] using hsecond)
      have hne := ne_of_slash_backslash hgo hpython hraw htrim hblank hwin rfl
      simp [hne]
    · rw [posix_iff hgo hpython hraw htrim hblank hwin hsecond]
      simp [hsecond]
  · have hwin : isWindows raw = false := by
      rw [isWindows, Bool.or_eq_false_iff]
      exact ⟨Bool.eq_false_iff.mpr hdrive, Bool.eq_false_iff.mpr hunc⟩
    have hsecond : raw[1]? ≠ some '\\' := fun heq => hback (List.mem_of_getElem? heq)
    have hslashed : slashed value = raw ++ t := by
      rw [slashed_of_trim htrim hblank, map_slash_eq_self hback]
    obtain ⟨hhead, -⟩ := canonicalRemotePath_posix hraw hwin hpython
    have hfirst : (slashed value).head? = some '/' := by
      obtain ⟨rest, rfl⟩ := List.head?_eq_some_iff.mp hhead
      rw [hslashed]
      rfl
    have hresolve := posixComponents_slashed hgo hfirst
    rw [posix_iff hgo hpython hraw htrim hblank hwin hsecond]
    constructor
    · intro heq
      have hdots : ∀ name ∈ (readPath (slashed value)).root.names,
          name ≠ ['.'] ∧ name ≠ ['.', '.'] := by
        intro name hname
        have hmem : name ∈ posixComponents raw := by
          rw [heq]
          exact List.mem_append_left _ hname
        have hcomponent := posixComponents_isComponent raw name hmem
        exact ⟨hcomponent.2.1, hcomponent.2.2.1⟩
      rw [← hresolve hdots, hslashed, posixComponents_append_iff hblank] at heq
      rw [heq, List.append_nil] at hslashed
      rw [hslashed] at hdots
      exact ⟨heq, hdots⟩
    · rintro ⟨rfl, hdots⟩
      rw [List.append_nil] at hslashed
      rw [hslashed] at hresolve ⊢
      exact hresolve hdots

/-- The claims of one path are the same. -/
theorem pathClaim_eq (hgo : Gateway.canonicalRemotePath value = .ok go)
    (hpython : canonicalRemotePath value = .ok go) (scheme mode : String) :
    (Gateway.pathClaim scheme value mode).toOption =
      ((pathClaim scheme value mode).map claimValue).toOption := by
  rw [Gateway.pathClaim, hgo, pathClaim, hpython]
  rfl

/-- **The gateways make the same path and the same claims of an argument that both accept exactly
if they read it alike.** -/
theorem canonicalisedAlike_iff (value : String) :
    CanonicalisedAlike value ↔ (Accepted value → ReadAlike value) := by
  constructor
  · rintro halike ⟨⟨go, hgo⟩, python, hpython⟩
    exact (eq_iff_readAlike hgo hpython).mp (halike go python hgo hpython).1
  · intro hread go python hgo hpython
    obtain rfl := (eq_iff_readAlike hgo hpython).mpr (hread ⟨⟨go, hgo⟩, python, hpython⟩)
    refine ⟨rfl, fun mode => ⟨?_, ?_⟩⟩
    · exact pathClaim_eq hgo hpython "fs:" mode
    · exact pathClaim_eq hgo hpython "cwd:" mode

/-- A backslash in a name on a POSIX system. -/
theorem not_canonicalisedAlike : ¬∀ value, CanonicalisedAlike value := by
  intro halike
  obtain ⟨hpath, -⟩ := halike "/srv/a\\b" "/srv/a/b" "/srv/a\\b" rfl rfl
  exact absurd hpath (by decide)

end Agreement

end VeraMesh.PublicGateway

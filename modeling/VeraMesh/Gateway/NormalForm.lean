import VeraMesh.Gateway.PosixPath

/-!
# The normal form of remote paths

How `CanonicalRemotePath` reads a path: its root and the components below it that no `..` takes
back. The canonical path is the text of this reading. It is a fixed point unless the reading ends
in white space, which is trimmed the next time, or looks like a path on a drive; and the host and
the share of a UNC path are not looked at, so that they can be dots.

## Main definitions

* `PathReading`: a root and components, and `readPath` for the reading of a path.
* `IsNormal`: a path in normal form.
* `PathReading.Steady`: the readings whose text is in normal form.

## Main results

* `canonicalSlashed_eq_text`: a canonical path is the text of the reading.
* `PathReading.canonicalSlashed_text`: the text of a reading is canonical.
* `canonicalRemotePath_normal_iff`: the paths whose canonical path is in normal form.
-/

namespace VeraMesh.Gateway

/-! ## Readings -/

/-- Where a path begins. -/
inductive PathRoot where
  | posix
  | drive (letter : Char)
  /-- A UNC path, with its host and its share. -/
  | unc (host share : List Char)

/-- A path as its root and the components below it. -/
structure PathReading where
  root : PathRoot
  components : List (List Char)

/-- How a path with slashes reads. -/
def readPath (raw : List Char) : PathReading :=
  match raw with
  | drive :: ':' :: '/' :: rest => ⟨.drive drive, posixComponents ('/' :: rest)⟩
  | '/' :: '/' :: rest =>
    match rest.splitOn '/' with
    | host :: share :: segments =>
      ⟨.unc host share, (segments.foldl resolveSegment []).reverse⟩
    | _ => ⟨.posix, posixComponents raw⟩
  | _ => ⟨.posix, posixComponents raw⟩

/-- What stands before the first slash of a joined path; a UNC path has another slash there. -/
def PathRoot.lead : PathRoot → List Char
  | .posix => []
  | .drive letter => [letter, ':']
  | .unc _ _ => ['/']

/-- The components that belong to the root. -/
def PathRoot.names : PathRoot → List (List Char)
  | .unc host share => [host, share]
  | _ => []

namespace PathReading

/-- All components, with the host and the share. -/
def names (p : PathReading) : List (List Char) := p.root.names ++ p.components

/-- The text of a reading. -/
def text (p : PathReading) : List Char := p.root.lead ++ joinPath p.names

/-- What a reading is made of. -/
structure WellFormed (p : PathReading) : Prop where
  letter : ∀ letter, p.root = .drive letter → letter.isAlpha = true ∧ letter.toNat < 128
  names : ∀ c ∈ p.names, IsSegment c ∧ '\\' ∉ c ∧ '\x00' ∉ c
  components : ∀ c ∈ p.components, IsComponent c

/-- What makes the text of a reading a fixed point without dots: the last name does not end in
white space, the host and the share are no dots, and a POSIX path does not begin with `/:/`. -/
structure Steady (p : PathReading) : Prop where
  last : ∀ name a, p.names.getLast? = some (name ++ [a]) → isSpace a = false
  dots : ∀ name ∈ p.root.names, name ≠ ['.'] ∧ name ≠ ['.', '.']
  colon : p.root = .posix → ∀ second rest, p.components ≠ [':'] :: second :: rest

end PathReading

/-- What stands below the root: after a slash, a drive with its slash, or the two slashes of a UNC
path. -/
def belowRoot : List Char → List Char
  | '/' :: '/' :: rest => rest
  | '/' :: rest => rest
  | _ :: ':' :: '/' :: rest => rest
  | s => s

/-- What is between slashes below the root. -/
def componentsOf (s : List Char) : List (List Char) :=
  if belowRoot s = [] then [] else (belowRoot s).splitOn '/'

/-- A path in normal form: it is absolute, and has no backslash, no component of dots and no empty
component. -/
structure IsNormal (s : List Char) : Prop where
  absolute : s.head? = some '/' ∨
    ∃ letter rest, letter.isAlpha = true ∧ s = letter :: ':' :: '/' :: rest
  backslash : '\\' ∉ s
  components : ∀ c ∈ componentsOf s, c ≠ [] ∧ c ≠ ['.'] ∧ c ≠ ['.', '.']

/-! ## The canonical path is the text of the reading -/

section Text

variable {raw out s : List Char} {segments stack : List (List Char)}

/-- The loop over a UNC path below its share reads by POSIX rules. -/
theorem uncSegments_eq {below : List (List Char)} (h : uncSegments stack segments = some below) :
    below = segments.foldl resolveSegment stack := by
  induction segments generalizing stack with
  | nil => exact (Option.some.inj h).symm
  | cons segment segments ih =>
    unfold uncSegments at h
    rw [List.foldl_cons, resolveSegment]
    split_ifs at h ⊢ with hskip hparent
    · exact ih h
    · cases stack with
      | nil => cases h
      | cons top stack => exact ih h
    · exact ih h

/-- A path that is accepted as it is is the text of its components. -/
theorem plain_eq_text (h : (if (cleanPath raw).head? != some '/' then
      Except.error (⟨"path must be absolute", none⟩ : GoError)
      else .ok (cleanPath raw)) = .ok out) :
    raw.head? = some '/' ∧ out = joinPath (posixComponents raw) := by
  split_ifs at h with hhead
  have hclean : (cleanPath raw).head? = some '/' := by simpa using hhead
  have hrooted : raw.head? = some '/' :=
    not_not.mp fun hnot => head?_cleanPath_of_not_rooted hnot hclean
  exact ⟨hrooted, (Except.ok.inj h).symm.trans (cleanPath_of_rooted hrooted)⟩

theorem readPath_drive (letter : Char) (rest : List Char) :
    readPath (letter :: ':' :: '/' :: rest) = ⟨.drive letter, posixComponents ('/' :: rest)⟩ := rfl

theorem readPath_unc {rest host share : List Char}
    (h : rest.splitOn '/' = host :: share :: segments) :
    readPath ('/' :: '/' :: rest) =
      ⟨.unc host share, (segments.foldl resolveSegment []).reverse⟩ := by
  simp [readPath, h]

theorem readPath_plain (hdrive : ∀ letter rest, raw ≠ letter :: ':' :: '/' :: rest)
    (hunc : ∀ rest, raw ≠ '/' :: '/' :: rest) :
    readPath raw = ⟨.posix, posixComponents raw⟩ := by
  unfold readPath
  split
  · exact absurd rfl (hdrive _ _)
  · exact absurd rfl (hunc _)
  · rfl

/-- The three ways in which a path is read. -/
theorem readPath_cases (raw : List Char) :
    (∃ letter rest, raw = letter :: ':' :: '/' :: rest ∧
      readPath raw = ⟨.drive letter, posixComponents ('/' :: rest)⟩) ∨
    (∃ rest host share segments, raw = '/' :: '/' :: rest ∧
      rest.splitOn '/' = host :: share :: segments ∧
      readPath raw = ⟨.unc host share, (segments.foldl resolveSegment []).reverse⟩) ∨
    readPath raw = ⟨.posix, posixComponents raw⟩ := by
  unfold readPath
  split
  · exact Or.inl ⟨_, _, rfl, rfl⟩
  · split
    · next hsplit => exact Or.inr (Or.inl ⟨_, _, _, _, rfl, hsplit, rfl⟩)
    · exact Or.inr (Or.inr rfl)
  · exact Or.inr (Or.inr rfl)

/-- **A canonical path is the text of the reading**, which is well formed. -/
theorem canonicalSlashed_eq_text (hback : '\\' ∉ raw) (hnul : '\x00' ∉ raw)
    (h : canonicalSlashed raw = .ok out) :
    out = (readPath raw).text ∧ (readPath raw).WellFormed ∧
      ((readPath raw).root = .posix → raw.head? = some '/') := by
  have hchars : ∀ {s : List Char}, (∀ c ∈ s, c ∈ raw) → ∀ c ∈ s.splitOn '/',
      '/' ∉ c ∧ '\\' ∉ c ∧ '\x00' ∉ c := fun hs c hc =>
    ⟨not_mem_of_mem_splitOn hc, fun hmem => hback (hs _ (mem_of_mem_splitOn hc hmem)),
      fun hmem => hnul (hs _ (mem_of_mem_splitOn hc hmem))⟩
  -- what is left of the segments of a part of the path
  have hposix : ∀ {s : List Char}, (∀ c ∈ s, c ∈ raw) → ∀ c ∈ posixComponents s,
      IsSegment c ∧ '\\' ∉ c ∧ '\x00' ∉ c := fun hs c hc =>
    ⟨(posixComponents_isComponent _ c hc).isSegment,
      (hchars hs c (mem_splitOn_of_mem_posixComponents hc)).2⟩
  have hplain : ∀ {out}, (if (cleanPath raw).head? != some '/' then
      Except.error (⟨"path must be absolute", none⟩ : GoError) else .ok (cleanPath raw)) = .ok out →
        out = (PathReading.mk .posix (posixComponents raw)).text ∧
          (PathReading.mk .posix (posixComponents raw)).WellFormed ∧
            (PathRoot.posix = .posix → raw.head? = some '/') := by
    intro out hout
    obtain ⟨hhead, rfl⟩ := plain_eq_text hout
    refine ⟨rfl, ⟨?_, hposix fun _ => id, posixComponents_isComponent raw⟩, fun _ => hhead⟩
    intro letter hletter
    cases hletter
  unfold canonicalSlashed at h
  dsimp only at h
  split at h
  · next drive rest =>
    by_cases hascii : drive.toNat < 128
    · rw [if_pos hascii] at h
      unfold canonicalDrive at h
      dsimp only at h
      split_ifs at h with halpha hclean
      rw [cleanPath_of_rooted rfl] at h
      rw [readPath_drive]
      refine ⟨(Except.ok.inj h).symm, ⟨?_, ?_, posixComponents_isComponent _⟩, nofun⟩
      · rintro letter ⟨⟩
        exact ⟨by simpa using halpha, hascii⟩
      · apply hposix
        intro c hc
        exact List.mem_cons_of_mem _ (List.mem_cons_of_mem _ hc)
    · -- not a letter, so that the path is relative
      rw [if_neg hascii] at h
      obtain rfl : drive = '/' := Option.some.inj (plain_eq_text h).1
      exact absurd (by decide) hascii
  · next rest =>
    unfold canonicalUNC at h
    split at h
    · next host share segments hsplit =>
      split_ifs at h with hnames
      push Not at hnames
      have hrest : ∀ c ∈ rest, c ∈ '/' :: '/' :: rest := fun c hc =>
        List.mem_cons_of_mem _ (List.mem_cons_of_mem _ hc)
      have hpieces := hchars hrest
      rw [hsplit] at hpieces
      rw [readPath_unc hsplit]
      have hresolved : ∀ c ∈ (segments.foldl resolveSegment []).reverse,
          IsComponent c ∧ c ∈ segments := by
        intro c hc
        rw [List.mem_reverse] at hc
        have hslash : ∀ segment ∈ segments, '/' ∉ segment := fun segment hmem =>
          (hpieces segment (by simp [hmem])).1
        exact ⟨foldl_resolveSegment_isComponent (by simp) hslash c hc,
          (mem_foldl_resolveSegment hc).resolve_left List.not_mem_nil⟩
      refine ⟨?_, ⟨?_, ?_, ?_⟩, nofun⟩
      · dsimp only at h
        split at h
        · cases h
        · next hbelow =>
          rw [← Except.ok.inj h, ← uncSegments_eq hbelow]
          simp [PathReading.text, PathReading.names, PathRoot.names, PathRoot.lead, joinPath,
            List.intercalate]
        · next below hne hbelow =>
          rw [← Except.ok.inj h, ← uncSegments_eq hbelow]
          have hcons : below.reverse ≠ [] := by
            intro hnil
            exact hne (List.reverse_eq_nil_iff.mp hnil)
          obtain ⟨c, cs, hcs⟩ := List.exists_cons_of_ne_nil hcons
          simp [hcs, PathReading.text, PathReading.names, PathRoot.names, PathRoot.lead, joinPath,
            List.intercalate]
      · intro letter hletter
        cases hletter
      · intro c hc
        show IsSegment c ∧ _
        change c ∈ host :: share :: (segments.foldl resolveSegment []).reverse at hc
        rw [List.mem_cons, List.mem_cons] at hc
        rcases hc with rfl | rfl | hc
        · exact ⟨⟨hnames.1, (hpieces c (by simp)).1⟩, (hpieces c (by simp)).2⟩
        · exact ⟨⟨hnames.2, (hpieces c (by simp)).1⟩, (hpieces c (by simp)).2⟩
        · obtain ⟨hcomponent, hmem⟩ := hresolved c hc
          exact ⟨hcomponent.isSegment, (hpieces c (by simp [hmem])).2⟩
      · exact fun c hc => (hresolved c hc).1
    · cases h
  · next hdrive hunc =>
    rw [readPath_plain (fun letter rest heq => hdrive letter rest heq)
      fun rest heq => hunc rest heq]
    exact hplain h

end Text

/-! ## Lengths -/

section Length

variable {raw s : List Char} {cs segments stack : List (List Char)}

theorem joinPath_cons_cons (c d : List Char) (cs : List (List Char)) :
    joinPath (c :: d :: cs) = '/' :: c ++ joinPath (d :: cs) := by
  simp [joinPath, List.intercalate]

/-- The characters of segments, with a slash for each. -/
def spread (cs : List (List Char)) : Nat := (cs.map fun c => c.length + 1).sum

@[simp] theorem spread_nil : spread [] = 0 := rfl

@[simp] theorem spread_cons (c : List Char) (cs : List (List Char)) :
    spread (c :: cs) = c.length + 1 + spread cs := rfl

theorem length_joinPath (hne : cs ≠ []) : (joinPath cs).length = spread cs := by
  induction cs with
  | nil => exact absurd rfl hne
  | cons c cs ih =>
    cases cs with
    | nil => simp [joinPath, List.intercalate]
    | cons d cs =>
      rw [joinPath_cons_cons, List.length_append, ih (List.cons_ne_nil d cs), spread_cons]
      simp

variable (cs) in
theorem length_joinPath_le : (joinPath cs).length ≤ max 1 (spread cs) := by
  by_cases hnil : cs = []
  · subst hnil
    exact Nat.le_max_left 1 _
  · rw [length_joinPath hnil]
    exact Nat.le_max_right 1 _

theorem spread_splitOn (s : List Char) : spread (s.splitOn '/') = s.length + 1 := by
  have hsplit : ['/'].intercalate (s.splitOn '/') = s := List.intercalate_splitOn '/'
  rw [← length_joinPath (List.splitOn_ne_nil '/' s), joinPath, hsplit]
  rfl

variable (segments stack) in
/-- What is left of segments is not longer than they are. -/
theorem spread_foldl_resolveSegment :
    spread (segments.foldl resolveSegment stack) ≤ spread stack + spread segments := by
  induction segments generalizing stack with
  | nil => exact Nat.le_add_right _ _
  | cons segment segments ih =>
    have hstep : spread (resolveSegment stack segment) ≤ spread stack + (segment.length + 1) := by
      unfold resolveSegment
      split_ifs
      · omega
      · cases stack with
        | nil => exact Nat.zero_le _
        | cons top stack =>
          rw [List.tail_cons, spread_cons]
          omega
      · rw [spread_cons]
        omega
    have hrest := ih (resolveSegment stack segment)
    rw [List.foldl_cons, spread_cons]
    omega

theorem spread_reverse (cs : List (List Char)) : spread cs.reverse = spread cs := by
  rw [spread, List.map_reverse, List.sum_reverse]
  rfl

theorem spread_posixComponents (s : List Char) :
    spread (posixComponents ('/' :: s)) ≤ s.length + 1 := by
  have hcut := List.splitOn_append_cons_self (a := '/') [] s
  rw [List.nil_append, List.splitOn_nil] at hcut
  have hempty : resolveSegment [] [] = [] := rfl
  have hle := spread_foldl_resolveSegment (s.splitOn '/') []
  rw [posixComponents, spread_reverse, hcut]
  rw [spread_splitOn, spread_nil] at hle
  show spread ((s.splitOn '/').foldl resolveSegment (resolveSegment [] [])) ≤ _
  rw [hempty]
  omega

/-- The text of a reading is not longer than the path. -/
theorem length_text_readPath (h : (readPath raw).root = .posix → raw.head? = some '/') :
    (readPath raw).text.length ≤ raw.length := by
  have hplain : ∀ {s : List Char}, s.head? = some '/' →
      (joinPath (posixComponents s)).length ≤ s.length := by
    intro s hs
    obtain ⟨rest, rfl⟩ : ∃ rest, s = '/' :: rest := List.head?_eq_some_iff.mp hs
    have hjoin := length_joinPath_le (posixComponents ('/' :: rest))
    have hspread := spread_posixComponents rest
    rw [List.length_cons]
    omega
  rcases readPath_cases raw with ⟨letter, rest, rfl, hread⟩ |
    ⟨rest, host, share, segments, rfl, hsplit, hread⟩ | hread
  · have hrest := hplain (s := '/' :: rest) rfl
    rw [hread]
    show (letter :: ':' :: joinPath (posixComponents ('/' :: rest))).length ≤ _
    simp only [List.length_cons] at hrest ⊢
    omega
  · have hlength := spread_splitOn rest
    have hfold := spread_foldl_resolveSegment segments []
    rw [hsplit, spread_cons, spread_cons] at hlength
    rw [hread]
    show ('/' :: joinPath (host :: share :: (segments.foldl resolveSegment []).reverse)).length ≤ _
    rw [List.length_cons, length_joinPath (List.cons_ne_nil _ _), spread_cons, spread_cons,
      spread_reverse, List.length_cons, List.length_cons]
    rw [spread_nil] at hfold
    omega
  · rw [hread] at h ⊢
    exact hplain (h rfl)

end Length

/-! ## Reading the text again -/

namespace PathReading

variable {p : PathReading} {canon : List Char}

theorem joinPath_concat (cs : List (List Char)) (c : List Char) :
    ∃ front, joinPath (cs ++ [c]) = '/' :: front ++ c := by
  induction cs with
  | nil => exact ⟨[], by simp [joinPath, List.intercalate]⟩
  | cons d cs ih =>
    obtain ⟨front, hfront⟩ := ih
    obtain ⟨e, es, hes⟩ := List.exists_cons_of_ne_nil (List.append_ne_nil_of_right_ne_nil cs
      (List.cons_ne_nil c []))
    refine ⟨d ++ '/' :: front, ?_⟩
    rw [List.cons_append, hes, joinPath_cons_cons, ← hes, hfront]
    simp

theorem componentsOf_below {names : List (List Char)} (h : ∀ c ∈ names, IsSegment c) :
    (if ['/'].intercalate names = [] then [] else (['/'].intercalate names).splitOn '/') =
      names := by
  by_cases hnil : names = []
  · subst hnil
    rfl
  · have hne : ['/'].intercalate names ≠ [] := by
      obtain ⟨c, cs, rfl⟩ := List.exists_cons_of_ne_nil hnil
      intro hempty
      apply (h c List.mem_cons_self).1
      cases cs with
      | nil => simpa [List.intercalate] using hempty
      | cons d cs => simp [List.intercalate] at hempty
    rw [if_neg hne, List.splitOn_intercalate '/' (fun c hc => (h c hc).2) hnil]

/-- The first character below a root is not another slash. -/
theorem intercalate_ne_slash {names : List (List Char)} (h : ∀ c ∈ names, IsSegment c)
    (rest : List Char) : ['/'].intercalate names ≠ '/' :: rest := by
  intro heq
  cases names with
  | nil => cases heq
  | cons c cs =>
    obtain ⟨hne, hslash⟩ := h c List.mem_cons_self
    obtain ⟨a, as, rfl⟩ := List.exists_cons_of_ne_nil hne
    apply hslash
    have hhead : (['/'].intercalate ((a :: as) :: cs)).head? = some a := by
      cases cs <;> rfl
    rw [heq] at hhead
    rw [← Option.some.inj hhead]
    exact List.mem_cons_self

theorem belowRoot_text (h : p.WellFormed) : belowRoot p.text = ['/'].intercalate p.names := by
  have hfirst := intercalate_ne_slash fun c hc => (h.names c hc).1
  obtain ⟨root, components⟩ := p
  cases root with
  | posix =>
    show belowRoot ('/' :: ['/'].intercalate _) = _
    generalize ['/'].intercalate _ = below at hfirst ⊢
    unfold belowRoot
    split
    · next rest heq => exact absurd (List.cons.inj heq).2 (hfirst rest)
    · next rest _ heq => exact (List.cons.inj heq).2.symm
    · next hslash heq => exact (hslash (List.cons.inj heq).1.symm).elim
    · next hslash _ => exact (hslash _ rfl).elim
  | drive letter =>
    have hletter : letter ≠ '/' := by
      rintro rfl
      exact absurd (h.letter _ rfl).1 (by decide)
    show belowRoot (letter :: ':' :: '/' :: ['/'].intercalate _) = _
    unfold belowRoot
    split
    · next rest heq => exact absurd (List.cons.inj heq).1 hletter
    · next rest _ heq => exact absurd (List.cons.inj heq).1 hletter
    · next heq => exact (List.cons.inj (List.cons.inj (List.cons.inj heq).2).2).2.symm
    · next hdrive => exact (hdrive _ _ rfl).elim
  | unc host share => rfl

/-- The components of the text are the names of the reading. -/
theorem componentsOf_text (h : p.WellFormed) : componentsOf p.text = p.names := by
  rw [componentsOf, belowRoot_text h, componentsOf_below fun c hc => (h.names c hc).1]

/-- Only two slashes around a colon make a POSIX path look like one on a drive. -/
theorem colon_of_intercalate {cs : List (List Char)} {rest : List Char}
    (h : ∀ c ∈ cs, IsSegment c) (heq : ['/'].intercalate cs = ':' :: '/' :: rest) :
    ∃ second more, cs = [':'] :: second :: more := by
  have hne : cs ≠ [] := by
    rintro rfl
    cases heq
  have hsplit := List.splitOn_intercalate '/' (fun c hc => (h c hc).2) hne
  have hcut := List.splitOn_append_cons_self (a := '/') [':'] rest
  obtain ⟨second, more, hrest⟩ := List.exists_cons_of_ne_nil (List.splitOn_ne_nil '/' rest)
  refine ⟨second, more, ?_⟩
  rw [← hsplit, heq, ← hrest]
  exact hcut

theorem uncSegments_of_components {cs stack : List (List Char)} (h : ∀ c ∈ cs, IsComponent c) :
    uncSegments stack cs = some (cs.reverse ++ stack) := by
  induction cs generalizing stack with
  | nil => rfl
  | cons c cs ih =>
    obtain ⟨⟨hne, hdot, hparent, -⟩, hrest⟩ := List.forall_mem_cons.mp h
    unfold uncSegments
    rw [if_neg (by simp [hne, hdot]), if_neg hparent, ih hrest]
    simp

/-- The text of a reading that does not look like a path on a drive is canonical. -/
theorem canonicalSlashed_text (h : p.WellFormed)
    (hcolon : p.root = .posix → ∀ second rest, p.components ≠ [':'] :: second :: rest) :
    canonicalSlashed p.text = .ok p.text := by
  obtain ⟨root, components⟩ := p
  have hcomponents : ∀ c ∈ components, IsComponent c := h.components
  have hclean : cleanPath (joinPath components) = joinPath components := by
    rw [cleanPath_of_rooted rfl, posixComponents_joinPath hcomponents]
  cases root with
  | posix =>
    have hsegments : ∀ c ∈ components, IsSegment c := fun c hc => (hcomponents c hc).isSegment
    show canonicalSlashed (joinPath components) = .ok (joinPath components)
    unfold canonicalSlashed
    dsimp only
    split
    · next drive rest heq =>
      have hbelow := (List.cons.inj heq).2
      obtain ⟨second, more, rfl⟩ := colon_of_intercalate hsegments hbelow
      exact absurd rfl (hcolon rfl second more)
    · next heq => exact absurd (List.cons.inj heq).2 (intercalate_ne_slash hsegments _)
    · rw [hclean]
      rfl
  | drive letter =>
    obtain ⟨halpha, hascii⟩ := h.letter letter rfl
    show (if letter.toNat < 128 then canonicalDrive letter (joinPath components) else _) = _
    rw [if_pos hascii, canonicalDrive, halpha, hclean]
    rfl
  | unc host share =>
    have hsegments : ∀ c ∈ host :: share :: components, IsSegment c := fun c hc =>
      (h.names c hc).1
    have hsplit := List.splitOn_intercalate '/' (fun c hc => (hsegments c hc).2)
      (List.cons_ne_nil host (share :: components))
    have hhost : host ≠ [] := (hsegments host (by simp)).1
    have hshare : share ≠ [] := (hsegments share (by simp)).1
    show canonicalUNC (['/'].intercalate (host :: share :: components)) = _
    rw [canonicalUNC, hsplit]
    dsimp only
    rw [if_neg (by simp [hhost, hshare]), uncSegments_of_components hcomponents, List.append_nil]
    cases components with
    | nil => simp [text, names, PathRoot.names, PathRoot.lead, joinPath, List.intercalate]
    | cons c cs =>
      have hcons : (c :: cs).reverse ≠ [] := by simp
      obtain ⟨d, ds, hds⟩ := List.exists_cons_of_ne_nil hcons
      rw [hds]
      dsimp only
      rw [← hds, List.reverse_reverse]
      simp [text, names, PathRoot.names, PathRoot.lead, joinPath, List.intercalate]

/-- A POSIX path that looks like one on a drive is refused. -/
theorem canonicalSlashed_colon (second : List Char) (rest : List (List Char)) (out : List Char) :
    canonicalSlashed (joinPath ([':'] :: second :: rest)) ≠ .ok out := by
  rw [joinPath_cons_cons]
  intro hcanon
  cases hcanon

end PathReading

/-! ## The normal form -/

section Normal

variable {p : PathReading} {raw canon : List Char} {value : String}

/-- White space at the end is trimmed. -/
theorem length_trimSpace_lt {s : List Char} {b : Char} (hlast : s.getLast? = some b)
    (hspace : isSpace b = true) : (trimSpace s).length < s.length := by
  have hpos : 0 < s.length := by
    cases s with
    | nil => cases hlast
    | cons a s => exact Nat.succ_pos _
  have hfront : (s.dropWhile isSpace).length ≤ s.length := (List.dropWhile_suffix _).length_le
  rw [trimSpace, List.length_reverse]
  cases hrev : (s.dropWhile isSpace).reverse with
  | nil => exact hpos
  | cons a t =>
    -- what is left still ends with the white space
    have ha : a = b := by
      have hdrop : (s.dropWhile isSpace).getLast? = some a := by
        rw [← List.head?_reverse, hrev]
        rfl
      obtain ⟨front, hsuffix⟩ := List.dropWhile_suffix (l := s) isSpace
      rw [← hsuffix, List.getLast?_append, hdrop] at hlast
      exact Option.some.inj hlast
    have hlength := congrArg List.length hrev
    rw [List.length_reverse, List.length_cons] at hlength
    have hmore : (t.dropWhile isSpace).length ≤ t.length := (List.dropWhile_suffix _).length_le
    rw [List.dropWhile_cons, ha, hspace, if_pos rfl]
    omega

theorem getLast?_text {name : List Char} {a : Char} (h : p.names.getLast? = some (name ++ [a])) :
    p.text.getLast? = some a := by
  obtain ⟨front, hfront⟩ := List.getLast?_eq_some_iff.mp h
  obtain ⟨before, hjoin⟩ := PathReading.joinPath_concat front (name ++ [a])
  rw [PathReading.text, hfront, hjoin, ← List.append_assoc, ← List.append_assoc]
  exact List.getLast?_concat

/-- The text ends in the last name, or in the slash of the root. -/
theorem getLast?_text_cases (h : p.WellFormed) :
    (∃ name a, p.names.getLast? = some (name ++ [a]) ∧ p.text.getLast? = some a) ∨
      p.text.getLast? = some '/' := by
  cases hlast : p.names.getLast? with
  | none =>
    right
    rw [PathReading.text, List.getLast?_eq_none_iff.mp hlast]
    simp [joinPath, List.intercalate]
  | some last =>
    left
    have hne : last ≠ [] := (h.names last (List.mem_of_getLast? hlast)).1.1
    obtain ⟨name, a, rfl⟩ := (List.eq_nil_or_concat' last).resolve_left hne
    exact ⟨name, a, rfl, getLast?_text hlast⟩

theorem isSpace_of_isAlpha {c : Char} (hascii : c.toNat < 128) (h : c.isAlpha = true) :
    isSpace c = false := by
  have hall : ∀ n : Fin 128, (Char.ofNat n).isAlpha = true → isSpace (Char.ofNat n) = false := by
    decide
  have hc := hall ⟨c.toNat, hascii⟩
  rw [Char.ofNat_toNat] at hc
  exact hc h

theorem head?_text (h : p.WellFormed) {a : Char} (ha : p.text.head? = some a) :
    isSpace a = false := by
  obtain ⟨root, components⟩ := p
  cases root with
  | posix =>
    obtain rfl : '/' = a := Option.some.inj ha
    decide
  | drive letter =>
    obtain rfl : letter = a := Option.some.inj ha
    exact isSpace_of_isAlpha (h.letter letter rfl).2 (h.letter letter rfl).1
  | unc host share =>
    obtain rfl : '/' = a := Option.some.inj ha
    decide

/-- There are no backslashes in the text, and no NUL. -/
theorem text_chars (h : p.WellFormed) : ∀ a ∈ p.text, a ≠ '\\' ∧ a ≠ '\x00' := by
  intro a ha
  rcases List.mem_append.mp ha with hlead | hjoin
  · obtain ⟨root, components⟩ := p
    cases root with
    | posix => cases hlead
    | drive letter =>
      obtain ⟨halpha, -⟩ := h.letter letter rfl
      change a ∈ [letter, ':'] at hlead
      simp only [List.mem_cons, List.not_mem_nil, or_false] at hlead
      rcases hlead with rfl | rfl
      · constructor <;> rintro rfl <;> exact absurd halpha (by decide)
      · decide
    | unc host share =>
      obtain rfl : a = '/' := List.mem_singleton.mp hlead
      decide
  · rcases mem_joinPath hjoin with rfl | ⟨c, hc, hac⟩
    · decide
    · obtain ⟨-, hback, hnul⟩ := h.names c hc
      exact ⟨fun heq => hback (heq ▸ hac), fun heq => hnul (heq ▸ hac)⟩

theorem text_ne_nil : p.text ≠ [] :=
  List.append_ne_nil_of_right_ne_nil _ (List.cons_ne_nil _ _)

/-- Text that does not end in white space is looked at as it is. -/
theorem slashed_text (h : p.WellFormed)
    (hlast : ∀ b, p.text.getLast? = some b → isSpace b = false) :
    slashed (.ofList p.text) = p.text := by
  rw [slashed, String.toList_ofList, trimSpace_eq_self (fun a ha => head?_text h ha) hlast]
  conv_rhs => rw [← List.map_id p.text]
  exact List.map_congr_left fun a ha => if_neg (text_chars h a ha).1

/-- The text of a steady reading is a fixed point. -/
theorem canonicalRemotePath_text (h : p.WellFormed) (hsteady : p.Steady) :
    canonicalRemotePath (.ofList p.text) = .ok (.ofList p.text) := by
  have hlast : ∀ b, p.text.getLast? = some b → isSpace b = false := by
    intro b hb
    rcases getLast?_text_cases h with ⟨name, a, hlast, htext⟩ | hslash
    · obtain rfl : a = b := Option.some.inj (htext.symm.trans hb)
      exact hsteady.last name a hlast
    · obtain rfl : '/' = b := Option.some.inj (hslash.symm.trans hb)
      decide
  have htrim : trimSpace p.text = p.text := trimSpace_eq_self (fun a ha => head?_text h ha) hlast
  have hnul : '\x00' ∉ trimSpace (String.ofList p.text).toList := by
    rw [String.toList_ofList, htrim]
    exact fun hmem => (text_chars h _ hmem).2 rfl
  have hne : trimSpace (String.ofList p.text).toList ≠ [] := by
    rw [String.toList_ofList, htrim]
    exact text_ne_nil
  show (if trimSpace (String.ofList p.text).toList = [] then _ else _) = _
  rw [if_neg hne, if_neg hnul]
  show (canonicalSlashed (slashed (.ofList p.text))).map String.ofList = _
  rw [slashed_text h hlast, PathReading.canonicalSlashed_text h hsteady.colon]
  rfl

/-- The text is in normal form if the host and the share are. -/
theorem isNormal_text (h : p.WellFormed)
    (hdots : ∀ name ∈ p.root.names, name ≠ ['.'] ∧ name ≠ ['.', '.']) : IsNormal p.text where
  absolute := by
    obtain ⟨root, components⟩ := p
    cases root with
    | posix => exact Or.inl rfl
    | drive letter => exact Or.inr ⟨letter, _, (h.letter letter rfl).1, rfl⟩
    | unc host share => exact Or.inl rfl
  backslash := fun hmem => (text_chars h _ hmem).1 rfl
  components := by
    intro c hc
    rw [PathReading.componentsOf_text h] at hc
    rcases List.mem_append.mp hc with hroot | hbelow
    · exact ⟨(h.names c hc).1.1, hdots c hroot⟩
    · obtain ⟨hne, hdot, hparent, -⟩ := h.components c hbelow
      exact ⟨hne, hdot, hparent⟩

/-- A fixed point does not end in white space: that would be trimmed, and the canonical path is not
longer than the path. -/
theorem last_of_fixed {canon : String} (h : canonicalRemotePath canon = .ok canon) {b : Char}
    (hb : canon.toList.getLast? = some b) : isSpace b = false := by
  by_contra hspace
  rw [Bool.not_eq_false] at hspace
  obtain ⟨hslashed, hback, hnul⟩ := canonicalRemotePath_eq_ok h
  obtain ⟨htext, -, hrooted⟩ := canonicalSlashed_eq_text hback hnul hslashed
  have hlength := length_text_readPath hrooted
  have htrim := length_trimSpace_lt hb hspace
  rw [← htext, slashed, List.length_map] at hlength
  omega

/-- **When the canonical path is in normal form.** It is absolute, without backslashes, dots and
empty components, and a fixed point, exactly if the reading of the path is steady. -/
theorem canonicalRemotePath_normal_iff (value canon : String)
    (h : canonicalRemotePath value = .ok canon) :
    (IsNormal canon.toList ∧ canonicalRemotePath canon = .ok canon) ↔
      (readPath (slashed value)).Steady := by
  obtain ⟨hslashed, hback, hnul⟩ := canonicalRemotePath_eq_ok h
  obtain ⟨htext, hwell, -⟩ := canonicalSlashed_eq_text hback hnul hslashed
  constructor
  · rintro ⟨hnormal, hfixed⟩
    refine ⟨fun name a hlast => ?_, fun name hname => ?_, fun hposix second rest heq => ?_⟩
    · apply last_of_fixed hfixed
      rw [htext]
      exact getLast?_text hlast
    · have hmem : name ∈ componentsOf canon.toList := by
        rw [htext, PathReading.componentsOf_text hwell]
        exact List.mem_append_left _ hname
      exact (hnormal.components name hmem).2
    · -- the next time the first slash would be the letter of a drive
      obtain ⟨hagain, -, -⟩ := canonicalRemotePath_eq_ok hfixed
      have hlast : ∀ b, (readPath (slashed value)).text.getLast? = some b → isSpace b = false := by
        rw [← htext]
        exact fun b hb => last_of_fixed hfixed hb
      have hcanon : canon = .ofList (readPath (slashed value)).text := by
        rw [← htext, String.ofList_toList]
      rw [hcanon, slashed_text hwell hlast] at hagain
      have hcolon : (readPath (slashed value)).text = joinPath ([':'] :: second :: rest) := by
        rw [PathReading.text, PathReading.names, hposix, heq]
        rfl
      rw [hcolon] at hagain
      exact PathReading.canonicalSlashed_colon second rest _ hagain
  · intro hsteady
    have hcanon : String.ofList (readPath (slashed value)).text = canon := by
      rw [← htext, String.ofList_toList]
    refine ⟨?_, ?_⟩
    · rw [htext]
      exact isNormal_text hwell hsteady.dots
    · rw [← hcanon]
      exact canonicalRemotePath_text hwell hsteady

/-- A path on a host: its canonical path is a fixed point. -/
theorem canonicalRemotePath_normal_repo :
    IsNormal "/srv/repo".toList ∧ canonicalRemotePath "/srv/repo" = .ok "/srv/repo" := by
  apply (canonicalRemotePath_normal_iff " /srv//work/..\\repo/" "/srv/repo" rfl).mpr
  have hread : readPath (slashed " /srv//work/..\\repo/") =
      ⟨.posix, ["srv".toList, "repo".toList]⟩ := rfl
  rw [hread]
  refine ⟨fun name a hlast => ?_, fun name hname => ?_, fun _ second rest heq => ?_⟩
  · have happend : "repo".toList = name ++ [a] := Option.some.inj hlast
    have ha : "repo".toList.getLast? = some a := by
      rw [happend]
      exact List.getLast?_concat
    obtain rfl : 'o' = a := Option.some.inj ha
    decide
  · cases hname
  · exact absurd (List.cons.inj heq).1 (by decide)

/-- The share of a UNC path can be two dots; and where `..` takes back the last segment, the one in
front of it can end in a blank, which is trimmed the next time. -/
theorem not_canonicalRemotePath_normal :
    (canonicalRemotePath "\\\\server\\..\\escape" = .ok "//server/../escape" ∧
        ¬IsNormal "//server/../escape".toList) ∧
      canonicalRemotePath "/a /b/.." = .ok "/a " ∧ canonicalRemotePath "/a " = .ok "/a" := by
  refine ⟨⟨rfl, fun hnormal => ?_⟩, rfl, rfl⟩
  exact (hnormal.components "..".toList (by decide)).2.2 rfl

end Normal

end VeraMesh.Gateway

import VeraMesh.Gateway.RemotePath
import VeraMesh.Lib.Delimited

/-!
# Paths by POSIX rules

How a POSIX system reads an absolute path lexically: only `/` separates components, and `.` and `..`
are resolved. Nothing is trimmed. `CanonicalRemotePath` reads paths of Windows too; its copy of a
path is a POSIX path (`joinPath`), a path on a drive, or a UNC path.

## Main results

* `within_iff`: a canonical POSIX path is textually below another exactly if the components of the
  one begin with those of the other.
* `canonicalRemotePath_copyForm`: what a canonical copy looks like.
* `canonicalRemotePath_dotted`: every canonical POSIX path is the copy of some path.
-/

namespace VeraMesh.Gateway

/-! ## Components -/

/-- A segment of a path without empty segments. -/
def IsSegment (c : List Char) : Prop := c ≠ [] ∧ '/' ∉ c

/-- A component of a resolved path. -/
def IsComponent (c : List Char) : Prop := c ≠ [] ∧ c ≠ ['.'] ∧ c ≠ ['.', '.'] ∧ '/' ∉ c

/-- The components so far, latest first, when another segment is read. -/
def resolveSegment (stack : List (List Char)) (segment : List Char) : List (List Char) :=
  if segment = [] ∨ segment = ['.'] then stack
  else if segment = ['.', '.'] then stack.tail
  else segment :: stack

/-- The components of an absolute path. -/
def posixComponents (s : List Char) : List (List Char) :=
  ((s.splitOn '/').foldl resolveSegment []).reverse

/-- The path with the given components. -/
def joinPath (cs : List (List Char)) : List Char := '/' :: ['/'].intercalate cs

section Components

variable {cs ds stack : List (List Char)} {s segment : List Char}

theorem resolveSegment_isComponent (hstack : ∀ c ∈ stack, IsComponent c) (hslash : '/' ∉ segment) :
    ∀ c ∈ resolveSegment stack segment, IsComponent c := by
  unfold resolveSegment
  split_ifs with hskip hparent
  · exact hstack
  · exact fun c hc => hstack c (List.mem_of_mem_tail hc)
  · push Not at hskip
    exact List.forall_mem_cons.mpr ⟨⟨hskip.1, hskip.2, hparent, hslash⟩, hstack⟩

theorem foldl_resolveSegment_isComponent {segments : List (List Char)}
    (hstack : ∀ c ∈ stack, IsComponent c) (hslash : ∀ segment ∈ segments, '/' ∉ segment) :
    ∀ c ∈ segments.foldl resolveSegment stack, IsComponent c := by
  induction segments generalizing stack with
  | nil => exact hstack
  | cons segment segments ih =>
    rw [List.forall_mem_cons] at hslash
    exact ih (resolveSegment_isComponent hstack hslash.1) hslash.2

/-- What is left of a path are components. -/
theorem posixComponents_isComponent (s : List Char) : ∀ c ∈ posixComponents s, IsComponent c := by
  intro c hc
  exact foldl_resolveSegment_isComponent (by simp) (fun _ h => not_mem_of_mem_splitOn h) c
    (List.mem_reverse.mp hc)

/-- Components are kept as they are. -/
theorem foldl_resolveSegment (hcs : ∀ c ∈ cs, IsComponent c) :
    cs.foldl resolveSegment stack = cs.reverse ++ stack := by
  induction cs generalizing stack with
  | nil => rfl
  | cons c cs ih =>
    obtain ⟨⟨hne, hdot, hparent, -⟩, hrest⟩ := List.forall_mem_cons.mp hcs
    have hpush : resolveSegment stack c = c :: stack := by
      rw [resolveSegment, if_neg (by simp [hne, hdot]), if_neg hparent]
    rw [List.foldl_cons, hpush, ih hrest]
    simp

theorem IsComponent.isSegment {c : List Char} (h : IsComponent c) : IsSegment c :=
  ⟨h.1, h.2.2.2⟩

/-- The segments of a joined path: nothing in front, and those that were joined. -/
theorem splitOn_joinPath (hcs : ∀ c ∈ cs, IsSegment c) :
    (joinPath cs).splitOn '/' = [] :: if cs = [] then [[]] else cs := by
  have hcut := List.splitOn_append_cons_self (a := '/') [] (['/'].intercalate cs)
  rw [List.nil_append, List.splitOn_nil] at hcut
  rw [joinPath, hcut]
  split_ifs with hnil
  · subst hnil
    rfl
  · rw [List.splitOn_intercalate '/' (fun c hc => (hcs c hc).2) hnil]
    rfl

theorem joinPath_injective (hcs : ∀ c ∈ cs, IsSegment c) (hds : ∀ d ∈ ds, IsSegment d)
    (h : joinPath cs = joinPath ds) : cs = ds := by
  have hsplit := congrArg (List.splitOn '/') h
  rw [splitOn_joinPath hcs, splitOn_joinPath hds] at hsplit
  have htail := (List.cons.inj hsplit).2
  -- no segment is empty, which tells the root directory apart
  have hnot : ∀ {es : List (List Char)}, (∀ e ∈ es, IsSegment e) → [[]] ≠ es := by
    rintro es hes rfl
    exact (hes [] List.mem_cons_self).1 rfl
  split_ifs at htail with hc hd hd
  · rw [hc, hd]
  · exact absurd htail (hnot hds)
  · exact absurd htail.symm (hnot hcs)
  · exact htail

/-- A joined path has the components that were joined. -/
theorem posixComponents_joinPath (hcs : ∀ c ∈ cs, IsComponent c) :
    posixComponents (joinPath cs) = cs := by
  rw [posixComponents, splitOn_joinPath fun c hc => (hcs c hc).isSegment]
  split_ifs with hnil
  · subst hnil
    rfl
  · have hempty : resolveSegment [] [] = [] := rfl
    rw [List.foldl_cons, hempty, foldl_resolveSegment hcs, List.append_nil, List.reverse_reverse]

end Components

/-! ## Cleaned paths -/

section Clean

variable {cs stack : List (List Char)} {s segment : List Char}

/-- Below the root `path.Clean` reads segments by POSIX rules. -/
theorem cleanSegment_rooted (hstack : ∀ c ∈ stack, IsComponent c) :
    cleanSegment true stack segment = resolveSegment stack segment := by
  unfold cleanSegment resolveSegment
  by_cases hskip : segment = [] ∨ segment = ['.']
  · rw [if_pos hskip, if_pos hskip]
  · rw [if_neg hskip, if_neg hskip]
    by_cases hparent : segment = ['.', '.']
    · rw [if_pos hparent, if_pos hparent]
      cases stack with
      | nil => rfl
      | cons top rest =>
        have htop : top ≠ ['.', '.'] := (hstack top List.mem_cons_self).2.2.1
        show (if top = ['.', '.'] then segment :: top :: rest else rest) = rest
        rw [if_neg htop]
    · rw [if_neg hparent, if_neg hparent]

theorem foldl_cleanSegment_rooted {segments : List (List Char)}
    (hstack : ∀ c ∈ stack, IsComponent c) (hslash : ∀ segment ∈ segments, '/' ∉ segment) :
    segments.foldl (cleanSegment true) stack = segments.foldl resolveSegment stack := by
  induction segments generalizing stack with
  | nil => rfl
  | cons segment segments ih =>
    rw [List.forall_mem_cons] at hslash
    rw [List.foldl_cons, List.foldl_cons, cleanSegment_rooted hstack]
    exact ih (resolveSegment_isComponent hstack hslash.1) hslash.2

/-- A path that begins with a slash is cleaned to its components. -/
theorem cleanPath_of_rooted (h : s.head? = some '/') :
    cleanPath s = joinPath (posixComponents s) := by
  unfold cleanPath joinPath posixComponents
  simp only [h, beq_self_eq_true, if_true]
  rw [foldl_cleanSegment_rooted (by simp) fun _ hmem => not_mem_of_mem_splitOn hmem]

/-- What `path.Clean` has read has no empty segments and no slashes. -/
theorem foldl_cleanSegment_mem {rooted : Bool} {segments : List (List Char)}
    (hstack : ∀ c ∈ stack, c ≠ [] ∧ '/' ∉ c) (hslash : ∀ segment ∈ segments, '/' ∉ segment) :
    ∀ c ∈ segments.foldl (cleanSegment rooted) stack, c ≠ [] ∧ '/' ∉ c := by
  induction segments generalizing stack with
  | nil => exact hstack
  | cons segment segments ih =>
    rw [List.forall_mem_cons] at hslash
    refine ih ?_ hslash.2
    have hpush : segment ≠ [] → ∀ c ∈ segment :: stack, c ≠ [] ∧ '/' ∉ c :=
      fun hne => List.forall_mem_cons.mpr ⟨⟨hne, hslash.1⟩, hstack⟩
    unfold cleanSegment
    by_cases hskip : segment = [] ∨ segment = ['.']
    · rw [if_pos hskip]
      exact hstack
    · rw [if_neg hskip]
      have hmore := hpush fun hnil => hskip (Or.inl hnil)
      by_cases hparent : segment = ['.', '.']
      · rw [if_pos hparent]
        cases stack with
        | nil => cases rooted <;> assumption
        | cons top rest =>
          dsimp only
          split_ifs
          · exact hmore
          · exact fun c hc => hstack c (List.mem_cons_of_mem _ hc)
      · rw [if_neg hparent]
        exact hmore

/-- A path that does not begin with a slash is not cleaned to one that does. -/
theorem head?_cleanPath_of_not_rooted (h : s.head? ≠ some '/') :
    (cleanPath s).head? ≠ some '/' := by
  have hrooted : (s.head? == some '/') = false := by simpa using h
  have hmem : ∀ c ∈ (s.splitOn '/').foldl (cleanSegment false) [], c ≠ [] ∧ '/' ∉ c :=
    foldl_cleanSegment_mem (by simp) fun _ hsegment => not_mem_of_mem_splitOn hsegment
  unfold cleanPath
  simp only [hrooted, Bool.false_eq_true, if_false]
  generalize (s.splitOn '/').foldl (cleanSegment false) [] = stack at hmem
  have hall : ∀ c ∈ stack.reverse, c ≠ [] ∧ '/' ∉ c := fun c hc => hmem c (List.mem_reverse.mp hc)
  generalize stack.reverse = cs at hall
  split_ifs with hempty
  · decide
  · cases cs with
    | nil => exact absurd rfl hempty
    | cons c cs =>
      obtain ⟨hne, hslash⟩ := hall c List.mem_cons_self
      obtain ⟨a, as, rfl⟩ := List.exists_cons_of_ne_nil hne
      have ha : a ≠ '/' := fun heq => hslash (heq ▸ List.mem_cons_self)
      have hhead : (['/'].intercalate ((a :: as) :: cs)).head? = some a := by
        cases cs <;> rfl
      rw [hhead]
      exact fun heq => ha (Option.some.inj heq)

end Clean

/-! ## Paths below a root -/

/-- The prefix of the paths below a root, in `workBridgePathWithinRoot`. -/
def rootPrefix (root : List Char) : List Char :=
  if root.getLast? = some '/' then root else root ++ ['/']

section Within

variable {cs ds : List (List Char)}

/-- A joined path, closed by a slash, is a slash and the closed components. -/
theorem joinPath_append_slash (hne : cs ≠ []) :
    joinPath cs ++ ['/'] = '/' :: cs.flatMap (· ++ ['/']) := by
  have hclosed : ∀ ds : List (List Char), ds ≠ [] →
      ['/'].intercalate ds ++ ['/'] = ds.flatMap (· ++ ['/']) := by
    intro ds hds
    induction ds with
    | nil => exact absurd rfl hds
    | cons d ds ih =>
      cases ds with
      | nil => simp [List.intercalate]
      | cons e ds =>
        have hcons : ['/'].intercalate (d :: e :: ds) =
            d ++ '/' :: ['/'].intercalate (e :: ds) := by
          simp [List.intercalate]
        rw [hcons, List.flatMap_cons, ← ih (List.cons_ne_nil e ds)]
        simp
  rw [joinPath, List.cons_append, hclosed cs hne]

/-- Only the root directory ends in a slash. -/
theorem getLast?_joinPath (hcs : ∀ c ∈ cs, IsSegment c) (hne : cs ≠ []) :
    (joinPath cs).getLast? ≠ some '/' := by
  intro hlast
  obtain ⟨front, hfront⟩ := List.getLast?_eq_some_iff.mp hlast
  have hclosed := joinPath_append_slash hne
  obtain ⟨ds, d, rfl⟩ := List.eq_nil_or_concat cs |>.resolve_left hne
  obtain ⟨hd, hslash⟩ := hcs d (by simp)
  obtain ⟨e, a, rfl⟩ := List.eq_nil_or_concat d |>.resolve_left hd
  -- the last character of the last component
  rw [hfront] at hclosed
  have hend : front ++ ['/'] = ('/' :: ds.flatMap (· ++ ['/'])) ++ e ++ [a] := by
    have hboth : front ++ ['/'] ++ ['/'] =
        ('/' :: ds.flatMap (· ++ ['/'])) ++ e ++ [a] ++ ['/'] := by
      rw [hclosed]
      simp
    exact List.append_cancel_right hboth
  have ha : '/' = a := by simpa using (List.append_inj' hend rfl).2
  apply hslash
  rw [ha, List.concat_eq_append]
  exact List.mem_concat_self

/-- **Textual and component-wise ancestors** of canonical POSIX paths are the same. -/
theorem within_iff (hcs : ∀ c ∈ cs, IsSegment c) (hds : ∀ d ∈ ds, IsSegment d) :
    (joinPath cs = joinPath ds ∨ rootPrefix (joinPath ds) <+: joinPath cs) ↔ ds <+: cs := by
  by_cases hroot : ds = []
  · -- everything is below the root directory
    subst hroot
    refine ⟨fun _ => List.nil_prefix, fun _ => Or.inr ?_⟩
    exact ⟨['/'].intercalate cs, rfl⟩
  · rw [rootPrefix, if_neg (getLast?_joinPath hds hroot)]
    by_cases hempty : cs = []
    · subst hempty
      have hslash : ¬joinPath ds ++ ['/'] <+: joinPath [] := by
        rintro ⟨rest, hrest⟩
        have hlength := congrArg List.length hrest
        simp [joinPath, List.intercalate] at hlength
      constructor
      · rintro (heq | hprefix)
        · exact absurd (joinPath_injective hcs hds heq).symm hroot
        · exact absurd hprefix hslash
      · exact fun h => absurd (List.prefix_nil.mp h) hroot
    · have hsegment : (joinPath cs = joinPath ds ∨ joinPath ds ++ ['/'] <+: joinPath cs) ↔
          joinPath ds ++ ['/'] <+: joinPath cs ++ ['/'] := SegmentLE.iff_append_sep
      rw [hsegment, joinPath_append_slash hroot, joinPath_append_slash hempty,
        List.cons_prefix_cons, flatMap_sep_prefix_iff (fun d hd => (hds d hd).2)
        fun c hc => (hcs c hc).2]
      exact and_iff_right rfl

end Within

/-! ## Canonical copies -/

section Canonical

variable {cs : List (List Char)}

/-- A component that a canonical copy can have. -/
def IsCanonicalComponent (c : List Char) : Prop := IsComponent c ∧ '\\' ∉ c ∧ '\x00' ∉ c

theorem mem_of_mem_splitOn {sep a : Char} {s segment : List Char} (h : segment ∈ s.splitOn sep)
    (ha : a ∈ segment) : a ∈ s := by
  have hsplit : [sep].intercalate (s.splitOn sep) = s := List.intercalate_splitOn sep
  rw [← hsplit, List.intercalate, List.mem_flatten]
  refine ⟨segment, ?_, ha⟩
  generalize s.splitOn sep = segments at h
  induction segments with
  | nil => exact h
  | cons first rest ih =>
    cases rest with
    | nil => exact h
    | cons second rest =>
      rw [List.intersperse_cons_cons]
      rcases List.mem_cons.mp h with rfl | h
      · exact List.mem_cons_self
      · exact List.mem_cons_of_mem _ (List.mem_cons_of_mem _ (ih h))

/-- What is left was there before, or was read. -/
theorem mem_foldl_resolveSegment {segments stack : List (List Char)} {c : List Char}
    (h : c ∈ segments.foldl resolveSegment stack) : c ∈ stack ∨ c ∈ segments := by
  induction segments generalizing stack with
  | nil => exact Or.inl h
  | cons segment segments ih =>
    rcases ih h with hstack | hrest
    · unfold resolveSegment at hstack
      split_ifs at hstack
      · exact Or.inl hstack
      · exact Or.inl (List.mem_of_mem_tail hstack)
      · rcases List.mem_cons.mp hstack with rfl | hstack
        · exact Or.inr List.mem_cons_self
        · exact Or.inl hstack
    · exact Or.inr (List.mem_cons_of_mem _ hrest)

/-- The components are segments of the path. -/
theorem mem_splitOn_of_mem_posixComponents {s c : List Char} (h : c ∈ posixComponents s) :
    c ∈ s.splitOn '/' :=
  (mem_foldl_resolveSegment (List.mem_reverse.mp h)).resolve_left List.not_mem_nil

/-- What a canonical copy looks like: it is on a drive, or a UNC path, or a joined path. -/
def CopyForm (copy : List Char) : Prop :=
  copy.head? ≠ some '/' ∨ (∃ rest, copy = '/' :: '/' :: rest) ∨
    ∃ cs, (∀ c ∈ cs, IsCanonicalComponent c) ∧ copy = joinPath cs

theorem canonicalSlashed_copyForm {s copy : List Char} (hback : '\\' ∉ s) (hnul : '\x00' ∉ s)
    (h : canonicalSlashed s = .ok copy) : CopyForm copy := by
  have hplain : ∀ {copy}, (if (cleanPath s).head? != some '/' then
      Except.error (⟨"path must be absolute", none⟩ : GoError) else .ok (cleanPath s)) = .ok copy →
        CopyForm copy := by
    intro copy hplain
    split_ifs at hplain with hhead
    obtain rfl : cleanPath s = copy := Except.ok.inj hplain
    have hclean : (cleanPath s).head? = some '/' := by simpa using hhead
    have hrooted : s.head? = some '/' :=
      not_not.mp fun hnot => head?_cleanPath_of_not_rooted hnot hclean
    refine Or.inr (Or.inr ⟨posixComponents s, fun c hc => ?_, cleanPath_of_rooted hrooted⟩)
    have hsegment := mem_splitOn_of_mem_posixComponents hc
    exact ⟨posixComponents_isComponent s c hc, fun hmem => hback (mem_of_mem_splitOn hsegment hmem),
      fun hmem => hnul (mem_of_mem_splitOn hsegment hmem)⟩
  unfold canonicalSlashed at h
  dsimp only at h
  split at h
  · -- on a drive
    next drive rest =>
    by_cases hascii : drive.toNat < 128
    · rw [if_pos hascii] at h
      unfold canonicalDrive at h
      dsimp only at h
      split_ifs at h with halpha hclean
      obtain rfl : drive :: ':' :: cleanPath ('/' :: rest) = copy := Except.ok.inj h
      refine Or.inl fun hhead => ?_
      obtain rfl : drive = '/' := Option.some.inj hhead
      exact absurd halpha (by decide)
    · rw [if_neg hascii] at h
      exact hplain h
  · -- UNC
    next rest _ =>
    unfold canonicalUNC at h
    split at h
    · split_ifs at h
      dsimp only at h
      split at h
      · cases h
      · exact Or.inr (Or.inl ⟨_, (Except.ok.inj h).symm⟩)
      · exact Or.inr (Or.inl ⟨_, (Except.ok.inj h).symm⟩)
    · cases h
  · exact hplain h

/-- The path that `CanonicalRemotePath` looks at: trimmed, and with slashes for backslashes. -/
def slashed (value : String) : List Char :=
  (trimSpace value.toList).map fun c => if c = '\\' then '/' else c

/-- An accepted path has neither backslashes nor NUL by then. -/
theorem canonicalRemotePath_eq_ok {value canon : String}
    (h : canonicalRemotePath value = .ok canon) :
    canonicalSlashed (slashed value) = .ok canon.toList ∧ '\\' ∉ slashed value ∧
      '\x00' ∉ slashed value := by
  unfold canonicalRemotePath at h
  dsimp only at h
  split_ifs at h with hempty hnul
  refine ⟨?_, fun hmem => ?_, fun hmem => ?_⟩
  · change (canonicalSlashed (slashed value)).map String.ofList = _ at h
    cases hcopy : canonicalSlashed (slashed value) with
    | error err =>
      rw [hcopy] at h
      cases h
    | ok copy =>
      rw [hcopy] at h
      rw [← Except.ok.inj h, String.toList_ofList]
  · obtain ⟨c, -, hc⟩ := List.mem_map.mp hmem
    split_ifs at hc with hback
    · exact absurd hc (by decide)
    · exact hback hc
  · obtain ⟨c, hmem, hc⟩ := List.mem_map.mp hmem
    split_ifs at hc with hback
    · exact absurd hc (by decide)
    · exact hnul (hc ▸ hmem)

/-- Every canonical copy is of this form. -/
theorem canonicalRemotePath_copyForm {raw canon : String}
    (h : canonicalRemotePath raw = .ok canon) : CopyForm canon.toList := by
  obtain ⟨hcopy, hback, hnul⟩ := canonicalRemotePath_eq_ok h
  exact canonicalSlashed_copyForm hback hnul hcopy

/-- Nothing is trimmed from text that neither begins nor ends with white space. -/
theorem trimSpace_eq_self {s : List Char} (hfirst : ∀ a, s.head? = some a → isSpace a = false)
    (hlast : ∀ b, s.getLast? = some b → isSpace b = false) : trimSpace s = s := by
  have hfront : s.dropWhile isSpace = s := by
    cases s with
    | nil => rfl
    | cons a s => rw [List.dropWhile_cons, hfirst a rfl, if_neg Bool.false_ne_true]
  have hback : s.reverse.dropWhile isSpace = s.reverse := by
    cases hrev : s.reverse with
    | nil => rfl
    | cons b t =>
      have hb : s.getLast? = some b := by
        rw [← List.head?_reverse, hrev]
        rfl
      rw [List.dropWhile_cons, hlast b hb, if_neg Bool.false_ne_true]
  rw [trimSpace, hfront, hback, List.reverse_reverse]

theorem trimSpace_of_ends {a b : Char} (ha : isSpace a = false) (hb : isSpace b = false)
    (l : List Char) : trimSpace (a :: (l ++ [b])) = a :: (l ++ [b]) := by
  apply trimSpace_eq_self
  · rintro c ⟨⟩
    exact ha
  · intro c hc
    rw [← List.cons_append, List.getLast?_concat] at hc
    obtain rfl : b = c := Option.some.inj hc
    exact hb

theorem mem_joinPath {a : Char} (ha : a ∈ joinPath cs) : a = '/' ∨ ∃ c ∈ cs, a ∈ c := by
  rcases List.mem_cons.mp ha with rfl | ha
  · exact Or.inl rfl
  induction cs with
  | nil => cases ha
  | cons c cs ih =>
    cases cs with
    | nil => exact Or.inr ⟨c, List.mem_cons_self, by simpa [List.intercalate] using ha⟩
    | cons d cs =>
      have hcons : ['/'].intercalate (c :: d :: cs) = c ++ '/' :: ['/'].intercalate (d :: cs) := by
        simp [List.intercalate]
      rw [hcons, List.mem_append, List.mem_cons] at ha
      rcases ha with ha | rfl | ha
      · exact Or.inr ⟨c, List.mem_cons_self, ha⟩
      · exact Or.inl rfl
      · rcases ih (List.mem_cons_of_mem _ ha) ha with rfl | ⟨e, he, hae⟩
        · exact Or.inl rfl
        · exact Or.inr ⟨e, List.mem_cons_of_mem _ he, hae⟩

/-- Dots around a joined path change nothing. -/
theorem posixComponents_dotted (hcs : ∀ c ∈ cs, IsComponent c) :
    posixComponents ('/' :: '.' :: (joinPath cs ++ ['/', '.'])) = cs := by
  have hfirst := List.splitOn_append_cons_self (a := '/') [] ('.' :: (joinPath cs ++ ['/', '.']))
  have hsecond := List.splitOn_append_cons_self (a := '/') ['.']
    (['/'].intercalate cs ++ ['/', '.'])
  have hthird := List.splitOn_append_cons_self (a := '/') (['/'].intercalate cs) ['.']
  have hdot : ['.'].splitOn '/' = [['.']] := by decide
  have hnil : ([] : List Char).splitOn '/' = [[]] := rfl
  have hsegments : ('/' :: '.' :: (joinPath cs ++ ['/', '.'])).splitOn '/' =
      [] :: ['.'] :: (['/'].intercalate cs).splitOn '/' ++ [['.']] := by
    calc ('/' :: '.' :: (joinPath cs ++ ['/', '.'])).splitOn '/'
        = [] :: ('.' :: (joinPath cs ++ ['/', '.'])).splitOn '/' := by simpa [hnil] using hfirst
      _ = [] :: ['.'] :: (['/'].intercalate cs ++ ['/', '.']).splitOn '/' :=
        congrArg ([] :: ·) (by simpa [hdot, joinPath] using hsecond)
      _ = _ := by
        rw [hthird, hdot]
        rfl
  have hmiddle : ((['/'].intercalate cs).splitOn '/').foldl resolveSegment [] = cs.reverse := by
    by_cases hempty : cs = []
    · subst hempty
      rfl
    · rw [List.splitOn_intercalate '/' (fun c hc => (hcs c hc).2.2.2) hempty,
        foldl_resolveSegment hcs, List.append_nil]
  rw [posixComponents, hsegments]
  have hskip : ∀ stack : List (List Char), resolveSegment stack ['.'] = stack := fun _ => rfl
  rw [List.foldl_append, List.foldl_cons, List.foldl_cons]
  show (resolveSegment _ ['.']).reverse = cs
  rw [hskip]
  show (((['/'].intercalate cs).splitOn '/').foldl resolveSegment []).reverse = cs
  rw [hmiddle, List.reverse_reverse]

/-- Every joined path is the canonical copy of some path. -/
theorem canonicalRemotePath_dotted (hcs : ∀ c ∈ cs, IsCanonicalComponent c) :
    canonicalRemotePath (.ofList ('/' :: '.' :: (joinPath cs ++ ['/', '.']))) =
      .ok (.ofList (joinPath cs)) := by
  have htrim : trimSpace ('/' :: '.' :: (joinPath cs ++ ['/', '.'])) =
      '/' :: '.' :: (joinPath cs ++ ['/', '.']) := by
    have h := trimSpace_of_ends (a := '/') (b := '.') (by decide) (by decide)
      ('.' :: (joinPath cs ++ ['/']))
    simpa using h
  have hchars : ∀ a ∈ '/' :: '.' :: (joinPath cs ++ ['/', '.']), a ≠ '\\' ∧ a ≠ '\x00' := by
    have hpath : ∀ a ∈ joinPath cs, a ≠ '\\' ∧ a ≠ '\x00' := by
      intro a ha
      rcases mem_joinPath ha with rfl | ⟨c, hc, hac⟩
      · decide
      · exact ⟨fun heq => (hcs c hc).2.1 (heq ▸ hac), fun heq => (hcs c hc).2.2 (heq ▸ hac)⟩
    intro a ha
    simp only [List.mem_cons, List.mem_append, List.not_mem_nil, or_false] at ha
    rcases ha with rfl | rfl | ha | rfl | rfl
    · decide
    · decide
    · exact hpath a ha
    · decide
    · decide
  have hslashed : ('/' :: '.' :: (joinPath cs ++ ['/', '.'])).map
      (fun c => if c = '\\' then '/' else c) = '/' :: '.' :: (joinPath cs ++ ['/', '.']) := by
    conv_rhs => rw [← List.map_id ('/' :: '.' :: (joinPath cs ++ ['/', '.']))]
    exact List.map_congr_left fun a ha => if_neg (hchars a ha).1
  rw [canonicalRemotePath, String.toList_ofList, htrim]
  rw [if_neg (List.cons_ne_nil _ _), if_neg fun hnul => (hchars _ hnul).2 rfl, hslashed]
  have hclean : cleanPath ('/' :: '.' :: (joinPath cs ++ ['/', '.'])) = joinPath cs := by
    rw [cleanPath_of_rooted rfl, posixComponents_dotted fun c hc => (hcs c hc).1]
  have hcanon : canonicalSlashed ('/' :: '.' :: (joinPath cs ++ ['/', '.'])) =
      .ok (joinPath cs) := by
    have hhead : ¬((cleanPath ('/' :: '.' :: (joinPath cs ++ ['/', '.']))).head? != some '/') := by
      rw [hclean]
      simp [joinPath]
    unfold canonicalSlashed
    dsimp only
    split
    · next heq => exact absurd (List.cons.inj (List.cons.inj heq).2).1 (by decide)
    · next heq => exact absurd (List.cons.inj (List.cons.inj heq).2).1 (by decide)
    · rw [if_neg hhead, hclean]
  rw [hcanon]
  rfl

end Canonical

end VeraMesh.Gateway

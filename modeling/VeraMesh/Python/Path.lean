import VeraMesh.Lib.Delimited
import VeraMesh.Python.Value

/-!
# `posixpath` and `ntpath`

The lexical functions on paths of the standard library of the reference agent. Text is a list of
characters.
-/

namespace VeraMesh.Python

/-- `s.strip()`. -/
def strip (s : List Char) : List Char :=
  ((s.dropWhile isSpace).reverse.dropWhile isSpace).reverse

/-! ## `posixpath` -/

namespace PosixPath

/-- How many slashes a normalised path begins with: POSIX allows one or two, and treats three or
more as one. -/
def initialSlashes (path : List Char) : ℕ :=
  if path.head? ≠ some '/' then 0
  else if ['/', '/'].isPrefixOf path ∧ ¬['/', '/', '/'].isPrefixOf path then 2
  else 1

/-- The loop of `normpath`: `new_comps`, latest first, when another component is read. -/
def readComp (slashes : ℕ) (newComps : List (List Char)) (comp : List Char) : List (List Char) :=
  if comp = [] ∨ comp = ['.'] then newComps
  else if comp ≠ ['.', '.'] ∨ (slashes = 0 ∧ newComps = []) ∨
      newComps.head? = some ['.', '.'] then comp :: newComps
  else newComps.tail

/-- `posixpath.normpath`. -/
def normpath (path : List Char) : List Char :=
  let slashes := initialSlashes path
  let comps := (path.splitOn '/').foldl (readComp slashes) []
  let normal := List.replicate slashes '/' ++ ['/'].intercalate comps.reverse
  if normal = [] then ['.'] else normal

/-- `posixpath.isabs`. -/
def isabs (s : List Char) : Bool := s.head? == some '/'

end PosixPath

/-! ## `ntpath` -/

namespace NtPath

/-- `s.replace("/", "\\")`, character by character. -/
def backslash (c : Char) : Char := if c = '/' then '\\' else c

/-- `s.find("\\", start)`. -/
def findSep (s : List Char) (start : ℕ) : Option ℕ :=
  ((s.drop start).idxOf? '\\').map (start + ·)

/-- `unc_prefix`. -/
def uncPrefix : List Char := "\\\\?\\UNC\\".toList

/-- The branch of `splitdrive` for a drive that ends with the second separator from `start` on. -/
def splitShare (p normp : List Char) (start : ℕ) : List Char × List Char :=
  match findSep normp start with
  | none => (p, [])
  | some index =>
    match findSep normp (index + 1) with
    | none => (p, [])
    | some index2 => p.splitAt index2

/-- `ntpath.splitdrive`. No character outside of ASCII has an upper case in `unc_prefix`. -/
def splitdrive (p : List Char) : List Char × List Char :=
  let normp := p.map backslash
  if normp.take 2 = ['\\', '\\'] then
    splitShare p normp (if (normp.take 8).map Char.toUpper = uncPrefix then 8 else 2)
  else if (normp.drop 1).take 1 = [':'] then p.splitAt 2
  else ([], p)

/-- The loop of `normpath`: the components in front of `comps[i]`, latest first, when that one is
read. -/
def readComp (rooted : Bool) (before : List (List Char)) (comp : List Char) : List (List Char) :=
  if comp = [] ∨ comp = ['.'] then before
  else if comp = ['.', '.'] then
    match before with
    | [] => if rooted then [] else [comp]
    | last :: earlier => if last ≠ ['.', '.'] then earlier else comp :: before
  else comp :: before

/-- `ntpath.normpath`, as it is where there is no module `nt`. -/
def normpath (path : List Char) : List Char :=
  let (drive, path) := splitdrive (path.map backslash)
  -- initial backslashes are collapsed
  let (lead, path) :=
    if path.head? = some '\\' then (drive ++ ['\\'], path.dropWhile (· = '\\')) else (drive, path)
  let comps := (path.splitOn '\\').foldl (readComp (lead.getLast? == some '\\')) []
  if lead = [] ∧ comps = [] then ['.'] else lead ++ ['\\'].intercalate comps.reverse

/-- `ntpath.isabs`. -/
def isabs (s : List Char) : Bool :=
  let s := (s.take 3).map backslash
  s.head? == some '\\' || s.drop 1 == [':', '\\']

/-! ## The drive -/

section Drive

variable {a b p : List Char} {segments : List (List Char)} {start : ℕ}

theorem findSep_eq_some (h : p.drop start = a ++ '\\' :: b) (ha : '\\' ∉ a) :
    findSep p start = some (start + a.length) := by
  have hidx : (a ++ '\\' :: b).idxOf? '\\' = some a.length := by
    rw [List.idxOf?_eq_some_iff]
    refine ⟨by simp, by simp, fun j hj => ?_⟩
    rw [List.getElem_append_left hj]
    intro heq
    exact ha (heq ▸ List.getElem_mem hj)
  rw [findSep, h, hidx, Option.map_some]

theorem findSep_eq_none (h : '\\' ∉ p.drop start) : findSep p start = none := by
  rw [findSep, List.idxOf?_eq_none_iff.mpr h, Option.map_none]

/-- A drive of one or two names is all of the path. -/
theorem splitShare_of_length (h : ((p.drop start).splitOn '\\').length ≤ 2) :
    splitShare p p start = (p, []) := by
  obtain ⟨host, rest, hsplit⟩ :=
    List.exists_cons_of_ne_nil (List.splitOn_ne_nil '\\' (p.drop start))
  have hjoin : ['\\'].intercalate ((p.drop start).splitOn '\\') = p.drop start :=
    List.intercalate_splitOn '\\'
  cases rest with
  | nil =>
    have hnot : '\\' ∉ p.drop start := by
      rw [hsplit, List.intercalate_singleton] at hjoin
      exact hjoin ▸ not_mem_of_mem_splitOn (hsplit ▸ List.mem_cons_self)
    rw [splitShare, findSep_eq_none hnot]
  | cons share rest =>
    obtain rfl : rest = [] := by
      rw [hsplit] at h
      exact List.eq_nil_of_length_eq_zero (by simpa using h)
    obtain ⟨htext, -⟩ := eq_of_splitOn_cons_cons hsplit
    have hhost : '\\' ∉ host := not_mem_of_mem_splitOn (hsplit ▸ List.mem_cons_self)
    have hshare : '\\' ∉ share := by
      apply not_mem_of_mem_splitOn (s := p.drop start)
      simp [hsplit]
    rw [splitShare, findSep_eq_some htext hhost]
    dsimp only
    have hdrop : p.drop (start + host.length + 1) = share := by
      rw [List.intercalate_singleton] at htext
      rw [Nat.add_assoc, ← List.drop_drop, htext]
      simp
    rw [findSep_eq_none (hdrop ▸ hshare)]

/-- A drive ends with its second name. -/
theorem splitShare_of_cons {host share next : List Char} {rest : List (List Char)}
    (h : (p.drop start).splitOn '\\' = host :: share :: next :: rest) :
    splitShare p p start = (p.take start ++ (host ++ '\\' :: share),
      '\\' :: ['\\'].intercalate (next :: rest)) := by
  obtain ⟨htext, hsplit⟩ := eq_of_splitOn_cons_cons h
  obtain ⟨htext', -⟩ := eq_of_splitOn_cons_cons hsplit
  have hhost : '\\' ∉ host := not_mem_of_mem_splitOn (h ▸ List.mem_cons_self)
  have hshare : '\\' ∉ share := by
    apply not_mem_of_mem_splitOn (s := p.drop start)
    simp [h]
  have hdrop : p.drop (start + host.length + 1) =
      share ++ '\\' :: ['\\'].intercalate (next :: rest) := by
    rw [Nat.add_assoc, ← List.drop_drop, htext, ← htext']
    simp
  have hstart : start ≤ p.length := by
    by_contra hlt
    rw [List.drop_eq_nil_of_le (by omega)] at htext
    simp at htext
  have hwhole : p = (p.take start ++ (host ++ '\\' :: share)) ++
      '\\' :: ['\\'].intercalate (next :: rest) := by
    conv_lhs => rw [← List.take_append_drop start p, htext, htext']
    simp
  have hlength : (p.take start ++ (host ++ '\\' :: share)).length =
      start + host.length + 1 + share.length := by
    simp only [List.length_append, List.length_take, List.length_cons]
    omega
  rw [splitShare, findSep_eq_some htext hhost]
  dsimp only
  rw [findSep_eq_some hdrop hshare]
  dsimp only
  rw [List.splitAt_eq, ← hlength]
  refine Prod.ext ?_ ?_
  · exact (congrArg _ hwhole).trans List.take_left
  · exact (congrArg _ hwhole).trans List.drop_left

end Drive

end NtPath

end VeraMesh.Python

import VeraMesh.Lib.Delimited
import VeraMesh.Python.Value

/-!
# Resource claims

The claims of a lane and the two comparisons the lane registry makes between them, from `core.py`:
`resourcesOverlap` (may two claims touch the same resource) and `claimCovers` (does a claim permit
a request). The first looks for an ancestor in either direction, the second only from the claim
down to the request.

Both compare `comparable` values, the path part of a key without trailing slashes and case-folded
on Windows, by the ancestor order `SegmentLE '/'`. That order is what ties them together:
claims that cover overlapping keys overlap (`resourcesOverlap_of_claimCovers`).
-/

namespace VeraMesh

open Python

/-- The two modes of a claim. -/
inductive ClaimMode where
  | read
  | write
  deriving DecidableEq

/-- The text of a mode. -/
def ClaimMode.value : ClaimMode → String
  | .read => "read"
  | .write => "write"

/-- `ClaimMode(s)`. -/
def ClaimMode.ofString (rt : Runtime) (s : String) : Except PyError ClaimMode :=
  if s = "read" then .ok .read
  else if s = "write" then .ok .write
  else .error ⟨.valueError, rt.reprStr s ++ " is not a valid ClaimMode"⟩

/-- A namespaced resource key: a string with a colon. -/
structure ResourceKey where
  text : String
  /-- The key has a namespace. -/
  namespaced : ':' ∈ text.toList
  deriving DecidableEq

namespace ResourceKey

/-- The key with the given text, if the text has a colon. -/
def ofString? (s : String) : Option ResourceKey :=
  if h : ':' ∈ s.toList then some ⟨s, h⟩ else none

@[simp]
theorem ofString?_text (k : ResourceKey) : ofString? k.text = some k :=
  dif_pos k.namespaced

/-- `key.split(":", 1)[0]`. -/
def resourceNamespace (k : ResourceKey) : List Char := k.text.toList.takeWhile (· ≠ ':')

/-- `key.split(":", 1)[1]`. -/
def resourceValue (k : ResourceKey) : String :=
  String.ofList (k.text.toList.dropWhile (· ≠ ':')).tail

end ResourceKey

/-- A claim on a resource. -/
structure ResourceClaim where
  key : ResourceKey
  mode : ClaimMode
  deriving DecidableEq

/-- `ResourceClaim(key, mode)` with the check of `__post_init__`. -/
def ResourceClaim.create (key : String) (mode : ClaimMode) : Except PyError ResourceClaim :=
  match ResourceKey.ofString? key with
  | some k => .ok ⟨k, mode⟩
  | none => .error ⟨.valueError, "resource claim key must be a namespaced non-empty string"⟩

/-- The order of `@dataclass(order=True)`: by key, then by the text of the mode. -/
def ResourceClaim.le (a b : ResourceClaim) : Bool :=
  if a.key.text = b.key.text then decide (a.mode.value ≤ b.mode.value)
  else decide (a.key.text ≤ b.key.text)

/-- `tuple(sorted(set(claims)))`. -/
def claimTuple (claims : List ResourceClaim) : List ResourceClaim :=
  claims.dedup.insertionSort fun a b => a.le b = true

theorem mem_claimTuple {claims : List ResourceClaim} {c : ResourceClaim} :
    c ∈ claimTuple claims ↔ c ∈ claims := by
  rw [claimTuple, List.mem_insertionSort, List.mem_dedup]

variable (rt : Runtime)

/-- The path part of a key as the registry compares it. -/
def comparable (k : ResourceKey) : List Char :=
  let v := rstripSlash k.resourceValue
  (if rt.nt then rt.casefold v else v).toList

/-- `_resources_overlap`. -/
def resourcesOverlap (left right : ResourceKey) : Bool :=
  if left.resourceNamespace ≠ right.resourceNamespace then false
  else
    let l := comparable rt left
    let r := comparable rt right
    l == r || (r ++ ['/']).isPrefixOf l || (l ++ ['/']).isPrefixOf r

/-- `_claim_covers` for a request on a namespaced key. -/
def claimCovers (claim : ResourceClaim) (key : ResourceKey) (requested : ClaimMode) : Bool :=
  if requested = .write ∧ claim.mode ≠ .write then false
  else if claim.key.resourceNamespace ≠ key.resourceNamespace then false
  else
    let c := comparable rt claim.key
    let r := comparable rt key
    r == c || (c ++ ['/']).isPrefixOf r

/-- The first pair in conflict, in the order of the two loops of `_first_conflict`. -/
def firstConflictPair (left right : List ResourceClaim) :
    Option (ResourceClaim × ResourceClaim) :=
  (left.product right).find? fun p =>
    resourcesOverlap rt p.1.key p.2.key && (p.1.mode == .write || p.2.mode == .write)

/-- `_first_conflict`: the text of the first conflict. -/
def firstConflict (left right : List ResourceClaim) : Option String :=
  (firstConflictPair rt left right).map fun p =>
    p.1.key.text ++ "(" ++ p.1.mode.value ++ ") vs " ++ p.2.key.text ++ "(" ++ p.2.mode.value ++ ")"

variable {rt}

/-- Two keys overlap iff they have one namespace and one is the other or an ancestor of it. -/
theorem resourcesOverlap_eq_true_iff {l r : ResourceKey} :
    resourcesOverlap rt l r = true ↔
      l.resourceNamespace = r.resourceNamespace ∧
        (SegmentLE '/' (comparable rt l) (comparable rt r) ∨
          SegmentLE '/' (comparable rt r) (comparable rt l)) := by
  by_cases h : l.resourceNamespace = r.resourceNamespace
  · simp only [resourcesOverlap, h, ne_eq, not_true_eq_false, if_false, Bool.or_eq_true,
      beq_iff_eq, List.isPrefixOf_iff_prefix, SegmentLE, true_and]
    constructor
    · rintro ((heq | hle) | hle)
      · exact Or.inl (Or.inl heq.symm)
      · exact Or.inr (Or.inr hle)
      · exact Or.inl (Or.inr hle)
    · rintro ((heq | hle) | (heq | hle))
      · exact Or.inl (Or.inl heq.symm)
      · exact Or.inr hle
      · exact Or.inl (Or.inl heq)
      · exact Or.inl (Or.inr hle)
  · simp [resourcesOverlap, h]

/-- A claim covers a request iff its mode suffices and its key is the requested one or an
ancestor of it. -/
theorem claimCovers_eq_true_iff {c : ResourceClaim} {k : ResourceKey} {m : ClaimMode} :
    claimCovers rt c k m = true ↔
      (m = .write → c.mode = .write) ∧ c.key.resourceNamespace = k.resourceNamespace ∧
        SegmentLE '/' (comparable rt c.key) (comparable rt k) := by
  unfold claimCovers
  by_cases hm : m = .write ∧ c.mode ≠ .write
  · rw [if_pos hm]
    simp only [Bool.false_eq_true, false_iff, not_and]
    exact fun h => absurd (h hm.1) hm.2
  · rw [if_neg hm]
    have hmode : m = .write → c.mode = .write := fun h => by
      by_contra hc
      exact hm ⟨h, hc⟩
    by_cases hn : c.key.resourceNamespace = k.resourceNamespace
    · rw [if_neg (not_not_intro hn)]
      simp only [Bool.or_eq_true, beq_iff_eq, List.isPrefixOf_iff_prefix, hn, true_and, SegmentLE]
      exact ⟨fun h => ⟨hmode, h⟩, fun h => h.2⟩
    · simp [hn]

theorem resourcesOverlap_comm (l r : ResourceKey) :
    resourcesOverlap rt l r = resourcesOverlap rt r l := by
  rw [Bool.eq_iff_iff, resourcesOverlap_eq_true_iff, resourcesOverlap_eq_true_iff,
    eq_comm (a := l.resourceNamespace), or_comm]

/-- The bridge between the two comparisons: claims that cover overlapping keys overlap. -/
theorem resourcesOverlap_of_claimCovers {c₁ c₂ : ResourceClaim} {k₁ k₂ : ResourceKey}
    {m₁ m₂ : ClaimMode} (h₁ : claimCovers rt c₁ k₁ m₁ = true)
    (h₂ : claimCovers rt c₂ k₂ m₂ = true) (h : resourcesOverlap rt k₁ k₂ = true) :
    resourcesOverlap rt c₁.key c₂.key = true := by
  rw [claimCovers_eq_true_iff] at h₁ h₂
  rw [resourcesOverlap_eq_true_iff] at h ⊢
  obtain ⟨-, hn₁, hle₁⟩ := h₁
  obtain ⟨-, hn₂, hle₂⟩ := h₂
  exact ⟨by rw [hn₁, h.1, hn₂], SegmentLE.comparable_of_comparable hle₁ hle₂ h.2⟩

/-- Two claim lists conflict iff some pair overlaps and one of the pair writes. -/
theorem firstConflict_eq_none_iff {l r : List ResourceClaim} :
    firstConflict rt l r = none ↔
      ∀ a ∈ l, ∀ b ∈ r, resourcesOverlap rt a.key b.key = true →
        a.mode ≠ .write ∧ b.mode ≠ .write := by
  simp only [firstConflict, Option.map_eq_none_iff, firstConflictPair, List.find?_eq_none,
    List.pair_mem_product, Prod.forall, Bool.and_eq_true, Bool.or_eq_true, beq_iff_eq, not_and,
    not_or, ne_eq]
  exact ⟨fun h a ha b hb => h a b ⟨ha, hb⟩, fun h a b hab => h a hab.1 b hab.2⟩

theorem firstConflict_comm_none {l r : List ResourceClaim} (h : firstConflict rt l r = none) :
    firstConflict rt r l = none := by
  rw [firstConflict_eq_none_iff] at h ⊢
  intro b hb a ha hover
  rw [resourcesOverlap_comm] at hover
  exact (h a ha b hb hover).symm

/-- Conflict is a matter of which claims are made, not of their order or repetition. -/
theorem firstConflict_none_congr {l l' r : List ResourceClaim} (hl : ∀ c ∈ l', c ∈ l)
    (h : firstConflict rt l r = none) : firstConflict rt l' r = none := by
  rw [firstConflict_eq_none_iff] at h ⊢
  exact fun a ha => h a (hl a ha)

end VeraMesh

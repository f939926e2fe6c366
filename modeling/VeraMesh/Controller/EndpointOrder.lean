import VeraMesh.Controller.ReadLane
import VeraMesh.Gateway.Controller
import VeraMesh.Lib.StrictSort

/-!
# The order of failover

`_ordered_current_endpoints` chooses the best path again and again among those that are left. The
result is the current endpoints in the order of the selection, each once, and it is the list that
`orderedCurrentPathsLocked` of the Go controller sorts.

* `orderCurrent_spec`: what the loop comes to.
* `orderedCurrentPaths_of_forall₂`: a strictly ordered list of the same endpoints is the one that Go
  makes.
* `orderedCurrentEndpoints_agree`: both, for every state of the router and every Go controller on
  the same data.
-/

namespace VeraMesh

open Python

/-- Fresh, authenticated and healthy, and its session has not expired. -/
def LiveEndpoint.Current (now maxPathAgeMs : ℤ) (item : LiveEndpoint) : Prop :=
  (item.path.observedAtMs ≤ now ∧ now - item.path.observedAtMs ≤ maxPathAgeMs) ∧
    (item.path.authenticated = true ∧ item.path.healthy = true) ∧
    now < item.binding.expiresAtMs

instance (now maxPathAgeMs : ℤ) : DecidablePred (LiveEndpoint.Current now maxPathAgeMs) :=
  fun item => by
    unfold LiveEndpoint.Current
    infer_instance

theorem LiveEndpoint.current_iff {now maxPathAgeMs : ℤ} {item : LiveEndpoint} :
    item.Current now maxPathAgeMs ↔
      item.path.rejection now maxPathAgeMs = none ∧ now < item.binding.expiresAtMs := by
  rw [PathObservation.rejection_eq_none_iff, LiveEndpoint.Current]
  exact and_assoc.symm

/-! ## The loop -/

section Loop

variable {now maxPathAgeMs : ℤ}

/-- Taking the first endpoint with a path id out of the list. -/
theorem perm_of_find?_pathId {remaining : List LiveEndpoint} {pathId : String}
    {endpoint : LiveEndpoint}
    (h : (remaining.find? fun item => item.path.pathId == pathId) = some endpoint) :
    remaining.Perm
      (endpoint :: remaining.eraseP fun item => item.path.pathId == endpoint.path.pathId) := by
  obtain rfl : endpoint.path.pathId = pathId := by simpa using List.find?_some h
  obtain ⟨-, before, after, rfl, hbefore⟩ := List.find?_eq_some_iff_append.mp h
  rw [List.eraseP_append_right _ (by simpa using hbefore), List.eraseP_cons_of_pos (by simp)]
  exact List.perm_middle

/-- The loop of `_ordered_current_endpoints` returns some of the live endpoints, each once. -/
theorem subperm_of_orderCurrent {fuel : ℕ} {remaining current : List LiveEndpoint}
    (h : orderCurrent now maxPathAgeMs fuel remaining = .ok current) :
    current.Subperm remaining := by
  induction fuel generalizing remaining current with
  | zero =>
    cases h
    exact List.nil_subperm
  | succ fuel ih =>
    cases remaining with
    | nil =>
      cases h
      exact List.nil_subperm
    | cons first rest =>
      simp only [orderCurrent, bind, Except.bind, pure, Except.pure] at h
      split at h
      · cases h
      · next decision _ =>
        split at h
        · cases h
          exact List.nil_subperm
        · next endpoint hselected =>
          obtain ⟨selected, -, hfind⟩ := Option.bind_eq_some_iff.mp hselected
          have hperm := perm_of_find?_pathId hfind
          split at h
          · cases h
          · next ordered hrest =>
            have hordered := ih hrest
            cases h
            split_ifs
            · exact ((List.subperm_cons endpoint).mpr hordered).trans hperm.symm.subperm
            · exact (hordered.trans (List.sublist_cons_self _ _).subperm).trans hperm.symm.subperm

/-- One turn: the chosen endpoint, what is left, and that no eligible path is before the chosen
one. -/
theorem exists_of_selected {remaining : List LiveEndpoint}
    (hpaths : (remaining.map (·.path.pathId)).Nodup) {decision : PathDecision}
    (h : selectPath (remaining.map (·.path)) now maxPathAgeMs = .ok decision)
    {selected : PathObservation} (hsel : decision.selected = some selected) :
    ∃ endpoint, (remaining.find? fun item => item.path.pathId == selected.pathId) = some endpoint ∧
      endpoint.path.rejection now maxPathAgeMs = none ∧
      (∀ item ∈ remaining, item.path.rejection now maxPathAgeMs = none →
        item.path.keyLt endpoint.path = false) ∧
      remaining.Perm
        (endpoint :: remaining.eraseP fun item => item.path.pathId == endpoint.path.pathId) := by
  obtain ⟨hoffered, heligible⟩ := selectPath_ok h hsel
  obtain ⟨owner, howner, rfl⟩ := List.mem_map.mp hoffered
  have hfound : (remaining.find? fun item => item.path.pathId == owner.path.pathId).isSome := by
    rw [List.find?_isSome]
    exact ⟨owner, howner, by simp⟩
  obtain ⟨endpoint, hfind⟩ := Option.isSome_iff_exists.mp hfound
  -- path ids are unique, so the endpoint found by id is the owner of the path
  have hid : endpoint.path.pathId = owner.path.pathId := by simpa using List.find?_some hfind
  obtain rfl := List.inj_on_of_nodup_map hpaths (List.mem_of_find?_eq_some hfind) howner hid
  refine ⟨endpoint, hfind, heligible, fun item hitem hok => ?_, perm_of_find?_pathId hfind⟩
  exact selectPath_best h hsel (List.mem_map_of_mem hitem) hok

/-- The loop returns every current endpoint once, none before one that it comes after. -/
theorem orderCurrent_spec (hnow : 0 ≤ now) (hage : 0 ≤ maxPathAgeMs) (fuel : ℕ)
    (remaining : List LiveEndpoint) (hfuel : remaining.length = fuel)
    (hpaths : (remaining.map (·.path.pathId)).Nodup) :
    ∃ ordered, orderCurrent now maxPathAgeMs fuel remaining = .ok ordered ∧
      ordered.Perm (remaining.filter fun item => decide (item.Current now maxPathAgeMs)) ∧
      ordered.Pairwise fun a b => b.path.keyLt a.path = false := by
  induction fuel generalizing remaining with
  | zero =>
    obtain rfl := List.length_eq_zero_iff.mp hfuel
    exact ⟨[], rfl, .nil, .nil⟩
  | succ fuel ih =>
    obtain ⟨first, rest, rfl⟩ := List.exists_cons_of_length_eq_add_one hfuel
    generalize hremaining : first :: rest = remaining at *
    have hne : remaining = [] → False := by
      rintro rfl
      cases hremaining
    have hok : ∃ decision,
        selectPath (remaining.map (·.path)) now maxPathAgeMs = .ok decision := by
      unfold selectPath
      rw [if_neg (by omega)]
      exact ⟨_, rfl⟩
    obtain ⟨decision, hdecision⟩ := hok
    rw [orderCurrent.eq_3 _ _ _ _ hne, hdecision]
    simp only [bind, Except.bind, pure, Except.pure]
    cases hsel : decision.selected with
    | none =>
      -- nothing is eligible, so nothing is current
      have hnone : (remaining.filter fun item => decide (item.Current now maxPathAgeMs)) = [] := by
        rw [List.filter_eq_nil_iff]
        intro item hitem hcurrent
        have hok := (LiveEndpoint.current_iff.mp (of_decide_eq_true hcurrent)).1
        exact selectPath_none hdecision hsel (List.mem_map_of_mem hitem) hok
      exact ⟨[], rfl, by rw [hnone], .nil⟩
    | some selected =>
      obtain ⟨endpoint, hfind, heligible, hbest, hperm⟩ :=
        exists_of_selected hpaths hdecision hsel
      rw [Option.bind_some, hfind]
      have hlength := hperm.length_eq
      rw [List.length_cons, hfuel] at hlength
      have hpaths' := (hperm.map (·.path.pathId)).nodup_iff.mp hpaths
      obtain ⟨ordered, hordered, hsame, hsorted⟩ :=
        ih _ (Nat.succ.inj hlength).symm (List.nodup_cons.mp hpaths').2
      simp only [hordered]
      have hcurrent : decide (endpoint.Current now maxPathAgeMs) =
          decide (now < endpoint.binding.expiresAtMs) := by
        rw [decide_eq_decide, LiveEndpoint.current_iff]
        exact and_iff_right heligible
      have hfilter := hperm.filter fun item => decide (item.Current now maxPathAgeMs)
      rw [List.filter_cons, hcurrent] at hfilter
      by_cases hexpires : now < endpoint.binding.expiresAtMs
      · rw [if_pos hexpires]
        rw [if_pos (decide_eq_true hexpires)] at hfilter
        refine ⟨_, rfl, (hsame.cons endpoint).trans hfilter.symm,
          List.pairwise_cons.mpr ⟨fun item hitem => ?_, hsorted⟩⟩
        obtain ⟨hmem, hitem⟩ := List.mem_filter.mp (hsame.mem_iff.mp hitem)
        exact hbest item (List.mem_of_mem_eraseP hmem)
          (LiveEndpoint.current_iff.mp (of_decide_eq_true hitem)).1
      · rw [if_neg hexpires]
        rw [if_neg (by simpa using hexpires)] at hfilter
        exact ⟨_, rfl, hsame.trans hfilter.symm, hsorted⟩

end Loop

/-! ## The Go controller -/

/-- The two controllers hold the same data about an endpoint, and it is authenticated, healthy and
measured. -/
structure SameEndpoint (item : LiveEndpoint) (path : Gateway.LivePath) : Prop where
  pathId : item.path.pathId = path.endpoint.endpointID
  mode : item.path.mode.name = path.endpoint.mode
  observedAtMs : item.path.observedAtMs = path.observedAtMS
  rttMs : item.path.rttMs = some path.rttMS
  measured : path.rttMS ≠ .nan
  expiresAtMs : item.binding.expiresAtMs = path.client.binding.expiresAtMs
  authenticated : item.path.authenticated = true
  healthy : item.path.healthy = true

namespace SameEndpoint

variable {a b : LiveEndpoint} {x y : Gateway.LivePath}

theorem pathModePriority_eq (h : SameEndpoint a x) :
    Gateway.Controller.pathModePriority x.endpoint.mode = a.path.mode.value := by
  rw [← h.mode]
  cases a.path.mode <;> rfl

/-- Both implementations compare two endpoints alike. -/
theorem pathLess_eq (ha : SameEndpoint a x) (hb : SameEndpoint b y) :
    Gateway.Controller.pathLess x y = a.path.keyLt b.path := by
  have hmode : a.path.mode ≠ b.path.mode ↔ a.path.mode.value ≠ b.path.mode.value :=
    PathMode.value_injective.ne_iff.symm
  unfold Gateway.Controller.pathLess PathObservation.keyLt
  simp only [ha.pathModePriority_eq, hb.pathModePriority_eq, ha.rttMs, hb.rttMs, ha.pathId,
    hb.pathId, hmode, Option.getD_some]

/-- An endpoint is current for the router if and only if it is for Go. -/
theorem current_iff {now maxPathAgeMs : ℤ} (h : SameEndpoint a x) :
    decide (a.Current now maxPathAgeMs) = true ↔
      (decide (now < x.client.binding.expiresAtMs) &&
        decide (x.observedAtMS ≤ now ∧ now - x.observedAtMS ≤ maxPathAgeMs)) = true := by
  simp [LiveEndpoint.Current, h.observedAtMs, h.expiresAtMs, h.authenticated, h.healthy, and_comm]

theorem rttKey_ne_nan (h : SameEndpoint a x) : a.path.rttKey ≠ .nan := by
  rw [PathObservation.rttKey, h.rttMs]
  exact h.measured

end SameEndpoint

open Gateway.Controller in
/-- The list that Go sorts is the strictly ordered list of the same current endpoints. -/
theorem orderedCurrentPaths_of_forall₂ {c : Gateway.Controller} {nowMS : ℤ}
    {sorted current : List Gateway.LivePath}
    (hcurrent : current = c.paths.values.filter fun item =>
      decide (nowMS < item.client.binding.expiresAtMs) &&
        decide (item.observedAtMS ≤ nowMS ∧ nowMS - item.observedAtMS ≤ c.maxPathAge))
    (hperm : sorted.Perm current)
    (hsorted : sorted.Pairwise fun a b => pathLess a b = true ∧ pathLess b a = false) :
    c.orderedCurrentPaths nowMS = sorted := by
  unfold Gateway.Controller.orderedCurrentPaths
  rw [← hcurrent]
  refine List.insertionSort_eq_of_strict hperm (hsorted.imp fun {a b} h => ?_)
  simp [h.1, h.2]

/-- Whatever endpoints are live and whatever the time is, the router orders the current ones: each
once, by mode priority, round-trip time and path id. On the same data the Go controller makes the
same list. -/
theorem orderedCurrentEndpoints_agree (router : ReadLaneRouter) (s : ReadLaneState)
    (hpaths : (s.live.map (·.path.pathId)).Nodup) (hnow : 0 ≤ router.nowMs s.readings)
    (hage : 0 ≤ router.maxPathAgeMs) :
    ∃ ordered, (router.orderedCurrentEndpoints s).1 = .ok ordered ∧
      ordered.Perm (s.live.filter fun item =>
        decide (item.Current (router.nowMs s.readings) router.maxPathAgeMs)) ∧
      (ordered.Pairwise fun a b => ¬b.path.Before a.path) ∧
      ((∀ item ∈ s.live, item.path.rttKey ≠ .nan) →
        ordered.Pairwise fun a b => a.path.Before b.path) ∧
      ∀ (c : Gateway.Controller) (paths : List Gateway.LivePath),
        paths.Perm c.paths.values → List.Forall₂ SameEndpoint s.live paths →
        c.maxPathAge = router.maxPathAgeMs →
        List.Forall₂ SameEndpoint ordered (c.orderedCurrentPaths (router.nowMs s.readings)) := by
  obtain ⟨ordered, hordered, hperm, hsorted⟩ :=
    orderCurrent_spec hnow hage s.live.length s.live rfl hpaths
  have hmem : ∀ item ∈ ordered, item ∈ s.live := fun item hitem =>
    (List.mem_filter.mp (hperm.mem_iff.mp hitem)).1
  have hids : (ordered.map (·.path.pathId)).Nodup :=
    ((hperm.map _).nodup_iff).mpr (hpaths.sublist (List.filter_sublist.map _))
  have hstrict : (∀ item ∈ s.live, item.path.rttKey ≠ .nan) →
      ordered.Pairwise fun a b => a.path.keyLt b.path = true := by
    intro hnumbers
    have hpair := (List.pairwise_map.mp hids).and hsorted
    refine hpair.imp_of_mem fun {a b} ha hb hab => ?_
    have hcomparable := PathObservation.keyLt_or_keyLt (hnumbers a (hmem a ha))
      (hnumbers b (hmem b hb)) hab.1
    exact hcomparable.resolve_right (by simp [hab.2])
  refine ⟨ordered, hordered, hperm, hsorted.imp fun {a b} h => ?_, fun hnumbers => ?_, ?_⟩
  · rw [← PathObservation.keyLt_iff, h]
    exact Bool.false_ne_true
  · exact (hstrict hnumbers).imp fun h => PathObservation.keyLt_iff.mp h
  · intro c paths hsame hdata hmax
    have hnumbers := hdata.forall_left fun _ _ h => h.rttKey_ne_nan
    -- the current endpoints on both sides, and then Go's in the order of the router
    have hcurrent : List.Forall₂ SameEndpoint
        (s.live.filter fun item =>
          decide (item.Current (router.nowMs s.readings) router.maxPathAgeMs))
        (paths.filter fun item =>
          decide (router.nowMs s.readings < item.client.binding.expiresAtMs) &&
            decide (item.observedAtMS ≤ router.nowMs s.readings ∧
              router.nowMs s.readings - item.observedAtMS ≤ router.maxPathAgeMs)) :=
      List.rel_filter (fun _ _ h => h.current_iff) hdata
    obtain ⟨sorted, hrelated, hsorted'⟩ := List.perm_comp_forall₂ hperm hcurrent
    have hagain := orderedCurrentPaths_of_forall₂ (c := c) rfl
      (hsorted'.trans (by rw [hmax]; exact hsame.filter _))
      (hrelated.pairwise (hstrict hnumbers) fun ha hb hab =>
        ⟨(ha.pathLess_eq hb).trans hab,
          (hb.pathLess_eq ha).trans (PathObservation.keyLt_asymm hab)⟩)
    rw [hagain]
    exact hrelated

/-- The Go controller of the same two endpoints. -/
def exampleController : Gateway.Controller where
  cfg := ⟨["fs.read"], ["fs.read_text"], [], 5000⟩
  paths := .ofList [
    ("direct", ⟨⟨0, ⟨"s1", "controller:c", "workstation:w", {"fs.read"}, 9000⟩⟩,
      ⟨"direct", "DIRECT_STREAM", true⟩, 1000, 2⟩),
    ("edge", ⟨⟨1, ⟨"s2", "controller:c", "workstation:w", {"fs.read"}, 9000⟩⟩,
      ⟨"edge", "EDGE_STREAM", true⟩, 1000, 8⟩)]
  readLanes := .empty
  fenceEpoch := 1
  nextFence := 0
  counter := 0
  trace := []

/-- Two endpoints, listed by the router in another order than by the Go controller. -/
theorem orderedCurrentEndpoints_agree_exampleRouter :
    ∃ ordered, (exampleRouter.orderedCurrentEndpoints (.init [edgeEndpoint "s2",
        directEndpoint "s1"])).1 = .ok ordered ∧
      (ordered.Pairwise fun a b => a.path.Before b.path) ∧
      List.Forall₂ SameEndpoint ordered (exampleController.orderedCurrentPaths 1000) := by
  obtain ⟨ordered, hordered, -, -, hstrict, hgo⟩ := orderedCurrentEndpoints_agree exampleRouter
    (.init [edgeEndpoint "s2", directEndpoint "s1"]) (by decide) (by decide) (by decide)
  refine ⟨ordered, hordered, hstrict ?_, hgo exampleController
    exampleController.paths.values.reverse (List.reverse_perm _) ?_ rfl⟩
  · rintro item (_ | ⟨_, _ | ⟨_, ⟨⟩⟩⟩) <;> decide
  · refine .cons ⟨rfl, rfl, rfl, rfl, by decide, rfl, rfl, rfl⟩
      (.cons ⟨rfl, rfl, rfl, rfl, by decide, rfl, rfl, rfl⟩ .nil)

end VeraMesh

import Stencil.Proofs.DocumentOrder

/-!
# Traversals

A traversal that succeeds has replaced every leaf by what it is turned into, and nothing else. One
that fails has stopped at the first leaf, in document order, that fails.
-/

namespace Stencil

variable {α β γ δ ε : Type}

/-! ## Results and failures -/

/-- The failure of a computation. -/
def failure? : Except ε β → Option ε
  | .error e => some e
  | .ok _ => none

/-- A failure, if there is one, or else a result. -/
def report : Option ε → β → Except ε β
  | some e, _ => .error e
  | none, b => .ok b

/-- Two computations one after the other report the failure of the first, or else of the second. -/
theorem report_bind (o o' : Option ε) (b : β) (c : γ) (h : β → γ → δ) :
    (do
      let b ← report o b
      let c ← report o' c
      return h b c) = report (o.or o') (h b c) := by
  cases o with
  | some e => rfl
  | none => cases o' <;> rfl

theorem failure?_eq_some_iff {x : Except ε β} {e : ε} : failure? x = some e ↔ x = .error e := by
  cases x with
  | error e' => rw [failure?, Option.some_inj, Except.error.injEq]
  | ok b => simp [failure?]

theorem report_eq_ok_iff {o : Option ε} {b b' : β} : report o b = .ok b' ↔ o = none ∧ b' = b := by
  cases o with
  | some e => simp [report]
  | none => simp [report, eq_comm]

theorem report_eq_error_iff {o : Option ε} {b : β} {e : ε} :
    report o b = .error e ↔ o = some e := by
  cases o with
  | some e' => rw [report, Except.error.injEq, Option.some_inj]
  | none => simp [report]

namespace Tree

/-! ## Replacing leaves -/

theorem mapItems_eq_map (f : α → β) (items : List (Tree α)) :
    mapItems f items = items.map (mapLeaves f) := by
  induction items with
  | nil => rfl
  | cons item items ih => rw [mapItems, ih, List.map_cons]

theorem mapMembers_eq_map (f : α → β) (members : List (String × Tree α)) :
    mapMembers f members = members.map fun member => (member.1, member.2.mapLeaves f) := by
  induction members with
  | nil => rfl
  | cons member members ih => rw [mapMembers, ih, List.map_cons]

/-- Nothing changes if every leaf is replaced by itself. -/
theorem mapLeaves_id (t : Tree α) : t.mapLeaves id = t := by
  induction t using induction with
  | leaf content => rfl
  | seq items ih =>
    rw [mapLeaves, mapItems_eq_map, List.map_congr_left ih, List.map_id']
  | map members ih =>
    rw [mapLeaves, mapMembers_eq_map, Members.map_eq_self ih]

theorem mapLeaves_mapLeaves (g : β → γ) (f : α → β) (t : Tree α) :
    (t.mapLeaves f).mapLeaves g = t.mapLeaves (g ∘ f) := by
  induction t using induction with
  | leaf content => rfl
  | seq items ih =>
    simp only [mapLeaves, mapItems_eq_map, List.map_map]
    exact congrArg seq (List.map_congr_left ih)
  | map members ih =>
    simp only [mapLeaves, mapMembers_eq_map, List.map_map]
    exact congrArg map (Members.map_congr (f := mapLeaves g ∘ mapLeaves f) ih)

theorem itemLeaves_eq_flatMap (items : List (Tree α)) :
    itemLeaves items = items.flatMap leaves := by
  induction items with
  | nil => rfl
  | cons item items ih => rw [itemLeaves, ih, List.flatMap_cons]

theorem memberLeaves_eq_flatMap (members : List (String × Tree α)) :
    memberLeaves members = members.flatMap fun member => member.2.leaves := by
  induction members with
  | nil => rfl
  | cons member members ih => rw [memberLeaves, ih, List.flatMap_cons]

/-- Replacing leaves keeps their number and order. -/
theorem leaves_mapLeaves (f : α → β) (t : Tree α) : (t.mapLeaves f).leaves = t.leaves.map f := by
  induction t using induction with
  | leaf content => rfl
  | seq items ih =>
    rw [mapLeaves, leaves, leaves, mapItems_eq_map, itemLeaves_eq_flatMap, itemLeaves_eq_flatMap,
      List.flatMap_map, List.map_flatMap, List.flatMap_def, List.flatMap_def,
      List.map_congr_left ih]
  | map members ih =>
    rw [mapLeaves, leaves, leaves, mapMembers_eq_map, memberLeaves_eq_flatMap,
      memberLeaves_eq_flatMap, List.flatMap_map, List.map_flatMap, List.flatMap_def,
      List.flatMap_def, List.map_congr_left ih]

/-- What leaves are replaced by matters for those of the tree only. -/
theorem mapLeaves_congr {f g : α → β} {t : Tree α}
    (h : ∀ content ∈ t.leaves, f content = g content) : t.mapLeaves f = t.mapLeaves g := by
  induction t using induction with
  | leaf content => exact congrArg leaf (h content (List.mem_singleton.mpr rfl))
  | seq items ih =>
    rw [leaves, itemLeaves_eq_flatMap] at h
    rw [mapLeaves, mapLeaves, mapItems_eq_map, mapItems_eq_map]
    refine congrArg seq (List.map_congr_left fun item hm => ih item hm ?_)
    exact fun content hc => h content (List.mem_flatMap.mpr ⟨item, hm, hc⟩)
  | map members ih =>
    rw [leaves, memberLeaves_eq_flatMap] at h
    rw [mapLeaves, mapLeaves, mapMembers_eq_map, mapMembers_eq_map]
    refine congrArg map (Members.map_congr fun member hm => ih member hm ?_)
    exact fun content hc => h content (List.mem_flatMap.mpr ⟨member, hm, hc⟩)

/-- Replacing leaves keeps the way to every node. -/
theorem at?_mapLeaves (f : α → β) (t : Tree α) (path : Path) :
    (t.mapLeaves f).at? path = (t.at? path).map (mapLeaves f) := by
  induction path generalizing t with
  | nil => rfl
  | cons step path ih =>
    cases step with
    | index i =>
      cases t with
      | leaf content => rfl
      | map members => rfl
      | seq items =>
        rw [mapLeaves, at?, at?, mapItems_eq_map, List.getElem?_map]
        cases items[i]? with
        | none => rfl
        | some item => exact ih item
    | key k =>
      cases t with
      | leaf content => rfl
      | seq items => rfl
      | map members =>
        rw [mapLeaves, at?, at?, mapMembers_eq_map, Members.lookup_map]
        cases members.lookup k with
        | none => rfl
        | some value => exact ih value

/-- Replacing leaves keeps the order of all keys. -/
theorem wellOrdered_mapLeaves {f : α → β} {t : Tree α} :
    (t.mapLeaves f).WellOrdered ↔ t.WellOrdered := by
  induction t using induction with
  | leaf content => rfl
  | seq items ih =>
    rw [mapLeaves, WellOrdered, WellOrdered, wellOrderedItems_iff, wellOrderedItems_iff,
      mapItems_eq_map, List.forall_mem_map]
    exact forall₂_congr ih
  | map members ih =>
    rw [mapLeaves, WellOrdered, WellOrdered, wellOrderedMembers_iff, wellOrderedMembers_iff,
      mapMembers_eq_map, Members.increasing_map, List.forall_mem_map]
    exact and_congr Iff.rfl (forall₂_congr ih)

/-! ## What replacing leaves in several ways tells apart -/

section Ways

variable {ι : Type} {ways : ι → Prop} (hways : ∃ i, ways i)
include hways

/-- Lists that no way of replacing elements tells apart are of the same length, and what `g` makes
    of their elements is the same if the ways tell apart whatever `g` does. -/
theorem map_eq_map_of_ways {f : ι → α → β} {g : α → γ} {as bs : List α}
    (hg : ∀ a ∈ as, ∀ b, (∀ i, ways i → f i a = f i b) → g a = g b)
    (h : ∀ i, ways i → as.map (f i) = bs.map (f i)) : as.map g = bs.map g := by
  obtain ⟨i₀, hi₀⟩ := hways
  induction as generalizing bs with
  | nil =>
    cases bs with
    | nil => rfl
    | cons b bs => cases h i₀ hi₀
  | cons a as ih =>
    cases bs with
    | nil => cases h i₀ hi₀
    | cons b bs =>
      obtain ⟨hga, hgas⟩ := List.forall_mem_cons.mp hg
      have hhead : g a = g b := hga b fun i hi => (List.cons.inj (h i hi)).1
      have htail : as.map g = bs.map g := ih hgas fun i hi => (List.cons.inj (h i hi)).2
      rw [List.map_cons, List.map_cons, hhead, htail]

/-- The same of trees and their leaves. One way at least is needed: without any, trees of different
    shapes are not told apart. -/
theorem mapLeaves_eq_mapLeaves_of_ways {f : ι → α → β} {g : α → γ}
    (hg : ∀ a b, (∀ i, ways i → f i a = f i b) → g a = g b) {s t : Tree α}
    (h : ∀ i, ways i → s.mapLeaves (f i) = t.mapLeaves (f i)) : s.mapLeaves g = t.mapLeaves g := by
  obtain ⟨i₀, hi₀⟩ := hways
  induction s using induction generalizing t with
  | leaf a =>
    cases t with
    | leaf b => exact congrArg leaf (hg a b fun i hi => Tree.leaf.inj (h i hi))
    | seq items => cases h i₀ hi₀
    | map members => cases h i₀ hi₀
  | seq items ih =>
    cases t with
    | leaf b => cases h i₀ hi₀
    | map members => cases h i₀ hi₀
    | seq items' =>
      simp only [mapLeaves, mapItems_eq_map, Tree.seq.injEq] at h ⊢
      exact map_eq_map_of_ways ⟨i₀, hi₀⟩ (fun item hm item' hitem => ih item hm hitem) h
  | map members ih =>
    cases t with
    | leaf b => cases h i₀ hi₀
    | seq items => cases h i₀ hi₀
    | map members' =>
      simp only [mapLeaves, mapMembers_eq_map, Tree.map.injEq] at h ⊢
      refine map_eq_map_of_ways ⟨i₀, hi₀⟩ ?_ h
      intro member hm member' hmember
      have hkey : member.1 = member'.1 := (Prod.mk.inj (hmember i₀ hi₀)).1
      have hvalue : member.2.mapLeaves g = member'.2.mapLeaves g :=
        ih member hm fun i hi => (Prod.mk.inj (hmember i hi)).2
      rw [hkey, hvalue]

end Ways

/-! ## What a traversal depends on -/

/-- A traversal of replaced leaves can replace them on its way. -/
theorem traverse_mapLeaves (f : Path → β → Except ε γ) (g : α → β) (t : Tree α) (path : Path) :
    (t.mapLeaves g).traverse f path = t.traverse (fun p content => f p (g content)) path := by
  induction t using induction generalizing path with
  | leaf content => rfl
  | seq items ih =>
    have hitems (index : Nat) : traverseItems f path index (mapItems g items) =
        traverseItems (fun p content => f p (g content)) path index items := by
      induction items generalizing index with
      | nil => rfl
      | cons item items ihs =>
        obtain ⟨ihitem, ihitems⟩ := List.forall_mem_cons.mp ih
        rw [mapItems, traverseItems, traverseItems, ihitem, ihs ihitems]
    rw [mapLeaves, traverse, traverse, hitems]
  | map members ih =>
    have hmembers : traverseMembers f path (mapMembers g members) =
        traverseMembers (fun p content => f p (g content)) path members := by
      induction members with
      | nil => rfl
      | cons member members ihs =>
        obtain ⟨key, value⟩ := member
        obtain ⟨ihvalue, ihmembers⟩ := List.forall_mem_cons.mp ih
        rw [mapMembers, traverseMembers, traverseMembers, ihvalue, ihs ihmembers]
    rw [mapLeaves, traverse, traverse, hmembers]

/-- What a traversal makes of leaves matters for those of the tree only. -/
theorem traverse_congr {f g : Path → α → Except ε β} {t : Tree α}
    (h : ∀ content ∈ t.leaves, ∀ p, f p content = g p content) (path : Path) :
    t.traverse f path = t.traverse g path := by
  induction t using induction generalizing path with
  | leaf content => rw [traverse, traverse, h content (List.mem_singleton.mpr rfl)]
  | seq items ih =>
    rw [leaves] at h
    have hitems (index : Nat) : traverseItems f path index items =
        traverseItems g path index items := by
      induction items generalizing index with
      | nil => rfl
      | cons item items ihs =>
        obtain ⟨ihitem, ihitems⟩ := List.forall_mem_cons.mp ih
        obtain ⟨hitem, hitems⟩ := List.forall_mem_append.mp h
        rw [traverseItems, traverseItems, ihitem hitem, ihs ihitems hitems]
    rw [traverse, traverse, hitems]
  | map members ih =>
    rw [leaves] at h
    have hmembers : traverseMembers f path members = traverseMembers g path members := by
      induction members with
      | nil => rfl
      | cons member members ihs =>
        obtain ⟨key, value⟩ := member
        obtain ⟨ihvalue, ihmembers⟩ := List.forall_mem_cons.mp ih
        obtain ⟨hvalue, hmembers⟩ := List.forall_mem_append.mp h
        rw [traverseMembers, traverseMembers, ihvalue hvalue, ihs ihmembers hmembers]
    rw [traverse, traverse, hmembers]

/-! ## The result of a traversal -/

/-- The failure of the first leaf that fails, among leaves of the tree at `path`. -/
def firstFailure? (f : Path → α → Except ε β) (path : Path) (leaves : List (Path × α)) : Option ε :=
  leaves.findSome? fun leaf => failure? (f (path ++ leaf.1) leaf.2)

theorem firstFailure?_under (f : Path → α → Except ε β) (path : Path) (step : Step)
    (leaves : List (Path × α)) :
    firstFailure? f path (under step leaves) = firstFailure? f (path ++ [step]) leaves := by
  simp only [firstFailure?, under, List.findSome?_map, Function.comp_def, List.append_assoc,
    List.singleton_append]

theorem firstFailure?_append (f : Path → α → Except ε β) (path : Path)
    (xs ys : List (Path × α)) :
    firstFailure? f path (xs ++ ys) = (firstFailure? f path xs).or (firstFailure? f path ys) :=
  List.findSome?_append

/-- What `f` makes of a leaf, if it does not fail, is what `g` makes of it. -/
def Gives (f : Path → α → Except ε β) (g : α → β) : Prop :=
  ∀ path content content', f path content = .ok content' → g content = content'

variable {f : Path → α → Except ε β} {g : α → β}

/-- A traversal reports the first leaf that fails. If there is none, it has replaced every leaf. -/
theorem traverse_eq_report (hg : Gives f g) (t : Tree α) (path : Path) :
    t.traverse f path = report (firstFailure? f path t.positions) (t.mapLeaves g) := by
  induction t using induction generalizing path with
  | leaf content =>
    rw [traverse, positions, firstFailure?, List.findSome?_singleton, List.append_nil, mapLeaves]
    cases hc : f path content with
    | error e => rfl
    | ok content' =>
      rw [hg path content content' hc]
      rfl
  | seq items ih =>
    -- The items after the first are again items of a sequence, but at a greater index.
    have hitems (index : Nat) : traverseItems f path index items =
        report (firstFailure? f path (itemPositions index items)) (mapItems g items) := by
      induction items generalizing index with
      | nil => rfl
      | cons item items ihs =>
        obtain ⟨ihitem, ihitems⟩ := List.forall_mem_cons.mp ih
        rw [traverseItems, ihitem, ihs ihitems, itemPositions, firstFailure?_append,
          firstFailure?_under, mapItems]
        exact report_bind _ _ _ _ List.cons
    rw [traverse, hitems, positions, mapLeaves]
    cases firstFailure? f path (itemPositions 0 items) <;> rfl
  | map members ih =>
    have hmembers : traverseMembers f path members =
        report (firstFailure? f path (memberPositions members)) (mapMembers g members) := by
      induction members with
      | nil => rfl
      | cons member members ihs =>
        obtain ⟨key, value⟩ := member
        obtain ⟨ihvalue, ihmembers⟩ := List.forall_mem_cons.mp ih
        rw [traverseMembers, ihvalue, ihs ihmembers, memberPositions, firstFailure?_append,
          firstFailure?_under, mapMembers]
        exact report_bind _ _ _ _ fun value members => (key, value) :: members
    rw [traverse, hmembers, positions, mapLeaves]
    cases firstFailure? f path (memberPositions members) <;> rfl

/-- A traversal succeeds exactly if every leaf does, and then it has replaced them. -/
theorem traverse_eq_ok_iff (hg : Gives f g) {t : Tree α} {path : Path} {t' : Tree β} :
    t.traverse f path = .ok t' ↔
      (∀ leaf ∈ t.positions, ∃ content, f (path ++ leaf.1) leaf.2 = .ok content) ∧
        t' = t.mapLeaves g := by
  rw [traverse_eq_report hg, report_eq_ok_iff, firstFailure?, List.findSome?_eq_none_iff]
  refine and_congr (forall₂_congr fun leaf _ => ?_) Iff.rfl
  cases f (path ++ leaf.1) leaf.2 with
  | error e => simp [failure?]
  | ok content => simp [failure?]

/-! ## The first leaf that fails -/

/-- The leaf at a path fails. The tree is itself at `path`. -/
def FailsAt (f : Path → α → Except ε β) (path : Path) (t : Tree α) (p : Path) : Prop :=
  ∃ content e, t.at? p = some (.leaf content) ∧ f (path ++ p) content = .error e

variable {t : Tree α} {path : Path} {e : ε}

theorem firstFailure?_ne_none {p : Path} (h : FailsAt f path t p) :
    firstFailure? f path t.positions ≠ none := by
  obtain ⟨content, e, hat, he⟩ := h
  intro hn
  have hnone := List.findSome?_eq_none_iff.mp hn (p, content) (mem_positions_of_at? hat)
  rw [failure?_eq_some_iff.mpr he] at hnone
  cases hnone

/-- The failure among all leaves is that of the first leaf in document order that fails. -/
theorem first_of_firstFailure? (ht : t.WellOrdered)
    (h : firstFailure? f path t.positions = some e) :
    ∃ p content, Path.First (FailsAt f path t) p ∧ t.at? p = some (.leaf content) ∧
      f (path ++ p) content = .error e := by
  obtain ⟨xs, ⟨p, content⟩, ys, hl, he, hxs⟩ := List.findSome?_eq_some_iff.mp h
  replace he := failure?_eq_some_iff.mp he
  have hmem : (p, content) ∈ t.positions := by
    rw [hl]
    exact List.mem_append_right xs List.mem_cons_self
  have hat := (mem_positions_iff ht).mp hmem
  refine ⟨p, content, ⟨⟨content, e, hat, he⟩, ?_⟩, hat, he⟩
  intro q hq
  obtain ⟨content', e', hq, he'⟩ := hq
  have hpair := pairwise_positions ht
  have hqmem := mem_positions_of_at? hq
  rw [hl] at hpair hqmem
  -- No leaf listed before this one fails, and those listed after it come later in document order.
  rcases List.mem_append.mp hqmem with hqmem | hqmem
  · have hnone := hxs (q, content') hqmem
    rw [failure?_eq_some_iff.mpr he'] at hnone
    cases hnone
  · rcases List.mem_cons.mp hqmem with heq | hqmem
    · cases heq
      exact Or.inl rfl
    · have hcons := (List.pairwise_append.mp hpair).2.1
      exact Or.inr ((List.pairwise_cons.mp hcons).1 (q, content') hqmem)

/-- If there is a leaf that fails, then one of them is the first. -/
theorem exists_first (ht : t.WellOrdered) {P : Path → Prop} (hP : ∀ p, FailsAt f path t p ↔ P p)
    (h : ∃ p, P p) : ∃ p, Path.First P p := by
  obtain ⟨p, hp⟩ := h
  obtain ⟨e, he⟩ := Option.ne_none_iff_exists'.mp (firstFailure?_ne_none ((hP p).mpr hp))
  obtain ⟨q, -, hq, -⟩ := first_of_firstFailure? ht he
  exact ⟨q, (Path.first_congr hP).mp hq⟩

/-- A traversal that succeeds fails at no leaf, and has replaced every leaf. -/
theorem of_traverse_eq_ok (hg : Gives f g) {t' : Tree β} (h : t.traverse f path = .ok t') :
    (∀ p, ¬FailsAt f path t p) ∧ t' = t.mapLeaves g := by
  rw [traverse_eq_report hg] at h
  obtain ⟨hnone, rfl⟩ := report_eq_ok_iff.mp h
  exact ⟨fun p hp => firstFailure?_ne_none hp hnone, rfl⟩

/-- A traversal that meets no failure succeeds. -/
theorem traverse_eq_ok (hg : Gives f g) (ht : t.WellOrdered) (h : ∀ p, ¬FailsAt f path t p) :
    t.traverse f path = .ok (t.mapLeaves g) := by
  rw [traverse_eq_report hg]
  cases hfirst : firstFailure? f path t.positions with
  | none => rfl
  | some e =>
    obtain ⟨p, -, hp, -⟩ := first_of_firstFailure? ht hfirst
    exact absurd hp.holds (h p)

/-- The failure of a traversal is that of the first leaf that fails. -/
theorem traverse_eq_error_iff (hg : Gives f g) (ht : t.WellOrdered) :
    t.traverse f path = .error e ↔
      ∃ p content, Path.First (FailsAt f path t) p ∧ t.at? p = some (.leaf content) ∧
        f (path ++ p) content = .error e := by
  rw [traverse_eq_report hg, report_eq_error_iff]
  refine ⟨first_of_firstFailure? ht, ?_⟩
  intro hfirst
  obtain ⟨p, content, hp, hat, he⟩ := hfirst
  obtain ⟨e', he'⟩ := Option.ne_none_iff_exists'.mp (firstFailure?_ne_none hp.holds)
  obtain ⟨q, content', hq, hat', hf⟩ := first_of_firstFailure? ht he'
  obtain rfl := hp.unique hq
  cases hat.symm.trans hat'
  cases he.symm.trans hf
  exact he'

end Tree

end Stencil

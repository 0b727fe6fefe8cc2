import Stencil.Proofs.Layering

/-!
# What the order of a map cannot change

The members of a layer are put in place in the order in which they are met, and of two that say
something of one setting the later one counts. In an orderly layer no two members do, so the layer
says the same in whatever order it is gone through.
-/

namespace Stencil

theorem findSome?_congr {α β : Type} {f g : α → Option β} {xs : List α} (h : ∀ a ∈ xs, f a = g a) :
    xs.findSome? f = xs.findSome? g := by
  induction xs with
  | nil => rfl
  | cons a xs ih =>
    obtain ⟨ha, hxs⟩ := List.forall_mem_cons.mp h
    rw [List.findSome?_cons, List.findSome?_cons, ha, ih hxs]

/-- Where at most one element has an answer, the order of the list does not matter to the search. -/
theorem findSome?_eq_of_perm {α β : Type} {f : α → Option β} {xs ys : List α} (hperm : xs.Perm ys)
    (h : xs.Pairwise fun a b => f a = none ∨ f b = none) : xs.findSome? f = ys.findSome? f := by
  induction hperm with
  | nil => rfl
  | cons a hperm ih =>
    rw [List.findSome?_cons, List.findSome?_cons, ih (List.pairwise_cons.mp h).2]
  | swap a b xs =>
    have hab : f b = none ∨ f a = none := (List.pairwise_cons.mp h).1 a List.mem_cons_self
    simp only [List.findSome?_cons]
    rcases hab with hb | ha
    · rw [hb]
    · rw [ha]
  | trans hfirst hsecond ih ih' =>
    exact (ih h).trans (ih' ((hfirst.pairwise_iff Or.symm).mp h))

/-- The same for a search from the end. -/
theorem findSome?_reverse_eq_of_perm {α β : Type} {f : α → Option β} {xs ys : List α}
    (hperm : xs.Perm ys) (h : xs.Pairwise fun a b => f a = none ∨ f b = none) :
    xs.reverse.findSome? f = ys.reverse.findSome? f := by
  refine findSome?_eq_of_perm ?_ ((xs.reverse_perm.symm.pairwise_iff Or.symm).mp h)
  exact xs.reverse_perm.trans (hperm.trans ys.reverse_perm.symm)

namespace Members

variable {α : Type} {members other : Members α} {key : String}

/-- A key that is spelled in one way only has one value, in whatever order the members come. -/
theorem spelled?_eq_of_perm (hperm : members.Perm other) (h : members.SpelledOnce key) :
    members.spelled? key = other.spelled? key := by
  refine findSome?_reverse_eq_of_perm hperm (h.imp fun hone => ?_)
  exact (Decidable.not_and_iff_or_not.mp hone).imp (if_neg ·) (if_neg ·)

theorem SpelledOnce.of_perm (h : members.SpelledOnce key) (hperm : members.Perm other) :
    other.SpelledOnce key :=
  (hperm.pairwise_iff fun hone => mt And.symm hone).mp h

end Members

namespace ConfigValue

variable (order : MapOrder) (place : List KeyStep)

/-! ## Arranged tables -/

theorem arrangedMembers_eq_map (members : List (String × ConfigValue)) :
    arrangedMembers order place members = members.map fun member =>
      (member.1, arranged order (place ++ [.member member.1]) member.2) := by
  induction members with
  | nil => rfl
  | cons member members ih => rw [arrangedMembers, ih, List.map_cons]

/-- Scalars have nothing in them to arrange. -/
theorem arrangedMembers_of_flat {members : List (String × ConfigValue)}
    (flat : ∀ member ∈ members, ∃ value origin, member.2 = .scalar value origin) :
    arrangedMembers order place members = members := by
  rw [arrangedMembers_eq_map]
  refine (List.map_congr_left fun member hm => ?_).trans (List.map_id members)
  obtain ⟨value, origin, hvalue⟩ := flat member hm
  rw [hvalue, arranged, ← hvalue]
  rfl

/-- Members come arranged, each of them once. -/
theorem perm_arrange (members : List (String × ConfigValue)) :
    (order.arrange place (arrangedMembers order place members)).Perm (members.map fun member =>
      (member.1, arranged order (place ++ [.member member.1]) member.2)) := by
  rw [← arrangedMembers_eq_map]
  exact order.perm place _

/-- An arranged table has the members of the table, each arranged. -/
theorem perm_members_arranged (value : ConfigValue) :
    (arranged order place value).members.Perm (value.members.map fun member =>
      (member.1, arranged order (place ++ [.member member.1]) member.2)) := by
  cases value with
  | scalar value origin => exact .refl _
  | list items origin => exact .refl _
  | table members origin => exact perm_arrange order place members

theorem keys_arranged (value : ConfigValue) :
    ((arranged order place value).members.map Prod.fst).Perm (value.members.map Prod.fst) := by
  refine ((perm_members_arranged order place value).map Prod.fst).trans ?_
  rw [List.map_map]
  exact .refl _

end ConfigValue

/-! ## Arranged layers -/

variable {member : String × ConfigValue} {layer : Members ConfigValue}

theorem Orderly.arranged (h : Orderly member) (order : MapOrder) (place : List KeyStep) :
    Orderly (member.1, member.2.arranged order place) := by
  cases h with
  | setting s value origin => exact .setting s value origin
  | table origin plain flat once =>
    rename_i key members
    have hperm := order.perm place members
    rw [ConfigValue.arranged, ConfigValue.arrangedMembers_of_flat order place flat]
    refine .table origin plain (fun member hm => flat member (hperm.mem_iff.mp hm)) ?_
    exact fun s hs => (once s hs).of_perm hperm.symm
  | other value plain foreign => exact .other _ plain foreign

/-- What a member says of a setting does not depend on the order of the table in it. -/
theorem Setting.memberSays?_arranged (s : Setting) (h : Orderly member) (order : MapOrder)
    (place : List KeyStep) :
    s.memberSays? (member.1, member.2.arranged order place) = s.memberSays? member := by
  cases h with
  | setting t value origin => rfl
  | table origin plain flat once =>
    rename_i key members
    rw [ConfigValue.arranged, ConfigValue.arrangedMembers_of_flat order place flat,
      memberSays?_plain s plain, memberSays?_plain s plain]
    by_cases hs : Text.lowercase key = s.group
    · rw [if_pos hs, if_pos hs]
      exact Members.spelled?_eq_of_perm (order.perm place members) ((once s hs).of_perm
        (order.perm place members).symm)
    · rw [if_neg hs, if_neg hs]
  | other value plain foreign =>
    rw [memberSays?_plain s plain, memberSays?_plain s plain, if_neg (foreign s),
      if_neg (foreign s)]

/-- In the order in which it is gone through, a layer has the members that it had, each arranged. -/
theorem MapOrder.perm_layer (order : MapOrder) (layer : Members ConfigValue) :
    (order.layer layer).Perm (layer.map fun member =>
      (member.1, member.2.arranged order [.member member.1])) :=
  ConfigValue.perm_arrange order [] layer

namespace OrderlyLayer

theorem orderly_layer (h : OrderlyLayer layer) (order : MapOrder) :
    ∀ member ∈ order.layer layer, Orderly member := by
  intro member hm
  obtain ⟨old, hold, rfl⟩ := List.mem_map.mp ((order.perm_layer layer).mem_iff.mp hm)
  exact (h.orderly old hold).arranged order _

/-- What a layer says of a setting does not depend on the order in which it is gone through. -/
theorem layerSays?_layer (h : OrderlyLayer layer) (order : MapOrder) (s : Setting) :
    s.layerSays? (order.layer layer) = s.layerSays? layer := by
  have hlater : ∀ member ∈ layer,
      s.memberSays? (member.1, member.2.arranged order [.member member.1]) =
        s.memberSays? member := by
    intro member hm
    exact s.memberSays?_arranged (h.orderly member hm) order _
  have honce : (layer.map fun member =>
      (member.1, member.2.arranged order [.member member.1])).Pairwise fun member other =>
        s.memberSays? member = none ∨ s.memberSays? other = none := by
    refine List.pairwise_map.mpr ((h.once s).imp_of_mem fun hm hm' hone => ?_)
    rw [hlater _ hm, hlater _ hm']
    exact hone
  calc s.layerSays? (order.layer layer)
      = s.layerSays? (layer.map fun member =>
          (member.1, member.2.arranged order [.member member.1])) :=
        (findSome?_reverse_eq_of_perm (order.perm_layer layer).symm honce).symm
    _ = s.layerSays? layer := by
        rw [Setting.layerSays?, ← List.map_reverse, List.findSome?_map]
        refine findSome?_congr fun member hm => ?_
        exact hlater member (List.mem_reverse.mp hm)

end OrderlyLayer

end Stencil

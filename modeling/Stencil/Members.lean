/-!
# Members

An object is a list of key/value pairs in strictly increasing key order. Each finite map has one
such list, so two objects are equal exactly if their lists are. Keys are ordered by code point,
which is also the order of their UTF-8 bytes. Reading a key is `List.lookup`.
-/

namespace Stencil

/-- Key/value pairs, in strictly increasing order of keys wherever they stand for a map. -/
abbrev Members (α : Type) := List (String × α)

namespace Members

variable {α β : Type}

/-- The keys, in the order of the list. -/
def keys (members : Members α) : List String := members.map Prod.fst

/-- Every key is smaller than all keys after it. -/
def Increasing (members : Members α) : Prop := members.keys.Pairwise (· < ·)

instance (members : Members α) : Decidable members.Increasing :=
  inferInstanceAs (Decidable (members.keys.Pairwise (· < ·)))

/-- Binds `key` to `value`, in place of the value it had. -/
def insert (key : String) (value : α) : Members α → Members α
  | [] => [(key, value)]
  | (k, v) :: rest =>
    if key < k then (key, value) :: (k, v) :: rest
    else if key = k then (key, value) :: rest
    else (k, v) :: insert key value rest

/-- Removes the member of `key`, if there is one. -/
def erase (key : String) (members : Members α) : Members α :=
  members.filter fun member => member.1 ≠ key

/-- The map of a list of pairs in any order, a later pair replacing an earlier one. -/
def ofPairs (pairs : List (String × α)) : Members α :=
  pairs.foldl (fun members pair => members.insert pair.1 pair.2) []

/-- Whether `key` has a member. -/
def contains (key : String) (members : Members α) : Bool := (members.lookup key).isSome

theorem lt_of_not_lt_of_ne {a b : String} (h : ¬a < b) (hne : a ≠ b) : b < a :=
  Decidable.byContradiction fun h' =>
    hne (String.le_antisymm (String.not_lt.mp h') (String.not_lt.mp h))

theorem increasing_nil : Increasing ([] : Members α) := List.Pairwise.nil

theorem increasing_cons {key : String} {value : α} {rest : Members α} :
    Increasing ((key, value) :: rest) ↔ (∀ k ∈ rest.keys, key < k) ∧ Increasing rest := by
  simp [Increasing, keys]

theorem mem_keys_insert {key k : String} {value : α} {members : Members α} :
    k ∈ (members.insert key value).keys ↔ k = key ∨ k ∈ members.keys := by
  induction members with
  | nil => simp [insert, keys]
  | cons head rest ih =>
    obtain ⟨j, v⟩ := head
    simp only [keys, List.map_cons, List.mem_cons] at ih ⊢
    unfold insert
    split
    · simp
    · split
      · rename_i h
        subst h
        simp
      · simp only [List.map_cons, List.mem_cons, ih]
        grind

/-- An insertion puts in nothing but the new pair. -/
theorem of_mem_insert {key : String} {value : α} {members : Members α} {member : String × α}
    (h : member ∈ members.insert key value) : member = (key, value) ∨ member ∈ members := by
  induction members with
  | nil => exact Or.inl (List.mem_singleton.mp h)
  | cons head rest ih =>
    obtain ⟨j, v⟩ := head
    unfold insert at h
    split at h
    · exact List.mem_cons.mp h
    · split at h
      · rcases List.mem_cons.mp h with h | h
        · exact Or.inl h
        · exact Or.inr (List.mem_cons_of_mem _ h)
      · rcases List.mem_cons.mp h with h | h
        · exact Or.inr (List.mem_cons.mpr (Or.inl h))
        · rcases ih h with h | h
          · exact Or.inl h
          · exact Or.inr (List.mem_cons_of_mem _ h)

theorem increasing_insert {key : String} {value : α} {members : Members α}
    (h : members.Increasing) : (members.insert key value).Increasing := by
  induction members with
  | nil => simp [insert, Increasing, keys]
  | cons head rest ih =>
    obtain ⟨j, v⟩ := head
    obtain ⟨hj, hrest⟩ := increasing_cons.mp h
    unfold insert
    split
    · rename_i hlt
      refine increasing_cons.mpr ⟨fun k hk => ?_, h⟩
      simp only [keys, List.map_cons, List.mem_cons] at hk
      rcases hk with rfl | hk
      · exact hlt
      · exact String.lt_trans hlt (hj k hk)
    · split
      · rename_i heq
        exact increasing_cons.mpr ⟨heq ▸ hj, hrest⟩
      · rename_i hnlt hne
        refine increasing_cons.mpr ⟨fun k hk => ?_, ih hrest⟩
        rcases mem_keys_insert.mp hk with rfl | hk
        · exact lt_of_not_lt_of_ne hnlt hne
        · exact hj k hk

theorem lookup_insert_self {key : String} {value : α} (members : Members α) :
    (members.insert key value).lookup key = some value := by
  induction members with
  | nil => simp [insert]
  | cons head rest ih =>
    obtain ⟨j, v⟩ := head
    unfold insert
    split
    · simp
    · split
      · simp
      · rename_i hne
        have hb : (key == j) = false := by simpa using hne
        simp only [List.lookup_cons, hb, ih]

theorem lookup_insert_of_ne {key k : String} {value : α} (h : k ≠ key) (members : Members α) :
    (members.insert key value).lookup k = members.lookup k := by
  have hb : (k == key) = false := by simpa using h
  induction members with
  | nil => simp [insert, List.lookup_cons, hb]
  | cons head rest ih =>
    obtain ⟨j, v⟩ := head
    unfold insert
    split
    · simp [List.lookup_cons, hb]
    · split
      · rename_i heq
        simp [List.lookup_cons, hb, ← heq]
      · simp only [List.lookup_cons, ih]

/-- Where the keys increase, the members are exactly what a lookup finds. -/
theorem mem_iff_lookup {key : String} {value : α} {members : Members α} (h : members.Increasing) :
    (key, value) ∈ members ↔ members.lookup key = some value := by
  induction members with
  | nil => simp
  | cons head rest ih =>
    obtain ⟨j, v⟩ := head
    obtain ⟨hj, hrest⟩ := increasing_cons.mp h
    rw [List.mem_cons, ih hrest]
    by_cases hk : key = j
    · subst hk
      have hnone : rest.lookup key ≠ some value := by
        intro hl
        have hm := List.mem_map_of_mem (f := Prod.fst) ((ih hrest).mpr hl)
        exact String.lt_irrefl _ (hj key hm)
      simp [hnone, eq_comm]
    · have hb : (key == j) = false := by simpa using hk
      simp [List.lookup_cons, hb, hk]

/-- Replacing all values replaces what a lookup finds. -/
theorem lookup_map (f : α → β) (key : String) (members : Members α) :
    (members.map fun member => (member.1, f member.2)).lookup key =
      (members.lookup key).map f := by
  induction members with
  | nil => rfl
  | cons head rest ih =>
    rw [List.map_cons, List.lookup_cons, List.lookup_cons, ih]
    cases key == head.1 <;> rfl

/-- How values are replaced matters for those of the members only. -/
theorem map_congr {f g : α → β} {members : Members α}
    (h : ∀ member ∈ members, f member.2 = g member.2) :
    (members.map fun member => (member.1, f member.2)) =
      members.map fun member => (member.1, g member.2) :=
  List.map_congr_left fun member hm => congrArg (Prod.mk member.1) (h member hm)

/-- Nothing changes if every value is replaced by itself. -/
theorem map_eq_self {f : α → α} {members : Members α}
    (h : ∀ member ∈ members, f member.2 = member.2) :
    (members.map fun member => (member.1, f member.2)) = members :=
  (map_congr (g := id) h).trans (List.map_id members)

theorem keys_map (f : α → β) (members : Members α) :
    keys (members.map fun member => (member.1, f member.2)) = members.keys := by
  rw [keys, List.map_map]
  rfl

/-- Replacing all values keeps the order of the keys. -/
theorem increasing_map (f : α → β) (members : Members α) :
    Increasing (members.map fun member => (member.1, f member.2)) ↔ members.Increasing := by
  rw [Increasing, keys_map, Increasing]

theorem increasing_erase {key : String} {members : Members α} (h : members.Increasing) :
    (members.erase key).Increasing := by
  have hs : ((members.erase key).map Prod.fst).Sublist (members.map Prod.fst) :=
    (List.filter_sublist (p := fun member => decide (member.1 ≠ key))).map Prod.fst
  exact List.Pairwise.sublist hs h

theorem contains_iff {key : String} {members : Members α} :
    members.contains key = true ↔ key ∈ members.keys := by
  induction members with
  | nil => simp [contains, keys]
  | cons head rest ih =>
    obtain ⟨j, v⟩ := head
    by_cases hk : key = j
    · simp [contains, keys, hk]
    · have hb : (key == j) = false := by simpa using hk
      simp only [contains, keys, List.lookup_cons, hb, List.map_cons, List.mem_cons, hk,
        false_or] at ih ⊢
      exact ih

theorem lookup_eq_none {key : String} {members : Members α} (h : key ∉ members.keys) :
    members.lookup key = none :=
  Option.not_isSome_iff_eq_none.mp (mt contains_iff.mp h)

theorem lookup_erase_self (key : String) (members : Members α) :
    (members.erase key).lookup key = none := by
  have hk : key ∉ (members.erase key).keys := by simp [keys, erase]
  exact lookup_eq_none hk

theorem erase_cons (key : String) (head : String × α) (rest : Members α) :
    erase key (head :: rest) = if head.1 = key then erase key rest else head :: erase key rest := by
  by_cases hk : head.1 = key <;> simp [erase, hk]

theorem lookup_erase_of_ne {key k : String} (h : k ≠ key) (members : Members α) :
    (members.erase key).lookup k = members.lookup k := by
  induction members with
  | nil => rfl
  | cons head rest ih =>
    obtain ⟨j, v⟩ := head
    rw [erase_cons]
    split
    · rename_i hj
      have hb : (k == j) = false := by
        rw [show j = key from hj]
        simpa using h
      rw [ih, List.lookup_cons, hb]
    · rw [List.lookup_cons, List.lookup_cons, ih]

/-- A key that is not there makes the map one member longer. -/
theorem length_insert {key : String} {value : α} {members : Members α} (h : members.Increasing) :
    (members.insert key value).length =
      if members.contains key then members.length else members.length + 1 := by
  induction members with
  | nil => rfl
  | cons head rest ih =>
    obtain ⟨j, v⟩ := head
    obtain ⟨hj, hrest⟩ := increasing_cons.mp h
    unfold insert
    split
    · rename_i hlt
      have hnone : ¬ contains key ((j, v) :: rest) = true := by
        rw [contains_iff, keys, List.map_cons, List.mem_cons, not_or]
        refine ⟨fun heq => ?_, fun hm => ?_⟩
        · rw [heq] at hlt
          exact String.lt_irrefl j hlt
        · exact String.lt_irrefl key (String.lt_trans hlt (hj key hm))
      simp [hnone]
    · split
      · rename_i heq
        simp [contains, heq]
      · rename_i hne
        have hb : (key == j) = false := by simpa using hne
        have hc : contains key ((j, v) :: rest) = contains key rest := by
          simp [contains, List.lookup_cons, hb]
        rw [List.length_cons, ih hrest, hc, List.length_cons]
        split <;> rfl

/-- A map without one of its members is one member shorter. -/
theorem length_erase {key : String} {members : Members α} (h : members.Increasing)
    (hc : members.contains key = true) : (members.erase key).length + 1 = members.length := by
  induction members with
  | nil => cases hc
  | cons head rest ih =>
    obtain ⟨j, v⟩ := head
    obtain ⟨hj, hrest⟩ := increasing_cons.mp h
    rw [erase_cons]
    split
    · rename_i heq
      have hall : erase key rest = rest := by
        apply List.filter_eq_self.mpr
        intro member hm
        have hlt := hj member.1 (List.mem_map_of_mem hm)
        simp only [decide_eq_true_eq]
        intro hk
        rw [hk, ← show j = key from heq] at hlt
        exact String.lt_irrefl j hlt
      rw [hall, List.length_cons]
    · rename_i hne
      have hrestc : contains key rest = true := by
        rw [contains_iff, keys, List.map_cons, List.mem_cons] at hc
        rw [contains_iff]
        exact hc.resolve_left fun heq => hne heq.symm
      rw [List.length_cons, List.length_cons, ih hrest hrestc]

/-! ## The map of a list of pairs -/

theorem foldl_insert_increasing {start : Members α} (h : start.Increasing)
    (pairs : List (String × α)) :
    Increasing (pairs.foldl (fun members pair => members.insert pair.1 pair.2) start) := by
  induction pairs generalizing start with
  | nil => exact h
  | cons pair pairs ih => exact ih (increasing_insert h)

theorem increasing_ofPairs (pairs : List (String × α)) : (ofPairs pairs).Increasing :=
  foldl_insert_increasing increasing_nil pairs

theorem mem_keys_foldl_insert {key : String} (start : Members α) (pairs : List (String × α)) :
    key ∈ keys (pairs.foldl (fun members pair => members.insert pair.1 pair.2) start) ↔
      key ∈ pairs.map Prod.fst ∨ key ∈ start.keys := by
  induction pairs generalizing start with
  | nil => simp
  | cons pair pairs ih =>
    rw [List.foldl_cons, ih, mem_keys_insert, List.map_cons, List.mem_cons]
    grind

/-- The map of a list of pairs has nothing but these pairs in it. -/
theorem mem_of_mem_foldl_insert {member : String × α} {start : Members α}
    {pairs : List (String × α)}
    (h : member ∈ pairs.foldl (fun members pair => members.insert pair.1 pair.2) start) :
    member ∈ pairs ∨ member ∈ start := by
  induction pairs generalizing start with
  | nil => exact Or.inr h
  | cons pair pairs ih =>
    rcases ih h with h | h
    · exact Or.inl (List.mem_cons_of_mem pair h)
    · rcases of_mem_insert h with rfl | h
      · exact Or.inl List.mem_cons_self
      · exact Or.inr h

theorem mem_of_mem_ofPairs {member : String × α} {pairs : List (String × α)}
    (h : member ∈ ofPairs pairs) : member ∈ pairs :=
  (mem_of_mem_foldl_insert h).resolve_right List.not_mem_nil

/-- A key greater than all others is put in at the end. -/
theorem insert_eq_append {key : String} {value : α} {members : Members α}
    (h : ∀ k ∈ members.keys, k < key) : members.insert key value = members ++ [(key, value)] := by
  induction members with
  | nil => rfl
  | cons head rest ih =>
    obtain ⟨j, v⟩ := head
    obtain ⟨hj, hrest⟩ := List.forall_mem_cons.mp h
    have hlt : ¬key < j := fun hlt => String.lt_irrefl j (String.lt_trans hj hlt)
    have hne : key ≠ j := fun heq => String.lt_irrefl j (heq ▸ hj)
    rw [insert, if_neg hlt, if_neg hne, ih hrest, List.cons_append]

theorem foldl_insert_eq_append {start pairs : Members α} (h : Increasing (start ++ pairs)) :
    pairs.foldl (fun members pair => members.insert pair.1 pair.2) start = start ++ pairs := by
  induction pairs generalizing start with
  | nil => exact (List.append_nil start).symm
  | cons pair pairs ih =>
    have hlast : ∀ k ∈ start.keys, k < pair.1 := by
      rw [Increasing, keys, List.map_append] at h
      exact fun k hk => (List.pairwise_append.mp h).2.2 k hk pair.1 List.mem_cons_self
    rw [List.append_cons] at h ⊢
    rw [List.foldl_cons, insert_eq_append hlast]
    exact ih h

/-- A map is built again by inserting its members one after another. -/
theorem ofPairs_of_increasing {members : Members α} (h : members.Increasing) :
    ofPairs members = members := foldl_insert_eq_append h

/-- Of the pairs with one key the last counts. -/
theorem lookup_foldl_insert (key : String) (start : Members α) (pairs : List (String × α)) :
    (pairs.foldl (fun members pair => members.insert pair.1 pair.2) start).lookup key =
      (pairs.reverse.lookup key).or (start.lookup key) := by
  induction pairs generalizing start with
  | nil => rfl
  | cons pair pairs ih =>
    obtain ⟨k, value⟩ := pair
    rw [List.foldl_cons, ih, List.reverse_cons, List.lookup_append, Option.or_assoc]
    congr 1
    by_cases hk : key = k
    · rw [hk, lookup_insert_self]
      simp
    · have hb : (key == k) = false := by simpa using hk
      rw [lookup_insert_of_ne hk]
      simp [List.lookup_cons, hb]

theorem lookup_ofPairs (key : String) (pairs : List (String × α)) :
    (ofPairs pairs).lookup key = pairs.reverse.lookup key := by
  rw [ofPairs, lookup_foldl_insert]
  exact Option.or_none

/-- Where no key stands twice, it does not matter from which end a lookup starts. -/
theorem lookup_reverse {pairs : List (String × α)} (h : (pairs.map Prod.fst).Nodup)
    (key : String) : pairs.reverse.lookup key = pairs.lookup key := by
  induction pairs with
  | nil => rfl
  | cons pair pairs ih =>
    obtain ⟨k, value⟩ := pair
    obtain ⟨hnot, hrest⟩ := List.nodup_cons.mp h
    rw [List.reverse_cons, List.lookup_append, ih hrest]
    by_cases hk : key = k
    · rw [hk, lookup_eq_none hnot, Option.none_or]
      simp
    · have hb : (key == k) = false := by simpa using hk
      simp [List.lookup_cons, hb]

/-- Where no key stands twice, a key has one value. -/
theorem value_unique {pairs : List (String × α)} (h : (pairs.map Prod.fst).Nodup) {key : String}
    {value other : α} (hvalue : (key, value) ∈ pairs) (hother : (key, other) ∈ pairs) :
    value = other := by
  induction pairs with
  | nil => cases hvalue
  | cons pair pairs ih =>
    obtain ⟨hnot, hrest⟩ := List.nodup_cons.mp h
    rcases List.mem_cons.mp hvalue with rfl | hvalue'
    · rcases List.mem_cons.mp hother with heq | hother'
      · exact (Prod.mk.inj heq).2.symm
      · exact absurd (List.mem_map_of_mem hother') hnot
    · rcases List.mem_cons.mp hother with rfl | hother'
      · exact absurd (List.mem_map_of_mem hvalue') hnot
      · exact ih hrest hvalue' hother'

/-- In a map no key stands twice. -/
theorem nodup_of_increasing {members : Members α} (h : members.Increasing) :
    (members.map Prod.fst).Nodup := by
  refine List.Pairwise.imp ?_ h
  intro a b hlt heq
  rw [heq] at hlt
  exact String.lt_irrefl b hlt

theorem mem_keys_ofPairs {key : String} {pairs : List (String × α)} :
    key ∈ (ofPairs pairs).keys ↔ key ∈ pairs.map Prod.fst := by
  rw [ofPairs, mem_keys_foldl_insert]
  simp [keys]

end Members

end Stencil

import Mathlib.Data.List.AList
import Mathlib.Data.List.Perm.Basic
import Mathlib.Data.List.Sort
import Mathlib.Order.Basic

/-!
# Hash maps and sorting by a key

A hash map is an association list with distinct keys (Mathlib's `AList`). The
order of its entries is an accident of the representation, so code that
iterates a hash map is modelled by a function of the *list the iteration
yields*, and a caller may hand it any permutation of `HashMap.values`.

What makes such code deterministic again is usually a sort: sorting by a key
that is injective on the list forgets the order the list came in
(`Collections.sortByKey_perm`).
-/

namespace Collections

/-- A hash map: an association list with distinct keys. -/
abbrev HashMap (κ ν : Type) := AList fun _ : κ => ν

namespace HashMap

variable {κ ν : Type}

/-- The values of a map, in the order of the representation. -/
def values (m : HashMap κ ν) : List ν := m.entries.map Sigma.snd

/-- The number of entries. -/
def len (m : HashMap κ ν) : ℕ := m.entries.length

@[simp] theorem length_values (m : HashMap κ ν) : m.values.length = m.len := by
  simp [values, len]

@[simp] theorem length_keys (m : HashMap κ ν) : m.keys.length = m.len := by
  simp [AList.keys, List.keys, len]

section Keys

variable {ν' : Type} {m : HashMap κ ν} {m' : HashMap κ ν'}

/-- A map whose keys are keys of another has no more entries. -/
theorem len_le_of_subset (h : ∀ k ∈ m, k ∈ m') : m.len ≤ m'.len := by
  rw [← length_keys, ← length_keys]
  exact (List.subperm_of_subset m.keys_nodup fun k hk => h k hk).length_le

/-- A map whose keys are keys of another, and which has no fewer entries, has all its
keys. -/
theorem mem_of_len_le (h : ∀ k ∈ m, k ∈ m') (hlen : m'.len ≤ m.len) : ∀ k ∈ m', k ∈ m := by
  rw [← length_keys, ← length_keys] at hlen
  have hperm := (List.subperm_of_subset m.keys_nodup fun k hk => h k hk).perm_of_length_le hlen
  exact fun k hk => hperm.mem_iff.mpr hk

end Keys

variable [DecidableEq κ]

theorem len_insert {m : HashMap κ ν} {k : κ} (v : ν) (h : k ∉ m) :
    len (m.insert k v) = m.len + 1 := by
  rw [len, AList.entries_insert_of_notMem h]
  rfl

/-- A value is one some key looks up. -/
theorem mem_values {m : HashMap κ ν} {v : ν} : v ∈ m.values ↔ ∃ k, m.lookup k = some v := by
  constructor
  · intro h
    obtain ⟨⟨k, v'⟩, hmem, rfl⟩ := List.mem_map.mp h
    exact ⟨k, AList.mem_lookup_iff.mpr hmem⟩
  · rintro ⟨k, h⟩
    exact List.mem_map.mpr ⟨⟨k, v⟩, AList.mem_lookup_iff.mp h, rfl⟩

theorem mem_of_lookup {m : HashMap κ ν} {k : κ} {v : ν} (h : m.lookup k = some v) : k ∈ m :=
  AList.lookup_isSome.mp (by rw [h]; rfl)

theorem exists_lookup {m : HashMap κ ν} {k : κ} (h : k ∈ m) : ∃ v, m.lookup k = some v :=
  Option.isSome_iff_exists.mp (AList.lookup_isSome.mpr h)

/-- Looking up after an insertion. -/
theorem lookup_insert_cases {m : HashMap κ ν} {k k' : κ} {v v' : ν}
    (h : (m.insert k v).lookup k' = some v') : (k' = k ∧ v' = v) ∨ m.lookup k' = some v' := by
  rcases eq_or_ne k' k with rfl | hne
  · rw [AList.lookup_insert] at h
    exact Or.inl ⟨rfl, (Option.some.inj h).symm⟩
  · rw [AList.lookup_insert_ne hne] at h
    exact Or.inr h

/-- A value field that every entry repeats in its key distinguishes the values
of a map. -/
theorem nodup_map_values {m : HashMap κ ν} {f : ν → κ} (h : ∀ k v, m.lookup k = some v → f v = k) :
    (m.values.map f).Nodup := by
  have hkeys : m.values.map f = m.keys := by
    rw [values, List.map_map]
    refine List.map_congr_left fun s hs => ?_
    obtain ⟨k, v⟩ := s
    exact h k v (AList.mem_lookup_iff.mpr hs)
  rw [hkeys]
  exact m.keys_nodup

end HashMap

/-! ### Mapping a partial function over a list -/

section MapM

variable {α β ε : Type}

/-- A partial function is defined along a list when it is at every element. -/
theorem mapM_eq_some {f : α → Option β} {l : List α} {r : List β} :
    l.mapM f = some r ↔ l.map f = r.map some := by
  induction l generalizing r with
  | nil => cases r <;> simp
  | cons a l ih =>
    rw [List.mapM_cons]
    cases hf : f a with
    | none => cases r <;> simp [hf]
    | some b =>
      cases r with
      | nil => cases h : l.mapM f <;> simp [hf]
      | cons c r =>
        rw [List.map_cons, List.map_cons, List.cons.injEq, ← ih]
        cases h : l.mapM f <;> simp [hf]

/-- A fallible function succeeds along a list when it does at every element. -/
theorem mapM_eq_ok {f : α → Except ε β} {l : List α} {r : List β} :
    l.mapM f = .ok r ↔ l.map f = r.map .ok := by
  induction l generalizing r with
  | nil => cases r <;> simp [pure, Except.pure]
  | cons a l ih =>
    rw [List.mapM_cons]
    cases hf : f a with
    | error e => cases r <;> simp [hf, bind, Except.bind]
    | ok b =>
      cases r with
      | nil => cases h : l.mapM f <;> simp [hf, bind, Except.bind, pure, Except.pure]
      | cons c r =>
        rw [List.map_cons, List.map_cons, List.cons.injEq, ← ih]
        cases h : l.mapM f <;> simp [hf, bind, Except.bind, pure, Except.pure]

/-- A result is the one of the element at its place. -/
theorem exists_of_mapM_eq_ok {f : α → Except ε β} {l : List α} {r : List β}
    (h : l.mapM f = .ok r) {i : ℕ} {b : β} (hb : r[i]? = some b) :
    ∃ a, l[i]? = some a ∧ f a = .ok b := by
  have hi := congrArg (·[i]?) (mapM_eq_ok.mp h)
  simp only [List.getElem?_map, hb, Option.map_some] at hi
  exact Option.map_eq_some_iff.mp hi

theorem length_of_mapM_eq_ok {f : α → Except ε β} {l : List α} {r : List β}
    (h : l.mapM f = .ok r) : r.length = l.length := by
  simpa using (congrArg List.length (mapM_eq_ok.mp h)).symm

/-- A fallible function succeeds along a list when it does at every element, and
the results are those of the elements. -/
theorem mapM_eq_ok_iff_forall₂ {f : α → Except ε β} {l : List α} {r : List β} :
    l.mapM f = .ok r ↔ List.Forall₂ (fun a b => f a = .ok b) l r := by
  rw [mapM_eq_ok, ← List.forall₂_eq_eq_eq, List.forall₂_map_left_iff, List.forall₂_map_right_iff]

/-- A function defined on every element of a list is defined along it. -/
theorem exists_forall₂ {R : α → β → Prop} {l : List α} (h : ∀ a ∈ l, ∃ b, R a b) :
    ∃ r, List.Forall₂ R l r := by
  induction l with
  | nil => exact ⟨[], .nil⟩
  | cons a l ih =>
    obtain ⟨b, hb⟩ := h a (by simp)
    obtain ⟨r, hr⟩ := ih fun a' ha' => h a' (by simp [ha'])
    exact ⟨b :: r, .cons hb hr⟩

/-- What is related element by element can be permuted on one side. -/
theorem forall₂_perm {R : α → β → Prop} {l l' : List α} {r : List β} (h : l.Perm l')
    (hr : List.Forall₂ R l r) : ∃ r', List.Forall₂ R l' r' ∧ r.Perm r' := by
  obtain ⟨r', hr', hperm⟩ := List.perm_comp_forall₂ h.symm hr
  exact ⟨r', hr', hperm.symm⟩

/-- Every element on one side is related to some element on the other. -/
theorem exists_of_mem_forall₂ {R : α → β → Prop} {l : List α} {r : List β}
    (h : List.Forall₂ R l r) {b : β} (hb : b ∈ r) : ∃ a ∈ l, R a b := by
  induction h with
  | nil => exact absurd hb (by simp)
  | @cons a b' l r hab _ ih =>
    rcases List.mem_cons.mp hb with rfl | hb
    · exact ⟨a, by simp, hab⟩
    · obtain ⟨a', ha', h⟩ := ih hb
      exact ⟨a', by simp [ha'], h⟩

/-- What two related lists have in common at every place, they have in common. -/
theorem map_eq_of_forall₂ {γ : Type} {R : α → β → Prop} {f : β → γ} {g : α → γ} {l : List α}
    {r : List β} (h : List.Forall₂ R l r) (hfg : ∀ a ∈ l, ∀ b, R a b → f b = g a) :
    r.map f = l.map g := by
  induction h with
  | nil => rfl
  | @cons a b l r hab _ ih =>
    rw [List.map_cons, List.map_cons, hfg a (by simp) b hab,
      ih fun a' ha' => hfg a' (by simp [ha'])]

/-- The results of a mapping, place by place. -/
theorem getElem?_of_mapM_eq_some {f : α → Option β} {l : List α} {r : List β}
    (h : l.mapM f = some r) (i : ℕ) : r[i]? = l[i]?.bind f := by
  have hi := congrArg (·[i]?) (mapM_eq_some.mp h)
  simp only [List.getElem?_map] at hi
  cases hl : l[i]? <;> cases hr : r[i]? <;> simp_all

/-- What a reader of one kind of entry reads off a list: `b`, where the list has the
entry that `b` makes. -/
theorem mem_filterMap_iff {f : α → Option β} {g : β → α} (h : ∀ a b, f a = some b ↔ a = g b)
    {l : List α} {b : β} : b ∈ l.filterMap f ↔ g b ∈ l := by
  rw [List.mem_filterMap]
  constructor
  · rintro ⟨a, ha, hread⟩
    rwa [(h a b).mp hread] at ha
  · intro hb
    exact ⟨g b, hb, (h (g b) b).mpr rfl⟩

end MapM

/-! ### Sorting by a key -/

variable {α β : Type} [LinearOrder β]

/-- A list sorted by a key; stable, as insertion sort is. -/
def sortByKey (key : α → β) (l : List α) : List α :=
  l.insertionSort fun a b => key a ≤ key b

theorem sortByKey_permutes (key : α → β) (l : List α) : (sortByKey key l).Perm l :=
  List.perm_insertionSort _ l

theorem sortByKey_pairwise (key : α → β) (l : List α) :
    (sortByKey key l).Pairwise fun a b => key a ≤ key b := by
  have : Std.Total fun a b : α => key a ≤ key b := ⟨fun a b => le_total (key a) (key b)⟩
  have : IsTrans α fun a b => key a ≤ key b := ⟨fun _ _ _ => le_trans⟩
  exact List.pairwise_insertionSort _ l

/-- **Sorting by an injective key forgets the order of the list.** -/
theorem sortByKey_perm {key : α → β} {l l' : List α} (hkey : (l.map key).Nodup) (h : l.Perm l') :
    sortByKey key l = sortByKey key l' := by
  have hinj : ∀ a ∈ l, ∀ b ∈ l, key a = key b → a = b := fun a ha b hb he =>
    List.inj_on_of_nodup_map hkey ha hb he
  refine @List.Perm.eq_of_pairwise _ (fun a b => key a ≤ key b) _ _ ?_
    (sortByKey_pairwise key l) (sortByKey_pairwise key l')
    ((sortByKey_permutes key l).trans (h.trans (sortByKey_permutes key l').symm))
  intro a b ha hb hab hba
  exact hinj a ((sortByKey_permutes key l).subset ha) b
    (h.symm.subset ((sortByKey_permutes key l').subset hb)) (le_antisymm hab hba)

end Collections

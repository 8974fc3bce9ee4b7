/-
# Theory.InsertionMap -- maps that keep the order of insertion

A JavaScript `Map`: its entries stand in the order in which their keys were first set, and
setting a key again replaces the value where it stands.  That keys are distinct is a field of
the map.

`index` keeps the elements of a list by name, so that of one name the last one is kept.
`collect` groups the elements of a list by a key, as a loop does that appends each element to
the group of its key.  A group has the elements of its key in the order of the list
(`mem_collect`).
-/
import Mathlib.Data.List.Induction
import Mathlib.Data.List.Nodup

namespace GrpcBridge.Theory

set_option autoImplicit false

structure InsertionMap (κ α : Type) where
  entries : List (κ × α)
  distinct : (entries.map Prod.fst).Nodup

namespace InsertionMap

variable {κ α β : Type}

def empty : InsertionMap κ α := ⟨[], List.nodup_nil⟩

def values (m : InsertionMap κ α) : List α := m.entries.map Prod.snd

theorem value_unique {m : InsertionMap κ α} {k : κ} {v v' : α} (member : (k, v) ∈ m.entries)
    (member' : (k, v') ∈ m.entries) : v = v' :=
  congrArg Prod.snd (List.inj_on_of_nodup_map m.distinct member member' rfl)

theorem nodup_insert {entries : List (κ × α)} (distinct : (entries.map Prod.fst).Nodup) {k : κ}
    (fresh : k ∉ entries.map Prod.fst) (v : α) :
    ((entries ++ [(k, v)]).map Prod.fst).Nodup := by
  rw [List.map_append]
  refine List.nodup_append.2 ⟨distinct, List.nodup_singleton k, ?_⟩
  rintro _ old _ new rfl
  cases List.mem_singleton.1 new
  exact fresh old

variable [DecidableEq κ]

def has (m : InsertionMap κ α) (k : κ) : Bool := k ∈ m.entries.map Prod.fst

def get (m : InsertionMap κ α) (k : κ) : Option α :=
  (m.entries.find? fun entry => entry.1 = k).map Prod.snd

/-- An entry, with the value replaced if it is the entry of `k`. -/
def replace (k : κ) (v : α) (entry : κ × α) : κ × α := if entry.1 = k then (k, v) else entry

theorem replace_key (k : κ) (v : α) (entry : κ × α) : (replace k v entry).1 = entry.1 := by
  unfold replace
  split
  · rename_i same
    exact same.symm
  · rfl

theorem map_replace (k : κ) (v : α) (entries : List (κ × α)) :
    (entries.map (replace k v)).map Prod.fst = entries.map Prod.fst := by
  rw [List.map_map]
  exact List.map_congr_left fun entry _ => replace_key k v entry

def set (m : InsertionMap κ α) (k : κ) (v : α) : InsertionMap κ α :=
  if found : k ∈ m.entries.map Prod.fst then
    ⟨m.entries.map (replace k v), (map_replace k v m.entries).symm ▸ m.distinct⟩
  else ⟨m.entries ++ [(k, v)], nodup_insert m.distinct found v⟩

/-! ## Lookup -/

variable {m : InsertionMap κ α} {k k' : κ} {v v' : α}

theorem has_iff : m.has k = true ↔ ∃ v, (k, v) ∈ m.entries := by
  rw [has, decide_eq_true_eq, List.mem_map]
  constructor
  · rintro ⟨⟨_, v⟩, member, rfl⟩
    exact ⟨v, member⟩
  · rintro ⟨v, member⟩
    exact ⟨_, member, rfl⟩

theorem found_key {entry : κ × α} {entries : List (κ × α)}
    (found : (entries.find? fun entry => entry.1 = k) = some entry) : entry.1 = k := by
  have matched := List.find?_some found
  exact of_decide_eq_true matched

theorem get_eq_some_iff : m.get k = some v ↔ (k, v) ∈ m.entries := by
  rw [get, Option.map_eq_some_iff]
  constructor
  · rintro ⟨entry, found, rfl⟩
    rw [← found_key found]
    exact List.mem_of_find?_eq_some found
  · intro member
    cases found : m.entries.find? fun entry => entry.1 = k with
    | none =>
        have absent := List.find?_eq_none.1 found _ member
        exact absurd (decide_eq_true rfl) absent
    | some entry =>
        have inside := List.mem_of_find?_eq_some found
        have same := found_key found
        subst same
        exact ⟨entry, rfl, value_unique inside member⟩

theorem mem_replace (found : k ∈ m.entries.map Prod.fst) :
    (k', v') ∈ m.entries.map (replace k v) ↔
      k' = k ∧ v' = v ∨ k' ≠ k ∧ (k', v') ∈ m.entries := by
  rw [List.mem_map]
  constructor
  · rintro ⟨entry, member, same⟩
    unfold replace at same
    split at same
    · cases same
      exact .inl ⟨rfl, rfl⟩
    · rename_i other
      subst same
      exact .inr ⟨other, member⟩
  · rintro (⟨rfl, rfl⟩ | ⟨other, member⟩)
    · obtain ⟨entry, member, same⟩ := List.mem_map.1 found
      exact ⟨entry, member, if_pos same⟩
    · exact ⟨_, member, if_neg other⟩

theorem mem_set : (k', v') ∈ (m.set k v).entries ↔
    k' = k ∧ v' = v ∨ k' ≠ k ∧ (k', v') ∈ m.entries := by
  unfold set
  split
  · rename_i found
    exact mem_replace found
  · rename_i fresh
    rw [List.mem_append, List.mem_singleton, Prod.mk.injEq]
    constructor
    · rintro (old | new)
      · refine .inr ⟨?_, old⟩
        rintro rfl
        exact fresh (List.mem_map_of_mem old)
      · exact .inl new
    · rintro (new | ⟨_, old⟩)
      · exact .inr new
      · exact .inl old

/-! ## Elements by name -/

/-- Each element under its own name. -/
def index (name : α → κ) (xs : List α) : InsertionMap κ α :=
  xs.foldl (fun m x => m.set (name x) x) empty

section Index

variable {name : α → κ} {xs : List α}

theorem index_append (x : α) : index name (xs ++ [x]) = (index name xs).set (name x) x := by
  rw [index, List.foldl_append]
  rfl

theorem mem_index {x : α} (member : (k, x) ∈ (index name xs).entries) : x ∈ xs ∧ name x = k := by
  induction xs using List.reverseRecOn with
  | nil => cases member
  | append_singleton xs y ih =>
      rw [index_append, mem_set] at member
      obtain ⟨rfl, rfl⟩ | ⟨_, old⟩ := member
      · exact ⟨List.mem_append_right _ List.mem_cons_self, rfl⟩
      · exact ⟨List.mem_append_left _ (ih old).1, (ih old).2⟩

theorem key_index {x : α} (member : x ∈ xs) : ∃ y, (name x, y) ∈ (index name xs).entries := by
  induction xs using List.reverseRecOn with
  | nil => cases member
  | append_singleton xs y ih =>
      by_cases same : name x = name y
      · refine ⟨y, ?_⟩
        rw [index_append, mem_set]
        exact .inl ⟨same, rfl⟩
      · obtain old | new := List.mem_append.1 member
        · obtain ⟨z, present⟩ := ih old
          refine ⟨z, ?_⟩
          rw [index_append, mem_set]
          exact .inr ⟨same, present⟩
        · exact absurd (congrArg name (List.mem_singleton.1 new)) same

/-- With unique names every element stays. -/
theorem mem_values_index (unique : ∀ x ∈ xs, ∀ y ∈ xs, name x = name y → x = y) {x : α} :
    x ∈ (index name xs).values ↔ x ∈ xs := by
  rw [values, List.mem_map]
  constructor
  · rintro ⟨⟨k, _⟩, member, rfl⟩
    exact (mem_index member).1
  · intro member
    obtain ⟨y, present⟩ : ∃ y, (name x, y) ∈ (index name xs).entries := key_index member
    obtain ⟨inside, same⟩ := mem_index present
    obtain rfl := unique y inside x member same
    exact ⟨_, present, rfl⟩

theorem names_index : ((index name xs).values.map name).Nodup := by
  have keys : (index name xs).values.map name = (index name xs).entries.map Prod.fst := by
    rw [values, List.map_map]
    exact List.map_congr_left fun entry member => (mem_index member).2
  rw [keys]
  exact (index name xs).distinct

end Index

/-! ## Groups -/

variable (key : α → κ) (value : α → β)

/-- Append an element to the group of its key. -/
def push (groups : InsertionMap κ (List β)) (x : α) : InsertionMap κ (List β) :=
  groups.set (key x) ((groups.get (key x)).getD [] ++ [value x])

def collect (xs : List α) : InsertionMap κ (List β) := xs.foldl (push key value) empty

/-- The elements of one key. -/
def group (k : κ) (xs : List α) : List β := (xs.filter fun x => key x = k).map value

variable {key value}

theorem group_append (k : κ) (xs : List α) (x : α) : group key value k (xs ++ [x]) =
    group key value k xs ++ if key x = k then [value x] else [] := by
  rw [group, List.filter_append, List.map_append, group]
  by_cases same : key x = k
  · rw [if_pos same, List.filter_cons_of_pos (by simpa using same), List.filter_nil]
    rfl
  · rw [if_neg same, List.filter_cons_of_neg (by simpa using same), List.filter_nil]
    rfl

/-- The groups of a list are those of its keys, each in the order of the list. -/
theorem mem_collect {xs : List α} {k : κ} {members : List β} :
    (k, members) ∈ (collect key value xs).entries ↔
      members = group key value k xs ∧ members ≠ [] := by
  induction xs using List.reverseRecOn generalizing k members with
  | nil =>
      constructor
      · intro member
        cases member
      · rintro ⟨rfl, some⟩
        exact absurd rfl some
  | append_singleton xs x ih =>
      have known : ((collect key value xs).get (key x)).getD [] = group key value (key x) xs := by
        cases got : (collect key value xs).get (key x) with
        | some members => exact (ih.1 (get_eq_some_iff.1 got)).1
        | none =>
            by_contra some
            have present := get_eq_some_iff.2 (ih.2 ⟨rfl, fun none => some none.symm⟩)
            rw [got] at present
            cases present
      have last : collect key value (xs ++ [x]) = push key value (collect key value xs) x := by
        rw [collect, List.foldl_append]
        rfl
      rw [last, push, mem_set, known, group_append]
      constructor
      · rintro (⟨rfl, rfl⟩ | ⟨other, member⟩)
        · rw [if_pos rfl]
          exact ⟨rfl, List.append_ne_nil_of_right_ne_nil _ (List.cons_ne_nil _ _)⟩
        · rw [if_neg (Ne.symm other), List.append_nil]
          exact ih.1 member
      · rintro ⟨rfl, some⟩
        by_cases same : key x = k
        · subst same
          rw [if_pos rfl]
          exact .inl ⟨rfl, rfl⟩
        · rw [if_neg same, List.append_nil] at some ⊢
          exact .inr ⟨Ne.symm same, ih.2 ⟨rfl, some⟩⟩

/-- Two lists are collected into the same entries when they have the same groups. -/
theorem collect_perm_iff {xs ys : List α} :
    (collect key value xs).entries.Perm (collect key value ys).entries ↔
      ∀ k, group key value k xs = group key value k ys := by
  have nodup (m : InsertionMap κ (List β)) : m.entries.Nodup := List.Nodup.of_map _ m.distinct
  rw [List.perm_ext_iff_of_nodup (nodup _) (nodup _)]
  constructor
  · intro same k
    by_cases none : group key value k xs = []
    · by_contra other
      have some : group key value k ys ≠ [] := fun none' => other (none.trans none'.symm)
      exact other (mem_collect.1 ((same _).2 (mem_collect.2 ⟨rfl, some⟩))).1.symm
    · exact (mem_collect.1 ((same _).1 (mem_collect.2 ⟨rfl, none⟩))).1
  · rintro same ⟨k, members⟩
    rw [mem_collect, mem_collect, same]

end InsertionMap

end GrpcBridge.Theory

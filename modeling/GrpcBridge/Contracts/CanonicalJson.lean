/-
# Contracts.CanonicalJson -- equality of graphs by their canonical text

`canonicalJson` and `sortJson` of web/src/contracts.ts.  `sortJson` copies a value with the
keys of its objects sorted and -0 replaced by a string, and `canonicalJson` is the text of
the copy.  `defineContract` takes a graph for the projection of a service when their
texts are the same.

The copy of an object is an ordinary object, and its members are assigned one after the
other.  The assignment to `__proto__` sets its prototype, or nothing, and makes no member.
`WithoutProto` is what is left, at any depth, and the text decides equality of that
(`canonicalJson_iff`): of the whole values when they do not differ in those members alone.
-/
import GrpcBridge.Theory.Serialization
import Mathlib.Data.List.Perm.Basic
import Mathlib.Data.List.Sort

namespace GrpcBridge.Contracts

set_option autoImplicit false

open GrpcBridge.Theory.Serialization

abbrev Members := List (Text × Value)

def proto : Text := literal "__proto__"

/-- The string that stands for -0. -/
def minusZero : Text := literal "-0"

/-! ## sortJson -/

def compare (a b : Text) : Int := if a < b then -1 else if b < a then 1 else 0

/-- `sort(compare)` on the keys. -/
def sortKeys (members : Members) : Members :=
  members.mergeSort fun m n => compare m.1 n.1 ≤ 0

/-- `out[key] = item` on an ordinary object. -/
def assign (out : Members) (m : Text × Value) : Members :=
  if m.1 = proto then out
  else if out.any fun n => n.1 = m.1 then out.map fun n => if n.1 = m.1 then m else n
  else out ++ [m]

mutual

def sortJson : Value → Value
  | .number x => if x = .negativeZero then .string minusZero else .number x
  | .array items => .array (sortItems items)
  | .object members => .object ((sortKeys (sortMembers members)).foldl assign [])
  | value => value

def sortItems : List Value → List Value
  | [] => []
  | item :: items => sortJson item :: sortItems items

/-- Each item beside its key. -/
def sortMembers : Members → Members
  | [] => []
  | (key, item) :: members => (key, sortJson item) :: sortMembers members

end

/-- Canonical JSON. -/
def canonicalJson (value : Value) : Text := stringify (sortJson value)

/-- The comparison of graphs in `defineContract`. -/
def graphMatches (graph projection : Value) : Bool :=
  canonicalJson graph = canonicalJson projection

/-! ## Equality up to the order of members -/

mutual

/-- Equal up to the order of object members, and the number -0 is the string "-0". -/
inductive Same : Value → Value → Prop
  | null : Same .null .null
  | bool (b : Bool) : Same (.bool b) (.bool b)
  | number (x : Number) : Same (.number x) (.number x)
  | string (s : Text) : Same (.string s) (.string s)
  | zeroString : Same (.number .negativeZero) (.string minusZero)
  | stringZero : Same (.string minusZero) (.number .negativeZero)
  | array {items items' : List Value} : SameItems items items' →
      Same (.array items) (.array items')
  | object {members members' ordered : Members} : ordered.Perm members' →
      SameMembers members ordered → Same (.object members) (.object members')

inductive SameItems : List Value → List Value → Prop
  | nil : SameItems [] []
  | cons {item item' : Value} {items items' : List Value} : Same item item' →
      SameItems items items' → SameItems (item :: items) (item' :: items')

inductive SameMembers : Members → Members → Prop
  | nil : SameMembers [] []
  | cons {key : Text} {item item' : Value} {members members' : Members} : Same item item' →
      SameMembers members members' →
      SameMembers ((key, item) :: members) ((key, item') :: members')

end

mutual

/-- No object has a key twice. -/
def Distinct : Value → Prop
  | .array items => DistinctItems items
  | .object members => (members.map Prod.fst).Nodup ∧ DistinctMembers members
  | _ => True

def DistinctItems : List Value → Prop
  | [] => True
  | item :: items => Distinct item ∧ DistinctItems items

def DistinctMembers : Members → Prop
  | [] => True
  | (_, item) :: members => Distinct item ∧ DistinctMembers members

end

/-- What `JSON.parse` produces. -/
structure Parsed where
  value : Value
  distinct : Distinct value

mutual

/-- A value without the members `__proto__`, at any depth. -/
def withoutProto : Value → Value
  | .array items => .array (itemsWithoutProto items)
  | .object members => .object (membersWithoutProto members)
  | value => value

def itemsWithoutProto : List Value → List Value
  | [] => []
  | item :: items => withoutProto item :: itemsWithoutProto items

def membersWithoutProto : Members → Members
  | [] => []
  | (key, item) :: members =>
      if key = proto then membersWithoutProto members
      else (key, withoutProto item) :: membersWithoutProto members

end

/-! ## Sorted members -/

/-- A member that an assignment makes. -/
def kept (m : Text × Value) : Bool := m.1 ≠ proto

theorem compare_le (a b : Text) : compare a b ≤ 0 ↔ a ≤ b := by
  unfold compare
  split
  · rename_i less
    exact iff_of_true (by decide) (List.le_of_lt less)
  · split
    · rename_i greater
      exact iff_of_false (by decide) (fun le => List.not_lt.2 le greater)
    · rename_i greater
      exact iff_of_true (by decide) (List.not_lt.1 greater)

theorem sortKeys_sorted (members : Members) :
    (sortKeys members).Pairwise fun m n => m.1 ≤ n.1 := by
  have trans : ∀ l m n : Text × Value, decide (compare l.1 m.1 ≤ 0) = true →
      decide (compare m.1 n.1 ≤ 0) = true → decide (compare l.1 n.1 ≤ 0) = true := by
    intro l m n
    simp only [decide_eq_true_eq, compare_le]
    exact List.le_trans
  have total : ∀ m n : Text × Value,
      (decide (compare m.1 n.1 ≤ 0) || decide (compare n.1 m.1 ≤ 0)) = true := by
    intro m n
    simp only [Bool.or_eq_true, decide_eq_true_eq, compare_le]
    exact List.le_total m.1 n.1
  exact (List.pairwise_mergeSort trans total members).imp fun le =>
    (compare_le _ _).1 (of_decide_eq_true le)

theorem sortKeys_perm (members : Members) : (sortKeys members).Perm members :=
  List.mergeSort_perm _ _

/-- Sorted members are determined by what they are. -/
theorem sorted_unique {members members' : Members} (perm : members.Perm members')
    (sorted : members.Pairwise fun m n => m.1 ≤ n.1)
    (sorted' : members'.Pairwise fun m n => m.1 ≤ n.1)
    (distinct : (members.map Prod.fst).Nodup) : members = members' := by
  refine perm.eq_of_pairwise ?_ sorted sorted'
  intro m n member member' le ge
  exact List.inj_on_of_nodup_map distinct member (perm.mem_iff.2 member') (List.le_antisymm le ge)

/-! ## The canonical copy -/

/-- The copy with its members in the order in which they are written. -/
def canon (value : Value) : Value := inOwnOrder (sortJson value)

def canonMember (m : Text × Value) : Text × Value := (m.1, canon m.2)

theorem sortItems_eq (items : List Value) : sortItems items = items.map sortJson := by
  induction items with
  | nil => rfl
  | cons item items ih => rw [sortItems, ih, List.map_cons]

theorem sortMembers_eq (members : Members) :
    sortMembers members = members.map fun m => (m.1, sortJson m.2) := by
  induction members with
  | nil => rfl
  | cons m members ih => rw [sortMembers, ih, List.map_cons]

theorem itemsInOwnOrder_eq (items : List Value) :
    itemsInOwnOrder items = items.map inOwnOrder := by
  induction items with
  | nil => rfl
  | cons item items ih => rw [itemsInOwnOrder, ih, List.map_cons]

theorem membersInOwnOrder_eq (members : Members) :
    membersInOwnOrder members = members.map fun m => (m.1, inOwnOrder m.2) := by
  induction members with
  | nil => rfl
  | cons m members ih => rw [membersInOwnOrder, ih, List.map_cons]

/-- Assignments under distinct keys make a member each, but for `__proto__`. -/
theorem assigned_eq (out members : Members)
    (distinct : ((out ++ members).map Prod.fst).Nodup) :
    members.foldl assign out = out ++ members.filter kept := by
  induction members generalizing out with
  | nil => simp
  | cons m members ih =>
      rw [List.foldl_cons]
      by_cases special : m.1 = proto
      · have skipped : assign out m = out := if_pos special
        have dropped : kept m = false := decide_eq_false (not_not.2 special)
        rw [skipped, List.filter_cons_of_neg (by rw [dropped]; decide)]
        apply ih
        exact distinct.sublist
          (((List.Sublist.refl out).append (List.sublist_cons_self m members)).map Prod.fst)
      · have fresh : assign out m = out ++ [m] := by
          have absent : ¬ (out.any fun n => n.1 = m.1) = true := by
            intro found
            obtain ⟨n, member, same⟩ := List.any_eq_true.1 found
            rw [List.map_append, List.map_cons] at distinct
            refine (List.nodup_append.1 distinct).2.2 n.1 (List.mem_map_of_mem member) m.1
              List.mem_cons_self (of_decide_eq_true same)
          rw [assign, if_neg special, if_neg absent]
        have stays : kept m = true := decide_eq_true special
        rw [fresh, List.filter_cons_of_pos stays, ih, List.append_assoc]
        · rfl
        · rwa [List.append_assoc]

theorem canon_array (items : List Value) : canon (.array items) = .array (items.map canon) := by
  rw [canon, sortJson, inOwnOrder, sortItems_eq, itemsInOwnOrder_eq, List.map_map]
  rfl

theorem sortKeys_map (members : Members) (f : Value → Value) :
    (sortKeys members).map (fun m => (m.1, f m.2)) =
      sortKeys (members.map fun m => (m.1, f m.2)) :=
  List.map_mergeSort fun _ _ _ _ => rfl

theorem canon_object {members : Members} (distinct : (members.map Prod.fst).Nodup) :
    canon (.object members) =
      .object (ownOrder ((sortKeys (members.map canonMember)).filter kept)) := by
  have keys : ((sortKeys (sortMembers members)).map Prod.fst).Nodup := by
    rw [((sortKeys_perm _).map Prod.fst).nodup_iff, sortMembers_eq, List.map_map]
    exact distinct
  rw [canon, sortJson, assigned_eq [] _ (by simpa using keys), List.nil_append, inOwnOrder,
    membersInOwnOrder_eq]
  have moved : (((sortKeys (sortMembers members)).filter kept).map
      fun m => (m.1, inOwnOrder m.2)) =
      ((sortKeys (sortMembers members)).map fun m => (m.1, inOwnOrder m.2)).filter kept := by
    rw [List.filter_map]
    rfl
  rw [moved, sortKeys_map, sortMembers_eq, List.map_map]
  rfl

theorem filter_canonMember (members : Members) :
    (members.map canonMember).filter kept = (members.filter kept).map canonMember := by
  rw [List.filter_map]
  rfl

/-- The members of the copy are the kept members, copied. -/
theorem canon_members_perm (members : Members) :
    (ownOrder ((sortKeys (members.map canonMember)).filter kept)).Perm
      ((members.filter kept).map canonMember) := by
  rw [← filter_canonMember]
  exact (ownOrder_perm _).trans ((sortKeys_perm _).filter kept)

theorem plainMembers_iff (members : Members) :
    PlainMembers members ↔ ∀ m ∈ members, m.2.Plain := by
  induction members with
  | nil => simp [PlainMembers]
  | cons m members ih => rw [PlainMembers, ih, List.forall_mem_cons]

theorem distinctMembers_iff (members : Members) :
    DistinctMembers members ↔ ∀ m ∈ members, Distinct m.2 := by
  induction members with
  | nil => simp [DistinctMembers]
  | cons m members ih => rw [DistinctMembers, ih, List.forall_mem_cons]

mutual

/-- The copy has no -0. -/
theorem canon_plain (value : Value) (distinct : Distinct value) : (canon value).Plain := by
  match value with
  | .null => trivial
  | .bool _ => trivial
  | .string _ => trivial
  | .number x =>
      rw [canon, sortJson]
      split
      · trivial
      · rename_i finite
        exact finite
  | .array items =>
      rw [canon_array]
      exact canonItems_plain items distinct
  | .object members =>
      rw [canon_object distinct.1]
      refine (plainMembers_iff _).2 fun m member => ?_
      have source := (canon_members_perm members).mem_iff.1 member
      obtain ⟨n, inside, rfl⟩ := List.mem_map.1 source
      exact canonMembers_plain members distinct.2 n (List.mem_of_mem_filter inside)

theorem canonItems_plain (items : List Value) (distinct : DistinctItems items) :
    PlainItems (items.map canon) := by
  match items with
  | [] => trivial
  | item :: items =>
      exact ⟨canon_plain item distinct.1, canonItems_plain items distinct.2⟩

theorem canonMembers_plain (members : Members) (distinct : DistinctMembers members) :
    ∀ m ∈ members, (canon m.2).Plain := by
  match members with
  | [] => simp
  | (key, item) :: members =>
      intro m member
      obtain rfl | member := List.mem_cons.1 member
      · exact canon_plain item distinct.1
      · exact canonMembers_plain members distinct.2 m member

end

theorem canonicalJson_eq_iff {a b : Value} (distinct : Distinct a) (distinct' : Distinct b) :
    canonicalJson a = canonicalJson b ↔ canon a = canon b := by
  constructor
  · exact serialize_injective (canon_plain a distinct) (canon_plain b distinct')
  · exact congrArg serialize

/-! ## Same values have the same copy -/

/-- The copy of an object is determined by what its copied members are. -/
theorem canon_object_congr {members members' : Members}
    (distinct : (members.map Prod.fst).Nodup) (distinct' : (members'.map Prod.fst).Nodup)
    (perm : ((members.map canonMember).filter kept).Perm
      ((members'.map canonMember).filter kept)) :
    canon (.object members) = canon (.object members') := by
  have keys : (((sortKeys (members.map canonMember)).filter kept).map Prod.fst).Nodup := by
    refine List.Nodup.sublist (List.filter_sublist.map Prod.fst) ?_
    rw [((sortKeys_perm _).map Prod.fst).nodup_iff, List.map_map]
    exact distinct
  have same : (sortKeys (members.map canonMember)).filter kept =
      (sortKeys (members'.map canonMember)).filter kept := by
    refine sorted_unique ?_ ((sortKeys_sorted _).filter kept) ((sortKeys_sorted _).filter kept) keys
    exact ((sortKeys_perm _).filter kept).trans (perm.trans ((sortKeys_perm _).filter kept).symm)
  rw [canon_object distinct, canon_object distinct', same]

mutual

theorem canon_of_same (a b : Value) (distinct : Distinct a) (distinct' : Distinct b)
    (same : Same a b) : canon a = canon b := by
  match a, b, same with
  | _, _, .null => rfl
  | _, _, .bool _ => rfl
  | _, _, .number _ => rfl
  | _, _, .string _ => rfl
  | _, _, .zeroString => rfl
  | _, _, .stringZero => rfl
  | .array items, .array items', .array same =>
      rw [canon_array, canon_array, canonItems_of_same items items' distinct distinct' same]
  | .object members, .object members', .object perm same =>
      have inside : DistinctMembers _ := (distinctMembers_iff _).2 fun m member =>
        (distinctMembers_iff _).1 distinct'.2 m (perm.mem_iff.1 member)
      refine canon_object_congr distinct.1 distinct'.1 (List.Perm.filter kept ?_)
      rw [canonMembers_of_same members _ distinct.2 inside same]
      exact perm.map canonMember

theorem canonItems_of_same (items items' : List Value) (distinct : DistinctItems items)
    (distinct' : DistinctItems items') (same : SameItems items items') :
    items.map canon = items'.map canon := by
  match items, items', same with
  | _, _, .nil => rfl
  | item :: items, item' :: items', .cons same more =>
      rw [List.map_cons, List.map_cons, canon_of_same item item' distinct.1 distinct'.1 same,
        canonItems_of_same items items' distinct.2 distinct'.2 more]

theorem canonMembers_of_same (members members' : Members) (distinct : DistinctMembers members)
    (distinct' : DistinctMembers members') (same : SameMembers members members') :
    members.map canonMember = members'.map canonMember := by
  match members, members', same with
  | _, _, .nil => rfl
  | (key, item) :: members, (_, item') :: members', .cons same more =>
      rw [List.map_cons, List.map_cons, canonMember, canonMember,
        canon_of_same item item' distinct.1 distinct'.1 same,
        canonMembers_of_same members members' distinct.2 distinct'.2 more]

end

/-! ## Without the members that are lost -/

def memberWithoutProto (m : Text × Value) : Text × Value := (m.1, withoutProto m.2)

theorem membersWithoutProto_eq (members : Members) :
    membersWithoutProto members = (members.filter kept).map memberWithoutProto := by
  induction members with
  | nil => rfl
  | cons m members ih =>
      rw [membersWithoutProto]
      split
      · rename_i special
        have dropped : kept m = false := decide_eq_false (not_not.2 special)
        rw [ih, List.filter_cons_of_neg (by rw [dropped]; decide)]
      · rename_i special
        have stays : kept m = true := decide_eq_true special
        rw [ih, List.filter_cons_of_pos stays, List.map_cons]
        rfl

theorem keys_withoutProto {members : Members} (distinct : (members.map Prod.fst).Nodup) :
    ((membersWithoutProto members).map Prod.fst).Nodup := by
  rw [membersWithoutProto_eq, List.map_map]
  exact distinct.sublist (List.filter_sublist.map Prod.fst)

mutual

theorem distinct_withoutProto (value : Value) (distinct : Distinct value) :
    Distinct (withoutProto value) := by
  match value with
  | .null => trivial
  | .bool _ => trivial
  | .string _ => trivial
  | .number _ => trivial
  | .array items => exact distinctItems_withoutProto items distinct
  | .object members =>
      exact ⟨keys_withoutProto distinct.1, distinctMembers_withoutProto members distinct.2⟩

theorem distinctItems_withoutProto (items : List Value) (distinct : DistinctItems items) :
    DistinctItems (itemsWithoutProto items) := by
  match items with
  | [] => trivial
  | item :: items =>
      exact ⟨distinct_withoutProto item distinct.1, distinctItems_withoutProto items distinct.2⟩

theorem distinctMembers_withoutProto (members : Members) (distinct : DistinctMembers members) :
    DistinctMembers (membersWithoutProto members) := by
  match members with
  | [] => trivial
  | (key, item) :: members =>
      have rest := distinctMembers_withoutProto members distinct.2
      rw [membersWithoutProto]
      split
      · exact rest
      · exact ⟨distinct_withoutProto item distinct.1, rest⟩

end

mutual

/-- The lost members do not show in the copy. -/
theorem canon_withoutProto (value : Value) (distinct : Distinct value) :
    canon (withoutProto value) = canon value := by
  match value with
  | .null => rfl
  | .bool _ => rfl
  | .string _ => rfl
  | .number _ => rfl
  | .array items =>
      rw [withoutProto, canon_array, canon_array, canonItems_withoutProto items distinct]
  | .object members =>
      refine canon_object_congr (keys_withoutProto distinct.1) distinct.1 ?_
      rw [canonMembers_withoutProto members distinct.2, filter_canonMember, filter_canonMember,
        List.filter_filter]
      simp only [Bool.and_self]
      exact .refl _

theorem canonItems_withoutProto (items : List Value) (distinct : DistinctItems items) :
    (itemsWithoutProto items).map canon = items.map canon := by
  match items with
  | [] => rfl
  | item :: items =>
      rw [itemsWithoutProto, List.map_cons, List.map_cons, canon_withoutProto item distinct.1,
        canonItems_withoutProto items distinct.2]

theorem canonMembers_withoutProto (members : Members) (distinct : DistinctMembers members) :
    (membersWithoutProto members).map canonMember = (members.filter kept).map canonMember := by
  match members with
  | [] => rfl
  | (key, item) :: members =>
      have rest := canonMembers_withoutProto members distinct.2
      rw [membersWithoutProto]
      split
      · rename_i special
        have dropped : kept (key, item) = false := decide_eq_false (not_not.2 special)
        rw [rest, List.filter_cons_of_neg (by rw [dropped]; decide)]
      · rename_i special
        have stays : kept (key, item) = true := decide_eq_true special
        rw [List.filter_cons_of_pos stays, List.map_cons, List.map_cons, rest, canonMember,
          canonMember, canon_withoutProto item distinct.1]

end

/-! ## The same copy comes from same values -/

/-- What kind of value a copy is of; a number and a string may be one. -/
def outline : Value → Nat
  | .null => 0
  | .bool _ => 1
  | .number _ | .string _ => 2
  | .array _ => 3
  | .object _ => 4

theorem outline_canon (value : Value) : outline (canon value) = outline value := by
  cases value with
  | number x =>
      rw [canon, sortJson]
      split
      · rfl
      · rfl
  | _ => rfl

theorem canon_number {x : Number} (finite : x ≠ .negativeZero) :
    canon (.number x) = .number x := by
  rw [canon, sortJson, if_neg finite]
  rfl

theorem canon_negativeZero : canon (.number .negativeZero) = .string minusZero := rfl

/-- Numbers and strings with one copy. -/
theorem same_number_string {x : Number} {s : Text} (same : canon (.number x) = .string s) :
    x = .negativeZero ∧ s = minusZero := by
  by_cases zero : x = .negativeZero
  · subst zero
    rw [canon_negativeZero] at same
    cases same
    exact ⟨rfl, rfl⟩
  · rw [canon_number zero] at same
    cases same

theorem same_numbers {x y : Number} (same : canon (.number x) = canon (.number y)) : x = y := by
  by_cases zero : y = .negativeZero
  · subst zero
    exact (same_number_string same).1
  · by_cases zero' : x = .negativeZero
    · subst zero'
      exact (same_number_string same.symm).1.symm
    · rw [canon_number zero, canon_number zero'] at same
      cases same
      rfl

/-- The members of objects with one copy, in the order that fits. -/
theorem ordered_of_canon {members members' : Members} (distinct : (members.map Prod.fst).Nodup)
    (distinct' : (members'.map Prod.fst).Nodup)
    (same : canon (.object members) = canon (.object members')) :
    ∃ ordered : Members, ordered.Perm (members'.filter kept) ∧
      (members.filter kept).map canonMember = ordered.map canonMember := by
  rw [canon_object distinct, canon_object distinct'] at same
  have copies := (canon_members_perm members).symm
  rw [Value.object.inj same] at copies
  have perm : ((members.filter kept).map canonMember).Perm
      ((members'.filter kept).map canonMember) := copies.trans (canon_members_perm members')
  have split : Relation.Comp (fun copied l => copied = l.map canonMember) List.Perm
      ((members.filter kept).map canonMember) (members'.filter kept) := by
    rw [List.eq_map_comp_perm]
    exact perm
  obtain ⟨ordered, same, rearranged⟩ := split
  exact ⟨ordered, rearranged, same⟩

mutual

theorem same_of_canon (a b : Value) (distinct : Distinct a) (distinct' : Distinct b)
    (same : canon a = canon b) : Same (withoutProto a) (withoutProto b) := by
  have outlines : outline a = outline b := by rw [← outline_canon, same, outline_canon]
  match a, b with
  | .null, .null => exact .null
  | .bool b, .bool b' =>
      cases same
      exact .bool b
  | .number x, .number y =>
      obtain rfl := same_numbers same
      exact .number x
  | .number x, .string s =>
      obtain ⟨rfl, rfl⟩ := same_number_string same
      exact .zeroString
  | .string s, .number x =>
      obtain ⟨rfl, rfl⟩ := same_number_string same.symm
      exact .stringZero
  | .string s, .string s' =>
      cases same
      exact .string s
  | .array items, .array items' =>
      rw [canon_array, canon_array] at same
      exact .array (sameItems_of_canon items items' distinct distinct' (Value.array.inj same))
  | .object members, .object members' =>
      obtain ⟨ordered, perm, copied⟩ := ordered_of_canon distinct.1 distinct'.1 same
      have inside : DistinctMembers ordered := (distinctMembers_iff _).2 fun m member =>
        (distinctMembers_iff _).1 distinct'.2 m (List.mem_of_mem_filter (perm.mem_iff.1 member))
      refine .object ?_ (sameMembers_of_canon members ordered distinct.2 inside copied)
      rw [membersWithoutProto_eq]
      exact perm.map memberWithoutProto

theorem sameItems_of_canon (items items' : List Value) (distinct : DistinctItems items)
    (distinct' : DistinctItems items') (same : items.map canon = items'.map canon) :
    SameItems (itemsWithoutProto items) (itemsWithoutProto items') := by
  match items, items' with
  | [], [] => exact .nil
  | [], _ :: _ => cases same
  | _ :: _, [] => cases same
  | item :: items, item' :: items' =>
      obtain ⟨first, rest⟩ := List.cons.inj same
      exact .cons (same_of_canon item item' distinct.1 distinct'.1 first)
        (sameItems_of_canon items items' distinct.2 distinct'.2 rest)

/-- The members that are kept, against others in the order that fits. -/
theorem sameMembers_of_canon (members ordered : Members) (distinct : DistinctMembers members)
    (distinct' : DistinctMembers ordered)
    (same : (members.filter kept).map canonMember = ordered.map canonMember) :
    SameMembers (membersWithoutProto members) (ordered.map memberWithoutProto) := by
  match members with
  | [] =>
      rw [List.map_eq_nil_iff.1 same.symm]
      exact .nil
  | (key, item) :: members =>
      rw [membersWithoutProto]
      split
      · rename_i special
        have dropped : kept (key, item) = false := decide_eq_false (not_not.2 special)
        rw [List.filter_cons_of_neg (by rw [dropped]; decide)] at same
        exact sameMembers_of_canon members ordered distinct.2 distinct' same
      · rename_i special
        have stays : kept (key, item) = true := decide_eq_true special
        rw [List.filter_cons_of_pos stays] at same
        match ordered with
        | [] => cases same
        | (key', item') :: ordered =>
            obtain ⟨first, rest⟩ := List.cons.inj same
            obtain ⟨rfl, copied⟩ := Prod.mk.inj first
            exact .cons (same_of_canon item item' distinct.1 distinct'.1 copied)
              (sameMembers_of_canon members ordered distinct.2 distinct'.2 rest)

end

/-! ## What equal texts say of the values -/

/-- The text decides equality of what the copies keep. -/
theorem canonicalJson_iff {a b : Value} (distinct : Distinct a) (distinct' : Distinct b) :
    canonicalJson a = canonicalJson b ↔ Same (withoutProto a) (withoutProto b) := by
  rw [canonicalJson_eq_iff distinct distinct']
  constructor
  · exact same_of_canon a b distinct distinct'
  · intro same
    rw [← canon_withoutProto a distinct, ← canon_withoutProto b distinct']
    exact canon_of_same _ _ (distinct_withoutProto a distinct) (distinct_withoutProto b distinct')
      same

/-- Equality of two values is decided by their texts, and by `defineContract`. -/
def Decided (a b : Parsed) : Prop :=
  (canonicalJson a.value = canonicalJson b.value ↔ Same a.value b.value) ∧
    (graphMatches a.value b.value = true ↔ Same a.value b.value)

/-- The values differ, and only in members `__proto__`. -/
def DifferInProto (a b : Parsed) : Prop :=
  Same (withoutProto a.value) (withoutProto b.value) ∧ ¬ Same a.value b.value

/-- **Canonical JSON decides graph equality**, unless two graphs differ in members
`__proto__` alone. -/
theorem decided_iff (a b : Parsed) : Decided a b ↔ ¬ DifferInProto a b := by
  have text := canonicalJson_iff a.distinct b.distinct
  have whole : Same a.value b.value → canonicalJson a.value = canonicalJson b.value := by
    intro same
    rw [canonicalJson_eq_iff a.distinct b.distinct]
    exact canon_of_same _ _ a.distinct b.distinct same
  have matched : graphMatches a.value b.value = true ↔
      canonicalJson a.value = canonicalJson b.value := decide_eq_true_iff
  constructor
  · rintro ⟨decided, _⟩ ⟨kept, different⟩
    exact different (decided.1 (text.2 kept))
  · intro alike
    have decided : canonicalJson a.value = canonicalJson b.value ↔ Same a.value b.value := by
      refine ⟨fun same => ?_, whole⟩
      by_contra different
      exact alike ⟨text.1 same, different⟩
    exact ⟨decided, matched.trans decided⟩

/-- `{"__proto__":null}`, beside an empty object. -/
def withProto : Parsed := ⟨.object [(proto, .null)], by decide, trivial, trivial⟩

def empty : Parsed := ⟨.object [], by decide, trivial⟩

/-- They have the same text and are not the same. -/
theorem withProto_undecided :
    canonicalJson withProto.value = canonicalJson empty.value ∧
      ¬ Same withProto.value empty.value ∧ ¬ Decided withProto empty := by
  have text : canonicalJson withProto.value = canonicalJson empty.value := by
    rw [canonicalJson_iff withProto.distinct empty.distinct]
    exact .object (.refl _) .nil
  have different : ¬ Same withProto.value empty.value := by
    intro same
    cases same with
    | object perm members =>
        obtain rfl := List.perm_nil.1 perm
        cases members
  refine ⟨text, different, ?_⟩
  rintro ⟨decided, _⟩
  exact different (decided.1 text)

end GrpcBridge.Contracts

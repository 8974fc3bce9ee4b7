/-
# Theory.JsonStruct -- reading a JSON object into a record

A record type is described by its fields: a declared name, a place in the record
and a way to take a value into that place.  A member of an object goes to the
field whose name is its key, else to the first field whose name has the same
simple case folding, and a key that fits no field fails the decoding.  Members are
taken in the order of the text, so that a later one overwrites an earlier one
(`decodeMembers_content`).

`Unambiguous` is what a reader of the text expects of this: every key is the name
of the field it supplies and no field is supplied twice.  For members with
distinct keys in lower case that is a question about one rune, the long s
(`unambiguous_iff`), and it makes every field the value of one member
(`fromOneMember_of_unambiguous`).
-/
import GrpcBridge.Theory.CaseFolding
import GrpcBridge.Theory.JsonDecoder
import Mathlib.Data.List.Nodup

namespace GrpcBridge.Theory.Json

set_option autoImplicit false

open GrpcBridge.Theory.CaseFolding
open GrpcBridge.Theory.Fallible

structure StructField (σ : Type) where
  name : Key
  Content : Type
  get : σ → Content
  set : Content → σ → σ
  /-- What a value makes of the present content. -/
  assign : Value → Content → Except Fault Content

variable {σ : Type}

/-! ## Decoding -/

def foldName (name : Key) : Key := name.map foldRune

/-- The field that a key supplies. -/
def fieldFor (fields : List (StructField σ)) (key : Key) : Option (StructField σ) :=
  match fields.find? (fun f => f.name = key) with
  | some f => some f
  | none => fields.find? (fun f => foldName f.name = foldName key)

def decodeMembers (fields : List (StructField σ)) : List (Key × Value) → σ → Except Fault σ
  | [], record => .ok record
  | (key, value) :: rest, record =>
      match fieldFor fields key with
      | none => .error (.unknownField key)
      | some f => do
          let content ← f.assign value (f.get record)
          decodeMembers fields rest (f.set content record)

/-- A null leaves the record as it is. -/
def decodeStruct (fields : List (StructField σ)) (value : Value) (record : σ) : Except Fault σ :=
  match value with
  | .scalar .null => .ok record
  | .object members => decodeMembers fields members record
  | .scalar _ | .array _ => .error .unmarshalType

/-! ## Contents -/

/-- A Go `int` or `int64`. -/
def assignInt64 (value : Value) (content : Int) : Except Fault Int :=
  match value with
  | .scalar .null => .ok content
  | .scalar (.number text) =>
      match parseInt64 text with
      | some n => .ok n
      | none => .error .unmarshalType
  | .scalar _ | .array _ | .object _ => .error .unmarshalType

/-- A Go `string`. -/
def assignString (value : Value) (content : List Char) : Except Fault (List Char) :=
  match value with
  | .scalar .null => .ok content
  | .scalar (.string s) => .ok s
  | .scalar _ | .array _ | .object _ => .error .unmarshalType

/-- A Go `*string`. -/
def assignStringPointer (value : Value) (_ : Option (List Char)) :
    Except Fault (Option (List Char)) :=
  match value with
  | .scalar .null => .ok none
  | .scalar (.string s) => .ok (some s)
  | .scalar _ | .array _ | .object _ => .error .unmarshalType

/-- A Go `bool`. -/
def assignBool (value : Value) (content : Bool) : Except Fault Bool :=
  match value with
  | .scalar .null => .ok content
  | .scalar (.bool b) => .ok b
  | .scalar _ | .array _ | .object _ => .error .unmarshalType

/-- A `json.RawMessage`, here with its text already read. -/
def assignRaw (value : Value) (_ : Option Value) : Except Fault (Option Value) :=
  .ok (some value)

/-! ## Suppliers -/

/-- The members that go to a field, in the order of the text. -/
def suppliers (fields : List (StructField σ)) (f : StructField σ) (members : List (Key × Value)) :
    List (Key × Value) :=
  members.filter fun m => decide ((fieldFor fields m.1).map (·.name) = some f.name)

/-- Every key is the name of the field it supplies, and no two keys supply one field. -/
def Unambiguous (fields : List (StructField σ)) (members : List (Key × Value)) : Prop :=
  (∀ m ∈ members, ∀ f, fieldFor fields m.1 = some f → m.1 = f.name) ∧
    ∀ f ∈ fields, (suppliers fields f members).length ≤ 1

/-- Every field holds what one member of that very name gave it, or what it held before. -/
def FromOneMember (fields : List (StructField σ)) (members : List (Key × Value))
    (record decoded : σ) : Prop :=
  ∀ f ∈ fields, (suppliers fields f members = [] ∧ f.get decoded = f.get record) ∨
    ∃ value, suppliers fields f members = [(f.name, value)] ∧
      f.assign value (f.get record) = .ok (f.get decoded)

/-- Names that differ and places that do not overlap. -/
structure Lawful (fields : List (StructField σ)) : Prop where
  names : (fields.map (·.name)).Nodup
  runes : ∀ f ∈ fields, ∀ c ∈ f.name, NameRune c
  get_set : ∀ f ∈ fields, ∀ content record, f.get (f.set content record) = content
  get_set_other : ∀ f ∈ fields, ∀ g ∈ fields, f.name ≠ g.name → ∀ content record,
    f.get (g.set content record) = f.get record

theorem Lawful.eq_of_name {fields : List (StructField σ)} (lawful : Lawful fields) {f g : StructField σ}
    (first : f ∈ fields) (second : g ∈ fields) (same : f.name = g.name) : f = g :=
  List.inj_on_of_nodup_map lawful.names first second same

theorem fieldFor_mem {fields : List (StructField σ)} {key : Key} {f : StructField σ}
    (found : fieldFor fields key = some f) : f ∈ fields ∧ foldName f.name = foldName key := by
  unfold fieldFor at found
  split at found
  · next g exact_ =>
    cases found
    have same := List.find?_some exact_
    rw [decide_eq_true_eq] at same
    exact ⟨List.mem_of_find?_eq_some exact_, congrArg foldName same⟩
  · have same := List.find?_some found
    rw [decide_eq_true_eq] at same
    exact ⟨List.mem_of_find?_eq_some found, same⟩

/-- What an accepted object has been through: every member went to some field. -/
theorem decodeMembers_assigned {fields : List (StructField σ)} {members : List (Key × Value)}
    {record decoded : σ} (accepted : decodeMembers fields members record = .ok decoded) :
    ∀ m ∈ members, ∃ f before after, fieldFor fields m.1 = some f ∧
      f.assign m.2 before = .ok after := by
  induction members generalizing record with
  | nil => simp
  | cons member rest ih =>
      obtain ⟨key, value⟩ := member
      unfold decodeMembers at accepted
      split at accepted
      · cases accepted
      · next f bound =>
        obtain ⟨content, assigned, later⟩ := bind_eq_ok.mp accepted
        intro m inside
        rcases List.mem_cons.mp inside with rfl | inside
        · exact ⟨f, f.get record, content, bound, assigned⟩
        · exact ih later m inside

/-- What every assignment keeps of a record, the decoding keeps. -/
theorem decodeMembers_keeps {fields : List (StructField σ)} (kept : σ → Prop)
    (keeps : ∀ f ∈ fields, ∀ value record content, kept record →
      f.assign value (f.get record) = .ok content → kept (f.set content record))
    {members : List (Key × Value)} {record decoded : σ} (before : kept record)
    (accepted : decodeMembers fields members record = .ok decoded) : kept decoded := by
  induction members generalizing record with
  | nil =>
      cases accepted
      exact before
  | cons member rest ih =>
      obtain ⟨key, value⟩ := member
      unfold decodeMembers at accepted
      split at accepted
      · cases accepted
      · next f bound =>
        obtain ⟨content, assigned, later⟩ := bind_eq_ok.mp accepted
        exact ih (keeps f (fieldFor_mem bound).1 value record content before assigned) later

/-- **Later members overwrite.** The content of a field is what its suppliers make
of it one after the other. -/
theorem decodeMembers_content {fields : List (StructField σ)} (lawful : Lawful fields)
    {members : List (Key × Value)} {record decoded : σ}
    (accepted : decodeMembers fields members record = .ok decoded) {f : StructField σ}
    (declared : f ∈ fields) :
    (suppliers fields f members).foldlM (fun content m => f.assign m.2 content) (f.get record) =
      .ok (f.get decoded) := by
  induction members generalizing record with
  | nil =>
      cases accepted
      rfl
  | cons member rest ih =>
      obtain ⟨key, value⟩ := member
      unfold decodeMembers at accepted
      split at accepted
      · cases accepted
      · next g bound =>
        obtain ⟨content, assigned, later⟩ := bind_eq_ok.mp accepted
        have tail := ih later
        have listed := (fieldFor_mem bound).1
        by_cases same : g.name = f.name
        · obtain rfl := lawful.eq_of_name listed declared same
          rw [lawful.get_set g declared] at tail
          have kept : suppliers fields g ((key, value) :: rest) =
              (key, value) :: suppliers fields g rest := by
            simp [suppliers, bound]
          rw [kept, List.foldlM_cons, assigned]
          exact tail
        · rw [lawful.get_set_other f declared g listed (Ne.symm same)] at tail
          have dropped : suppliers fields f ((key, value) :: rest) = suppliers fields f rest := by
            simp [suppliers, bound, same]
          rw [dropped]
          exact tail

/-! ## Unambiguous objects -/

/-- A lower case key that folds like a declared name is that name, up to the long s. -/
theorem eq_name_of_lower {name key : Key} (runes : ∀ c ∈ name, NameRune c)
    (lower : lowerText key = key) (same : foldName name = foldName key) (plain : longS ∉ key) :
    key = name := by
  induction name generalizing key with
  | nil =>
      cases key with
      | nil => rfl
      | cons _ _ => simp [foldName] at same
  | cons x name ih =>
      cases key with
      | nil => simp [foldName] at same
      | cons c key =>
          simp only [foldName, lowerText, List.map_cons, List.cons.injEq, List.mem_cons,
            not_or] at same lower plain
          have rest : key = name :=
            ih (fun d inside => runes d (List.mem_cons_of_mem x inside)) lower.2 same.2 plain.2
          rcases eq_of_foldRune_eq (runes x List.mem_cons_self) lower.1 same.1.symm with first | long
          · rw [first, rest]
          · exact absurd long.symm plain.1

theorem longS_not_nameRune : ¬ NameRune longS := by decide +kernel

theorem mem_suppliers {fields : List (StructField σ)} {f : StructField σ} {members : List (Key × Value)}
    {m : Key × Value} (supplies : m ∈ suppliers fields f members) :
    m ∈ members ∧ ∃ g, fieldFor fields m.1 = some g ∧ g.name = f.name := by
  simpa [suppliers] using supplies

theorem length_le_one_of_keys {members : List (Key × Value)} {name : Key}
    (distinct : (members.map Prod.fst).Nodup) (same : ∀ m ∈ members, m.1 = name) :
    members.length ≤ 1 := by
  match members with
  | [] => simp
  | [_] => simp
  | m :: n :: rest =>
      have equal : m.1 = n.1 := (same m (by simp)).trans (same n (by simp)).symm
      simp [equal] at distinct

/-- **One rune decides.** An accepted object whose keys are distinct and in lower
case is unambiguous exactly when no key contains the long s. -/
theorem unambiguous_iff {fields : List (StructField σ)} (lawful : Lawful fields)
    {members : List (Key × Value)} {record decoded : σ}
    (accepted : decodeMembers fields members record = .ok decoded)
    (lower : ∀ m ∈ members, lowerText m.1 = m.1) (distinct : (members.map Prod.fst).Nodup) :
    Unambiguous fields members ↔ ∀ m ∈ members, longS ∉ m.1 := by
  constructor
  · rintro ⟨named, -⟩ m inside long
    obtain ⟨f, -, -, bound, -⟩ := decodeMembers_assigned accepted m inside
    rw [named m inside f bound] at long
    exact longS_not_nameRune (lawful.runes f (fieldFor_mem bound).1 longS long)
  · intro plain
    have named : ∀ m ∈ members, ∀ f, fieldFor fields m.1 = some f → m.1 = f.name := by
      intro m inside f bound
      obtain ⟨declared, folded⟩ := fieldFor_mem bound
      exact eq_name_of_lower (lawful.runes f declared) (lower m inside) folded (plain m inside)
    refine ⟨named, fun f declared => ?_⟩
    have part : (suppliers fields f members).Sublist members := List.filter_sublist
    apply length_le_one_of_keys (distinct.sublist (part.map Prod.fst))
    · intro m supplies
      obtain ⟨inside, g, bound, same⟩ := mem_suppliers supplies
      exact (named m inside g bound).trans same

theorem fromOneMember_of_unambiguous {fields : List (StructField σ)} (lawful : Lawful fields)
    {members : List (Key × Value)} {record decoded : σ}
    (accepted : decodeMembers fields members record = .ok decoded)
    (unambiguous : Unambiguous fields members) : FromOneMember fields members record decoded := by
  intro f declared
  have content := decodeMembers_content lawful accepted declared
  have few := unambiguous.2 f declared
  cases found : suppliers fields f members with
  | nil =>
      rw [found, List.foldlM_nil] at content
      exact .inl ⟨rfl, (Except.ok.inj content).symm⟩
  | cons m rest =>
      have alone : rest = [] := by
        rw [found, List.length_cons] at few
        exact List.eq_nil_of_length_eq_zero (by omega)
      subst alone
      obtain ⟨inside, g, bound, same⟩ := mem_suppliers (found ▸ List.mem_singleton_self m)
      have name : m.1 = f.name := (unambiguous.1 m inside g bound).trans same
      rw [found, List.foldlM_cons] at content
      obtain ⟨after, assigned, result⟩ := bind_eq_ok.mp content
      cases result
      exact .inr ⟨m.2, by rw [← name], assigned⟩

end GrpcBridge.Theory.Json

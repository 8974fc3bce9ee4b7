/-
# Admission.Unambiguous -- one member for each field

What a reader of an accepted text would say of the record decoded from it: each
key names the field it supplies, and each field is the value of one member
(`Clear`).  `Destination.AllClear` says so of every object that is decoded into a
struct: the root, and in a targets file the entry of each label too.

The scanner compares keys after lower casing and the decoder after folding, and
the long s is where the two part.  `clear_iff` is the exact statement: an accepted
text is clear if no key of those objects contains that rune, and only then.
-/
import GrpcBridge.Admission.Canonical
import GrpcBridge.Theory.Text

namespace GrpcBridge.Admission

set_option autoImplicit false

open GrpcBridge.Theory.CaseFolding
open GrpcBridge.Theory.Fallible
open GrpcBridge.Theory.Json
open GrpcBridge.Theory.Text (literal)

/-! ## The structs -/

theorem nameRunes_of_all {σ : Type} {fields : List (StructField σ)}
    (all : (fields.all fun f => f.name.all fun c => decide (NameRune c)) = true) :
    ∀ f ∈ fields, ∀ c ∈ f.name, NameRune c := by
  intro f declared c inside
  have name := List.all_eq_true.mp all f declared
  exact of_decide_eq_true (List.all_eq_true.mp name c inside)

theorem AdmissionRequest.fields_lawful : Lawful AdmissionRequest.fields where
  names := by decide +kernel
  runes := nameRunes_of_all (by decide +kernel)
  get_set := by simp [AdmissionRequest.fields, intField, stringField]
  get_set_other := by simp [AdmissionRequest.fields, intField, stringField]

theorem AdmissionResponse.fields_lawful : Lawful AdmissionResponse.fields where
  names := by decide +kernel
  runes := nameRunes_of_all (by decide +kernel)
  get_set := by simp [AdmissionResponse.fields, intField, stringField]
  get_set_other := by simp [AdmissionResponse.fields, intField, stringField]

theorem EntryFields.fields_lawful : Lawful EntryFields.fields where
  names := by decide +kernel
  runes := nameRunes_of_all (by decide +kernel)
  get_set := by simp [EntryFields.fields]
  get_set_other := by simp [EntryFields.fields]

theorem Policy.fields_lawful : Lawful Policy.fields where
  names := by decide +kernel
  runes := nameRunes_of_all (by decide +kernel)
  get_set := by simp [Policy.fields]
  get_set_other := by simp [Policy.fields]

/-! ## No destination runs out of fuel -/

theorem decodeMembers_fuel {σ : Type} {fields : List (StructField σ)}
    (assigns : ∀ f ∈ fields, ∀ value content, f.assign value content ≠ .error .outOfFuel)
    (members : List (Key × Value)) (record : σ) :
    decodeMembers fields members record ≠ .error .outOfFuel := by
  induction members generalizing record with
  | nil => simp [decodeMembers]
  | cons member rest ih =>
      obtain ⟨key, value⟩ := member
      unfold decodeMembers
      split
      · simp
      · next f bound =>
        apply bind_ne_error (assigns f (fieldFor_mem bound).1 value _)
        intro content _
        exact ih _

theorem decodeStruct_fuel {σ : Type} {fields : List (StructField σ)}
    (assigns : ∀ f ∈ fields, ∀ value content, f.assign value content ≠ .error .outOfFuel)
    (value : Value) (record : σ) : decodeStruct fields value record ≠ .error .outOfFuel := by
  unfold decodeStruct
  split
  · simp
  · exact decodeMembers_fuel assigns _ record
  · simp
  · simp

theorem assignInt64_fuel (value : Value) (content : Int) :
    assignInt64 value content ≠ .error .outOfFuel := by
  unfold assignInt64
  split
  · simp
  · split <;> simp
  all_goals simp

theorem assignString_fuel (value : Value) (content : List Char) :
    assignString value content ≠ .error .outOfFuel := by
  unfold assignString
  split <;> simp

theorem unmarshalJSON_fuel (target : TargetPolicy) (value : Value) :
    target.unmarshalJSON value ≠ .error .outOfFuel := by
  unfold TargetPolicy.unmarshalJSON TargetPolicy.settle
  split
  · simp
  · split
    · simp
    · split
      · simp
      · simp
      · split <;> simp

theorem decodeEntries_fuel (entries : List (Key × Value)) (targets : Targets) :
    decodeEntries entries targets ≠ .error .outOfFuel := by
  induction entries generalizing targets with
  | nil => simp [decodeEntries]
  | cons entry rest ih =>
      apply bind_ne_error (unmarshalJSON_fuel {} entry.2)
      intro target _
      exact ih _

theorem assignTargets_fuel (value : Value) (content : Option Targets) :
    assignTargets value content ≠ .error .outOfFuel := by
  unfold assignTargets
  split
  · simp
  · exact bind_ne_error (decodeEntries_fuel _ _) (by simp)
  · simp
  · simp

theorem Destination.unmarshal_fuel (destination : Destination) (value : Value) :
    destination.unmarshal value ≠ .error .outOfFuel := by
  cases destination with
  | admissionRequest =>
      apply decodeStruct_fuel
      simp [AdmissionRequest.fields, intField, stringField, assignInt64_fuel, assignString_fuel]
  | admissionResponse =>
      apply decodeStruct_fuel
      simp [AdmissionResponse.fields, intField, stringField, assignInt64_fuel, assignString_fuel]
  | policy =>
      apply decodeStruct_fuel
      simp [Policy.fields, assignTargets_fuel]

/-- What a destination refuses, it refuses for what the text says. -/
theorem Destination.decode_fuel (destination : Destination) (data : List UInt8) :
    decodeStrictJSON destination.unmarshal data ≠ .error (.json .outOfFuel) :=
  decodeStrictJSON_fuel destination.unmarshal_fuel data

/-! ## Clear objects -/

/-- Each key is the name of the field it supplies, and each field is what one member
gave it or what it was before. -/
structure Clear {σ : Type} (fields : List (StructField σ)) (members : List (Key × Value))
    (record decoded : σ) : Prop where
  unambiguous : Unambiguous fields members
  fromOneMember : FromOneMember fields members record decoded

theorem clear_iff_plain {σ : Type} {fields : List (StructField σ)} (lawful : Lawful fields)
    {members : List (Key × Value)} {record decoded : σ}
    (accepted : decodeMembers fields members record = .ok decoded)
    (canonical : Canonical (.object members)) :
    Clear fields members record decoded ↔ ∀ key ∈ members.map Prod.fst, longS ∉ key := by
  cases canonical with
  | object lower distinct _ =>
      have decides := unambiguous_iff lawful accepted lower distinct
      rw [List.forall_mem_map]
      constructor
      · intro clear
        exact decides.mp clear.unambiguous
      · intro plain
        have unambiguous := decides.mpr plain
        exact ⟨unambiguous, fromOneMember_of_unambiguous lawful accepted unambiguous⟩

/-! ## Entries of the targets file -/

/-- The entries of a targets file; every member supplies the one field there is. -/
def targetEntries (members : List (Key × Value)) : List (Key × Value) :=
  members.flatMap fun m => m.2.members

/-- A target and the value it was decoded from. -/
def EntryClear (value : Value) (target : TargetPolicy) : Prop :=
  ∃ members fields, value = .object members ∧ TargetPolicy.settle {} fields = .ok target ∧
    Clear EntryFields.fields members {} fields

theorem unmarshalJSON_ok {target made : TargetPolicy} {value : Value}
    (accepted : target.unmarshalJSON value = .ok made) :
    ∃ members fields, value = .object members ∧
      decodeMembers EntryFields.fields members {} = .ok fields ∧ target.settle fields = .ok made := by
  unfold TargetPolicy.unmarshalJSON at accepted
  split at accepted
  · cases accepted
  · next fields decoded =>
    cases value with
    | object members => exact ⟨members, fields, rfl, decoded, accepted⟩
    | array items => cases decoded
    | scalar s =>
        -- only null is decoded, and it leaves the entry without an address
        cases s with
        | null =>
            cases decoded
            cases accepted
        | bool _ | number _ | string _ => cases decoded

theorem mem_storeTarget {label : Key} {target : TargetPolicy} {targets : Targets}
    {entry : Key × TargetPolicy} (stored : entry ∈ storeTarget label target targets) :
    entry ∈ targets ∨ entry = (label, target) := by
  rcases List.mem_append.mp stored with kept | new
  · exact .inl (List.mem_filter.mp kept).1
  · exact .inr (List.mem_singleton.mp new)

/-- Every entry was decoded, and every target was there before or comes from one. -/
theorem decodeEntries_ok {entries : List (Key × Value)} {targets made : Targets}
    (accepted : decodeEntries entries targets = .ok made) :
    (∀ entry ∈ entries, ∃ target, TargetPolicy.unmarshalJSON {} entry.2 = .ok target) ∧
      ∀ target ∈ made, target ∈ targets ∨ ∃ value, (target.1, value) ∈ entries ∧
        TargetPolicy.unmarshalJSON {} value = .ok target.2 := by
  induction entries generalizing targets with
  | nil =>
      cases accepted
      exact ⟨by simp, fun _ there => .inl there⟩
  | cons entry rest ih =>
      obtain ⟨label, value⟩ := entry
      obtain ⟨target, decoded, others⟩ := bind_eq_ok.mp accepted
      obtain ⟨all, sources⟩ := ih others
      refine ⟨List.forall_mem_cons.mpr ⟨⟨target, decoded⟩, all⟩, fun found inside => ?_⟩
      rcases sources found inside with stored | ⟨value', listed, source⟩
      · rcases mem_storeTarget stored with before | rfl
        · exact .inl before
        · exact .inr ⟨value, List.mem_cons_self, decoded⟩
      · exact .inr ⟨value', List.mem_cons_of_mem _ listed, source⟩

theorem assignTargets_ok {value : Value} {content made : Option Targets}
    (accepted : assignTargets value content = .ok made) :
    (∀ entry ∈ value.members, ∃ target, TargetPolicy.unmarshalJSON {} entry.2 = .ok target) ∧
      ∀ target ∈ made.getD [], target ∈ content.getD [] ∨ ∃ source,
        (target.1, source) ∈ value.members ∧
          TargetPolicy.unmarshalJSON {} source = .ok target.2 := by
  cases value with
  | object members =>
      obtain ⟨targets, decoded, result⟩ := bind_eq_ok.mp accepted
      cases result
      exact decodeEntries_ok decoded
  | array items => cases accepted
  | scalar s =>
      cases s with
      | null =>
          cases accepted
          exact ⟨by simp [Value.members], by simp⟩
      | bool _ | number _ | string _ => cases accepted

theorem Canonical.member {value : Value} (canonical : Canonical value) {m : Key × Value}
    (inside : m ∈ value.members) : Canonical m.2 := by
  cases canonical with
  | scalar s => cases inside
  | array all => cases inside
  | object _ _ all => exact all m inside

theorem Canonical.distinct {value : Value} (canonical : Canonical value) :
    (value.members.map Prod.fst).Nodup := by
  cases canonical with
  | scalar s => exact List.nodup_nil
  | array all => exact List.nodup_nil
  | object _ distinct _ => exact distinct

theorem entryClear_iff_plain {value : Value} {target : TargetPolicy}
    (accepted : TargetPolicy.unmarshalJSON {} value = .ok target) (canonical : Canonical value) :
    (Unambiguous EntryFields.fields value.members ↔
        ∀ key ∈ value.members.map Prod.fst, longS ∉ key) ∧
      ((∀ key ∈ value.members.map Prod.fst, longS ∉ key) → EntryClear value target) := by
  obtain ⟨members, fields, rfl, decoded, settled⟩ := unmarshalJSON_ok accepted
  have plain_iff := clear_iff_plain EntryFields.fields_lawful decoded canonical
  constructor
  · constructor
    · intro unambiguous
      exact plain_iff.mp ⟨unambiguous,
        fromOneMember_of_unambiguous EntryFields.fields_lawful decoded unambiguous⟩
    · intro plain
      exact (plain_iff.mpr plain).unambiguous
  · intro plain
    exact ⟨members, fields, rfl, settled, plain_iff.mpr plain⟩

/-! ## The targets file -/

section

variable {members : List (Key × Value)} {policy : Policy}
  (accepted : decodeMembers Policy.fields members {} = .ok policy)

include accepted

theorem suppliers_policy : ∀ f ∈ Policy.fields, suppliers Policy.fields f members = members := by
  intro f declared
  apply List.filter_eq_self.mpr
  intro m inside
  obtain ⟨g, before, after, bound, -⟩ := decodeMembers_assigned accepted m inside
  have listed := (fieldFor_mem bound).1
  rw [Policy.fields, List.mem_singleton] at declared listed
  rw [bound, decide_eq_true_eq, declared, listed]
  rfl

theorem policy_entry {entry : Key × Value} (listed : entry ∈ targetEntries members) :
    ∃ target, TargetPolicy.unmarshalJSON {} entry.2 = .ok target := by
  obtain ⟨m, inside, entered⟩ := List.mem_flatMap.mp listed
  obtain ⟨f, before, after, bound, assigned⟩ := decodeMembers_assigned accepted m inside
  have declared := (fieldFor_mem bound).1
  rw [Policy.fields, List.mem_singleton] at declared
  subst declared
  exact (assignTargets_ok assigned).1 entry entered

/-- A clear targets file is one object, and each of its targets comes from one entry. -/
theorem policy_target (clear : Clear Policy.fields members {} policy)
    (canonical : Canonical (.object members)) :
    ∀ target ∈ policy.targets.getD [], ∃ value,
      TargetPolicy.unmarshalJSON {} value = .ok target.2 ∧
        ∀ value', (target.1, value') ∈ targetEntries members ↔ value' = value := by
  intro target there
  have declared : Policy.fields.head (by simp [Policy.fields]) ∈ Policy.fields := List.head_mem _
  rcases clear.fromOneMember _ declared with ⟨-, kept⟩ | ⟨value, alone, assigned⟩
  · have none : policy.targets = none := kept
    rw [none] at there
    cases there
  · have decoded : assignTargets value none = .ok policy.targets := assigned
    rw [suppliers_policy accepted _ declared] at alone
    subst alone
    obtain ⟨-, sources⟩ := assignTargets_ok decoded
    rcases sources target there with before | ⟨source, listed, read⟩
    · cases before
    · refine ⟨source, read, fun other => ?_⟩
      have entries : ∀ name : Key, targetEntries [(name, value)] = value.members := fun name => by
        simp [targetEntries]
      rw [entries]
      constructor
      · intro again
        have distinct := (canonical.member List.mem_cons_self).distinct
        exact congrArg Prod.snd (List.inj_on_of_nodup_map distinct again listed rfl)
      · rintro rfl
        exact listed

end

/-! ## Destinations -/

/-- Every object that is decoded into a struct is clear. -/
def Destination.AllClear : (destination : Destination) → List (Key × Value) → destination.Record → Prop
  | .admissionRequest, members, request => Clear AdmissionRequest.fields members {} request
  | .admissionResponse, members, response => Clear AdmissionResponse.fields members {} response
  | .policy, members, read =>
      Clear Policy.fields members {} read ∧
      (∀ entry ∈ targetEntries members, Unambiguous EntryFields.fields entry.2.members) ∧
      ∀ target ∈ read.targets.getD [], ∃ value, EntryClear value target.2 ∧
        ∀ value', (target.1, value') ∈ targetEntries members ↔ value' = value

/-- The keys of the objects that are decoded into structs. -/
def Destination.fieldKeys : Destination → List (Key × Value) → List Key
  | .admissionRequest, members | .admissionResponse, members => members.map Prod.fst
  | .policy, members =>
      members.map Prod.fst ++
        (targetEntries members).flatMap fun entry => entry.2.members.map Prod.fst

theorem policy_clear_iff {members : List (Key × Value)} {policy : Policy}
    (accepted : decodeMembers Policy.fields members {} = .ok policy)
    (canonical : Canonical (.object members)) :
    Destination.policy.AllClear members policy ↔
      ∀ key ∈ Destination.policy.fieldKeys members, longS ∉ key := by
  have plain_iff := clear_iff_plain Policy.fields_lawful accepted canonical
  have entry_canonical : ∀ entry ∈ targetEntries members, Canonical entry.2 := by
    intro entry listed
    obtain ⟨m, inside, entered⟩ := List.mem_flatMap.mp listed
    exact (canonical.member inside).member entered
  constructor
  · rintro ⟨root, entries, -⟩ key supplies
    rcases List.mem_append.mp supplies with top | nested
    · exact plain_iff.mp root key top
    · obtain ⟨entry, listed, inside⟩ := List.mem_flatMap.mp nested
      obtain ⟨target, read⟩ := policy_entry accepted listed
      have decides := (entryClear_iff_plain read (entry_canonical entry listed)).1
      exact decides.mp (entries entry listed) key inside
  · intro plain
    have root := plain_iff.mpr fun key top => plain key (List.mem_append_left _ top)
    have nested : ∀ entry ∈ targetEntries members, ∀ key ∈ entry.2.members.map Prod.fst,
        longS ∉ key := fun entry listed key inside =>
      plain key (List.mem_append_right _ (List.mem_flatMap.mpr ⟨entry, listed, inside⟩))
    refine ⟨root, fun entry listed => ?_, fun target there => ?_⟩
    · obtain ⟨target, read⟩ := policy_entry accepted listed
      exact (entryClear_iff_plain read (entry_canonical entry listed)).1.mpr (nested entry listed)
    · obtain ⟨value, read, only⟩ := policy_target accepted root canonical target there
      have listed := (only value).mpr rfl
      exact ⟨value, (entryClear_iff_plain read (entry_canonical _ listed)).2 (nested _ listed), only⟩

def documentMembers (data : List UInt8) : List (Key × Value) :=
  (document data).elim [] Value.members

/-- **One rune decides what an accepted text says.** Every struct read from an
accepted text has its fields from one member each, under their own names, exactly
when no key that supplies a field contains the long s. -/
theorem clear_iff {destination : Destination} {data : List UInt8} {record : destination.Record}
    (accepted : decodeStrictJSON destination.unmarshal data = .ok record) :
    destination.AllClear (documentMembers data) record ↔
      ∀ key ∈ destination.fieldKeys (documentMembers data), longS ∉ key := by
  obtain ⟨members, read, canonical, unmarshaled⟩ := decodeStrictJSON_ok accepted
  have same : documentMembers data = members := by
    simp [documentMembers, read, Value.members]
  rw [same]
  cases destination with
  | admissionRequest => exact clear_iff_plain AdmissionRequest.fields_lawful unmarshaled canonical
  | admissionResponse => exact clear_iff_plain AdmissionResponse.fields_lawful unmarshaled canonical
  | policy => exact policy_clear_iff unmarshaled canonical

/-! ## Two replies of an admission service -/

def plainReply : List UInt8 :=
  literal "\x7b\"version\":1,\"subject\":\"a\",\"target\":\"t\",\"expires_at\":9\x7d"

/-- A reply with `subject` twice, the second time with a long s. -/
def doubleReply : List UInt8 :=
  literal
    "\x7b\"version\":1,\"subject\":\"a\",\"\u017fubject\":\"b\",\"target\":\"t\",\"expires_at\":9\x7d"

theorem clear_plainReply : Destination.admissionResponse.AllClear (documentMembers plainReply)
    { version := 1, subject := ['a'], target := ['t'], expiresAt := 9 } :=
  (clear_iff (by decide +kernel)).mpr (by decide +kernel)

/-- The scanner lets both keys pass, and the decoder takes the subject from the one
that is not called so. -/
theorem doubleReply_ambiguous :
    decodeStrictJSON Destination.admissionResponse.unmarshal doubleReply =
        .ok { version := 1, subject := ['b'], target := ['t'], expiresAt := 9 } ∧
      ¬ Destination.admissionResponse.AllClear (documentMembers doubleReply)
        { version := 1, subject := ['b'], target := ['t'], expiresAt := 9 } := by
  have keys : (documentMembers doubleReply).map Prod.fst =
      ["version".toList, "subject".toList, longS :: "ubject".toList, "target".toList,
        "expires_at".toList] := by decide +kernel
  refine ⟨by decide +kernel, fun clear => ?_⟩
  have supplied : longS :: "ubject".toList ∈ (documentMembers doubleReply).map Prod.fst := by
    rw [keys]
    decide +kernel
  obtain ⟨m, inside, named⟩ := List.mem_map.mp supplied
  have bound : (fieldFor AdmissionResponse.fields (longS :: "ubject".toList)).map (·.name) =
      some "subject".toList := by decide +kernel
  obtain ⟨f, found, name⟩ := Option.map_eq_some_iff.mp bound
  have response : Clear AdmissionResponse.fields (documentMembers doubleReply) {} _ := clear
  have same := response.unambiguous.1 m inside f (by rw [named]; exact found)
  rw [named, name] at same
  exact absurd same (by decide +kernel)

end GrpcBridge.Admission

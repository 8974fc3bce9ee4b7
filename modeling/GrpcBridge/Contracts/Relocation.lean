/-
# Contracts.Relocation -- descriptors with one projection

Two services can be described by different objects, in arrays of different orders, that the
traversal of the projection meets in different orders, and have one projection.  `Relocated` says when
the objects of one are found in the other: their contents correspond, and so do the arrays that
the projection makes of them when it sorts.  Objects that are not reachable are of no
concern.

Then the same messages and enums are found at the corresponding addresses, sorting puts them
in the same order, and all that is left to differ is what the values of the enums say
(`runtimeGraph_relocated`).
-/
import GrpcBridge.Contracts.Discovery

namespace GrpcBridge.Contracts

set_option autoImplicit false

open GrpcBridge.Theory
open GrpcBridge.Theory.Fallible
open GrpcBridge.Theory.Serialization (Text)
open GrpcBridge.Theory.Sorting

section Objects

variable {A B : Type} (e : A → B)

/-! ## Objects at other addresses -/

def Element.relocate : Element A → Element B
  | .scalar s longAsString => .scalar s longAsString
  | .message m delimitedEncoding => .message (e m) delimitedEncoding
  | .enum n => .enum (e n)

def MapValue.relocate : MapValue A → MapValue B
  | .scalar s => .scalar s
  | .message m => .message (e m)
  | .enum n => .enum (e n)

def FieldType.relocate : FieldType A → FieldType B
  | .scalar s longAsString => .scalar s longAsString
  | .message m delimitedEncoding => .message (e m) delimitedEncoding
  | .enum n => .enum (e n)
  | .list element packed => .list (element.relocate e) packed
  | .map key value => .map key (value.relocate e)

def Field.relocate (field : Field A) : Field B where
  number := field.number
  name := field.name
  localName := field.localName
  jsonName := field.jsonName
  utf8Validation := field.utf8Validation
  presence := field.presence
  oneof := field.oneof.map e
  proto := e field.proto
  type := field.type.relocate e

def Method.relocate (method : Method A) : Method B where
  name := method.name
  localName := method.localName
  methodKind := method.methodKind
  input := e method.input
  output := e method.output
  idempotency := method.idempotency

def Desc.relocate : Desc A → Desc B
  | .message m => .message (e m)
  | .enum n => .enum (e n)

theorem referencedTypes_relocate (field : Field A) :
    referencedTypes (field.relocate e) = (referencedTypes field).map (Desc.relocate e) := by
  obtain ⟨number, name, localName, jsonName, utf8Validation, presence, oneof, proto, type⟩ := field
  cases type with
  | list element packed => cases element <;> rfl
  | map key value => cases value <;> rfl
  | _ => rfl

end Objects

/-- The objects of `d` are found in `d'`, at the addresses that `e` says. -/
structure Relocated {A B : Type} (runtime : Runtime) (e : A → B) (d : Descriptors A)
    (d' : Descriptors B) : Prop where
  typeName : d'.typeName = d.typeName
  methods : sortedMethods d' = (sortedMethods d).map e
  method : ∀ method ∈ d.methods, d'.method (e method) = (d.method method).relocate e
  messageName : ∀ m, d.Reachable (.message m) →
    (d'.message (e m)).typeName = (d.message m).typeName
  fields : ∀ m, d.Reachable (.message m) → sortedFields d' (e m) = (sortedFields d m).map e
  field : ∀ field, d.ReachableField field → d'.field (e field) = (d.field field).relocate e
  proto : ∀ field, d.ReachableField field →
    d'.proto (e (d.field field).proto) = d.proto (d.field field).proto
  containing : ∀ field, d.ReachableField field → ∀ oneof, (d.field field).oneof = some oneof →
    (d'.oneof (e oneof)).name = (d.oneof oneof).name
  oneofs : ∀ m, d.Reachable (.message m) →
    (sortedOneofs d' (e m)).map (oneofGraph d') = (sortedOneofs d m).map (oneofGraph d)
  enumName : ∀ n, d.Reachable (.enum n) → (d'.enum (e n)).typeName = (d.enum n).typeName
  enumOpen : ∀ n, d.Reachable (.enum n) → (d'.enum (e n)).isOpen = (d.enum n).isOpen
  default : ∀ n, d.Reachable (.enum n) → ∀ proto,
    runtime.enumDefault proto (d'.values (e n)) = runtime.enumDefault proto (d.values n)

namespace Relocated

variable {A B : Type} {runtime : Runtime} {e : A → B} {d : Descriptors A} {d' : Descriptors B}

/-! ## What is reachable -/

theorem mem_methods (relocated : Relocated runtime e d d') (method' : B) :
    method' ∈ d'.methods ↔ ∃ method ∈ d.methods, e method = method' := by
  have same : method' ∈ sortedMethods d' ↔ method' ∈ (sortedMethods d).map e := by
    rw [relocated.methods]
  simp only [sortedMethods, Comparator.mem_sort, List.mem_map] at same
  exact same

theorem mem_fields (relocated : Relocated runtime e d d') {m : A}
    (reachable : d.Reachable (.message m)) (field' : B) :
    field' ∈ (d'.message (e m)).fields ↔ ∃ field ∈ (d.message m).fields, e field = field' := by
  have same : field' ∈ sortedFields d' (e m) ↔ field' ∈ (sortedFields d m).map e := by
    rw [relocated.fields m reachable]
  simp only [sortedFields, Comparator.mem_sort, List.mem_map] at same
  exact same

theorem reachable (relocated : Relocated runtime e d d') {type : Desc A}
    (reachable : d.Reachable type) : d'.Reachable (type.relocate e) := by
  induction reachable with
  | @input method member =>
      have there := (relocated.mem_methods _).2 ⟨method, member, rfl⟩
      have input := Descriptors.Reachable.input (d := d') there
      rwa [relocated.method method member] at input
  | @output method member =>
      have there := (relocated.mem_methods _).2 ⟨method, member, rfl⟩
      have output := Descriptors.Reachable.output (d := d') there
      rwa [relocated.method method member] at output
  | @reference m field type reached member referenced ih =>
      refine .reference ih ((relocated.mem_fields reached _).2 ⟨field, member, rfl⟩) ?_
      rw [relocated.field field ⟨m, reached, member⟩, referencedTypes_relocate]
      exact List.mem_map_of_mem referenced

/-- Nothing else is reachable. -/
theorem reachable_only (relocated : Relocated runtime e d d') {type' : Desc B}
    (reachable : d'.Reachable type') : ∃ type, d.Reachable type ∧ type.relocate e = type' := by
  induction reachable with
  | input member =>
      obtain ⟨method, there, rfl⟩ := (relocated.mem_methods _).1 member
      exact ⟨_, .input there, by rw [relocated.method method there]; rfl⟩
  | output member =>
      obtain ⟨method, there, rfl⟩ := (relocated.mem_methods _).1 member
      exact ⟨_, .output there, by rw [relocated.method method there]; rfl⟩
  | reference _ member referenced ih =>
      obtain ⟨type, reached, same⟩ := ih
      cases type with
      | enum n => cases same
      | message m =>
          cases same
          obtain ⟨field, there, rfl⟩ := (relocated.mem_fields reached _).1 member
          rw [relocated.field field ⟨m, reached, there⟩, referencedTypes_relocate] at referenced
          obtain ⟨type, known, rfl⟩ := List.mem_map.1 referenced
          exact ⟨type, .reference reached there known, rfl⟩

theorem reachable_message_iff (relocated : Relocated runtime e d d') (m' : B) :
    d'.Reachable (.message m') ↔ ∃ m, d.Reachable (.message m) ∧ e m = m' := by
  constructor
  · intro reached
    obtain ⟨type, there, same⟩ := relocated.reachable_only reached
    cases type with
    | enum n => cases same
    | message m => exact ⟨m, there, Desc.message.inj same⟩
  · rintro ⟨m, there, rfl⟩
    exact relocated.reachable there

theorem reachable_enum_iff (relocated : Relocated runtime e d d') (n' : B) :
    d'.Reachable (.enum n') ↔ ∃ n, d.Reachable (.enum n) ∧ e n = n' := by
  constructor
  · intro reached
    obtain ⟨type, there, same⟩ := relocated.reachable_only reached
    cases type with
    | message m => cases same
    | enum n => exact ⟨n, there, Desc.enum.inj same⟩
  · rintro ⟨n, there, rfl⟩
    exact relocated.reachable there

theorem onePerName (relocated : Relocated runtime e d d') (one : d.OnePerName) :
    d'.OnePerName where
  message m' n' reached reached' same := by
    obtain ⟨m, there, rfl⟩ := (relocated.reachable_message_iff m').1 reached
    obtain ⟨n, there', rfl⟩ := (relocated.reachable_message_iff n').1 reached'
    rw [relocated.messageName m there, relocated.messageName n there'] at same
    exact congrArg e (one.message m n there there' same)
  enum m' n' reached reached' same := by
    obtain ⟨m, there, rfl⟩ := (relocated.reachable_enum_iff m').1 reached
    obtain ⟨n, there', rfl⟩ := (relocated.reachable_enum_iff n').1 reached'
    rw [relocated.enumName m there, relocated.enumName n there'] at same
    exact congrArg e (one.enum m n there there' same)

/-! ## What is found -/

variable {found : Found A} {found' : Found B}

theorem sortedMessages_eq (relocated : Relocated runtime e d d') (discovered : Discovered d found)
    (discovered' : Discovered d' found') :
    sortedMessages d' found' = (sortedMessages d found).map e := by
  apply Comparator.sort_images discovered.messageNames discovered'.messageNames
  · intro m member
    exact relocated.messageName m ((discovered.messages m).1 member)
  · intro m'
    rw [discovered'.messages, relocated.reachable_message_iff]
    simp only [discovered.messages]

theorem sortedEnums_eq (relocated : Relocated runtime e d d') (discovered : Discovered d found)
    (discovered' : Discovered d' found') :
    sortedEnums d' found' = (sortedEnums d found).map e := by
  apply Comparator.sort_images discovered.enumNames discovered'.enumNames
  · intro n member
    exact relocated.enumName n ((discovered.enums n).1 member)
  · intro n'
    rw [discovered'.enums, relocated.reachable_enum_iff]
    simp only [discovered.enums]

/-! ## What is projected -/

/-- The types that a reachable field references have their names. -/
theorem referenced_names (relocated : Relocated runtime e d d') {field : A}
    (reachable : d.ReachableField field) :
    (∀ m, Desc.message m ∈ referencedTypes (d.field field) →
      messageShape d' (e m) = messageShape d m) ∧
    ∀ n, Desc.enum n ∈ referencedTypes (d.field field) → enumShape d' (e n) = enumShape d n := by
  obtain ⟨message, reached, member⟩ := reachable
  constructor
  · intro m referenced
    funext delimitedEncoding
    exact congrArg (ElementShape.message · delimitedEncoding)
      (relocated.messageName m (.reference reached member referenced))
  · intro n referenced
    exact congrArg ElementShape.enum (relocated.enumName n (.reference reached member referenced))

theorem fieldShape_eq (relocated : Relocated runtime e d d') {field : A}
    (reachable : d.ReachableField field) :
    fieldShape d' (d'.field (e field)).type = fieldShape d (d.field field).type := by
  obtain ⟨messages, enums⟩ := relocated.referenced_names reachable
  have there : (d'.field (e field)).type = (d.field field).type.relocate e := by
    rw [relocated.field field reachable]
    rfl
  rw [there]
  unfold referencedTypes at messages enums
  cases type : (d.field field).type with
  | scalar s longAsString => rfl
  | message m delimitedEncoding =>
      rw [type] at messages
      rw [FieldType.relocate, fieldShape, fieldShape, messages m List.mem_cons_self]
  | enum n =>
      rw [type] at enums
      rw [FieldType.relocate, fieldShape, fieldShape, enums n List.mem_cons_self]
  | list element packed =>
      have shape : listElementShape d' (element.relocate e) = listElementShape d element := by
        rw [type] at messages enums
        cases element with
        | scalar s longAsString => rfl
        | message m delimitedEncoding =>
            rw [Element.relocate, listElementShape, listElementShape,
              messages m List.mem_cons_self]
        | enum n =>
            rw [Element.relocate, listElementShape, listElementShape, enums n List.mem_cons_self]
      rw [FieldType.relocate, fieldShape, fieldShape, shape]
  | map key value =>
      have shape : mapValueShape d' (value.relocate e) = mapValueShape d value := by
        rw [type] at messages enums
        cases value with
        | scalar s => rfl
        | message m =>
            rw [MapValue.relocate, mapValueShape, mapValueShape, messages m List.mem_cons_self]
        | enum n =>
            rw [MapValue.relocate, mapValueShape, mapValueShape, enums n List.mem_cons_self]
      rw [FieldType.relocate, fieldShape, fieldShape, shape]

theorem fieldDefault_eq (relocated : Relocated runtime e d d') {field : A}
    (reachable : d.ReachableField field) :
    fieldDefault runtime d' (d'.field (e field)) = fieldDefault runtime d (d.field field) := by
  have there := relocated.field field reachable
  have proto : d'.proto (d'.field (e field)).proto = d.proto (d.field field).proto := by
    rw [there]
    exact relocated.proto field reachable
  have typed : (d'.field (e field)).type = (d.field field).type.relocate e := by rw [there]; rfl
  unfold fieldDefault
  rw [typed, proto]
  cases type : (d.field field).type with
  | enum n =>
      obtain ⟨message, reached, member⟩ := reachable
      have referenced : Desc.enum n ∈ referencedTypes (d.field field) := by
        rw [referencedTypes, type]
        exact List.mem_cons_self
      have same := relocated.default n (.reference reached member referenced)
        (d.proto (d.field field).proto)
      simp only [FieldType.relocate, same]
  | _ => rfl

theorem fieldGraph_eq (relocated : Relocated runtime e d d') {field : A}
    (reachable : d.ReachableField field) :
    fieldGraph runtime d' (e field) = fieldGraph runtime d field := by
  have there := relocated.field field reachable
  have oneof : ((d'.field (e field)).oneof.map fun oneof => (d'.oneof oneof).name) =
      (d.field field).oneof.map fun oneof => (d.oneof oneof).name := by
    rw [there]
    cases within : (d.field field).oneof with
    | none => rw [Field.relocate, within]; rfl
    | some oneof =>
        rw [Field.relocate, within]
        exact congrArg some (relocated.containing field reachable oneof within)
  unfold fieldGraph
  rw [relocated.fieldShape_eq reachable, relocated.fieldDefault_eq reachable, oneof, there]
  rfl

theorem messageGraph_eq (relocated : Relocated runtime e d d') {m : A}
    (reachable : d.Reachable (.message m)) :
    messageGraph runtime d' (e m) = messageGraph runtime d m := by
  have fields : (sortedFields d' (e m)).mapM (fieldGraph runtime d') =
      (sortedFields d m).mapM (fieldGraph runtime d) := by
    rw [relocated.fields m reachable, List.mapM_map]
    apply mapM_congr
    intro field member
    exact relocated.fieldGraph_eq ⟨m, reachable, Comparator.mem_sort.1 member⟩
  unfold messageGraph
  rw [fields, relocated.messageName m reachable, relocated.oneofs m reachable]

theorem methodGraph_eq (relocated : Relocated runtime e d d') {method : A}
    (member : method ∈ d.methods) : methodGraph d' (e method) = methodGraph d method := by
  have input := relocated.messageName _ (.input member)
  have output := relocated.messageName _ (.output member)
  unfold methodGraph
  rw [relocated.method method member]
  simp only [Method.relocate, input, output]

/-- The graph of what was found, when each enum is projected as `enumOf` says. -/
def assembleWith {A : Type} (runtime : Runtime) (d : Descriptors A) (found : Found A)
    (enumOf : A → RuntimeEnum) : Except Failure RuntimeGraph := do
  let methods := (sortedMethods d).map (methodGraph d)
  let messages ← (sortedMessages d found).mapM (messageGraph runtime d)
  return { typeName := d.typeName, methods, messages, enums := (sortedEnums d found).map enumOf }

/-- Only the enums are still to be compared. -/
theorem assemble_eq (relocated : Relocated runtime e d d') (discovered : Discovered d found)
    (discovered' : Discovered d' found') : assemble runtime d' found' =
      assembleWith runtime d found fun n => enumGraph d' (e n) := by
  have methods : (sortedMethods d').map (methodGraph d') =
      (sortedMethods d).map (methodGraph d) := by
    rw [relocated.methods, List.map_map]
    apply List.map_congr_left
    intro method member
    exact relocated.methodGraph_eq (Comparator.mem_sort.1 member)
  have messages : (sortedMessages d' found').mapM (messageGraph runtime d') =
      (sortedMessages d found).mapM (messageGraph runtime d) := by
    rw [relocated.sortedMessages_eq discovered discovered', List.mapM_map]
    apply mapM_congr
    intro m member
    exact relocated.messageGraph_eq ((mem_sortedMessages discovered m).1 member)
  unfold assemble assembleWith
  rw [methods, messages, relocated.typeName, relocated.sortedEnums_eq discovered discovered',
    List.map_map]
  rfl

theorem assembleWith_congr (discovered : Discovered d found) {enumOf enumOf' : A → RuntimeEnum}
    (same : ∀ n, d.Reachable (.enum n) → enumOf n = enumOf' n) :
    assembleWith runtime d found enumOf = assembleWith runtime d found enumOf' := by
  have enums : (sortedEnums d found).map enumOf = (sortedEnums d found).map enumOf' :=
    List.map_congr_left fun n member => same n ((mem_sortedEnums discovered n).1 member)
  unfold assembleWith
  rw [enums]

/-- Enums with the same values have the same projection. -/
theorem enumGraph_eq (relocated : Relocated runtime e d d') {n : A}
    (reachable : d.Reachable (.enum n)) (values : d'.values (e n) = d.values n) :
    enumGraph d' (e n) = enumGraph d n := by
  unfold enumGraph
  rw [values, relocated.enumName n reachable, relocated.enumOpen n reachable]

end Relocated

/-- **Relocated descriptors have one projection**, but for what their enums say. -/
theorem runtimeGraph_relocated {A B : Type} [Finite A] [Finite B] {runtime : Runtime} {e : A → B}
    {d : Descriptors A} {d' : Descriptors B} (one : d.OnePerName)
    (relocated : Relocated runtime e d d') : ∃ found, Discovered d found ∧
      (∀ fuel, Nat.card A < fuel → runtimeGraph runtime d fuel =
        some (Relocated.assembleWith runtime d found (enumGraph d))) ∧
      ∀ fuel, Nat.card B < fuel → runtimeGraph runtime d' fuel =
        some (Relocated.assembleWith runtime d found fun n => enumGraph d' (e n)) := by
  obtain ⟨found, ends, discovered⟩ := discover_spec one
  obtain ⟨found', ends', discovered'⟩ := discover_spec (relocated.onePerName one)
  refine ⟨found, discovered, ?_, ?_⟩
  · intro fuel enough
    rw [runtimeGraph, ends fuel enough]
    rfl
  · intro fuel enough
    rw [runtimeGraph, ends' fuel enough, Option.map_some,
      relocated.assemble_eq discovered discovered']

/-- With the same values in every enum nothing differs. -/
theorem runtimeGraph_same {A B : Type} [Finite A] [Finite B] {runtime : Runtime} {e : A → B}
    {d : Descriptors A} {d' : Descriptors B} (one : d.OnePerName)
    (relocated : Relocated runtime e d d')
    (values : ∀ n, d.Reachable (.enum n) → d'.values (e n) = d.values n) {fuel fuel' : Nat}
    (enough : Nat.card A < fuel) (enough' : Nat.card B < fuel') :
    runtimeGraph runtime d' fuel' = runtimeGraph runtime d fuel := by
  obtain ⟨found, discovered, here, there⟩ := runtimeGraph_relocated one relocated
  rw [here fuel enough, there fuel' enough']
  exact congrArg some (Relocated.assembleWith_congr discovered fun n reachable =>
    relocated.enumGraph_eq reachable (values n reachable))

end GrpcBridge.Contracts

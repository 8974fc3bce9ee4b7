/-
# Contracts.GraphText -- the runtime graph as JSON

The objects that `runtimeGraph` of web/src/contracts.ts returns, property by property, and
the canonical text of the whole, which `defineContract` compares.

No object has a key twice (`RuntimeGraph.distinct`), so that the text determines the canonical
copy.  Its enums are determined by the text (`enums_of_text`): neither their numbers and names nor
the order of their aliases changes without it.
-/
import GrpcBridge.Contracts.RuntimeGraph

namespace GrpcBridge.Contracts

set_option autoImplicit false

open GrpcBridge.Theory.Serialization (Text Number Value literal)
open GrpcBridge.Theory.Sorting

/-! ## Objects -/

/-- An object literal. -/
def record (members : List (String × Value)) : Value :=
  .object (members.map fun m => (literal m.1, m.2))

def MethodKind.toText : MethodKind → Text
  | .unary => literal "unary"
  | .serverStreaming => literal "server_streaming"
  | .clientStreaming => literal "client_streaming"
  | .bidiStreaming => literal "bidi_streaming"

def RuntimeMethod.toValue (method : RuntimeMethod) : Value :=
  record [
    ("name", .string method.name),
    ("localName", .string method.localName),
    ("kind", .string method.kind.toText),
    ("input", .string method.input),
    ("output", .string method.output),
    ("idempotency", .number (.ofInt method.idempotency))]

def NumberDefault.toValue : NumberDefault → Value
  | .number x => .number x
  | .text s => .string s

/-- `type` and `value` of a default. -/
def RuntimeDefault.tagged : RuntimeDefault → String × Value
  | .bool value => ("bool", .bool value)
  | .string value => ("string", .string value)
  | .bytes value => ("bytes", .string value)
  | .integer value => ("integer", .string value)
  | .number value => ("number", value.toValue)
  | .enum value => ("enum", .number (.ofInt value))

def RuntimeDefault.toValue (default : RuntimeDefault) : Value :=
  record [("type", .string (literal default.tagged.1)), ("value", default.tagged.2)]

def ElementShape.toValue : ElementShape → Value
  | .scalar name longAsString =>
      record [
        ("kind", .string (literal "scalar")),
        ("scalar", .string name),
        ("longAsString", .bool longAsString)]
  | .message typeName delimitedEncoding =>
      record [
        ("kind", .string (literal "message")),
        ("typeName", .string typeName),
        ("delimitedEncoding", .bool delimitedEncoding)]
  | .enum typeName =>
      record [("kind", .string (literal "enum")), ("typeName", .string typeName)]

def RuntimeFieldShape.toValue : RuntimeFieldShape → Value
  | .single shape => shape.toValue
  | .list element packed =>
      record [
        ("kind", .string (literal "list")),
        ("element", element.toValue),
        ("packed", .bool packed)]
  | .map keyScalar value =>
      record [
        ("kind", .string (literal "map")),
        ("keyScalar", .string keyScalar),
        ("value", value.toValue),
        ("delimitedEncoding", .bool false)]

/-- `?? null` -/
def orNull {α : Type} (encode : α → Value) : Option α → Value
  | some a => encode a
  | none => .null

def RuntimeField.toValue (field : RuntimeField) : Value :=
  record [
    ("number", .number (.ofInt field.number)),
    ("name", .string field.name),
    ("localName", .string field.localName),
    ("jsonName", .string field.jsonName),
    ("utf8Validation", .bool field.utf8Validation),
    ("presence", .string field.presence),
    ("oneof", orNull .string field.oneof),
    ("default", orNull RuntimeDefault.toValue field.default),
    ("shape", field.shape.toValue)]

def RuntimeOneof.toValue (oneof : RuntimeOneof) : Value :=
  record [
    ("name", .string oneof.name),
    ("localName", .string oneof.localName),
    ("fields", .array (oneof.fields.map fun number => .number (.ofInt number)))]

def RuntimeMessage.toValue (message : RuntimeMessage) : Value :=
  record [
    ("typeName", .string message.typeName),
    ("fields", .array (message.fields.map RuntimeField.toValue)),
    ("oneofs", .array (message.oneofs.map RuntimeOneof.toValue))]

def Alias.toValue (a : Alias) : Value :=
  record [("name", .string a.name), ("localName", .string a.localName)]

/-- `([number, aliases]) => ({ number, aliases })` -/
def groupValue (group : Int × List Alias) : Value :=
  record [
    ("number", .number (.ofInt group.1)),
    ("aliases", .array (group.2.map Alias.toValue))]

def RuntimeEnum.toValue (enum : RuntimeEnum) : Value :=
  record [
    ("typeName", .string enum.typeName),
    ("open", .bool enum.isOpen),
    ("defaultName", .string enum.defaultName),
    ("defaultNumber", .number (.ofInt enum.defaultNumber)),
    ("values", .array (enum.values.map groupValue))]

def RuntimeGraph.service (graph : RuntimeGraph) : Value :=
  record [
    ("typeName", .string graph.typeName),
    ("methods", .array (graph.methods.map RuntimeMethod.toValue))]

def RuntimeGraph.toValue (graph : RuntimeGraph) : Value :=
  record [
    ("format", .string (literal "protobuf-es.runtime-graph.v1")),
    ("service", graph.service),
    ("messages", .array (graph.messages.map RuntimeMessage.toValue)),
    ("enums", .array (graph.enums.map RuntimeEnum.toValue))]

/-- `canonicalJson(runtimeGraph(service))` -/
def graphText {A : Type} (runtime : Runtime) (d : Descriptors A) (fuel : Nat) :
    Option (Except Failure Text) :=
  (runtimeGraph runtime d fuel).map fun outcome =>
    outcome.map fun graph => canonicalJson graph.toValue

/-! ## No key twice -/

theorem distinctItems_iff (items : List Value) :
    DistinctItems items ↔ ∀ item ∈ items, Distinct item := by
  induction items with
  | nil => simp [DistinctItems]
  | cons item items ih => rw [DistinctItems, ih, List.forall_mem_cons]

theorem distinct_record {members : List (String × Value)}
    (keys : ((members.map Prod.fst).map literal).Nodup)
    (inside : DistinctItems (members.map Prod.snd)) : Distinct (record members) := by
  constructor
  · rw [List.map_map]
    rw [List.map_map] at keys
    exact keys
  · rw [distinctMembers_iff, List.forall_mem_map]
    rw [distinctItems_iff, List.forall_mem_map] at inside
    exact inside

theorem distinct_array {α : Type} {encode : α → Value} (distinct : ∀ a, Distinct (encode a))
    (xs : List α) : Distinct (.array (xs.map encode)) := by
  rw [Distinct, distinctItems_iff, List.forall_mem_map]
  exact fun a _ => distinct a

theorem distinct_numbers (xs : List Int) :
    Distinct (.array (xs.map fun x => .number (.ofInt x))) := by
  apply distinct_array
  intro x
  trivial

theorem RuntimeMethod.distinct (method : RuntimeMethod) : Distinct method.toValue := by
  apply distinct_record
  · simp only [List.map_cons, List.map_nil]
    decide
  · exact ⟨trivial, trivial, trivial, trivial, trivial, trivial, trivial⟩

theorem RuntimeDefault.distinct (default : RuntimeDefault) : Distinct default.toValue := by
  have value : Distinct default.tagged.2 := by
    cases default with
    | number value => cases value <;> trivial
    | _ => trivial
  apply distinct_record
  · simp only [List.map_cons, List.map_nil]
    decide
  · exact ⟨trivial, value, trivial⟩

theorem ElementShape.distinct (shape : ElementShape) : Distinct shape.toValue := by
  cases shape with
  | scalar name longAsString =>
      apply distinct_record
      · simp only [List.map_cons, List.map_nil]
        decide
      · exact ⟨trivial, trivial, trivial, trivial⟩
  | message typeName delimitedEncoding =>
      apply distinct_record
      · simp only [List.map_cons, List.map_nil]
        decide
      · exact ⟨trivial, trivial, trivial, trivial⟩
  | enum typeName =>
      apply distinct_record
      · simp only [List.map_cons, List.map_nil]
        decide
      · exact ⟨trivial, trivial, trivial⟩

theorem RuntimeFieldShape.distinct (shape : RuntimeFieldShape) : Distinct shape.toValue := by
  cases shape with
  | single shape => exact shape.distinct
  | list element packed =>
      apply distinct_record
      · simp only [List.map_cons, List.map_nil]
        decide
      · exact ⟨trivial, element.distinct, trivial, trivial⟩
  | map keyScalar value =>
      apply distinct_record
      · simp only [List.map_cons, List.map_nil]
        decide
      · exact ⟨trivial, trivial, value.distinct, trivial, trivial⟩

theorem RuntimeField.distinct (field : RuntimeField) : Distinct field.toValue := by
  have oneof : Distinct (orNull .string field.oneof) := by
    cases field.oneof <;> trivial
  have default : Distinct (orNull RuntimeDefault.toValue field.default) := by
    cases field.default with
    | none => trivial
    | some default => exact default.distinct
  apply distinct_record
  · simp only [List.map_cons, List.map_nil]
    decide
  · exact ⟨trivial, trivial, trivial, trivial, trivial, trivial, oneof, default,
      field.shape.distinct, trivial⟩

theorem RuntimeOneof.distinct (oneof : RuntimeOneof) : Distinct oneof.toValue := by
  apply distinct_record
  · simp only [List.map_cons, List.map_nil]
    decide
  · exact ⟨trivial, trivial, distinct_numbers _, trivial⟩

theorem RuntimeMessage.distinct (message : RuntimeMessage) : Distinct message.toValue := by
  apply distinct_record
  · simp only [List.map_cons, List.map_nil]
    decide
  · exact ⟨trivial, distinct_array RuntimeField.distinct _, distinct_array RuntimeOneof.distinct _,
      trivial⟩

theorem Alias.distinct (a : Alias) : Distinct a.toValue := by
  apply distinct_record
  · simp only [List.map_cons, List.map_nil]
    decide
  · exact ⟨trivial, trivial, trivial⟩

theorem distinct_group (group : Int × List Alias) : Distinct (groupValue group) := by
  apply distinct_record
  · simp only [List.map_cons, List.map_nil]
    decide
  · exact ⟨trivial, distinct_array Alias.distinct _, trivial⟩

theorem RuntimeEnum.distinct (enum : RuntimeEnum) : Distinct enum.toValue := by
  apply distinct_record
  · simp only [List.map_cons, List.map_nil]
    decide
  · exact ⟨trivial, trivial, trivial, trivial, distinct_array distinct_group _, trivial⟩

theorem RuntimeGraph.distinct (graph : RuntimeGraph) : Distinct graph.toValue := by
  have service : Distinct graph.service := by
    apply distinct_record
    · simp only [List.map_cons, List.map_nil]
      decide
    · exact ⟨trivial, distinct_array RuntimeMethod.distinct _, trivial⟩
  apply distinct_record
  · simp only [List.map_cons, List.map_nil]
    decide
  · exact ⟨trivial, service, distinct_array RuntimeMessage.distinct _,
      distinct_array RuntimeEnum.distinct _, trivial⟩

/-! ## What the copy determines -/

theorem keys_canonMember (members : Members) :
    (members.map canonMember).map Prod.fst = members.map Prod.fst := by
  rw [List.map_map]
  rfl

/-- Objects with one copy, that were written with the same keys in the same order. -/
theorem canon_members {members members' : Members}
    (keys : members.map Prod.fst = members'.map Prod.fst)
    (distinct : (members.map Prod.fst).Nodup) (ordinary : proto ∉ members.map Prod.fst)
    (same : canon (.object members) = canon (.object members')) :
    members.map canonMember = members'.map canonMember := by
  have whole (xs : Members) (ordinary : proto ∉ xs.map Prod.fst) : xs.filter kept = xs := by
    rw [List.filter_eq_self]
    intro m member
    apply decide_eq_true
    intro lost
    exact ordinary (List.mem_map.2 ⟨m, member, lost⟩)
  have distinct' : (members'.map Prod.fst).Nodup := keys ▸ distinct
  obtain ⟨ordered, perm, copied⟩ := ordered_of_canon distinct distinct' same
  rw [whole members ordinary] at copied
  rw [whole members' (keys ▸ ordinary)] at perm
  have order : ordered = members' := by
    apply eq_of_keys perm
    · apply unique_of_nodup
      rw [(perm.map Prod.fst).nodup_iff]
      exact distinct'
    · rw [← keys_canonMember ordered, ← copied, keys_canonMember, keys]
  rw [copied, order]

/-- The copies of the values of two object literals with the same keys. -/
theorem canon_record {members members' : List (String × Value)}
    (same : canon (record members) = canon (record members'))
    (keys : members.map Prod.fst = members'.map Prod.fst)
    (ordinary : (proto :: (members.map Prod.fst).map literal).Nodup) :
    members.map (fun m => canon m.2) = members'.map fun m => canon m.2 := by
  have inText (xs : List (String × Value)) :
      (xs.map fun m => (literal m.1, m.2)).map Prod.fst = (xs.map Prod.fst).map literal := by
    rw [List.map_map, List.map_map]
    rfl
  rw [← inText] at ordinary
  obtain ⟨absent, distinct⟩ := List.nodup_cons.1 ordinary
  have copied := canon_members (by rw [inText, inText, keys]) distinct absent same
  have seconds := congrArg (List.map Prod.snd) copied
  simp only [List.map_map] at seconds
  exact seconds

/-- What is encoded is determined by the copy of its encoding. -/
def Faithful {α : Type} (encode : α → Value) : Prop :=
  ∀ a b, canon (encode a) = canon (encode b) → a = b

theorem faithful_string : Faithful .string := by
  intro s t same
  exact Value.string.inj same

theorem faithful_bool : Faithful .bool := by
  intro a b same
  exact Value.bool.inj same

theorem faithful_integer : Faithful fun n : Int => .number (.ofInt n) := by
  intro m n same
  exact Number.ofInt_injective (same_numbers same)

theorem Faithful.array {α : Type} {encode : α → Value} (faithful : Faithful encode) :
    Faithful fun xs : List α => .array (xs.map encode) := by
  intro xs ys same
  rw [canon_array, canon_array, List.map_map, List.map_map] at same
  have injective : Function.Injective (canon ∘ encode) := faithful
  exact List.map_injective_iff.2 injective (Value.array.inj same)

theorem faithful_alias : Faithful Alias.toValue := by
  rintro ⟨name, localName⟩ ⟨name', localName'⟩ same
  have copies := canon_record same rfl (by simp only [List.map_cons, List.map_nil]; decide)
  simp only [List.map_cons, List.cons.injEq] at copies
  obtain ⟨first, second, _⟩ := copies
  rw [faithful_string _ _ first, faithful_string _ _ second]

theorem faithful_group : Faithful groupValue := by
  rintro ⟨number, aliases⟩ ⟨number', aliases'⟩ same
  have copies := canon_record same rfl (by simp only [List.map_cons, List.map_nil]; decide)
  simp only [List.map_cons, List.cons.injEq] at copies
  obtain ⟨first, second, _⟩ := copies
  rw [faithful_integer _ _ first, faithful_alias.array _ _ second]

theorem faithful_enum : Faithful RuntimeEnum.toValue := by
  rintro ⟨typeName, isOpen, defaultName, defaultNumber, values⟩
    ⟨typeName', isOpen', defaultName', defaultNumber', values'⟩ same
  have copies := canon_record same rfl (by simp only [List.map_cons, List.map_nil]; decide)
  simp only [List.map_cons, List.cons.injEq] at copies
  obtain ⟨named, opened, first, number, grouped, _⟩ := copies
  rw [faithful_string _ _ named, faithful_bool _ _ opened, faithful_string _ _ first,
    faithful_integer _ _ number, faithful_group.array _ _ grouped]

/-- **The enums of a graph are determined by its text.** -/
theorem enums_of_text {graph graph' : RuntimeGraph}
    (same : canonicalJson graph.toValue = canonicalJson graph'.toValue) :
    graph.enums = graph'.enums := by
  rw [canonicalJson_eq_iff graph.distinct graph'.distinct] at same
  have copies := canon_record same rfl (by simp only [List.map_cons, List.map_nil]; decide)
  simp only [List.map_cons, List.cons.injEq] at copies
  exact faithful_enum.array _ _ copies.2.2.2.1

end GrpcBridge.Contracts

/-
# Contracts.Descriptors -- the descriptor objects of a service

A service descriptor of Protobuf-ES is a graph of objects: methods lead to messages, messages
to their fields and oneofs, and a field to the message or enum that it, its list elements or
its map values are of.  The graph may be cyclic.  `Descriptors` keeps the objects by address,
with the properties that web/src/contracts.ts reads, so that one object can be reached
in several ways and is the same object each time.

`getDefaultValue` of a field is code of Protobuf-ES, and a parameter (`Runtime`).  It reads
the default value in the raw `proto` of the field, and the values of an enum.
-/
import GrpcBridge.Theory.NumberText

namespace GrpcBridge.Contracts

set_option autoImplicit false

open GrpcBridge.Theory.Serialization (Text Number literal)

/-! ## Objects -/

/-- The members of `ScalarType`, and numbers that are none of them. -/
inductive ScalarType where
  | double
  | float
  | int64
  | uint64
  | int32
  | fixed64
  | fixed32
  | bool
  | string
  | bytes
  | uint32
  | sfixed32
  | sfixed64
  | sint32
  | sint64
  | other (n : Nat)
deriving DecidableEq, Repr

/-- A list element: `listKind` and what comes with it. -/
inductive Element (A : Type) where
  | scalar (scalar : ScalarType) (longAsString : Bool)
  | message (message : A) (delimitedEncoding : Bool)
  | enum (enum : A)
deriving DecidableEq, Repr

/-- A map value: `mapKind` and what comes with it. -/
inductive MapValue (A : Type) where
  | scalar (scalar : ScalarType)
  | message (message : A)
  | enum (enum : A)
deriving DecidableEq, Repr

/-- `fieldKind` and what comes with it. -/
inductive FieldType (A : Type) where
  | scalar (scalar : ScalarType) (longAsString : Bool)
  | message (message : A) (delimitedEncoding : Bool)
  | enum (enum : A)
  | list (element : Element A) (packed : Bool)
  | map (mapKey : ScalarType) (value : MapValue A)
deriving DecidableEq, Repr

/-- `DescField` -/
structure Field (A : Type) where
  number : Int
  name : Text
  localName : Text
  jsonName : Text
  utf8Validation : Bool
  presence : Nat
  oneof : Option A
  proto : A
  type : FieldType A
deriving DecidableEq, Repr

/-- What `getDefaultValue` reads of the raw descriptor message of a field. -/
structure FieldProto where
  defaultValue : Option Text
deriving DecidableEq, Repr

/-- `DescOneof` -/
structure Oneof (A : Type) where
  name : Text
  localName : Text
  fields : List A
deriving DecidableEq, Repr

/-- `DescMessage` -/
structure Message (A : Type) where
  typeName : Text
  fields : List A
  oneofs : List A
deriving DecidableEq, Repr

/-- `DescEnumValue` -/
structure EnumValue where
  name : Text
  localName : Text
  number : Int
deriving DecidableEq, Repr

/-- `DescEnum` -/
structure Enum (A : Type) where
  typeName : Text
  isOpen : Bool
  values : List A
deriving DecidableEq, Repr

/-- `methodKind` -/
inductive MethodKind where
  | unary
  | serverStreaming
  | clientStreaming
  | bidiStreaming
deriving DecidableEq, Repr

/-- `DescMethod` -/
structure Method (A : Type) where
  name : Text
  localName : Text
  methodKind : MethodKind
  input : A
  output : A
  idempotency : Nat
deriving DecidableEq, Repr

/-- A `DescService` and the objects that it leads to, by address. -/
structure Descriptors (A : Type) where
  typeName : Text
  methods : List A
  method : A → Method A
  message : A → Message A
  field : A → Field A
  proto : A → FieldProto
  oneof : A → Oneof A
  enum : A → Enum A
  value : A → EnumValue

/-- `DescMessage | DescEnum` -/
inductive Desc (A : Type) where
  | message (message : A)
  | enum (enum : A)
deriving DecidableEq, Repr

variable {A : Type}

def referencedTypes (field : Field A) : List (Desc A) :=
  match field.type with
  | .message message _ => [.message message]
  | .enum enum => [.enum enum]
  | .list (.message message _) _ => [.message message]
  | .list (.enum enum) _ => [.enum enum]
  | .map _ (.message message) => [.message message]
  | .map _ (.enum enum) => [.enum enum]
  | _ => []

namespace Descriptors

variable (d : Descriptors A)

/-- The values of an enum, in declaration order. -/
def values (enum : A) : List EnumValue := (d.enum enum).values.map d.value

/-! ## Reachability -/

/-- The messages and enums that are reached from the methods of the service. -/
inductive Reachable : Desc A → Prop
  | input {method : A} (member : method ∈ d.methods) : Reachable (.message (d.method method).input)
  | output {method : A} (member : method ∈ d.methods) :
      Reachable (.message (d.method method).output)
  | reference {message field : A} {type : Desc A} (reached : Reachable (.message message))
      (member : field ∈ (d.message message).fields)
      (referenced : type ∈ referencedTypes (d.field field)) : Reachable type

/-- A field of a reachable message. -/
def ReachableField (field : A) : Prop :=
  ∃ message, d.Reachable (.message message) ∧ field ∈ (d.message message).fields

/-- A oneof of a reachable message. -/
def ReachableOneof (oneof : A) : Prop :=
  ∃ message, d.Reachable (.message message) ∧ oneof ∈ (d.message message).oneofs

/-- Protobuf-ES makes one descriptor object for each type name. -/
structure OnePerName : Prop where
  message : ∀ m n, d.Reachable (.message m) → d.Reachable (.message n) →
    (d.message m).typeName = (d.message n).typeName → m = n
  enum : ∀ m n, d.Reachable (.enum m) → d.Reachable (.enum n) →
    (d.enum m).typeName = (d.enum n).typeName → m = n

/-- Protobuf-ES links fields and oneofs within their message. -/
structure Linked : Prop where
  oneof : ∀ message, d.Reachable (.message message) → ∀ field ∈ (d.message message).fields,
    ∀ oneof, (d.field field).oneof = some oneof → oneof ∈ (d.message message).oneofs
  fields : ∀ message, d.Reachable (.message message) → ∀ oneof ∈ (d.message message).oneofs,
    ∀ field ∈ (d.oneof oneof).fields, field ∈ (d.message message).fields

end Descriptors

/-! ## Default values -/

/-- A JavaScript number. -/
inductive Double where
  | nan
  | infinity
  | negativeInfinity
  | finite (x : Number)
deriving DecidableEq, Repr

/-- What a default value of a scalar type is. -/
abbrev ScalarType.Default : ScalarType → Type
  | .bool => Bool
  | .string => Text
  | .bytes => List UInt8
  | .float | .double => Double
  | _ => Int

/-- `getDefaultValue` of scalar and of enum fields: an exception, `undefined` or a value. -/
structure Runtime where
  scalarDefault : (scalar : ScalarType) → FieldProto → Except Text (Option scalar.Default)
  enumDefault : FieldProto → List EnumValue → Except Text (Option Int)

/-- The default value of an enum field is looked up by its name: the order in which the values
are declared does not matter, as long as no two have one name. -/
def Runtime.LooksUpByName (runtime : Runtime) : Prop :=
  ∀ (proto : FieldProto) (values values' : List EnumValue), values.Perm values' →
    (values.map EnumValue.name).Nodup →
      runtime.enumDefault proto values = runtime.enumDefault proto values'

end GrpcBridge.Contracts

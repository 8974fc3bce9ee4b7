/-
# Contracts.RuntimeGraph -- the projection of a service descriptor

`runtimeGraph` of web/src/contracts.ts.  It discovers the messages and enums that the
methods lead to, keyed by type name, and projects what it found: methods, messages, their
fields and oneofs, and enums, each sorted by what identifies it.  The values of an enum are
grouped by number and keep the order of their declaration in a group.

The graph has exactly the messages and enums that are reachable, each once, in ascending
order of type names (`runtimeGraph_spec`).  The projection of a field may throw; it does
for no field that Protobuf-ES makes (`fieldGraph_ok_iff`).
-/
import GrpcBridge.Contracts.CanonicalJson
import GrpcBridge.Contracts.Descriptors
import GrpcBridge.Theory.Fallible
import GrpcBridge.Theory.InsertionMap
import GrpcBridge.Theory.Sorting
import GrpcBridge.Theory.Traversal

namespace GrpcBridge.Contracts

set_option autoImplicit false

open GrpcBridge.Theory
open GrpcBridge.Theory.Serialization (Text Number literal naturalText unit)
open GrpcBridge.Theory.Sorting
open GrpcBridge.Theory.Traversal

/-! ## The graph -/

structure RuntimeMethod where
  name : Text
  localName : Text
  kind : MethodKind
  input : Text
  output : Text
  idempotency : Nat
deriving DecidableEq, Repr

/-- A number, or the string that stands for one that JSON does not have. -/
inductive NumberDefault where
  | number (x : Number)
  | text (text : Text)
deriving DecidableEq, Repr

inductive RuntimeDefault where
  | bool (value : Bool)
  | string (value : Text)
  | bytes (value : Text)
  | integer (value : Text)
  | number (value : NumberDefault)
  | enum (value : Int)
deriving DecidableEq, Repr

/-- `RuntimeScalarShape | RuntimeMessageShape | RuntimeEnumShape` -/
inductive ElementShape where
  | scalar (scalar : Text) (longAsString : Bool)
  | message (typeName : Text) (delimitedEncoding : Bool)
  | enum (typeName : Text)
deriving DecidableEq, Repr

inductive RuntimeFieldShape where
  | single (shape : ElementShape)
  | list (element : ElementShape) (packed : Bool)
  | map (keyScalar : Text) (value : ElementShape)
deriving DecidableEq, Repr

structure RuntimeField where
  number : Int
  name : Text
  localName : Text
  jsonName : Text
  utf8Validation : Bool
  presence : Text
  oneof : Option Text
  default : Option RuntimeDefault
  shape : RuntimeFieldShape
deriving DecidableEq, Repr

structure RuntimeOneof where
  name : Text
  localName : Text
  fields : List Int
deriving DecidableEq, Repr

structure RuntimeMessage where
  typeName : Text
  fields : List RuntimeField
  oneofs : List RuntimeOneof
deriving DecidableEq, Repr

structure Alias where
  name : Text
  localName : Text
deriving DecidableEq, Repr

structure RuntimeEnum where
  typeName : Text
  isOpen : Bool
  defaultName : Text
  defaultNumber : Int
  values : List (Int × List Alias)
deriving DecidableEq, Repr

structure RuntimeGraph where
  typeName : Text
  methods : List RuntimeMethod
  messages : List RuntimeMessage
  enums : List RuntimeEnum
deriving DecidableEq, Repr

/-- What the projection throws. -/
inductive Failure where
  | scalar (n : Nat)
  | presence (n : Nat)
  | defaultValue (message : Text)
deriving DecidableEq, Repr

def Failure.message : Failure → Text
  | .scalar n => literal "Unsupported Protobuf scalar: " ++ naturalText n
  | .presence n => literal "Unsupported field presence: " ++ naturalText n
  | .defaultValue message => message

/-! ## Comparators -/

/-- `compare` -/
def byText : Comparator Text where
  compare := compare
  trans := by
    intro a b c
    simp only [compare_le]
    exact List.le_trans
  total := by
    intro a b
    simp only [compare_le]
    exact List.le_total a b
  antisymm := by
    intro a b
    simp only [compare_le]
    exact List.le_antisymm

/-- `(a, b) => a - b` -/
def byNumber : Comparator Int where
  compare a b := a - b
  trans := by omega
  total := by omega
  antisymm := by omega

/-! ## Fields -/

def scalarName : ScalarType → Except Failure Text
  | .double => .ok (literal "DOUBLE")
  | .float => .ok (literal "FLOAT")
  | .int64 => .ok (literal "INT64")
  | .uint64 => .ok (literal "UINT64")
  | .int32 => .ok (literal "INT32")
  | .fixed64 => .ok (literal "FIXED64")
  | .fixed32 => .ok (literal "FIXED32")
  | .bool => .ok (literal "BOOL")
  | .string => .ok (literal "STRING")
  | .bytes => .ok (literal "BYTES")
  | .uint32 => .ok (literal "UINT32")
  | .sfixed32 => .ok (literal "SFIXED32")
  | .sfixed64 => .ok (literal "SFIXED64")
  | .sint32 => .ok (literal "SINT32")
  | .sint64 => .ok (literal "SINT64")
  | .other n => .error (.scalar n)

def presenceName : Nat → Except Failure Text
  | 0 => .ok (literal "FIELD_PRESENCE_UNKNOWN")
  | 1 => .ok (literal "EXPLICIT")
  | 2 => .ok (literal "IMPLICIT")
  | 3 => .ok (literal "LEGACY_REQUIRED")
  | n => .error (.presence n)

def base64Digit (n : Nat) : UInt16 :=
  (literal "ABCDEFGHIJKLMNOPQRSTUVWXYZabcdefghijklmnopqrstuvwxyz0123456789+/").getD n (unit '=')

/-- `btoa` of the bytes as one binary string. -/
def bytesToBase64 : List UInt8 → Text
  | [] => []
  | [a] => [base64Digit (a.toNat / 4), base64Digit (a.toNat % 4 * 16), unit '=', unit '=']
  | [a, b] =>
      [base64Digit (a.toNat / 4), base64Digit (a.toNat % 4 * 16 + b.toNat / 16),
        base64Digit (b.toNat % 16 * 4), unit '=']
  | a :: b :: c :: rest =>
      base64Digit (a.toNat / 4) :: base64Digit (a.toNat % 4 * 16 + b.toNat / 16) ::
        base64Digit (b.toNat % 16 * 4 + c.toNat / 64) :: base64Digit (c.toNat % 64) ::
          bytesToBase64 rest

/-- `String(value)` of an integer. -/
def integerText (n : Int) : Text :=
  if n < 0 then unit '-' :: naturalText n.natAbs else naturalText n.natAbs

def numberDefault : Double → NumberDefault
  | .nan => .text (literal "NaN")
  | .infinity => .text (literal "Infinity")
  | .negativeInfinity => .text (literal "-Infinity")
  | .finite .negativeZero => .text (literal "-0")
  | .finite x => .number x

def scalarDefault : (scalar : ScalarType) → scalar.Default → RuntimeDefault
  | .bool, value => .bool value
  | .string, value => .string value
  | .bytes, value => .bytes (bytesToBase64 value)
  | .float, value => .number (numberDefault value)
  | .double, value => .number (numberDefault value)
  | .int64, value => .integer (integerText value)
  | .uint64, value => .integer (integerText value)
  | .sint64, value => .integer (integerText value)
  | .fixed64, value => .integer (integerText value)
  | .sfixed64, value => .integer (integerText value)
  | .int32, value => .integer (integerText value)
  | .fixed32, value => .integer (integerText value)
  | .uint32, value => .integer (integerText value)
  | .sfixed32, value => .integer (integerText value)
  | .sint32, value => .integer (integerText value)
  | .other _, value => .integer (integerText value)

section Projection

variable {A : Type} (runtime : Runtime) (d : Descriptors A)

def scalarShape (scalar : ScalarType) (longAsString : Bool) : Except Failure ElementShape := do
  let name ← scalarName scalar
  return .scalar name longAsString

def messageShape (message : A) (delimitedEncoding : Bool) : ElementShape :=
  .message (d.message message).typeName delimitedEncoding

def enumShape (enum : A) : ElementShape := .enum (d.enum enum).typeName

def listElementShape : Element A → Except Failure ElementShape
  | .scalar scalar longAsString => scalarShape scalar longAsString
  | .message message delimitedEncoding => .ok (messageShape d message delimitedEncoding)
  | .enum enum => .ok (enumShape d enum)

def mapValueShape : MapValue A → Except Failure ElementShape
  | .scalar scalar => scalarShape scalar false
  | .message message => .ok (messageShape d message false)
  | .enum enum => .ok (enumShape d enum)

/-- The `switch` on `fieldKind`. -/
def fieldShape : FieldType A → Except Failure RuntimeFieldShape
  | .scalar scalar longAsString => do
      let shape ← scalarShape scalar longAsString
      return .single shape
  | .message message delimitedEncoding => .ok (.single (messageShape d message delimitedEncoding))
  | .enum enum => .ok (.single (enumShape d enum))
  | .list element packed => do
      let shape ← listElementShape d element
      return .list shape packed
  | .map mapKey value => do
      let key ← scalarName mapKey
      let shape ← mapValueShape d value
      return .map key shape

def fieldDefault (field : Field A) : Except Failure (Option RuntimeDefault) :=
  match field.type with
  | .scalar scalar _ => do
      let value ← (runtime.scalarDefault scalar (d.proto field.proto)).mapError .defaultValue
      return value.map (scalarDefault scalar)
  | .enum enum => do
      let value ← (runtime.enumDefault (d.proto field.proto) (d.values enum)).mapError .defaultValue
      return value.map .enum
  | _ => .ok none

def fieldGraph (field : A) : Except Failure RuntimeField := do
  let shape ← fieldShape d (d.field field).type
  let presence ← presenceName (d.field field).presence
  let default ← fieldDefault runtime d (d.field field)
  return {
    number := (d.field field).number
    name := (d.field field).name
    localName := (d.field field).localName
    jsonName := (d.field field).jsonName
    utf8Validation := (d.field field).utf8Validation
    presence
    oneof := (d.field field).oneof.map fun oneof => (d.oneof oneof).name
    default
    shape }

/-! ## Messages, enums and methods -/

def sortedFields (message : A) : List A :=
  byNumber.sort (fun field => (d.field field).number) (d.message message).fields

def sortedOneofs (message : A) : List A :=
  byText.sort (fun oneof => (d.oneof oneof).name) (d.message message).oneofs

def oneofGraph (oneof : A) : RuntimeOneof where
  name := (d.oneof oneof).name
  localName := (d.oneof oneof).localName
  fields := byNumber.sort id ((d.oneof oneof).fields.map fun field => (d.field field).number)

def messageGraph (message : A) : Except Failure RuntimeMessage := do
  let fields ← (sortedFields d message).mapM (fieldGraph runtime d)
  return {
    typeName := (d.message message).typeName
    fields
    oneofs := (sortedOneofs d message).map (oneofGraph d) }

/-- `grouped`: the aliases of each number. -/
def grouped (values : List EnumValue) : InsertionMap Int (List Alias) :=
  values.foldl (fun grouped value =>
    let aliases := (grouped.get value.number).getD []
    grouped.set value.number (aliases ++ [⟨value.name, value.localName⟩])) .empty

def enumGraph (enum : A) : RuntimeEnum where
  typeName := (d.enum enum).typeName
  isOpen := (d.enum enum).isOpen
  defaultName := ((d.values enum).head?.map EnumValue.name).getD []
  defaultNumber := ((d.values enum).head?.map EnumValue.number).getD 0
  values := byNumber.sort Prod.fst (grouped (d.values enum)).entries

def sortedMethods : List A := byText.sort (fun method => (d.method method).name) d.methods

def methodGraph (method : A) : RuntimeMethod where
  name := (d.method method).name
  localName := (d.method method).localName
  kind := (d.method method).methodKind
  input := (d.message (d.method method).input).typeName
  output := (d.message (d.method method).output).typeName
  idempotency := (d.method method).idempotency

/-! ## Discovery -/

/-- The maps `messages` and `enums`. -/
structure Found (A : Type) where
  messages : InsertionMap Text A
  enums : InsertionMap Text A

/-- `none` when the fuel did not suffice. -/
def visitMessage : Nat → Found A → A → Option (Found A)
  | 0, _, _ => none
  | fuel + 1, found, message =>
      if found.messages.has (d.message message).typeName then some found
      else
        let found := { found with
          messages := found.messages.set (d.message message).typeName message }
        (d.message message).fields.foldlM (fun found field =>
          (referencedTypes (d.field field)).foldlM (fun found type =>
            match type with
            | .message message => visitMessage fuel found message
            | .enum enum =>
                some { found with enums := found.enums.set (d.enum enum).typeName enum }) found)
          found

/-- The loop over the methods. -/
def discover (fuel : Nat) : Option (Found A) :=
  d.methods.foldlM (fun found method => do
    let found ← visitMessage d fuel found (d.method method).input
    visitMessage d fuel found (d.method method).output) ⟨.empty, .empty⟩

def sortedMessages (found : Found A) : List A :=
  byText.sort (fun message => (d.message message).typeName) found.messages.values

def sortedEnums (found : Found A) : List A :=
  byText.sort (fun enum => (d.enum enum).typeName) found.enums.values

/-- The graph of what was found. -/
def assemble (found : Found A) : Except Failure RuntimeGraph := do
  let methods := (sortedMethods d).map (methodGraph d)
  let messages ← (sortedMessages d found).mapM (messageGraph runtime d)
  return {
    typeName := d.typeName
    methods
    messages
    enums := (sortedEnums d found).map (enumGraph d) }

def runtimeGraph (fuel : Nat) : Option (Except Failure RuntimeGraph) :=
  (discover d fuel).map (assemble runtime d)

end Projection

end GrpcBridge.Contracts

/-
# Admission.StrictJson -- the JSON that security decisions are read from

`decodeStrictJSON` reads a text twice.  The first pass, `scanJSONValue`, goes
through the tokens and refuses a key that is not its own lower case and a key that
its object already has, at every depth.  The second pass decodes the value into
the destination with unknown fields disallowed.

The destinations are the reply and the request of the admission service and the
targets file, whose entries are decoded by a method of their own that requires an
address and takes an optional boolean.
-/
import GrpcBridge.Theory.JsonStruct

namespace GrpcBridge.Admission

set_option autoImplicit false

open GrpcBridge.Theory.CaseFolding
open GrpcBridge.Theory.Fallible
open GrpcBridge.Theory.Json

/-! ## The scanner -/

inductive Rejection where
  | invalidUTF8
  | invalidKey
  | notLowercase (key : Key)
  | duplicateKey (key : Key)
  | unterminatedObject
  | unterminatedArray
  | unexpectedDelimiter
  | objectRequired
  | trailingData
  /-- An error of the JSON package, passed on. -/
  | json (fault : Fault)
deriving DecidableEq, Repr

/-- The error texts; `quoted` is the `%q` verb and `described` the package's own texts. -/
def Rejection.message (quoted : Key → String) (described : Fault → String) : Rejection → String
  | .invalidUTF8 => "invalid UTF-8 in JSON"
  | .invalidKey => "invalid JSON object key"
  | .notLowercase key => "JSON object key " ++ quoted key ++ " is not canonical lowercase"
  | .duplicateKey key => "duplicate JSON object key " ++ quoted key
  | .unterminatedObject => "unterminated JSON object"
  | .unterminatedArray => "unterminated JSON array"
  | .unexpectedDelimiter => "unexpected JSON delimiter"
  | .objectRequired => "JSON object required"
  | .trailingData => "trailing JSON data"
  | .json fault => described fault

mutual

def scanJSONValue (fuel : Nat) (decoder : Decoder) : Except Rejection (Token × Decoder) :=
  match fuel with
  | 0 => .error (.json .outOfFuel)
  | fuel + 1 =>
      match decoder.token with
      | .error fault => .error (.json fault)
      | .ok (.scalar s, decoder) => .ok (.scalar s, decoder)
      | .ok (.delim .openObject, decoder) => do
          let decoder ← scanMembers fuel [] decoder
          .ok (.delim .openObject, decoder)
      | .ok (.delim .openArray, decoder) => do
          let decoder ← scanItems fuel decoder
          .ok (.delim .openArray, decoder)
      | .ok (.delim _, _) => .error .unexpectedDelimiter

/-- The loop over an object; `seen` has the keys so far. -/
def scanMembers (fuel : Nat) (seen : List Key) (decoder : Decoder) : Except Rejection Decoder :=
  match fuel with
  | 0 => .error (.json .outOfFuel)
  | fuel + 1 =>
      if decoder.more then
        match decoder.token with
        | .error fault => .error (.json fault)
        | .ok (.scalar (.string key), decoder) =>
            if lowerText key ≠ key then .error (.notLowercase key)
            else if key ∈ seen then .error (.duplicateKey key)
            else do
              let (_, decoder) ← scanJSONValue fuel decoder
              scanMembers fuel (key :: seen) decoder
        | .ok (_, _) => .error .invalidKey
      else
        match decoder.token with
        | .ok (.delim .closeObject, decoder) => .ok decoder
        | _ => .error .unterminatedObject

/-- The loop over an array. -/
def scanItems (fuel : Nat) (decoder : Decoder) : Except Rejection Decoder :=
  match fuel with
  | 0 => .error (.json .outOfFuel)
  | fuel + 1 =>
      if decoder.more then do
        let (_, decoder) ← scanJSONValue fuel decoder
        scanItems fuel decoder
      else
        match decoder.token with
        | .ok (.delim .closeArray, decoder) => .ok decoder
        | _ => .error .unterminatedArray

end

/-! ## Two passes over one text -/

/-- The runes of the text, if it is UTF-8. -/
def runes (data : List UInt8) : Option (List Char) :=
  (ByteArray.utf8Decode? ⟨data.toArray⟩).map Array.toList

/-- `json.NewDecoder` -/
def newDecoder (text : List Char) : Decoder := { lexemes := lex text }

def liftFault {α : Type} : Except Fault α → Except Rejection α
  | .ok a => .ok a
  | .error fault => .error (.json fault)

/-- `unmarshal` is what the JSON package does with the destination's type. -/
def decodeStrictJSON {σ : Type} (unmarshal : Value → Except Fault σ) (data : List UInt8) :
    Except Rejection σ :=
  match runes data with
  | none => .error .invalidUTF8
  | some text => do
      let decoder := newDecoder text
      let (root, decoder) ← scanJSONValue (2 * decoder.lexemes.length + 1) decoder
      if root ≠ .delim .openObject then .error .objectRequired
      else
        match decoder.token with
        | .error .eof => do
            let (value, decoder) ← liftFault (newDecoder text).decode
            let record ← liftFault (unmarshal value)
            match decoder.decode with
            | .error .eof => .ok record
            | _ => .error .trailingData
        | _ => .error .trailingData

/-! ## The admission service's messages -/

def intField {σ : Type} (name : String) (get : σ → Int) (set : Int → σ → σ) : StructField σ :=
  { name := name.toList, Content := Int, get, set, assign := assignInt64 }

def stringField {σ : Type} (name : String) (get : σ → List Char) (set : List Char → σ → σ) :
    StructField σ :=
  { name := name.toList, Content := List Char, get, set, assign := assignString }

structure AdmissionRequest where
  version : Int := 0
  credential : List Char := []
  target : List Char := []
deriving DecidableEq, Repr

def AdmissionRequest.fields : List (StructField AdmissionRequest) :=
  [intField "version" (·.version) fun n r => { r with version := n },
    stringField "credential" (·.credential) fun s r => { r with credential := s },
    stringField "target" (·.target) fun s r => { r with target := s }]

structure AdmissionResponse where
  version : Int := 0
  subject : List Char := []
  target : List Char := []
  expiresAt : Int := 0
deriving DecidableEq, Repr

def AdmissionResponse.fields : List (StructField AdmissionResponse) :=
  [intField "version" (·.version) fun n r => { r with version := n },
    stringField "subject" (·.subject) fun s r => { r with subject := s },
    stringField "target" (·.target) fun s r => { r with target := s },
    intField "expires_at" (·.expiresAt) fun n r => { r with expiresAt := n }]

/-! ## The targets file -/

structure TargetPolicy where
  address : List Char := []
  tls : Bool := false
deriving DecidableEq, Repr

/-- The local struct of `UnmarshalJSON`. -/
structure EntryFields where
  address : Option (List Char) := none
  tls : Option Value := none

def EntryFields.fields : List (StructField EntryFields) :=
  [{ name := "address".toList, Content := Option (List Char), get := (·.address)
     set := fun p r => { r with address := p }, assign := assignStringPointer },
    { name := "tls".toList, Content := Option Value, get := (·.tls)
      set := fun raw r => { r with tls := raw }, assign := assignRaw }]

/-- `UnmarshalJSON` once the local struct is decoded; `target` is the receiver. -/
def TargetPolicy.settle (target : TargetPolicy) (fields : EntryFields) :
    Except Fault TargetPolicy :=
  match fields.address with
  | none =>
      .error (.unmarshaler "target entry requires an address and optional boolean tls setting")
  | some address =>
      match fields.tls with
      | none => .ok { target with address }
      | some (.scalar .null) => .error (.unmarshaler "target tls setting must be boolean")
      | some raw =>
          match assignBool raw target.tls with
          | .error _ => .error (.unmarshaler "target tls setting must be boolean")
          | .ok tls => .ok { address, tls }

/-- `targetPolicy.UnmarshalJSON` -/
def TargetPolicy.unmarshalJSON (target : TargetPolicy) (value : Value) :
    Except Fault TargetPolicy :=
  match decodeStruct EntryFields.fields value {} with
  | .error _ =>
      .error (.unmarshaler "target entry requires an address and optional boolean tls setting")
  | .ok fields => target.settle fields

/-- A Go map as a list of its entries. -/
abbrev Targets := List (Key × TargetPolicy)

def storeTarget (label : Key) (target : TargetPolicy) (targets : Targets) : Targets :=
  targets.filter (fun entry => entry.1 ≠ label) ++ [(label, target)]

def decodeEntries : List (Key × Value) → Targets → Except Fault Targets
  | [], targets => .ok targets
  | (label, value) :: rest, targets => do
      let target ← TargetPolicy.unmarshalJSON {} value
      decodeEntries rest (storeTarget label target targets)

/-- A Go `map[string]targetPolicy`, nil or made. -/
def assignTargets (value : Value) (content : Option Targets) : Except Fault (Option Targets) :=
  match value with
  | .scalar .null => .ok none
  | .object members => do
      let targets ← decodeEntries members (content.getD [])
      .ok (some targets)
  | .scalar _ | .array _ => .error .unmarshalType

/-- The local struct of `readTargetPolicy`. -/
structure Policy where
  targets : Option Targets := none
deriving DecidableEq, Repr

def Policy.fields : List (StructField Policy) :=
  [{ name := "targets".toList, Content := Option Targets, get := (·.targets)
     set := fun targets _ => { targets }, assign := assignTargets }]

/-! ## Destinations -/

inductive Destination where
  | admissionRequest
  | admissionResponse
  | policy
deriving DecidableEq, Repr

namespace Destination

abbrev Record : Destination → Type
  | .admissionRequest => AdmissionRequest
  | .admissionResponse => AdmissionResponse
  | .policy => Policy

def unmarshal : (destination : Destination) → Value → Except Fault destination.Record
  | .admissionRequest, value => decodeStruct AdmissionRequest.fields value {}
  | .admissionResponse, value => decodeStruct AdmissionResponse.fields value {}
  | .policy, value => decodeStruct Policy.fields value {}

end Destination

end GrpcBridge.Admission

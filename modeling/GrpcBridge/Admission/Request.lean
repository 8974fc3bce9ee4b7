/-
# Admission.Request -- the gates of a tunnel request

The checks that `gateway.ServeHTTP` (cmd/bridge/main.go) makes of a request, of the targets
file (cmd/bridge/config.go) and of the admission service's reply (cmd/bridge/admission.go),
as functions of what they read.  Each returns what the source returns: a value, or the
answer that the handler gives.

A time is a number of nanoseconds since the zero `time.Time`.  Its seconds are an `int64`,
and `time.Unix` adds the seconds up to 1970 to its argument in that type.
-/
import GrpcBridge.Admission.StrictJson
import GrpcBridge.Gateway.Serve
import GrpcBridge.Theory.Text

namespace GrpcBridge.Admission

set_option autoImplicit false

open GrpcBridge.Gateway (BadRequest BadDestination Denied)
open GrpcBridge.Theory.Text (Bytes utf8 literal trimSpace equalFold)

/-! ## Times -/

def second : Int := 1000000000

/-- `unixToInternal`, the seconds from the year 1 to 1970. -/
def unixToInternal : Int := 62135596800

/-- `time.Unix(seconds, 0)` -/
def unixTime (seconds : Int) : Int := Int.bmod (seconds + unixToInternal) (2 ^ 64) * second

/-- `time.Until`, whose `Duration` is an `int64` that saturates. -/
def untilTime (deadline now : Int) : Int := max (-2 ^ 63) (min (2 ^ 63 - 1) (deadline - now))

/-! ## Configuration -/

/-- `config`, less what only a real network needs. -/
structure Settings where
  defaultTarget : Bytes
  origin : Bytes := []
  token : Bytes := []
  admissionURL : Bytes := []
  maxConnections : Nat
  maxPerPrincipal : Int := 0
  maxGrantLifetime : Int := 0
  maxTunnelLifetime : Int := 0
deriving DecidableEq, Repr

/-- `newGateway`: the defaults for what is not set. -/
def Settings.normalize (c : Settings) : Settings :=
  { c with
    maxPerPrincipal := if c.maxPerPrincipal < 1 then 8 else c.maxPerPrincipal
    maxGrantLifetime := if c.maxGrantLifetime ≤ 0 then 15 * 60 * second else c.maxGrantLifetime
    maxTunnelLifetime := if c.maxTunnelLifetime ≤ 0 then 60 * 60 * second else c.maxTunnelLifetime }

/-- The limits that the accounting knows. -/
def Settings.limits (c : Settings) : Gateway.Config where
  maxConnections := c.maxConnections
  maxPerPrincipal := c.maxPerPrincipal.toNat

/-! ## Requests -/

/-- What `ServeHTTP` reads of a request; a header is the list of its values. -/
structure Request where
  path : Bytes
  method : Bytes
  connection : List Bytes := []
  upgrade : List Bytes := []
  key : List Bytes := []
  version : List Bytes := []
  origin : List Bytes := []
  protocols : List Bytes := []
  rawQuery : Bytes := []
deriving DecidableEq, Repr

/-- `Header.Get` -/
def firstOf (values : List Bytes) : Bytes := values.headD []

/-- `contains` -/
def containsToken (value : Bytes) (token : String) : Bool :=
  (value.splitOn 44).any fun item => equalFold (trimSpace item) token

def protocol : Bytes := literal "grpc-tunnel.v1"

def authPrefix : Bytes := literal "auth."

/-- The items of the protocol headers, in order. -/
def offered (r : Request) : List Bytes :=
  r.protocols.flatMap fun value => (value.splitOn 44).map trimSpace

/-- The counters of `tunnelCredential`, and the credential that came last. -/
structure Offer where
  profiles : Nat := 0
  credentials : Nat := 0
  credential : Bytes := []
deriving DecidableEq, Repr

/-- One turn of the loop in `tunnelCredential`. -/
def Offer.take (o : Offer) (item : Bytes) : Offer :=
  if item = protocol then { o with profiles := o.profiles + 1 }
  else if authPrefix.isPrefixOf item then
    { o with credentials := o.credentials + 1, credential := item.drop authPrefix.length }
  else o

def offer (r : Request) : Offer := (offered r).foldl Offer.take {}

def maxCredentialBytes : Nat := 4096

/-- The bytes of `validTunnelCredential`; a rune beyond ASCII is none of them. -/
def credentialByte (b : UInt8) : Bool :=
  Theory.Text.lower b || Theory.Text.upper b || Theory.Text.digit b || b ∈ literal "-._~"

def validTunnelCredential (credential : Bytes) : Bool :=
  credential ≠ [] ∧ credential.length ≤ maxCredentialBytes ∧ credential.all credentialByte

def tunnelCredential (r : Request) (expectedToken : Bytes) (admission : Bool) :
    Except BadRequest Bytes :=
  let o := offer r
  if o.profiles ≠ 1 ∨ o.credentials > 1 then .error .profile
  else if admission then
    if o.credentials ≠ 1 ∨ ¬ validTunnelCredential o.credential then .error .credential
    else .ok o.credential
  else if expectedToken ≠ [] then
    if o.credentials ≠ 1 ∨ o.credential ≠ expectedToken then .error .credential
    else .ok o.credential
  else .ok o.credential

/-- The checks of `ServeHTTP` before it takes a slot. -/
def checkRequest (c : Settings) (r : Request) : Except BadRequest Bytes :=
  if r.method ≠ literal "GET" ∨ ¬ containsToken (firstOf r.connection) "upgrade" ∨
      ¬ equalFold (firstOf r.upgrade) "websocket" then .error .notUpgrade
  else if Theory.Text.base64Length (firstOf r.key) ≠ some 16 ∨ firstOf r.version ≠ literal "13" then
    .error .handshake
  else if firstOf r.origin ≠ [] ∧ firstOf r.origin ≠ c.origin then .error .origin
  else tunnelCredential r c.token (c.admissionURL ≠ [])

/-! ## Destinations -/

def labelByte (b : UInt8) : Bool :=
  Theory.Text.lower b || Theory.Text.digit b || b = 95 || b = 45

def validTargetLabel (label : Bytes) : Bool :=
  match label with
  | [] => false
  | first :: rest => label.length ≤ 63 ∧ Theory.Text.lower first ∧ rest.all labelByte

def validAddress (address : Bytes) (emptyHost zeroPort : Bool) : Bool :=
  match Theory.Text.splitHostPort address with
  | none => false
  | some (host, port) =>
      match Theory.Text.atoi port with
      | none => false
      | some n =>
          (if zeroPort then 0 else 1) ≤ n ∧ n ≤ 65535 ∧ (emptyHost ∨ host ≠ []) ∧
            host.all fun b => b ∉ literal "/@?#\\ \t\r\n"

def validDestination (target : Bytes) : Bool :=
  target.length ≤ 320 ∧ validAddress target false false

/-- `readTargetPolicy`; `none` is a file that cannot be opened or read. -/
def readTargetPolicy (file : Option Bytes) : Option Targets :=
  match file with
  | none => none
  | some data =>
      if 65536 < data.length then none
      else
        match decodeStrictJSON Destination.policy.unmarshal data with
        | .error _ => none
        | .ok policy =>
            match policy.targets with
            | none => none
            | some targets =>
                if targets.all fun entry =>
                    validTargetLabel (utf8 entry.1) && validDestination (utf8 entry.2.address) then
                  some targets
                else none

/-- `policy[label]` -/
def lookupTarget (targets : Targets) (label : Bytes) : Option TargetPolicy :=
  (targets.find? fun entry => utf8 entry.1 = label).map Prod.snd

structure ResolvedTarget where
  label : Bytes := []
  address : Bytes := []
  tls : Bool := false
deriving DecidableEq, Repr

/-- The label that a query asks for. -/
def requestedLabel (c : Settings) (r : Request) : Option Bytes :=
  match Theory.Text.parseQuery r.rawQuery with
  | none => none
  | some query =>
      match Theory.Text.valuesOf query (literal "target") with
      | [] => some c.defaultTarget
      | [label] => some label
      | _ => none

/-- `gateway.destination` -/
def resolveDestination (c : Settings) (r : Request) (file : Option Bytes) :
    Except BadDestination ResolvedTarget :=
  match requestedLabel c r with
  | none => .error .label
  | some label =>
      if ¬ validTargetLabel label then .error .label
      else
        match readTargetPolicy file with
        | none => .error .policy
        | some targets =>
            match lookupTarget targets label with
            | none => .error .denied
            | some allowed => .ok ⟨label, utf8 allowed.address, allowed.tls⟩

/-! ## Admission -/

/-- What the admission service answers. -/
inductive Reply where
  /-- The request cannot be made, or fails. -/
  | failed
  /-- A response; its body, if all of it that is read can be read. -/
  | response (status : Nat) (body : Option Bytes)
deriving DecidableEq, Repr

structure AccessGrant where
  subject : List Char
  expires : Int
deriving DecidableEq, Repr

/-- `unicode.IsControl` -/
def isControl (c : Char) : Bool := c.toNat < 32 ∨ 127 ≤ c.toNat ∧ c.toNat < 160

/-- `validSubject`, of a string that was decoded from JSON and so is UTF-8. -/
def validSubject (subject : List Char) : Bool :=
  subject ≠ [] ∧ (utf8 subject).length ≤ 256 ∧ trimSpace (utf8 subject) = utf8 subject ∧
    subject.all fun c => !isControl c

def maxAdmissionBody : Nat := 16384

/-- The part of `authorizeTarget` that reads a grant. -/
def readGrant (c : Settings) (target : Bytes) (now : Int) (data : Bytes) :
    Except Denied AccessGrant :=
  match decodeStrictJSON Destination.admissionResponse.unmarshal data with
  | .error _ => .error .forbidden
  | .ok grant =>
      if grant.version ≠ 1 ∨ utf8 grant.target ≠ target ∨ ¬ validSubject grant.subject then
        .error .forbidden
      else
        let expires := unixTime grant.expiresAt
        if grant.expiresAt ≤ 0 ∨ ¬ now < expires ∨ c.maxGrantLifetime ≤ 0 ∨
            now + c.maxGrantLifetime < expires then .error .forbidden
        else .ok ⟨grant.subject, expires⟩

/-- `authorizeTarget`; `now` is read after the reply. -/
def authorizeTarget (c : Settings) (credential target : Bytes) (reply : Reply) (now : Int) :
    Except Denied AccessGrant :=
  if credential = [] ∨ maxCredentialBytes < credential.length ∨
      (Theory.Text.runes credential).isNone ∨ ¬ validTargetLabel target then .error .unauthorized
  else
    match reply with
    | .failed => .error .unavailable
    | .response status body =>
        if status = 200 then
          match body.map fun body => body.take (maxAdmissionBody + 1) with
          | none => .error .unavailable
          | some data =>
              if maxAdmissionBody < data.length then .error .unavailable
              else readGrant c target now data
        else if status = 401 then .error .unauthorized
        else if status = 403 then .error .forbidden
        else .error .unavailable

end GrpcBridge.Admission

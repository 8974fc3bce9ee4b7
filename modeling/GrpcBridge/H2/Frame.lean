/-
# H2.Frame -- errors, settings and frames of the HTTP/2 engine

The frame model of web/src/h2/frames/types.ts after `parsePayload`: flags are
Booleans of each variant.  A DATA frame keeps how many flow-controlled bytes it
carried besides its data (the Pad Length byte and the padding), so its
`flowControlledLength` is never below the length of its data.
-/
import Mathlib.Data.List.Basic

namespace GrpcBridge.H2

set_option autoImplicit false

abbrev Bytes := List UInt8

/-! ## Errors -/

inductive ErrorCode where
  | noError
  | protocolError
  | internalError
  | flowControlError
  | settingsTimeout
  | streamClosed
  | frameSizeError
  | refusedStream
  | cancel
  | compressionError
  | connectError
  | enhanceYourCalm
  | inadequateSecurity
  | http11Required
deriving DecidableEq, Repr

/-- `ERROR_CODES`: the position of a name is its value on the wire. -/
def errorCodes : List ErrorCode :=
  [.noError, .protocolError, .internalError, .flowControlError, .settingsTimeout, .streamClosed,
    .frameSizeError, .refusedStream, .cancel, .compressionError, .connectError, .enhanceYourCalm,
    .inadequateSecurity, .http11Required]

def errorCodeName (code : Nat) : Option ErrorCode := errorCodes[code]?

def errorCodeValue (name : ErrorCode) : Nat := errorCodes.idxOf name

/-- Positive evidence from the transport that a request was not processed. -/
inductive Evidence where
  | unsent
  | refused
deriving DecidableEq, Repr

structure H2Error where
  code : ErrorCode
  message : String
  streamId : Option Nat := none
  retry : Option Evidence := none
deriving DecidableEq, Repr

/-- What a stream or a connection is torn down with.  A signal, the transport and a
request body may raise any error; the last three are errors of theirs that are not an
`H2Error`. -/
inductive Cause where
  | h2 (error : H2Error)
  /-- The reason of the request's signal. -/
  | aborted
  /-- A read or write error of the transport. -/
  | transport
  /-- An error of the request body. -/
  | upload
deriving DecidableEq, Repr

/-- `error instanceof H2Error ? error.retry : undefined` -/
def Cause.evidence : Cause → Option Evidence
  | .h2 error => error.retry
  | _ => none

/-- What the decoders of frames and of header blocks throw. -/
inductive Thrown where
  | h2 (error : H2Error)
  /-- The `RangeError` of a read behind the end of a buffer. -/
  | range
deriving DecidableEq, Repr

/-! ## Frames -/

structure Settings where
  headerTableSize : Option Nat := none
  enablePush : Option Bool := none
  maxConcurrentStreams : Option Nat := none
  initialWindowSize : Option Nat := none
  maxFrameSize : Option Nat := none
  maxHeaderListSize : Option Nat := none
deriving DecidableEq, Repr

structure DataFrame where
  streamId : Nat
  data : Bytes
  /-- The Pad Length byte and the padding. -/
  padding : Nat := 0
  endStream : Bool
deriving DecidableEq, Repr

/-- Full DATA payload length, including Pad Length and padding bytes. -/
def DataFrame.flowControlledLength (f : DataFrame) : Nat := f.data.length + f.padding

inductive Frame where
  | data (f : DataFrame)
  | headers (streamId : Nat) (headerBlockFragment : Bytes) (endStream endHeaders : Bool)
  | priority (streamId : Nat)
  | rstStream (streamId errorCode : Nat)
  | settings (ack : Bool) (settings : Settings)
  | pushPromise (streamId promisedStreamId : Nat) (headerBlockFragment : Bytes) (endHeaders : Bool)
  | ping (ack : Bool) (opaqueData : Bytes)
  | goaway (lastStreamId errorCode : Nat) (debugData : Bytes)
  | windowUpdate (streamId windowSizeIncrement : Nat)
  | continuation (streamId : Nat) (headerBlockFragment : Bytes) (endHeaders : Bool)
deriving DecidableEq, Repr

/-! ## Header lists -/

structure Header where
  name : String
  value : String
deriving DecidableEq, Repr

/-- Parsed head of a response.  A `:status` that is absent or not a number is `none`. -/
structure HeadHead where
  endStream : Bool := false
  status : Option Int
  headers : List (String × String)
  raw : List Header
deriving DecidableEq, Repr

/-- `WhiteSpace` and `LineTerminator` of the language: TAB to CR, the space separators, the
byte order mark and the two separators of lines. -/
def isStrWhiteSpace (c : Char) : Bool :=
  let n := c.toNat
  (0x9 ≤ n && n ≤ 0xd) || (0x2000 ≤ n && n ≤ 0x200a) ||
    [0x20, 0xa0, 0x1680, 0x2028, 0x2029, 0x202f, 0x205f, 0x3000, 0xfeff].contains n

/-- `Number.parseInt(text, 10)`: leading blanks, a sign, then as many digits as there are. -/
def parseInt (text : String) : Option Int :=
  let rest := text.toList.dropWhile isStrWhiteSpace
  let (negative, rest) :=
    match rest with
    | '-' :: tail => (true, tail)
    | '+' :: tail => (false, tail)
    | _ => (false, rest)
  let digits := rest.takeWhile Char.isDigit
  if digits = [] then none
  else
    let value : Int := digits.foldl (fun n c => 10 * n + (c.toNat - '0'.toNat)) 0
    some (if negative then -value else value)

/-- The text of a built-in function. -/
def functionText (name : String) : String := "function " ++ name ++ "() \x7b [native code] \x7d"

/-- The methods that an object literal has from `Object.prototype`. -/
def objectMethods : List String :=
  ["toString", "toLocaleString", "valueOf", "hasOwnProperty", "isPrototypeOf",
    "propertyIsEnumerable", "__defineGetter__", "__defineSetter__", "__lookupGetter__",
    "__lookupSetter__"]

/-- The text of `headers[name]` where `headers` has no such member of its own. -/
def inherited (name : String) : Option String :=
  if name = "constructor" then some (functionText "Object")
  else if name ∈ objectMethods then some (functionText name)
  else none

/-- `headers[name]`, joined with what the name already has.  `__proto__` is a setter that
takes no string. -/
def joinHeader (headers : List (String × String)) (h : Header) : List (String × String) :=
  let separator := if h.name = "cookie" then "; " else ", "
  if h.name = "__proto__" then headers
  else
    match headers.lookup h.name with
    | some existing =>
        headers.map fun entry =>
          if entry.1 = h.name then (h.name, existing ++ separator ++ h.value) else entry
    | none =>
        headers ++ [(h.name, (inherited h.name).elim h.value (· ++ separator ++ h.value))]

def collectHeaders (raw : List Header) : HeadHead :=
  raw.foldl
    (fun head h =>
      if h.name = ":status" then { head with status := parseInt h.value }
      else if h.name.startsWith ":" then head
      else { head with headers := joinHeader head.headers h })
    { status := none, headers := [], raw }

end GrpcBridge.H2

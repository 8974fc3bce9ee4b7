/-
# Theory.JsonText -- the lexical level of JSON texts

A text is a list of runes; `lex` cuts it into lexemes with one state machine that
looks at one rune at a time.  A string is delivered with its escapes resolved:
two escaped units that form a surrogate pair are one rune, and an escaped
surrogate without its partner is U+FFFD.  A number is delivered as its text,
since what it is worth depends on what it is read into (`parseInt64`,
`overflowsFloat64`).

The machine stops at the first rune that no lexeme can continue with, and leaves
`bad` there.  A reader that takes lexemes one by one therefore meets the error
when it gets there and not before.
-/
import Mathlib.Algebra.Group.Int.Defs
import Mathlib.Algebra.Group.Nat.Defs
import Mathlib.Data.List.Basic

namespace GrpcBridge.Theory.Json

set_option autoImplicit false

abbrev Key := List Char

inductive Scalar where
  | null
  | bool (b : Bool)
  | number (text : List Char)
  | string (s : List Char)
deriving DecidableEq, Repr

inductive Lexeme where
  | openObject
  | closeObject
  | openArray
  | closeArray
  | colon
  | comma
  | scalar (s : Scalar)
  | bad
deriving DecidableEq, Repr

/-! ## Strings -/

/-- A rune as it stands, or the code unit of one `\u` escape. -/
inductive Piece where
  | rune (c : Char)
  | unit (n : Nat)
deriving DecidableEq, Repr

def highSurrogate (n : Nat) : Bool := decide (0xD800 ≤ n ∧ n < 0xDC00)

def lowSurrogate (n : Nat) : Bool := decide (0xDC00 ≤ n ∧ n < 0xE000)

def replacement : Char := Char.ofNat 0xFFFD

def unitRune (n : Nat) : Char :=
  if highSurrogate n || lowSurrogate n then replacement else Char.ofNat n

/-- `pending` is an escaped unit whose partner may be the next piece. -/
def joinPieces (pending : Option Nat) : List Piece → List Char
  | [] => (pending.map unitRune).toList
  | .rune c :: rest => (pending.map unitRune).toList ++ c :: joinPieces none rest
  | .unit m :: rest =>
      match pending with
      | none => joinPieces (some m) rest
      | some n =>
          if highSurrogate n && lowSurrogate m then
            Char.ofNat (0x10000 + (n - 0xD800) * 0x400 + (m - 0xDC00)) :: joinPieces none rest
          else unitRune n :: joinPieces (some m) rest

def escapeRune : Char → Option Char
  | 'b' => some (Char.ofNat 8)
  | 'f' => some (Char.ofNat 12)
  | 'n' => some '\n'
  | 'r' => some '\r'
  | 't' => some '\t'
  | '\\' => some '\\'
  | '/' => some '/'
  | '"' => some '"'
  | _ => none

def isDigit (c : Char) : Bool := decide ('0' ≤ c ∧ c ≤ '9')

def hexDigit (c : Char) : Option Nat :=
  if isDigit c then some (c.toNat - 48)
  else if 'a' ≤ c ∧ c ≤ 'f' then some (c.toNat - 87)
  else if 'A' ≤ c ∧ c ≤ 'F' then some (c.toNat - 55)
  else none

/-! ## Numbers -/

/-- Where the machine stands in `-? (0 | [1-9][0-9]*) (\.[0-9]+)? ([eE][+-]?[0-9]+)?`. -/
inductive NumberPhase where
  | minus
  | zero
  | digits
  | point
  | fraction
  | exponent
  | exponentSign
  | exponentDigits
deriving DecidableEq, Repr

namespace NumberPhase

def next (phase : NumberPhase) (c : Char) : Option NumberPhase :=
  match phase with
  | .minus => if c = '0' then some .zero else if isDigit c then some .digits else none
  | .zero => if c = '.' then some .point else if c = 'e' ∨ c = 'E' then some .exponent else none
  | .digits =>
      if isDigit c then some .digits else if c = '.' then some .point
      else if c = 'e' ∨ c = 'E' then some .exponent else none
  | .point => if isDigit c then some .fraction else none
  | .fraction =>
      if isDigit c then some .fraction else if c = 'e' ∨ c = 'E' then some .exponent else none
  | .exponent =>
      if c = '+' ∨ c = '-' then some .exponentSign
      else if isDigit c then some .exponentDigits else none
  | .exponentSign | .exponentDigits => if isDigit c then some .exponentDigits else none

/-- A number may end here. -/
def complete : NumberPhase → Bool
  | .zero | .digits | .fraction | .exponentDigits => true
  | .minus | .point | .exponent | .exponentSign => false

end NumberPhase

def decimal (digits : List Char) : Nat := digits.foldl (fun n c => 10 * n + (c.toNat - 48)) 0

/-- `strconv.ParseInt(text, 10, 64)` on the text of a number. -/
def parseInt64 (text : List Char) : Option Int :=
  let digits := text.dropWhile (· = '-')
  let n : Int := if text.head? = some '-' then -(decimal digits : Int) else decimal digits
  if digits.all isDigit ∧ -2 ^ 63 ≤ n ∧ n < 2 ^ 63 then some n else none

/-- The text of a number is too large for a 64-bit float: at half a unit above the
largest one it rounds to infinity. -/
def overflowsFloat64 (text : List Char) : Bool :=
  let body := text.dropWhile (· = '-')
  let whole := body.takeWhile isDigit
  let (fraction, tail) :=
    match body.dropWhile isDigit with
    | '.' :: rest => (rest.takeWhile isDigit, rest.dropWhile isDigit)
    | rest => ([], rest)
  let exponent : Int :=
    match tail with
    | _ :: '-' :: digits => -(decimal digits : Int)
    | _ :: '+' :: digits => decimal digits
    | _ :: digits => decimal digits
    | [] => 0
  let scale : Int := exponent - fraction.length
  let mantissa := decimal (whole ++ fraction)
  let limit := 2 ^ 1024 - 2 ^ 970
  if 0 ≤ scale then decide (limit ≤ mantissa * 10 ^ scale.toNat)
  else decide (limit * 10 ^ (-scale).toNat ≤ mantissa)

/-! ## The machine -/

/-- What has been read of the lexeme under way, last rune first. -/
inductive Mode where
  | between
  | text (pieces : List Piece)
  | escape (pieces : List Piece)
  | unicode (pieces : List Piece) (digits unit : Nat)
  | number (phase : NumberPhase) (text : List Char)
  | word (expected : List Char) (s : Scalar)
  | stopped
deriving DecidableEq, Repr

/-- The first rune of a lexeme, or white space. -/
def start (c : Char) : List Lexeme × Mode :=
  match c with
  | ' ' | '\t' | '\r' | '\n' => ([], .between)
  | '\x7b' => ([.openObject], .between)
  | '\x7d' => ([.closeObject], .between)
  | '[' => ([.openArray], .between)
  | ']' => ([.closeArray], .between)
  | ':' => ([.colon], .between)
  | ',' => ([.comma], .between)
  | '"' => ([], .text [])
  | '-' => ([], .number .minus ['-'])
  | '0' => ([], .number .zero ['0'])
  | 't' => ([], .word ['r', 'u', 'e'] (.bool true))
  | 'f' => ([], .word ['a', 'l', 's', 'e'] (.bool false))
  | 'n' => ([], .word ['u', 'l', 'l'] .null)
  | _ => if isDigit c then ([], .number .digits [c]) else ([.bad], .stopped)

def advance (mode : Mode) (c : Char) : List Lexeme × Mode :=
  match mode with
  | .between => start c
  | .text pieces =>
      if c = '"' then ([.scalar (.string (joinPieces none pieces.reverse))], .between)
      else if c = '\\' then ([], .escape pieces)
      else if c.toNat < 0x20 then ([.bad], .stopped)
      else ([], .text (.rune c :: pieces))
  | .escape pieces =>
      if c = 'u' then ([], .unicode pieces 0 0)
      else
        match escapeRune c with
        | some r => ([], .text (.rune r :: pieces))
        | none => ([.bad], .stopped)
  | .unicode pieces digits unit =>
      match hexDigit c with
      | none => ([.bad], .stopped)
      | some d =>
          if digits = 3 then ([], .text (.unit (16 * unit + d) :: pieces))
          else ([], .unicode pieces (digits + 1) (16 * unit + d))
  | .number phase text =>
      match phase.next c with
      | some phase' => ([], .number phase' (c :: text))
      | none =>
          if phase.complete then
            (.scalar (.number text.reverse) :: (start c).1, (start c).2)
          else ([.bad], .stopped)
  | .word expected s =>
      match expected with
      | [e] => if c = e then ([.scalar s], .between) else ([.bad], .stopped)
      | e :: rest => if c = e then ([], .word rest s) else ([.bad], .stopped)
      | [] => ([.bad], .stopped)
  | .stopped => ([], .stopped)

/-- The end of the text. -/
def finish : Mode → List Lexeme
  | .between | .stopped => []
  | .number phase text => if phase.complete then [.scalar (.number text.reverse)] else [.bad]
  | .text _ | .escape _ | .unicode _ _ _ | .word _ _ => [.bad]

def lexFrom (mode : Mode) : List Char → List Lexeme
  | [] => finish mode
  | c :: rest => (advance mode c).1 ++ lexFrom (advance mode c).2 rest

def lex (text : List Char) : List Lexeme := lexFrom .between text

example : lex "[-1.5e+3 ,\"\\u0073\\ud83d\\ude00\"".toList =
    [.openArray, .scalar (.number "-1.5e+3".toList), .comma, .scalar (.string "s😀".toList)] := by
  decide +kernel

end GrpcBridge.Theory.Json

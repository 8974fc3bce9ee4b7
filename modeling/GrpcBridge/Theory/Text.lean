/-
# Theory.Text -- byte strings and what is read from them

A string is a sequence of bytes that need not be UTF-8.  The readers here are those of
the Go standard library that a request's headers, its query and a network address go
through: `TrimSpace`, `EqualFold`, padded base64, `ParseQuery`, `SplitHostPort` and
`Atoi`.

Space is cut from a byte string one encoded rune at a time.  An encoding is never inside
another one, so an encoded space at either end is a rune there.
-/
import GrpcBridge.Theory.CaseFolding
import Mathlib.Algebra.Group.Int.Defs
import Mathlib.Algebra.Group.Nat.Defs

namespace GrpcBridge.Theory.Text

set_option autoImplicit false

abbrev Bytes := List UInt8

def utf8 (text : List Char) : Bytes := text.flatMap String.utf8EncodeChar

/-- The bytes of a text of the program. -/
def literal (text : String) : Bytes := utf8 text.toList

/-- The runes of a byte string, if it is UTF-8. -/
def runes (s : Bytes) : Option (List Char) :=
  (ByteArray.utf8Decode? ⟨s.toArray⟩).map Array.toList

/-! ## Space -/

/-- `unicode.IsSpace` -/
def spaces : List Char :=
  ([9, 10, 11, 12, 13, 32, 0x85, 0xA0, 0x1680, 0x2000, 0x2001, 0x2002, 0x2003, 0x2004, 0x2005,
    0x2006, 0x2007, 0x2008, 0x2009, 0x200A, 0x2028, 0x2029, 0x202F, 0x205F, 0x3000]).map Char.ofNat

/-- Drop words of a table from the front while there is one. -/
def dropWords (table : List Bytes) : Nat → Bytes → Bytes
  | 0, s => s
  | fuel + 1, s =>
      match table.find? fun word => word.isPrefixOf s with
      | none => s
      | some word => dropWords table fuel (s.drop word.length)

def trimLeft (s : Bytes) : Bytes :=
  dropWords (spaces.map String.utf8EncodeChar) s.length s

def trimRight (s : Bytes) : Bytes :=
  (dropWords (spaces.map fun c => (String.utf8EncodeChar c).reverse) s.length s.reverse).reverse

/-- `strings.TrimSpace` -/
def trimSpace (s : Bytes) : Bytes := trimRight (trimLeft s)

/-- `strings.EqualFold` with an ASCII word: a byte that is no rune folds with no letter. -/
def equalFold (s : Bytes) (word : String) : Bool :=
  match runes s with
  | none => false
  | some text => text.map CaseFolding.foldRune = word.toList.map CaseFolding.foldRune

/-! ## base64 -/

def digit (b : UInt8) : Bool := 48 ≤ b && b ≤ 57

def lower (b : UInt8) : Bool := 97 ≤ b && b ≤ 122

def upper (b : UInt8) : Bool := 65 ≤ b && b ≤ 90

def sextet (b : UInt8) : Bool := upper b || lower b || digit b || b = 43 || b = 47

/-- The length of what the quanta of a padded encoding stand for. -/
def quanta : Bytes → Option Nat
  | [] => some 0
  | a :: b :: c :: d :: rest =>
      if sextet a && sextet b then
        if c = 61 then if d = 61 ∧ rest = [] then some 1 else none
        else if sextet c then
          if d = 61 then if rest = [] then some 2 else none
          else if sextet d then (quanta rest).map (· + 3) else none
        else none
      else none
  | _ => none

/-- The length that `base64.StdEncoding` decodes to; it skips line ends. -/
def base64Length (s : Bytes) : Option Nat := quanta (s.filter fun b => b ≠ 10 ∧ b ≠ 13)

/-! ## Queries -/

def hex (b : UInt8) : Option UInt8 :=
  if digit b then some (b - 48)
  else if 97 ≤ b && b ≤ 102 then some (b - 87)
  else if 65 ≤ b && b ≤ 70 then some (b - 55)
  else none

/-- `url.QueryUnescape` -/
def unescape : Bytes → Option Bytes
  | [] => some []
  | 37 :: high :: low :: rest =>
      match hex high, hex low with
      | some high, some low => (unescape rest).map ((16 * high + low) :: ·)
      | _, _ => none
  | 37 :: _ => none
  | 43 :: rest => (unescape rest).map (32 :: ·)
  | b :: rest => (unescape rest).map (b :: ·)

/-- `strings.Cut` -/
def cut (separator : UInt8) (s : Bytes) : Bytes × Bytes :=
  (s.takeWhile (· ≠ separator), (s.dropWhile (· ≠ separator)).drop 1)

/-- The pairs of one part of a query, if it has no error. -/
def parsePair (part : Bytes) : Option (List (Bytes × Bytes)) :=
  if 59 ∈ part then none
  else if part = [] then some []
  else
    match unescape (cut 61 part).1, unescape (cut 61 part).2 with
    | some key, some value => some [(key, value)]
    | _, _ => none

/-- `url.ParseQuery`: the pairs in order, or none when it returns an error. -/
def parseQuery (raw : Bytes) : Option (List (Bytes × Bytes)) :=
  ((raw.splitOn 38).mapM parsePair).map List.flatten

/-- `query[key]` -/
def valuesOf (query : List (Bytes × Bytes)) (key : Bytes) : List Bytes :=
  (query.filter (·.1 = key)).map Prod.snd

/-! ## Addresses -/

/-- The part before the last separator and the part after it. -/
def cutLast (separator : UInt8) (s : Bytes) : Option (Bytes × Bytes) :=
  if separator ∈ s then
    let (back, front) := cut separator s.reverse
    some (front.reverse, back.reverse)
  else none

/-- `net.SplitHostPort` -/
def splitHostPort (s : Bytes) : Option (Bytes × Bytes) :=
  match cutLast 58 s with
  | none => none
  | some (front, port) =>
      match s with
      | 91 :: inner =>
          let (host, after) := cut 93 inner
          -- the first `]` is the byte before the last colon
          if 93 ∈ inner ∧ front = 91 :: host ++ [93] ∧ 91 ∉ inner ∧ 93 ∉ after then some (host, port)
          else none
      | _ => if 58 ∈ front ∨ 91 ∈ s ∨ 93 ∈ s then none else some (front, port)

def digits (s : Bytes) : Option Nat :=
  if s = [] then none
  else if s.all digit then some (s.foldl (fun n b => 10 * n + (b.toNat - 48)) 0)
  else none

/-- `strconv.Atoi` -/
def atoi (s : Bytes) : Option Int :=
  let value : Option Int :=
    match s with
    | 45 :: rest => (digits rest).map fun n => -n
    | 43 :: rest => (digits rest).map fun n => n
    | _ => (digits s).map fun n => n
  value.filter fun n => -2 ^ 63 ≤ n ∧ n < 2 ^ 63

end GrpcBridge.Theory.Text

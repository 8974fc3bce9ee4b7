/-
# Theory.JsonDecoder -- two readers of one lexeme sequence

A decoder can be read in two ways.  `decode` takes a whole value off the front,
with the grammar of JSON and a bound on the nesting.  `token` takes one token at
a time and keeps, in `tokenState` and `tokenStack`, what may follow; commas and
colons are checked and swallowed on the way to the next token, and `more` looks
whether the current array or object goes on.

The value reader recurses on fuel.  Of two nested calls one consumes a lexeme, so
twice the number of lexemes is enough of it (`parse_fuel`).
-/
import GrpcBridge.Theory.JsonText
import GrpcBridge.Theory.Fallible

namespace GrpcBridge.Theory.Json

set_option autoImplicit false

open GrpcBridge.Theory.Fallible

inductive Value where
  | scalar (s : Scalar)
  | array (items : List Value)
  | object (members : List (Key × Value))
deriving Repr

def Value.members : Value → List (Key × Value)
  | .object members => members
  | .scalar _ | .array _ => []

inductive Fault where
  /-- `io.EOF` -/
  | eof
  | unexpectedEOF
  | syntaxError
  | exceededMaxDepth
  | unmarshalType
  | unknownField (key : Key)
  /-- The error of an `UnmarshalJSON` method. -/
  | unmarshaler (message : String)
  | outOfFuel
deriving DecidableEq, Repr

/-! ## Whole values -/

def maxNestingDepth : Nat := 10000

mutual

/-- One value inside `depth` open arrays and objects, and the lexemes after it. -/
def parseValue (fuel depth : Nat) (lexemes : List Lexeme) :
    Except Fault (Value × List Lexeme) :=
  match fuel, lexemes with
  | 0, _ => .error .outOfFuel
  | _ + 1, [] => .error .unexpectedEOF
  | _ + 1, .scalar s :: rest => .ok (.scalar s, rest)
  | fuel + 1, .openObject :: rest =>
      if maxNestingDepth ≤ depth then .error .exceededMaxDepth
      else
        match rest with
        | .closeObject :: rest => .ok (.object [], rest)
        | rest => do
            let (members, rest) ← parseMembers fuel (depth + 1) rest
            .ok (.object members, rest)
  | fuel + 1, .openArray :: rest =>
      if maxNestingDepth ≤ depth then .error .exceededMaxDepth
      else
        match rest with
        | .closeArray :: rest => .ok (.array [], rest)
        | rest => do
            let (items, rest) ← parseItems fuel (depth + 1) rest
            .ok (.array items, rest)
  | _ + 1, _ :: _ => .error .syntaxError

/-- The members of an object from a key on. -/
def parseMembers (fuel depth : Nat) (lexemes : List Lexeme) :
    Except Fault (List (Key × Value) × List Lexeme) :=
  match fuel, lexemes with
  | 0, _ => .error .outOfFuel
  | fuel + 1, .scalar (.string key) :: .colon :: rest => do
      let (value, rest) ← parseValue fuel depth rest
      match rest with
      | .closeObject :: rest => .ok ([(key, value)], rest)
      | .comma :: rest => do
          let (members, rest) ← parseMembers fuel depth rest
          .ok ((key, value) :: members, rest)
      | [] => .error .unexpectedEOF
      | _ :: _ => .error .syntaxError
  | _ + 1, [] => .error .unexpectedEOF
  | _ + 1, [.scalar (.string _)] => .error .unexpectedEOF
  | _ + 1, _ :: _ => .error .syntaxError

/-- The items of an array from a value on. -/
def parseItems (fuel depth : Nat) (lexemes : List Lexeme) :
    Except Fault (List Value × List Lexeme) :=
  match fuel with
  | 0 => .error .outOfFuel
  | fuel + 1 => do
      let (value, rest) ← parseValue fuel depth lexemes
      match rest with
      | .closeArray :: rest => .ok ([value], rest)
      | .comma :: rest => do
          let (items, rest) ← parseItems fuel depth rest
          .ok (value :: items, rest)
      | [] => .error .unexpectedEOF
      | _ :: _ => .error .syntaxError

end

/-! ## Tokens -/

inductive TokenState where
  | topValue
  | arrayStart
  | arrayValue
  | arrayComma
  | objectStart
  | objectKey
  | objectColon
  | objectValue
  | objectComma
deriving DecidableEq, Repr

namespace TokenState

/-- `tokenValueAllowed` -/
def valueAllowed : TokenState → Bool
  | .topValue | .arrayStart | .arrayValue | .objectValue => true
  | .arrayComma | .objectStart | .objectKey | .objectColon | .objectComma => false

/-- `tokenValueEnd` -/
def valueEnd : TokenState → TokenState
  | .arrayStart | .arrayValue => .arrayComma
  | .objectValue => .objectComma
  | state => state

end TokenState

inductive Delim where
  | openObject
  | closeObject
  | openArray
  | closeArray
deriving DecidableEq, Repr

inductive Token where
  | delim (d : Delim)
  | scalar (s : Scalar)
deriving DecidableEq, Repr

structure Decoder where
  lexemes : List Lexeme
  tokenState : TokenState := .topValue
  tokenStack : List TokenState := []
deriving DecidableEq, Repr

/-- A number is converted to a float on the way out, which may fail. -/
def scalarToken (s : Scalar) : Except Fault Token :=
  match s with
  | .number text => if overflowsFloat64 text then .error .unmarshalType else .ok (.scalar s)
  | _ => .ok (.scalar s)

def nextToken (state : TokenState) (stack : List TokenState) :
    List Lexeme → Except Fault (Token × Decoder)
  | [] => .error .eof
  | .openArray :: rest =>
      if state.valueAllowed then .ok (.delim .openArray, ⟨rest, .arrayStart, state :: stack⟩)
      else .error .syntaxError
  | .closeArray :: rest =>
      if state = .arrayStart ∨ state = .arrayComma then
        match stack with
        | outer :: stack => .ok (.delim .closeArray, ⟨rest, outer.valueEnd, stack⟩)
        | [] => .error .syntaxError
      else .error .syntaxError
  | .openObject :: rest =>
      if state.valueAllowed then .ok (.delim .openObject, ⟨rest, .objectStart, state :: stack⟩)
      else .error .syntaxError
  | .closeObject :: rest =>
      if state = .objectStart ∨ state = .objectComma then
        match stack with
        | outer :: stack => .ok (.delim .closeObject, ⟨rest, outer.valueEnd, stack⟩)
        | [] => .error .syntaxError
      else .error .syntaxError
  | .colon :: rest =>
      if state = .objectColon then nextToken .objectValue stack rest else .error .syntaxError
  | .comma :: rest =>
      if state = .arrayComma then nextToken .arrayValue stack rest
      else if state = .objectComma then nextToken .objectKey stack rest
      else .error .syntaxError
  | .scalar s :: rest =>
      match s, state with
      | .string key, .objectStart | .string key, .objectKey =>
          .ok (.scalar (.string key), ⟨rest, .objectColon, stack⟩)
      | s, state =>
          if state.valueAllowed then do
            let token ← scalarToken s
            .ok (token, ⟨rest, state.valueEnd, stack⟩)
          else .error .syntaxError
  | .bad :: _ => .error .syntaxError

namespace Decoder

def token (decoder : Decoder) : Except Fault (Token × Decoder) :=
  nextToken decoder.tokenState decoder.tokenStack decoder.lexemes

def more (decoder : Decoder) : Bool :=
  match decoder.lexemes with
  | [] | .closeArray :: _ | .closeObject :: _ => false
  | _ => true

/-- The value that `Decode` reads when no token has been taken before. -/
def decode (decoder : Decoder) : Except Fault (Value × Decoder) :=
  match decoder.lexemes with
  | [] => .error .eof
  | lexemes => do
      let (value, rest) ← parseValue (2 * lexemes.length + 1) 0 lexemes
      .ok (value, { decoder with lexemes := rest })

end Decoder

/-! ## What a value reader that succeeds has read -/

theorem parseValue_ok {fuel depth : Nat} {lexemes rest : List Lexeme} {value : Value}
    (parsed : parseValue (fuel + 1) depth lexemes = .ok (value, rest)) :
    (∃ s, lexemes = .scalar s :: rest ∧ value = .scalar s) ∨
    (lexemes = .openObject :: .closeObject :: rest ∧ value = .object []) ∨
    (∃ inside members, lexemes = .openObject :: inside ∧
      parseMembers fuel (depth + 1) inside = .ok (members, rest) ∧ value = .object members) ∨
    (lexemes = .openArray :: .closeArray :: rest ∧ value = .array []) ∨
    ∃ inside items, lexemes = .openArray :: inside ∧
      parseItems fuel (depth + 1) inside = .ok (items, rest) ∧ value = .array items := by
  cases lexemes with
  | nil => simp [parseValue] at parsed
  | cons lexeme tail =>
      cases lexeme with
      | scalar s =>
          simp only [parseValue, Except.ok.injEq, Prod.mk.injEq] at parsed
          obtain ⟨rfl, rfl⟩ := parsed
          exact .inl ⟨s, rfl, rfl⟩
      | openObject =>
          simp only [parseValue] at parsed
          split at parsed
          · cases parsed
          · split at parsed
            · cases parsed
              exact .inr (.inl ⟨rfl, rfl⟩)
            · obtain ⟨⟨members, after⟩, inner, result⟩ := bind_eq_ok.mp parsed
              cases result
              exact .inr (.inr (.inl ⟨tail, members, rfl, inner, rfl⟩))
      | openArray =>
          simp only [parseValue] at parsed
          split at parsed
          · cases parsed
          · split at parsed
            · cases parsed
              exact .inr (.inr (.inr (.inl ⟨rfl, rfl⟩)))
            · obtain ⟨⟨items, after⟩, inner, result⟩ := bind_eq_ok.mp parsed
              cases result
              exact .inr (.inr (.inr (.inr ⟨tail, items, rfl, inner, rfl⟩)))
      | closeObject | closeArray | colon | comma | bad => simp [parseValue] at parsed

theorem parseMembers_ok {fuel depth : Nat} {lexemes rest : List Lexeme}
    {members : List (Key × Value)}
    (parsed : parseMembers (fuel + 1) depth lexemes = .ok (members, rest)) :
    ∃ key inside value after, lexemes = .scalar (.string key) :: .colon :: inside ∧
      parseValue fuel depth inside = .ok (value, after) ∧
      ((after = .closeObject :: rest ∧ members = [(key, value)]) ∨
        ∃ later others, after = .comma :: later ∧
          parseMembers fuel depth later = .ok (others, rest) ∧
          members = (key, value) :: others) := by
  unfold parseMembers at parsed
  split at parsed
  · cases parsed
  · next key inside same =>
    cases same
    obtain ⟨⟨value, after⟩, first, others⟩ := bind_eq_ok.mp parsed
    refine ⟨key, inside, value, after, rfl, first, ?_⟩
    dsimp only at others
    split at others
    · cases others
      exact .inl ⟨rfl, rfl⟩
    · obtain ⟨⟨members, after⟩, tail, result⟩ := bind_eq_ok.mp others
      cases result
      exact .inr ⟨_, members, rfl, tail, rfl⟩
    · cases others
    · cases others
  · cases parsed
  · cases parsed
  · cases parsed

theorem parseItems_ok {fuel depth : Nat} {lexemes rest : List Lexeme} {items : List Value}
    (parsed : parseItems (fuel + 1) depth lexemes = .ok (items, rest)) :
    ∃ value after, parseValue fuel depth lexemes = .ok (value, after) ∧
      ((after = .closeArray :: rest ∧ items = [value]) ∨
        ∃ later others, after = .comma :: later ∧
          parseItems fuel depth later = .ok (others, rest) ∧ items = value :: others) := by
  unfold parseItems at parsed
  obtain ⟨⟨value, after⟩, first, others⟩ := bind_eq_ok.mp parsed
  refine ⟨value, after, first, ?_⟩
  dsimp only at others
  split at others
  · cases others
    exact .inl ⟨rfl, rfl⟩
  · obtain ⟨⟨items, after⟩, tail, result⟩ := bind_eq_ok.mp others
    cases result
    exact .inr ⟨_, items, rfl, tail, rfl⟩
  · cases others
  · cases others

/-! ## The fuel -/

/-- Every call that succeeds has consumed a lexeme. -/
theorem parse_shrinks (fuel : Nat) :
    (∀ depth lexemes value rest, parseValue fuel depth lexemes = .ok (value, rest) →
      rest.length < lexemes.length) ∧
    (∀ depth lexemes members rest, parseMembers fuel depth lexemes = .ok (members, rest) →
      rest.length < lexemes.length) ∧
    (∀ depth lexemes items rest, parseItems fuel depth lexemes = .ok (items, rest) →
      rest.length < lexemes.length) := by
  induction fuel with
  | zero => simp [parseValue, parseMembers, parseItems]
  | succ fuel ih =>
      obtain ⟨values, members, items⟩ := ih
      refine ⟨?_, ?_, ?_⟩
      · intro depth lexemes value rest parsed
        rcases parseValue_ok parsed with ⟨s, rfl, -⟩ | ⟨rfl, -⟩ | ⟨inside, _, rfl, inner, -⟩ |
          ⟨rfl, -⟩ | ⟨inside, _, rfl, inner, -⟩
        · simp
        · simp only [List.length_cons]
          omega
        · have shorter := members _ _ _ _ inner
          simp only [List.length_cons]
          omega
        · simp only [List.length_cons]
          omega
        · have shorter := items _ _ _ _ inner
          simp only [List.length_cons]
          omega
      · intro depth lexemes found rest parsed
        obtain ⟨key, inside, value, after, rfl, first, last | ⟨later, others, rfl, tail, -⟩⟩ :=
          parseMembers_ok parsed
        · have shorter := values _ _ _ _ first
          simp only [last.1, List.length_cons] at shorter ⊢
          omega
        · have shorter := values _ _ _ _ first
          have shortest := members _ _ _ _ tail
          simp only [List.length_cons] at shorter ⊢
          omega
      · intro depth lexemes found rest parsed
        obtain ⟨value, after, first, last | ⟨later, others, rfl, tail, -⟩⟩ := parseItems_ok parsed
        · have shorter := values _ _ _ _ first
          simp only [last.1, List.length_cons] at shorter
          omega
        · have shorter := values _ _ _ _ first
          have shortest := items _ _ _ _ tail
          simp only [List.length_cons] at shorter
          omega

theorem parse_fuel (fuel : Nat) :
    (∀ depth lexemes, 2 * lexemes.length < fuel →
      parseValue fuel depth lexemes ≠ .error .outOfFuel) ∧
    (∀ depth lexemes, 2 * lexemes.length < fuel →
      parseMembers fuel depth lexemes ≠ .error .outOfFuel) ∧
    (∀ depth lexemes, 2 * lexemes.length + 1 < fuel →
      parseItems fuel depth lexemes ≠ .error .outOfFuel) := by
  induction fuel with
  | zero => simp
  | succ fuel ih =>
      obtain ⟨values, members, items⟩ := ih
      have shrinks := parse_shrinks fuel
      refine ⟨?_, ?_, ?_⟩
      · intro depth lexemes enough
        unfold parseValue
        split
        · next impossible => cases impossible
        · simp
        · simp
        · next same =>
          cases same
          split
          · simp
          · split
            · simp
            · simp only [List.length_cons] at enough
              exact bind_ne_error (members _ _ (by omega)) (by simp)
        · next same =>
          cases same
          split
          · simp
          · split
            · simp
            · simp only [List.length_cons] at enough
              exact bind_ne_error (items _ _ (by omega)) (by simp)
        · simp
      · intro depth lexemes enough
        unfold parseMembers
        split
        · next impossible => cases impossible
        · next same =>
          cases same
          simp only [List.length_cons] at enough
          apply bind_ne_error (values _ _ (by omega))
          rintro ⟨value, after⟩ first
          have shorter := shrinks.1 _ _ _ _ first
          dsimp only
          split
          · simp
          · simp only [List.length_cons] at shorter
            exact bind_ne_error (members _ _ (by omega)) (by simp)
          · simp
          · simp
        · simp
        · simp
        · simp
      · intro depth lexemes enough
        unfold parseItems
        apply bind_ne_error (values _ _ (by omega))
        rintro ⟨value, after⟩ first
        have shorter := shrinks.1 _ _ _ _ first
        dsimp only
        split
        · simp
        · simp only [List.length_cons] at shorter
          exact bind_ne_error (items _ _ (by omega)) (by simp)
        · simp
        · simp

theorem scalarToken_ok {s : Scalar} {token : Token} (taken : scalarToken s = .ok token) :
    token = .scalar s := by
  unfold scalarToken at taken
  split at taken
  · split at taken
    · cases taken
    · exact (Except.ok.inj taken).symm
  · exact (Except.ok.inj taken).symm

theorem nextToken_shrinks {state : TokenState} {stack : List TokenState} {lexemes : List Lexeme}
    {token : Token} {decoder : Decoder}
    (taken : nextToken state stack lexemes = .ok (token, decoder)) :
    decoder.lexemes.length < lexemes.length := by
  induction lexemes generalizing state with
  | nil => cases taken
  | cons lexeme rest ih =>
      -- a comma or a colon is followed by the token of the rest, the others stand alone
      cases lexeme with
      | colon =>
          simp only [nextToken] at taken
          split at taken
          · exact Nat.lt_succ_of_lt (ih taken)
          · cases taken
      | comma =>
          simp only [nextToken] at taken
          split at taken
          · exact Nat.lt_succ_of_lt (ih taken)
          · split at taken
            · exact Nat.lt_succ_of_lt (ih taken)
            · cases taken
      | openArray | openObject =>
          simp only [nextToken] at taken
          split at taken
          · cases taken
            exact Nat.lt_succ_self _
          · cases taken
      | closeArray | closeObject =>
          simp only [nextToken] at taken
          split at taken
          · split at taken
            · cases taken
              exact Nat.lt_succ_self _
            · cases taken
          · cases taken
      | scalar s =>
          simp only [nextToken] at taken
          split at taken
          · cases taken
            exact Nat.lt_succ_self _
          · cases taken
            exact Nat.lt_succ_self _
          · split at taken
            · obtain ⟨_, -, result⟩ := bind_eq_ok.mp taken
              cases result
              exact Nat.lt_succ_self _
            · cases taken
      | bad => cases taken

theorem nextToken_fuel (state : TokenState) (stack : List TokenState) (lexemes : List Lexeme) :
    nextToken state stack lexemes ≠ .error .outOfFuel := by
  induction lexemes generalizing state with
  | nil => simp [nextToken]
  | cons lexeme rest ih =>
      cases lexeme with
      | colon =>
          simp only [nextToken]
          split
          · exact ih _
          · simp
      | comma =>
          simp only [nextToken]
          split
          · exact ih _
          · split
            · exact ih _
            · simp
      | openArray | openObject =>
          simp only [nextToken]
          split <;> simp
      | closeArray | closeObject =>
          simp only [nextToken]
          split
          · split <;> simp
          · simp
      | scalar s =>
          simp only [nextToken]
          split
          · simp
          · simp
          · split
            · apply bind_ne_error
              · unfold scalarToken
                split
                · split <;> simp
                · simp
              · simp
            · simp
      | bad => simp [nextToken]

end GrpcBridge.Theory.Json

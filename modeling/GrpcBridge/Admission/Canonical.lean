/-
# Admission.Canonical -- what the scanner has checked

The scanner sees tokens and the decoder sees a value.  `scan_canonical` puts the
two side by side: when both succeed on the same lexemes they stop at the same
place, and in the value every object at every depth has distinct keys, each its
own lower case (`Canonical`).

The step from tokens to values is a statement about where the decoder stands: its
next token is the one that a state which allows a value finds at the value's
first lexeme, whether or not a comma or a colon is still in front.

`decodeStrictJSON_fuel` says that the bound on the recursion is never met.
-/
import GrpcBridge.Admission.StrictJson

namespace GrpcBridge.Admission

set_option autoImplicit false

open GrpcBridge.Theory.CaseFolding
open GrpcBridge.Theory.Fallible
open GrpcBridge.Theory.Json

/-! ## What a scan that succeeds has done -/

theorem scanJSONValue_ok {fuel : Nat} {decoder after : Decoder} {token : Token}
    (scanned : scanJSONValue (fuel + 1) decoder = .ok (token, after)) :
    (∃ s, decoder.token = .ok (.scalar s, after) ∧ token = .scalar s) ∨
    (∃ inside, decoder.token = .ok (.delim .openObject, inside) ∧
      scanMembers fuel [] inside = .ok after ∧ token = .delim .openObject) ∨
    ∃ inside, decoder.token = .ok (.delim .openArray, inside) ∧
      scanItems fuel inside = .ok after ∧ token = .delim .openArray := by
  unfold scanJSONValue at scanned
  split at scanned
  · cases scanned
  · next s inside taken =>
    cases scanned
    exact .inl ⟨s, taken, rfl⟩
  · next inside taken =>
    obtain ⟨last, body, result⟩ := bind_eq_ok.mp scanned
    cases result
    exact .inr (.inl ⟨inside, taken, body, rfl⟩)
  · next inside taken =>
    obtain ⟨last, body, result⟩ := bind_eq_ok.mp scanned
    cases result
    exact .inr (.inr ⟨inside, taken, body, rfl⟩)
  · cases scanned

theorem scanMembers_ok {fuel : Nat} {seen : List Key} {decoder after : Decoder}
    (scanned : scanMembers (fuel + 1) seen decoder = .ok after) :
    (decoder.more = true ∧ ∃ key colon token next,
      decoder.token = .ok (.scalar (.string key), colon) ∧ lowerText key = key ∧ key ∉ seen ∧
      scanJSONValue fuel colon = .ok (token, next) ∧
      scanMembers fuel (key :: seen) next = .ok after) ∨
    (decoder.more = false ∧ decoder.token = .ok (.delim .closeObject, after)) := by
  unfold scanMembers at scanned
  split at scanned
  · next more =>
    split at scanned
    · cases scanned
    · next key colon taken =>
      split at scanned
      · cases scanned
      · next lower =>
        split at scanned
        · cases scanned
        · next fresh =>
          obtain ⟨⟨token, next⟩, value, others⟩ := bind_eq_ok.mp scanned
          exact .inl ⟨more, key, colon, token, next, taken, not_not.mp lower, fresh, value, others⟩
    · cases scanned
  · next done =>
    split at scanned
    · next taken =>
      cases scanned
      exact .inr ⟨by simpa using done, taken⟩
    · cases scanned

theorem scanItems_ok {fuel : Nat} {decoder after : Decoder}
    (scanned : scanItems (fuel + 1) decoder = .ok after) :
    (decoder.more = true ∧ ∃ token next, scanJSONValue fuel decoder = .ok (token, next) ∧
      scanItems fuel next = .ok after) ∨
    (decoder.more = false ∧ decoder.token = .ok (.delim .closeArray, after)) := by
  unfold scanItems at scanned
  split at scanned
  · next more =>
    obtain ⟨⟨token, next⟩, value, others⟩ := bind_eq_ok.mp scanned
    exact .inl ⟨more, token, next, value, others⟩
  · next done =>
    split at scanned
    · next taken =>
      cases scanned
      exact .inr ⟨by simpa using done, taken⟩
    · cases scanned

/-! ## Where the decoder stands -/

section

variable {state : TokenState} (allowed : state.valueAllowed = true) (stack : List TokenState)
  (rest : List Lexeme)

include allowed

theorem nextToken_scalar (s : Scalar) : nextToken state stack (.scalar s :: rest) =
    scalarToken s >>= fun token => .ok (token, ⟨rest, state.valueEnd, stack⟩) := by
  cases state with
  | topValue | arrayStart | arrayValue | objectValue => cases s <;> rfl
  | arrayComma | objectStart | objectKey | objectColon | objectComma => cases allowed

theorem nextToken_openObject : nextToken state stack (.openObject :: rest) =
    .ok (.delim .openObject, ⟨rest, .objectStart, state :: stack⟩) := by
  simp [nextToken, allowed]

theorem nextToken_openArray : nextToken state stack (.openArray :: rest) =
    .ok (.delim .openArray, ⟨rest, .arrayStart, state :: stack⟩) := by
  simp [nextToken, allowed]

end

theorem parseMembers_start {fuel depth : Nat} {lexemes rest : List Lexeme}
    {members : List (Key × Value)} (parsed : parseMembers fuel depth lexemes = .ok (members, rest)) :
    ∃ key tail, lexemes = .scalar (.string key) :: tail := by
  cases fuel with
  | zero => simp [parseMembers] at parsed
  | succ fuel =>
      obtain ⟨key, inside, _, _, rfl, -⟩ := parseMembers_ok parsed
      exact ⟨key, _, rfl⟩

theorem more_of_parseItems {fuel depth : Nat} {lexemes rest : List Lexeme} {items : List Value}
    (parsed : parseItems fuel depth lexemes = .ok (items, rest)) (state : TokenState)
    (stack : List TokenState) : (⟨lexemes, state, stack⟩ : Decoder).more = true := by
  cases fuel with
  | zero => simp [parseItems] at parsed
  | succ fuel =>
      obtain ⟨value, after, first, -⟩ := parseItems_ok parsed
      cases fuel with
      | zero => simp [parseValue] at first
      | succ fuel =>
          rcases parseValue_ok first with ⟨_, rfl, -⟩ | ⟨rfl, -⟩ | ⟨_, _, rfl, -⟩ | ⟨rfl, -⟩ |
            ⟨_, _, rfl, -⟩
          all_goals rfl

/-! ## Canonical values -/

inductive Canonical : Value → Prop
  | scalar (s : Scalar) : Canonical (.scalar s)
  | array {items : List Value} (all : ∀ v ∈ items, Canonical v) : Canonical (.array items)
  | object {members : List (Key × Value)} (lower : ∀ m ∈ members, lowerText m.1 = m.1)
      (distinct : (members.map Prod.fst).Nodup) (all : ∀ m ∈ members, Canonical m.2) :
      Canonical (.object members)

/-- What the loop over an object has checked of the members that were still to come. -/
def Fresh (seen : List Key) (members : List (Key × Value)) : Prop :=
  (∀ m ∈ members, lowerText m.1 = m.1 ∧ m.1 ∉ seen ∧ Canonical m.2) ∧
    (members.map Prod.fst).Nodup

theorem fresh_cons {seen : List Key} {key : Key} {value : Value} {others : List (Key × Value)}
    (lower : lowerText key = key) (new : key ∉ seen) (canonical : Canonical value)
    (fresh : Fresh (key :: seen) others) : Fresh seen ((key, value) :: others) := by
  constructor
  · intro m inside
    rcases List.mem_cons.mp inside with rfl | inside
    · exact ⟨lower, new, canonical⟩
    · obtain ⟨lower', new', canonical'⟩ := fresh.1 m inside
      exact ⟨lower', fun before => new' (List.mem_cons_of_mem key before), canonical'⟩
  · rw [List.map_cons, List.nodup_cons]
    refine ⟨fun again => ?_, fresh.2⟩
    obtain ⟨m, inside, same⟩ := List.mem_map.mp again
    have new' := (fresh.1 m inside).2.1
    rw [same] at new'
    exact new' List.mem_cons_self

theorem canonical_of_fresh {members : List (Key × Value)} (fresh : Fresh [] members) :
    Canonical (.object members) :=
  .object (fun m inside => (fresh.1 m inside).1) fresh.2 fun m inside => (fresh.1 m inside).2.2

/-! ## The scanner beside the value reader -/

/-- A scan from where a value begins: it stops behind the value, and has checked it. -/
def ScansValue (fuel : Nat) : Prop :=
  ∀ {parseFuel depth : Nat} {lexemes rest : List Lexeme} {value : Value} {decoder after : Decoder}
    {state : TokenState} {stack : List TokenState} {token : Token},
    parseValue parseFuel depth lexemes = .ok (value, rest) → state.valueAllowed = true →
    decoder.token = nextToken state stack lexemes →
    scanJSONValue fuel decoder = .ok (token, after) →
    after = ⟨rest, state.valueEnd, stack⟩ ∧ Canonical value ∧
      (token = .delim .openObject → ∃ members, value = .object members)

/-- The loop over an object, from a key on. -/
def ScansMembers (fuel : Nat) : Prop :=
  ∀ {parseFuel depth : Nat} {key : Key} {tail rest : List Lexeme} {members : List (Key × Value)}
    {seen : List Key} {decoder after : Decoder} {outer : TokenState} {stack : List TokenState},
    parseMembers parseFuel depth (.scalar (.string key) :: tail) = .ok (members, rest) →
    decoder.more = true →
    decoder.token = .ok (.scalar (.string key), ⟨tail, .objectColon, outer :: stack⟩) →
    scanMembers fuel seen decoder = .ok after →
    after = ⟨rest, outer.valueEnd, stack⟩ ∧ Fresh seen members

/-- The loop over an array, from a value on. -/
def ScansItems (fuel : Nat) : Prop :=
  ∀ {parseFuel depth : Nat} {lexemes rest : List Lexeme} {items : List Value}
    {decoder after : Decoder} {state outer : TokenState} {stack : List TokenState},
    parseItems parseFuel depth lexemes = .ok (items, rest) →
    state.valueAllowed = true → state.valueEnd = .arrayComma → decoder.more = true →
    decoder.token = nextToken state (outer :: stack) lexemes →
    scanItems fuel decoder = .ok after →
    after = ⟨rest, outer.valueEnd, stack⟩ ∧ ∀ v ∈ items, Canonical v

/-- An object that ends here. -/
theorem scanMembers_end {fuel : Nat} {seen : List Key} {rest : List Lexeme} {state outer : TokenState}
    {stack : List TokenState} {after : Decoder} (ends : state = .objectStart ∨ state = .objectComma)
    (scanned : scanMembers (fuel + 1) seen ⟨.closeObject :: rest, state, outer :: stack⟩ =
      .ok after) : after = ⟨rest, outer.valueEnd, stack⟩ := by
  obtain ⟨more, -⟩ | ⟨-, taken⟩ := scanMembers_ok scanned
  · cases more
  · simp only [Decoder.token, nextToken, if_pos ends] at taken
    cases taken
    rfl

/-- An array that ends here. -/
theorem scanItems_end {fuel : Nat} {rest : List Lexeme} {state outer : TokenState}
    {stack : List TokenState} {after : Decoder} (ends : state = .arrayStart ∨ state = .arrayComma)
    (scanned : scanItems (fuel + 1) ⟨.closeArray :: rest, state, outer :: stack⟩ = .ok after) :
    after = ⟨rest, outer.valueEnd, stack⟩ := by
  obtain ⟨more, -⟩ | ⟨-, taken⟩ := scanItems_ok scanned
  · cases more
  · simp only [Decoder.token, nextToken, if_pos ends] at taken
    cases taken
    rfl

theorem scansMembers_succ {fuel : Nat} (values : ScansValue fuel) (members : ScansMembers fuel) :
    ScansMembers (fuel + 1) := by
  intro parseFuel depth key tail rest found seen decoder after outer stack parsed more stands scanned
  cases parseFuel with
  | zero => simp [parseMembers] at parsed
  | succ parseFuel =>
      obtain ⟨key', inside, value, behind, same, first, others⟩ := parseMembers_ok parsed
      cases same
      obtain ⟨-, key', colon, token, next, taken, lower, fresh, scannedValue, later⟩ | ⟨done, -⟩ :=
        scanMembers_ok scanned
      · rw [stands] at taken
        cases taken
        obtain ⟨rfl, canonical, -⟩ := values first (rfl : TokenState.objectValue.valueAllowed = true) rfl
          scannedValue
        cases fuel with
        | zero => simp [scanJSONValue] at scannedValue
        | succ fuel =>
            obtain ⟨rfl, rfl⟩ | ⟨more, tail, rfl, parsedTail, rfl⟩ := others
            · refine ⟨scanMembers_end (.inr rfl) later, ?_⟩
              exact fresh_cons lower fresh canonical ⟨by simp, by simp⟩
            · obtain ⟨nextKey, nextTail, rfl⟩ := parseMembers_start parsedTail
              obtain ⟨rfl, rest⟩ := members parsedTail rfl rfl later
              exact ⟨rfl, fresh_cons lower fresh canonical rest⟩
      · rw [more] at done
        cases done

theorem scansItems_succ {fuel : Nat} (values : ScansValue fuel) (items : ScansItems fuel) :
    ScansItems (fuel + 1) := by
  intro parseFuel depth lexemes rest found decoder after state outer stack parsed allowed ends more
    stands scanned
  cases parseFuel with
  | zero => simp [parseItems] at parsed
  | succ parseFuel =>
      obtain ⟨value, behind, first, others⟩ := parseItems_ok parsed
      obtain ⟨-, token, next, scannedValue, later⟩ | ⟨done, -⟩ := scanItems_ok scanned
      · obtain ⟨rfl, canonical, -⟩ := values first allowed stands scannedValue
        rw [ends] at later
        cases fuel with
        | zero => simp [scanJSONValue] at scannedValue
        | succ fuel =>
            obtain ⟨rfl, rfl⟩ | ⟨tail, others, rfl, parsedTail, rfl⟩ := others
            · refine ⟨scanItems_end (.inr rfl) later, fun v inside => ?_⟩
              rw [List.mem_singleton.mp inside]
              exact canonical
            · obtain ⟨rfl, all⟩ := items parsedTail (rfl : TokenState.arrayValue.valueAllowed = true) rfl rfl
                rfl later
              exact ⟨rfl, List.forall_mem_cons.mpr ⟨canonical, all⟩⟩
      · rw [more] at done
        cases done

theorem scanJSONValue_object {fuel : Nat} {decoder inside after : Decoder} {token : Token}
    (stands : decoder.token = .ok (.delim .openObject, inside))
    (scanned : scanJSONValue (fuel + 1) decoder = .ok (token, after)) :
    scanMembers fuel [] inside = .ok after := by
  rcases scanJSONValue_ok scanned with ⟨s, taken, -⟩ | ⟨_, taken, body, -⟩ | ⟨_, taken, body, -⟩
  · rw [stands] at taken
    cases taken
  · rw [stands] at taken
    cases taken
    exact body
  · rw [stands] at taken
    cases taken

theorem scanJSONValue_array {fuel : Nat} {decoder inside after : Decoder} {token : Token}
    (stands : decoder.token = .ok (.delim .openArray, inside))
    (scanned : scanJSONValue (fuel + 1) decoder = .ok (token, after)) :
    scanItems fuel inside = .ok after ∧ token = .delim .openArray := by
  rcases scanJSONValue_ok scanned with ⟨s, taken, -⟩ | ⟨_, taken, body, -⟩ | ⟨_, taken, body, rfl⟩
  · rw [stands] at taken
    cases taken
  · rw [stands] at taken
    cases taken
  · rw [stands] at taken
    cases taken
    exact ⟨body, rfl⟩

theorem scanJSONValue_scalar {fuel : Nat} {decoder behind after : Decoder} {s : Scalar} {token : Token}
    (stands : decoder.token = scalarToken s >>= fun token => .ok (token, behind))
    (scanned : scanJSONValue (fuel + 1) decoder = .ok (token, after)) :
    after = behind ∧ token = .scalar s := by
  have read : ∀ {other : Token} {next : Decoder}, decoder.token = .ok (other, next) →
      other = .scalar s ∧ next = behind := by
    intro other next taken
    rw [stands] at taken
    obtain ⟨made, converted, result⟩ := bind_eq_ok.mp taken
    cases result
    exact ⟨scalarToken_ok converted, rfl⟩
  rcases scanJSONValue_ok scanned with ⟨_, taken, rfl⟩ | ⟨_, taken, -⟩ | ⟨_, taken, -⟩
  · exact ⟨(read taken).2, (read taken).1⟩
  · cases (read taken).1
  · cases (read taken).1

theorem scansValue_succ {fuel : Nat} (members : ScansMembers fuel) (items : ScansItems fuel) :
    ScansValue (fuel + 1) := by
  intro parseFuel depth lexemes rest value decoder after state stack token parsed allowed stands
    scanned
  cases parseFuel with
  | zero => simp [parseValue] at parsed
  | succ parseFuel =>
      rcases parseValue_ok parsed with ⟨s, rfl, rfl⟩ | ⟨rfl, rfl⟩ | ⟨inside, found, rfl, inner, rfl⟩ |
        ⟨rfl, rfl⟩ | ⟨inside, found, rfl, inner, rfl⟩
      · rw [nextToken_scalar allowed] at stands
        obtain ⟨rfl, rfl⟩ := scanJSONValue_scalar stands scanned
        exact ⟨rfl, .scalar s, fun impossible => by cases impossible⟩
      · rw [nextToken_openObject allowed] at stands
        have body := scanJSONValue_object stands scanned
        cases fuel with
        | zero => simp [scanMembers] at body
        | succ fuel =>
            exact ⟨scanMembers_end (.inl rfl) body, canonical_of_fresh ⟨by simp, by simp⟩,
              fun _ => ⟨[], rfl⟩⟩
      · rw [nextToken_openObject allowed] at stands
        have body := scanJSONValue_object stands scanned
        obtain ⟨key, tail, rfl⟩ := parseMembers_start inner
        obtain ⟨rfl, fresh⟩ := members inner rfl rfl body
        exact ⟨rfl, canonical_of_fresh fresh, fun _ => ⟨found, rfl⟩⟩
      · rw [nextToken_openArray allowed] at stands
        obtain ⟨body, rfl⟩ := scanJSONValue_array stands scanned
        cases fuel with
        | zero => simp [scanItems] at body
        | succ fuel =>
            exact ⟨scanItems_end (.inl rfl) body, .array (by simp), fun impossible => by cases impossible⟩
      · rw [nextToken_openArray allowed] at stands
        obtain ⟨body, rfl⟩ := scanJSONValue_array stands scanned
        have more := more_of_parseItems inner .arrayStart (state :: stack)
        obtain ⟨rfl, all⟩ := items inner (rfl : TokenState.arrayStart.valueAllowed = true) rfl more rfl body
        exact ⟨rfl, .array all, fun impossible => by cases impossible⟩

/-- **Two readers of one text.** A scan from where a value begins stops behind that
value and has found it canonical. -/
theorem scan_canonical (fuel : Nat) : ScansValue fuel ∧ ScansMembers fuel ∧ ScansItems fuel := by
  induction fuel with
  | zero =>
      refine ⟨?_, ?_, ?_⟩
      · intro _ _ _ _ _ _ _ _ _ _ _ _ _ scanned
        simp [scanJSONValue] at scanned
      · intro _ _ _ _ _ _ _ _ _ _ _ _ _ _ scanned
        simp [scanMembers] at scanned
      · intro _ _ _ _ _ _ _ _ _ _ _ _ _ _ _ scanned
        simp [scanItems] at scanned
  | succ fuel ih =>
      obtain ⟨values, members, items⟩ := ih
      exact ⟨scansValue_succ members items, scansMembers_succ values members,
        scansItems_succ values items⟩

/-! ## The fuel -/

theorem token_shrinks {decoder after : Decoder} {token : Token}
    (taken : decoder.token = .ok (token, after)) :
    after.lexemes.length < decoder.lexemes.length :=
  nextToken_shrinks taken

/-- A scan that succeeds has consumed a lexeme. -/
theorem scan_shrinks (fuel : Nat) :
    (∀ decoder token after, scanJSONValue fuel decoder = .ok (token, after) →
      after.lexemes.length < decoder.lexemes.length) ∧
    (∀ seen decoder after, scanMembers fuel seen decoder = .ok after →
      after.lexemes.length < decoder.lexemes.length) ∧
    (∀ decoder after, scanItems fuel decoder = .ok after →
      after.lexemes.length < decoder.lexemes.length) := by
  induction fuel with
  | zero => simp [scanJSONValue, scanMembers, scanItems]
  | succ fuel ih =>
      obtain ⟨values, members, items⟩ := ih
      refine ⟨?_, ?_, ?_⟩
      · intro decoder token after scanned
        rcases scanJSONValue_ok scanned with ⟨s, taken, -⟩ | ⟨inside, taken, body, -⟩ |
          ⟨inside, taken, body, -⟩
        · exact token_shrinks taken
        · exact Nat.lt_trans (members _ _ _ body) (token_shrinks taken)
        · exact Nat.lt_trans (items _ _ body) (token_shrinks taken)
      · intro seen decoder after scanned
        obtain ⟨-, key, colon, token, next, taken, -, -, value, others⟩ | ⟨-, taken⟩ :=
          scanMembers_ok scanned
        · have first := token_shrinks taken
          have second := values _ _ _ value
          have third := members _ _ _ others
          omega
        · exact token_shrinks taken
      · intro decoder after scanned
        obtain ⟨-, token, next, value, others⟩ | ⟨-, taken⟩ := scanItems_ok scanned
        · exact Nat.lt_trans (items _ _ others) (values _ _ _ value)
        · exact token_shrinks taken

theorem scan_fuel (fuel : Nat) :
    (∀ decoder : Decoder, 2 * decoder.lexemes.length < fuel →
      scanJSONValue fuel decoder ≠ .error (.json .outOfFuel)) ∧
    (∀ seen, ∀ decoder : Decoder, 2 * decoder.lexemes.length < fuel →
      scanMembers fuel seen decoder ≠ .error (.json .outOfFuel)) ∧
    (∀ decoder : Decoder, 2 * decoder.lexemes.length + 1 < fuel →
      scanItems fuel decoder ≠ .error (.json .outOfFuel)) := by
  induction fuel with
  | zero => simp
  | succ fuel ih =>
      obtain ⟨values, members, items⟩ := ih
      have shrinks := scan_shrinks fuel
      have raised : ∀ {decoder : Decoder} {fault : Fault}, decoder.token = .error fault →
          (.json fault : Rejection) ≠ .json .outOfFuel := by
        intro decoder fault failed same
        cases same
        exact nextToken_fuel _ _ _ failed
      refine ⟨?_, ?_, ?_⟩
      · intro decoder enough
        unfold scanJSONValue
        split
        · next failed => exact fun same => raised failed (Except.error.inj same)
        · simp
        · next taken =>
          have shorter := token_shrinks taken
          exact bind_ne_error (members _ _ (by omega)) (by simp)
        · next taken =>
          have shorter := token_shrinks taken
          exact bind_ne_error (items _ (by omega)) (by simp)
        · simp
      · intro seen decoder enough
        unfold scanMembers
        split
        · split
          · next failed => exact fun same => raised failed (Except.error.inj same)
          · next taken =>
            have shorter := token_shrinks taken
            split
            · simp
            · split
              · simp
              · apply bind_ne_error (values _ (by omega))
                rintro ⟨token, next⟩ value
                have shortest := shrinks.1 _ _ _ value
                exact members _ _ (by omega)
          · simp
        · split
          · simp
          · simp
      · intro decoder enough
        unfold scanItems
        split
        · apply bind_ne_error (values _ (by omega))
          rintro ⟨token, next⟩ value
          have shorter := shrinks.1 _ _ _ value
          exact items _ (by omega)
        · split
          · simp
          · simp

theorem decode_fuel (decoder : Decoder) : decoder.decode ≠ .error .outOfFuel := by
  unfold Decoder.decode
  split
  · simp
  · exact bind_ne_error ((parse_fuel _).1 _ _ (by omega)) (by simp)

/-- **The fuel suffices.** No text is refused because the recursion is cut off, if the
destination's own method does not say so. -/
theorem decodeStrictJSON_fuel {σ : Type} {unmarshal : Value → Except Fault σ}
    (settles : ∀ value, unmarshal value ≠ .error .outOfFuel) (data : List UInt8) :
    decodeStrictJSON unmarshal data ≠ .error (.json .outOfFuel) := by
  have lifted : ∀ {α : Type} {result : Except Fault α}, result ≠ .error .outOfFuel →
      liftFault result ≠ .error (.json .outOfFuel) := by
    intro α result fine
    cases result with
    | ok a => simp [liftFault]
    | error fault =>
        intro same
        cases same
        exact fine rfl
  unfold decodeStrictJSON
  split
  · simp
  · next text read =>
    apply bind_ne_error ((scan_fuel _).1 _ (by omega))
    rintro ⟨root, decoder⟩ -
    dsimp only
    split
    · simp
    · split
      · apply bind_ne_error (lifted (decode_fuel _))
        rintro ⟨value, decoder⟩ -
        apply bind_ne_error (lifted (settles value))
        rintro record -
        dsimp only
        split
        · simp
        · simp
      · simp

/-! ## Accepted texts -/

/-- The value that a text is, whatever comes after it. -/
def document (data : List UInt8) : Option Value :=
  match runes data with
  | none => none
  | some text =>
      match (newDecoder text).decode with
      | .ok (value, _) => some value
      | .error _ => none

/-- What an accepted text has been through. -/
theorem decodeStrictJSON_ok {σ : Type} {unmarshal : Value → Except Fault σ} {data : List UInt8}
    {record : σ} (accepted : decodeStrictJSON unmarshal data = .ok record) :
    ∃ members, document data = some (.object members) ∧ Canonical (.object members) ∧
      unmarshal (.object members) = .ok record := by
  unfold decodeStrictJSON at accepted
  split at accepted
  · cases accepted
  · next text read =>
    obtain ⟨⟨root, scanned⟩, scan, accepted⟩ := bind_eq_ok.mp accepted
    dsimp only at accepted
    split at accepted
    · cases accepted
    · next object =>
      split at accepted
      · obtain ⟨⟨value, behind⟩, decoded, accepted⟩ := bind_eq_ok.mp accepted
        obtain ⟨record', unmarshaled, accepted⟩ := bind_eq_ok.mp accepted
        have taken : (newDecoder text).decode = .ok (value, behind) := by
          cases result : (newDecoder text).decode with
          | error fault => simp [result, liftFault] at decoded
          | ok read => simpa [result, liftFault] using decoded
        have settled : unmarshal value = .ok record := by
          dsimp only at accepted
          split at accepted
          · cases result : unmarshal value with
            | error fault => simp [result, liftFault] at unmarshaled
            | ok made =>
                simp only [result, liftFault, Except.ok.injEq] at unmarshaled accepted
                rw [unmarshaled, accepted]
          · cases accepted
        have parsed : ∃ fuel rest, parseValue fuel 0 (lex text) = .ok (value, rest) := by
          have read := taken
          unfold Decoder.decode at read
          split at read
          · cases read
          · obtain ⟨⟨found, rest⟩, parsed, result⟩ := bind_eq_ok.mp read
            cases result
            exact ⟨_, rest, parsed⟩
        obtain ⟨fuel, rest, parsed⟩ := parsed
        obtain ⟨-, canonical, shape⟩ := (scan_canonical _).1 parsed
          (rfl : TokenState.topValue.valueAllowed = true) (rfl : (newDecoder text).token = _) scan
        obtain ⟨members, rfl⟩ := shape (not_not.mp object)
        refine ⟨members, ?_, canonical, settled⟩
        simp [document, read, taken]
      · cases accepted

end GrpcBridge.Admission

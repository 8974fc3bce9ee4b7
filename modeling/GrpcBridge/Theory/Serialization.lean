/-
# Theory.Serialization -- the JSON text of a JavaScript value

`JSON.stringify` on the values that `JSON.parse` makes.  Strings are sequences of UTF-16
code units, whether or not their surrogates are in pairs.  An object is its members in the
order in which they were made.

`serialize` writes the members of an object in the order in which it finds them.
`stringify` orders them first as `Object.keys` does: array indices in ascending order, then
the other keys as they were made.

The text determines the value (`serialize_injective`), but for the number -0, which is
written as 0.  It is read from its front: where one value ends and what follows it is the
same however the text came about.
-/
import GrpcBridge.Theory.NumberText

namespace GrpcBridge.Theory.Serialization

set_option autoImplicit false

/-! ## Strings -/

def quotationMark : UInt16 := unit '"'

def backslash : UInt16 := unit '\\'

/-- The units that are escaped by a letter or a sign of their own. -/
def escapes : List (UInt16 × UInt16) :=
  [(8, unit 'b'), (9, unit 't'), (10, unit 'n'), (12, unit 'f'), (13, unit 'r'),
    (quotationMark, quotationMark), (backslash, backslash)]

def hexDigit (n : Nat) : UInt16 := UInt16.ofNat (if n < 10 then 48 + n else 87 + n)

/-- `UnicodeEscape` -/
def unicodeEscape (u : UInt16) : Text :=
  [backslash, unit 'u', hexDigit (u.toNat / 4096), hexDigit (u.toNat / 256 % 16),
    hexDigit (u.toNat / 16 % 16), hexDigit (u.toNat % 16)]

def isLead (u : UInt16) : Bool := 0xD800 ≤ u && u ≤ 0xDBFF

def isTrail (u : UInt16) : Bool := 0xDC00 ≤ u && u ≤ 0xDFFF

/-- A unit that is not in a pair of surrogates. -/
def quoteUnit (u : UInt16) : Text :=
  match escapes.lookup u with
  | some c => [backslash, c]
  | none => if u < 0x20 || isLead u || isTrail u then unicodeEscape u else [u]

/-- The inside of `QuoteJSONString`. -/
def quoteUnits : Text → Text
  | [] => []
  | [u] => quoteUnit u
  | u :: t :: rest =>
      if isLead u && isTrail t then u :: t :: quoteUnits rest
      else quoteUnit u ++ quoteUnits (t :: rest)

/-- `QuoteJSONString` -/
def quote (s : Text) : Text := quotationMark :: (quoteUnits s ++ [quotationMark])

/-! ## Reading a string back -/

def unhex (u : UInt16) : Nat := if u.toNat < 58 then u.toNat - 48 else u.toNat - 87

/-- A quoted string from behind its first quotation mark: its units, and what follows. -/
def unquote : Text → Option (Text × Text)
  | [] => none
  | u :: rest =>
      if u = quotationMark then some ([], rest)
      else if u = backslash then
        match rest with
        | [] => none
        | c :: rest =>
            if c = unit 'u' then
              match rest with
              | a :: b :: c :: d :: rest =>
                  (unquote rest).map fun read =>
                    (UInt16.ofNat (unhex a * 4096 + unhex b * 256 + unhex c * 16 + unhex d) ::
                      read.1, read.2)
              | _ => none
            else
              (unquote rest).map fun read =>
                (((escapes.find? fun entry => entry.2 = c).map Prod.fst).getD c :: read.1, read.2)
      else (unquote rest).map fun read => (u :: read.1, read.2)

theorem unhex_hexDigit {n : Nat} (small : n < 16) : unhex (hexDigit n) = n := by
  revert n
  decide

theorem unquote_raw {u : UInt16} (mark : u ≠ quotationMark) (slash : u ≠ backslash) (rest : Text) :
    unquote (u :: rest) = (unquote rest).map fun read => (u :: read.1, read.2) := by
  rw [unquote.eq_def]
  dsimp only
  rw [if_neg mark, if_neg slash]

theorem unquote_unicode (u : UInt16) (rest : Text) :
    unquote (unicodeEscape u ++ rest) = (unquote rest).map fun read => (u :: read.1, read.2) := by
  have small := u.toNat_lt
  have same : u.toNat / 4096 * 4096 + u.toNat / 256 % 16 * 256 + u.toNat / 16 % 16 * 16 +
      u.toNat % 16 = u.toNat := by omega
  simp only [unicodeEscape, List.cons_append, List.nil_append]
  rw [unquote.eq_def]
  dsimp only
  rw [if_neg (by decide), if_pos rfl, if_pos rfl, unhex_hexDigit (by omega),
    unhex_hexDigit (by omega), unhex_hexDigit (by omega), unhex_hexDigit (by omega), same,
    UInt16.ofNat_toNat]

/-- An escape is read back as what it stands for. -/
theorem escapes_back {u c : UInt16} (member : (u, c) ∈ escapes) :
    c ≠ unit 'u' ∧ ((escapes.find? fun other => other.2 = c).map Prod.fst).getD c = u := by
  have all : (escapes.all fun entry => entry.2 ≠ unit 'u' &&
      ((escapes.find? fun other => other.2 = entry.2).map Prod.fst).getD entry.2 = entry.1) =
        true := by decide
  have here := List.all_eq_true.1 all (u, c) member
  rwa [Bool.and_eq_true, decide_eq_true_eq, decide_eq_true_eq] at here

theorem unquote_escape {u c : UInt16} (escaped : escapes.lookup u = some c) (rest : Text) :
    unquote (backslash :: c :: rest) =
      (unquote rest).map fun read => (u :: read.1, read.2) := by
  have member : (u, c) ∈ escapes := by
    obtain ⟨before, after, split, _⟩ := List.lookup_eq_some_iff.1 escaped
    rw [split]
    exact List.mem_append_right _ List.mem_cons_self
  obtain ⟨letter, back⟩ := escapes_back member
  rw [unquote.eq_def]
  dsimp only
  rw [if_neg (by decide), if_pos rfl, if_neg letter, back]

theorem unquote_quoteUnit (u : UInt16) (rest : Text) :
    unquote (quoteUnit u ++ rest) = (unquote rest).map fun read => (u :: read.1, read.2) := by
  unfold quoteUnit
  split
  · rename_i c escaped
    exact unquote_escape escaped rest
  · rename_i plain
    split
    · exact unquote_unicode u rest
    · have mark : u ≠ quotationMark := by
        rintro rfl
        exact absurd plain (by decide)
      have slash : u ≠ backslash := by
        rintro rfl
        exact absurd plain (by decide)
      rw [List.singleton_append, unquote_raw mark slash]

theorem surrogate_ne {u : UInt16} (high : 0xD800 ≤ u) : u ≠ quotationMark ∧ u ≠ backslash := by
  refine ⟨?_, ?_⟩ <;> rintro rfl <;> revert high <;> decide

theorem unquote_quoteUnits (s rest : Text) :
    unquote (quoteUnits s ++ quotationMark :: rest) = some (s, rest) := by
  fun_induction quoteUnits s with
  | case1 =>
      rw [List.nil_append, unquote.eq_def]
      exact if_pos rfl
  | case2 u =>
      rw [unquote_quoteUnit, unquote.eq_def]
      rfl
  | case3 u t more pair ih =>
      obtain ⟨lead, trail⟩ := Bool.and_eq_true_iff.1 pair
      have high : 0xD800 ≤ u := of_decide_eq_true (Bool.and_eq_true_iff.1 lead).1
      have high' : 0xD800 ≤ t := UInt16.le_trans (by decide)
        (of_decide_eq_true (Bool.and_eq_true_iff.1 trail).1)
      rw [List.cons_append, List.cons_append, unquote_raw (surrogate_ne high).1 (surrogate_ne high).2,
        unquote_raw (surrogate_ne high').1 (surrogate_ne high').2, ih]
      rfl
  | case4 u t more single ih =>
      rw [List.append_assoc, unquote_quoteUnit, ih]
      rfl

/-- A quoted string ends where it ends. -/
theorem quote_splits {s s' r r' : Text} (same : quote s ++ r = quote s' ++ r') :
    s = s' ∧ r = r' := by
  have inside : quoteUnits s ++ quotationMark :: r = quoteUnits s' ++ quotationMark :: r' := by
    simpa [quote] using same
  have read := congrArg unquote inside
  rw [unquote_quoteUnits, unquote_quoteUnits] at read
  exact Prod.mk.inj (Option.some.inj read)

/-! ## Values -/

inductive Value where
  | null
  | bool (b : Bool)
  | number (x : Number)
  | string (s : Text)
  | array (items : List Value)
  | object (members : List (Text × Value))
deriving Repr

mutual

def serialize : Value → Text
  | .null => literal "null"
  | .bool b => literal (if b then "true" else "false")
  | .number x => x.toText
  | .string s => quote s
  | .array [] => [unit '[', unit ']']
  | .array (item :: items) => unit '[' :: (serialize item ++ serializeItems items)
  | .object [] => [unit '\x7b', unit '\x7d']
  | .object ((key, value) :: members) =>
      unit '\x7b' :: (quote key ++ unit ':' :: (serialize value ++ serializeMembers members))

/-- The items after the first, and the end of their array. -/
def serializeItems : List Value → Text
  | [] => [unit ']']
  | item :: items => unit ',' :: (serialize item ++ serializeItems items)

/-- The members after the first, and the end of their object. -/
def serializeMembers : List (Text × Value) → Text
  | [] => [unit '\x7d']
  | (key, value) :: members =>
      unit ',' :: (quote key ++ unit ':' :: (serialize value ++ serializeMembers members))

end

mutual

/-- The number -0 is nowhere in it. -/
def Value.Plain : Value → Prop
  | .null | .bool _ | .string _ => True
  | .number x => x ≠ .negativeZero
  | .array items => PlainItems items
  | .object members => PlainMembers members

def PlainItems : List Value → Prop
  | [] => True
  | item :: items => item.Plain ∧ PlainItems items

def PlainMembers : List (Text × Value) → Prop
  | [] => True
  | (_, value) :: members => value.Plain ∧ PlainMembers members

end

/-! ## Own keys -/

/-- The array index that a key is. -/
def arrayIndex (key : Text) : Option Nat :=
  let n := readNatural key
  if key = naturalText n ∧ n < 2 ^ 32 - 1 then some n else none

/-- `OrdinaryOwnPropertyKeys`: the array indices in ascending order, then the other keys. -/
def ownOrder {α : Type} (members : List (Text × α)) : List (Text × α) :=
  (members.filter fun m => (arrayIndex m.1).isSome).mergeSort
      (fun m n => (arrayIndex m.1).getD 0 ≤ (arrayIndex n.1).getD 0) ++
    members.filter fun m => !(arrayIndex m.1).isSome

theorem ownOrder_perm {α : Type} (members : List (Text × α)) :
    (ownOrder members).Perm members :=
  ((List.mergeSort_perm _ _).append_right _).trans (List.filter_append_perm _ _)

mutual

def inOwnOrder : Value → Value
  | .array items => .array (itemsInOwnOrder items)
  | .object members => .object (ownOrder (membersInOwnOrder members))
  | value => value

def itemsInOwnOrder : List Value → List Value
  | [] => []
  | item :: items => inOwnOrder item :: itemsInOwnOrder items

def membersInOwnOrder : List (Text × Value) → List (Text × Value)
  | [] => []
  | (key, value) :: members => (key, inOwnOrder value) :: membersInOwnOrder members

end

/-- `JSON.stringify` -/
def stringify (value : Value) : Text := serialize (inOwnOrder value)

/-! ## The text determines the value -/

/-- What the first unit of a text says about its value. -/
def kindOf (u : UInt16) : Nat :=
  if u = unit 'n' then 0
  else if u = unit 't' then 1
  else if u = unit 'f' then 2
  else if u = quotationMark then 3
  else if u = unit '[' then 4
  else if u = unit '\x7b' then 5
  else if isDigit u || u = unit '-' then 6
  else 7

def Value.kind : Value → Nat
  | .null => 0
  | .bool b => if b then 1 else 2
  | .string _ => 3
  | .array _ => 4
  | .object _ => 5
  | .number _ => 6

theorem kindOf_digit {d : UInt16} (digit : isDigit d = true ∨ d = unit '-') : kindOf d = 6 := by
  have other : ∀ u : UInt16, isDigit u = false → u ≠ unit '-' → d ≠ u := by
    rintro u none sign rfl
    obtain digit | minus := digit
    · rw [none] at digit
      cases digit
    · exact sign minus
  have numeric : (isDigit d || decide (d = unit '-')) = true := by
    rw [Bool.or_eq_true_iff, decide_eq_true_eq]
    exact digit
  unfold kindOf
  rw [if_neg (other _ (by decide) (by decide)), if_neg (other _ (by decide) (by decide)),
    if_neg (other _ (by decide) (by decide)), if_neg (other _ (by decide) (by decide)),
    if_neg (other _ (by decide) (by decide)), if_neg (other _ (by decide) (by decide)),
    if_pos numeric]

theorem serialize_kind (a : Value) : ∃ u rest, serialize a = u :: rest ∧ kindOf u = a.kind := by
  match a with
  | .null => exact ⟨_, _, rfl, by decide⟩
  | .bool true => exact ⟨_, _, rfl, by decide⟩
  | .bool false => exact ⟨_, _, rfl, by decide⟩
  | .string s => exact ⟨_, _, rfl, (by decide : kindOf quotationMark = 3)⟩
  | .array [] => exact ⟨_, _, rfl, by decide⟩
  | .array (item :: items) =>
      exact ⟨unit '[', _, by rw [serialize], (by decide : kindOf (unit '[') = 4)⟩
  | .object [] => exact ⟨_, _, rfl, by decide⟩
  | .object ((key, value) :: members) =>
      exact ⟨unit '\x7b', _, by rw [serialize], (by decide : kindOf (unit '\x7b') = 5)⟩
  | .number x =>
      obtain ⟨d, rest, text, digit⟩ := x.toText_head
      exact ⟨d, rest, by rw [serialize, text], kindOf_digit digit⟩

theorem same_kind {a b : Value} {r r' : Text} (same : serialize a ++ r = serialize b ++ r') :
    a.kind = b.kind := by
  obtain ⟨u, rest, text, kind⟩ := serialize_kind a
  obtain ⟨u', rest', text', kind'⟩ := serialize_kind b
  rw [text, text', List.cons_append, List.cons_append] at same
  rw [← kind, ← kind', (List.cons.inj same).1]

theorem Value.kind_lt (a : Value) : a.kind < 7 := by
  cases a with
  | bool b => cases b <;> simp [kind]
  | _ => simp [kind]

/-- A value does not begin as an array or an object ends. -/
theorem serialize_ne {a : Value} {u : UInt16} {r r' : Text} (other : kindOf u = 7) :
    serialize a ++ r ≠ u :: r' := by
  intro same
  obtain ⟨first, rest, text, kind⟩ := serialize_kind a
  rw [text, List.cons_append] at same
  have small := a.kind_lt
  rw [← kind, (List.cons.inj same).1, other] at small
  exact absurd small (by decide)

/-- What may stand behind a value: the text of a number does not go on there. -/
def Stops (r : Text) : Prop := ∀ u, r.head? = some u → isNumeric u = false

theorem serializeItems_stops (items : List Value) (r : Text) : Stops (serializeItems items ++ r) := by
  cases items with
  | nil =>
      rintro u ⟨⟩
      decide
  | cons item items =>
      rw [serializeItems]
      rintro u ⟨⟩
      decide

theorem serializeMembers_stops (members : List (Text × Value)) (r : Text) :
    Stops (serializeMembers members ++ r) := by
  cases members with
  | nil =>
      rintro u ⟨⟩
      decide
  | cons member members =>
      rw [serializeMembers]
      rintro u ⟨⟩
      decide

theorem number_splits {x y : Number} {r r' : Text} (stops : Stops r) (stops' : Stops r')
    (same : x.toText ++ r = y.toText ++ r') : x.toText = y.toText ∧ r = r' := by
  obtain ⟨front, back⟩ := split_while _ _ x.toText_numeric stops
  obtain ⟨front', back'⟩ := split_while _ _ y.toText_numeric stops'
  rw [same] at front back
  exact ⟨front.symm.trans front', back.symm.trans back'⟩

mutual

/-- **A value ends where it ends.**  The text of a value in front of something else
determines the value and what follows. -/
theorem serialize_splits (a b : Value) {r r' : Text} (plain : a.Plain) (plain' : b.Plain)
    (stops : Stops r) (stops' : Stops r') (same : serialize a ++ r = serialize b ++ r') :
    a = b ∧ r = r' := by
  have kinds := same_kind same
  match a, b with
  | .null, .null => exact ⟨rfl, List.append_cancel_left same⟩
  | .bool true, .bool true => exact ⟨rfl, List.append_cancel_left same⟩
  | .bool false, .bool false => exact ⟨rfl, List.append_cancel_left same⟩
  | .number x, .number y =>
      obtain ⟨text, rest⟩ := number_splits stops stops' same
      exact ⟨congrArg _ (Number.toText_injective plain plain' text), rest⟩
  | .string s, .string s' =>
      obtain ⟨rfl, rest⟩ := quote_splits same
      exact ⟨rfl, rest⟩
  | .array [], .array [] => exact ⟨rfl, List.append_cancel_left same⟩
  | .array (item :: items), .array (item' :: items') =>
      simp only [serialize, List.cons_append, List.append_assoc, List.cons.injEq, true_and] at same
      simp only [Value.Plain, PlainItems] at plain plain'
      obtain ⟨rfl, rest⟩ := serialize_splits item item' plain.1 plain'.1
        (serializeItems_stops items r) (serializeItems_stops items' r') same
      obtain ⟨rfl, ends⟩ := items_splits items items' plain.2 plain'.2 rest
      exact ⟨rfl, ends⟩
  | .array [], .array (item' :: items') =>
      simp only [serialize, List.cons_append, List.append_assoc, List.cons.injEq, true_and] at same
      exact absurd same.symm (serialize_ne (by decide))
  | .array (item :: items), .array [] =>
      simp only [serialize, List.cons_append, List.append_assoc, List.cons.injEq, true_and] at same
      exact absurd same (serialize_ne (by decide))
  | .object [], .object [] => exact ⟨rfl, List.append_cancel_left same⟩
  | .object ((key, value) :: members), .object ((key', value') :: members') =>
      simp only [serialize, List.cons_append, List.append_assoc, List.cons.injEq, true_and] at same
      simp only [Value.Plain, PlainMembers] at plain plain'
      obtain ⟨rfl, behind⟩ := quote_splits same
      obtain ⟨rfl, rest⟩ := serialize_splits value value' plain.1 plain'.1
        (serializeMembers_stops members r) (serializeMembers_stops members' r')
        (List.cons.inj behind).2
      obtain ⟨rfl, ends⟩ := members_splits members members' plain.2 plain'.2 rest
      exact ⟨rfl, ends⟩
  | .object [], .object ((key', value') :: members') =>
      simp only [serialize, quote, List.cons_append, List.cons.injEq, true_and] at same
      exact absurd same.1 (by decide)
  | .object ((key, value) :: members), .object [] =>
      simp only [serialize, quote, List.cons_append, List.cons.injEq, true_and] at same
      exact absurd same.1 (by decide)

theorem items_splits (items items' : List Value) {r r' : Text} (plain : PlainItems items)
    (plain' : PlainItems items')
    (same : serializeItems items ++ r = serializeItems items' ++ r') :
    items = items' ∧ r = r' := by
  match items, items' with
  | [], [] => exact ⟨rfl, List.append_cancel_left same⟩
  | item :: items, item' :: items' =>
      simp only [serializeItems, List.cons_append, List.append_assoc, List.cons.injEq,
        true_and] at same
      simp only [PlainItems] at plain plain'
      obtain ⟨rfl, rest⟩ := serialize_splits item item' plain.1 plain'.1
        (serializeItems_stops items r) (serializeItems_stops items' r') same
      obtain ⟨rfl, ends⟩ := items_splits items items' plain.2 plain'.2 rest
      exact ⟨rfl, ends⟩
  | [], item' :: items' =>
      simp only [serializeItems, List.cons_append, List.cons.injEq] at same
      exact absurd same.1 (by decide)
  | item :: items, [] =>
      simp only [serializeItems, List.cons_append, List.cons.injEq] at same
      exact absurd same.1 (by decide)

theorem members_splits (members members' : List (Text × Value)) {r r' : Text}
    (plain : PlainMembers members) (plain' : PlainMembers members')
    (same : serializeMembers members ++ r = serializeMembers members' ++ r') :
    members = members' ∧ r = r' := by
  match members, members' with
  | [], [] => exact ⟨rfl, List.append_cancel_left same⟩
  | (key, value) :: members, (key', value') :: members' =>
      simp only [serializeMembers, List.cons_append, List.append_assoc, List.cons.injEq,
        true_and] at same
      simp only [PlainMembers] at plain plain'
      obtain ⟨rfl, behind⟩ := quote_splits same
      obtain ⟨rfl, rest⟩ := serialize_splits value value' plain.1 plain'.1
        (serializeMembers_stops members r) (serializeMembers_stops members' r')
        (List.cons.inj behind).2
      obtain ⟨rfl, ends⟩ := members_splits members members' plain.2 plain'.2 rest
      exact ⟨rfl, ends⟩
  | [], (key', value') :: members' =>
      simp only [serializeMembers, List.cons_append, List.cons.injEq] at same
      exact absurd same.1 (by decide)
  | (key, value) :: members, [] =>
      simp only [serializeMembers, List.cons_append, List.cons.injEq] at same
      exact absurd same.1 (by decide)

end

/-- The text of a value determines it. -/
theorem serialize_injective {a b : Value} (plain : a.Plain) (plain' : b.Plain)
    (same : serialize a = serialize b) : a = b := by
  have nothing : Stops [] := by rintro u ⟨⟩
  exact (serialize_splits a b plain plain' nothing nothing (congrArg (· ++ []) same)).1

end GrpcBridge.Theory.Serialization

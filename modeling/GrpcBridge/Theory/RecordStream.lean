/-
# Theory.RecordStream -- records with a fixed header and a measured body

A byte string is read as records one after the other: `width` header bytes, which
either say how long the body is or are refused, and then the body.  `parse` is the
reader that has the whole string in front of it.  It says where it stopped: at the
end of a record, inside one, or at a header it refused.

`parseBody` is the same reader standing behind a header, which is where an
incremental reader can also find itself.
-/
import Mathlib.Data.List.Basic

namespace GrpcBridge.Theory.RecordStream

set_option autoImplicit false

variable {ε : Type}

/-- How a string ends for its reader. -/
inductive Ending (ε : Type) where
  | clean
  | truncated
  | refused (error : ε)
deriving DecidableEq, Repr

/-- A header of at least one byte, and what it says about the body. -/
structure Format (ε : Type) where
  width : Nat
  measure : List UInt8 → Except ε Nat
  width_pos : 0 < width

namespace Format

variable (format : Format ε)

/-- The records of a whole string, and how it ends. -/
def parse (bytes : List UInt8) : List (List UInt8) × Ending ε :=
  if bytes = [] then ([], .clean)
  else if bytes.length < format.width then ([], .truncated)
  else
    match format.measure (bytes.take format.width) with
    | .error e => ([], .refused e)
    | .ok length =>
        let body := bytes.drop format.width
        if body.length < length then ([], .truncated)
        else
          let (records, ending) := parse (body.drop length)
          (body.take length :: records, ending)
termination_by bytes.length
decreasing_by
  have positive := format.width_pos
  simp only [List.length_drop]
  omega

/-- What follows a header that announced `length` bytes. -/
def parseBody (length : Nat) (bytes : List UInt8) : List (List UInt8) × Ending ε :=
  if bytes.length < length then ([], .truncated)
  else
    let (records, ending) := format.parse (bytes.drop length)
    (bytes.take length :: records, ending)

variable {format}

@[simp] theorem parse_nil : format.parse [] = ([], .clean) := by
  rw [parse, if_pos rfl]

theorem parse_short {bytes : List UInt8} (some : bytes ≠ [])
    (short : bytes.length < format.width) : format.parse bytes = ([], .truncated) := by
  rw [parse, if_neg some, if_pos short]

section Header

variable {header : List UInt8} (rest : List UInt8) (whole : header.length = format.width)

include whole

theorem parse_header :
    format.parse (header ++ rest) =
      match format.measure header with
      | .error e => ([], .refused e)
      | .ok length => format.parseBody length rest := by
  have positive := format.width_pos
  have nonempty : header ++ rest ≠ [] := by
    intro empty
    have length := congrArg List.length empty
    rw [List.length_append, List.length_nil] at length
    omega
  have long : ¬ (header ++ rest).length < format.width := by
    rw [List.length_append]
    omega
  rw [parse, if_neg nonempty, if_neg long, ← whole, List.take_left, List.drop_left]
  rfl

theorem parse_refused {error : ε} (refused : format.measure header = .error error) :
    format.parse (header ++ rest) = ([], .refused error) := by
  rw [parse_header rest whole, refused]

theorem parse_measured {length : Nat} (measured : format.measure header = .ok length) :
    format.parse (header ++ rest) = format.parseBody length rest := by
  rw [parse_header rest whole, measured]

end Header

theorem parseBody_short {length : Nat} {bytes : List UInt8} (short : bytes.length < length) :
    format.parseBody length bytes = ([], .truncated) := by
  rw [parseBody, if_pos short]

theorem parseBody_whole (body rest : List UInt8) :
    format.parseBody body.length (body ++ rest) =
      (body :: (format.parse rest).1, (format.parse rest).2) := by
  rw [parseBody, if_neg (by simp), List.take_left, List.drop_left]

/-- A string that is read to its end is empty, or begins with a whole record. -/
theorem parse_clean_cases {bytes : List UInt8} {records : List (List UInt8)}
    (clean : format.parse bytes = (records, .clean)) :
    bytes = [] ∧ records = [] ∨
      ∃ header body rest later, bytes = header ++ (body ++ rest) ∧ records = body :: later ∧
        header.length = format.width ∧ format.measure header = .ok body.length ∧
        format.parse rest = (later, .clean) := by
  rw [parse] at clean
  split at clean
  · rename_i empty
    cases clean
    exact .inl ⟨empty, rfl⟩
  · split at clean
    · cases clean
    · rename_i long
      split at clean
      · cases clean
      · rename_i length measured
        dsimp only at clean
        split at clean
        · cases clean
        · rename_i enough
          obtain ⟨first, ended⟩ := Prod.mk.inj clean
          have taken : ((bytes.drop format.width).take length).length = length := by
            rw [List.length_take]
            omega
          refine .inr ⟨bytes.take format.width, (bytes.drop format.width).take length,
            (bytes.drop format.width).drop length, _, ?_, first.symm, ?_, ?_, ?_⟩
          · rw [List.take_append_drop, List.take_append_drop]
          · rw [List.length_take]
            omega
          · rw [taken, measured]
          · rw [← ended]

end Format

end GrpcBridge.Theory.RecordStream

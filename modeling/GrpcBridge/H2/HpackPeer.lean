/-
# H2.HpackPeer -- the decoder behind any peer

The peer of a connection has an encoder of its own: it keeps a dynamic table of octet
strings, measured in octets, and chooses freely between indexes, literals and size updates.
`Peer.send` is that side: what it means by a representation, if it may send it at all.

The decoder keeps strings, which it measures in UTF-16 code units, so its entries are never
heavier than the peer's and its table may hold more.  The table of the peer is always the
beginning of it (`Sync`), which is all that an index can name.  So every header list of the
connection is read as the peer meant it, octets that are no UTF-8 aside
(`decodeBlocks_peer`).
-/
import GrpcBridge.H2.HpackRoundTrip

namespace GrpcBridge.H2

open GrpcBridge.Theory
open GrpcBridge.Theory.Eviction

set_option autoImplicit false

/-! ## The peer -/

/-- A field as octets. -/
abbrev OctetEntry := Bytes × Bytes

def octetSize (e : OctetEntry) : Nat := e.1.length + e.2.length + 32

def octetsOf (entry : HeaderEntry) : OctetEntry := (encodeUtf8 entry.1, encodeUtf8 entry.2)

/-- What the decoder takes octets for. -/
def view (e : OctetEntry) : HeaderEntry := (decodeUtf8 e.1, decodeUtf8 e.2)

structure Peer where
  /-- Newest first. -/
  table : List OctetEntry := []
  maxSize : Nat

namespace Peer

def entryAt (p : Peer) (index : Nat) : Option OctetEntry :=
  if index = 0 then none
  else if index ≤ staticTableLength then (staticTable[index - 1]?).map octetsOf
  else p.table[index - staticTableLength - 1]?

def insert (p : Peer) (e : OctetEntry) : Peer :=
  { p with
    table :=
      if octetSize e ≤ p.maxSize then e :: fitting octetSize (p.maxSize - octetSize e) p.table
      else [] }

def resize (p : Peer) (newSize : Nat) : Peer :=
  { table := fitting octetSize newSize p.table, maxSize := newSize }

def name (p : Peer) : WireName → Option Bytes
  | .index index => (p.entryAt index).map Prod.fst
  | .literal s => s.octets.toOption

/-- What the peer means by a representation, and its table behind it.  It may send an index
that it has, a string that it encoded and a size that it was allowed. -/
def send (p : Peer) (allowed : Nat) : Representation → Option (Peer × Option OctetEntry)
  | .indexed index => (p.entryAt index).map fun e => (p, some e)
  | .literal mode name value =>
      match p.name name, value.octets.toOption with
      | some name, some value =>
          some (if mode = .incremental then p.insert (name, value) else p, some (name, value))
      | _, _ => none
  | .sizeUpdate newSize => if newSize ≤ allowed then some (p.resize newSize, none) else none

/-- The fields of a block. -/
def sendBlock (p : Peer) (allowed : Nat) : List Representation → Option (Peer × List OctetEntry)
  | [] => some (p, [])
  | r :: rs => do
      let (p, field) ← p.send allowed r
      let (p, fields) ← p.sendBlock allowed rs
      some (p, field.toList ++ fields)

/-- The fields of the blocks of a connection. -/
def sendBlocks (p : Peer) (allowed : Nat) :
    List (List Representation) → Option (Peer × List (List OctetEntry))
  | [] => some (p, [])
  | block :: blocks => do
      let (p, fields) ← p.sendBlock allowed block
      let (p, later) ← p.sendBlocks allowed blocks
      some (p, fields :: later)

end Peer

/-- Numbers that a prefix integer of six groups can hold. -/
def WireString.Short (s : WireString) : Prop := s.wire.length < 2 ^ 42

def Representation.Short : Representation → Prop
  | .indexed index => index < 2 ^ 42
  | .literal _ (.index index) value => index < 2 ^ 42 ∧ value.Short
  | .literal _ (.literal name) value => name.Short ∧ value.Short
  | .sizeUpdate newSize => newSize < 2 ^ 42

def blockBytes (block : List Representation) : Bytes := block.flatMap Representation.bytes

/-! ## Two tables -/

theorem jsLength_decodeUtf8_le (b : Bytes) : jsLength (decodeUtf8 b) ≤ b.length := by
  rw [jsLength, decodeUtf8, String.toList_ofList]
  exact Utf8.units_decode_le b

theorem entrySize_view_le (e : OctetEntry) : entrySize (view e) ≤ octetSize e := by
  have name := jsLength_decodeUtf8_le e.1
  have value := jsLength_decodeUtf8_le e.2
  rw [entrySize, octetSize, entryOverhead, view]
  dsimp only
  omega

theorem view_octetsOf {entry : HeaderEntry} (member : entry ∈ staticTable) :
    view (octetsOf entry) = entry := by
  obtain ⟨-, -, name, value⟩ := staticTable_keys entry member
  rw [view, octetsOf]
  simp only [decodeUtf8_encodeUtf8, name, value]

/-- What the peer has is the beginning of what the decoder has. -/
structure Sync (p : Peer) (d : HpackDecoder) : Prop where
  sound : d.Sound
  smaller : p.maxSize ≤ d.maxSize
  beginning : p.table.map view <+: d.dynamic

namespace Sync

variable {p : Peer} {d : HpackDecoder}

theorem new {peerMax maxSize : Nat} (smaller : peerMax ≤ maxSize) :
    Sync { maxSize := peerMax } (HpackDecoder.new maxSize) :=
  ⟨.new maxSize, smaller, List.prefix_rfl⟩

/-- An index of the peer names its entry. -/
theorem entryAt (sync : Sync p d) {index : Nat} {e : OctetEntry}
    (there : p.entryAt index = some e) : d.entryAt index = .ok (view e) ∧ index ≠ 0 := by
  rw [Peer.entryAt] at there
  split at there
  · cases there
  · rename_i positive
    refine ⟨?_, positive⟩
    split at there
    · rename_i upto
      obtain ⟨entry, found, rfl⟩ := Option.map_eq_some_iff.1 there
      obtain ⟨inside, same⟩ := List.getElem?_eq_some_iff.1 found
      have member : entry ∈ staticTable := same ▸ List.getElem_mem inside
      rw [HpackDecoder.entryAt, if_pos ⟨Nat.pos_of_ne_zero positive, upto⟩, view_octetsOf member,
        List.getD_eq_getElem _ _ inside, same]
    · rename_i beyond
      obtain ⟨inside, same⟩ := List.getElem?_eq_some_iff.1 there
      have mapped : (p.table.map view)[index - staticTableLength - 1]? = some (view e) := by
        rw [List.getElem?_map, there]
        rfl
      have ours : d.dynamic[index - staticTableLength - 1]? = some (view e) := by
        obtain ⟨later, whole⟩ := sync.beginning
        rw [← whole, List.getElem?_append_left (by rwa [List.length_map]), mapped]
      rw [HpackDecoder.entryAt, if_neg (by omega), if_neg positive, ours]

theorem insert (sync : Sync p d) (e : OctetEntry) : Sync (p.insert e) (d.insert (view e)) := by
  have lighter := entrySize_view_le e
  refine ⟨sync.sound.insert _, ?_, ?_⟩
  · rw [HpackDecoder.insert_eq sync.sound.counted]
    split <;> exact sync.smaller
  · have smaller := sync.smaller
    rw [HpackDecoder.insert_eq sync.sound.counted, Peer.insert]
    by_cases theirs : octetSize e ≤ p.maxSize
    · rw [if_pos theirs, if_pos (by omega), List.map_cons]
      exact List.cons_prefix_cons.2
        ⟨rfl, fitting_prefix_fitting entrySize_view_le (by omega) sync.beginning⟩
    · rw [if_neg theirs]
      exact List.nil_prefix

theorem resize (sync : Sync p d) {newSize : Nat} (allowed : newSize ≤ d.protocolMax) :
    ∃ d', d.applyMaxSize newSize = .ok d' ∧ Sync (p.resize newSize) d' ∧
      d'.protocolMax = d.protocolMax := by
  cases applied : d.applyMaxSize newSize with
  | error e =>
      rw [HpackDecoder.applyMaxSize, if_neg (by omega)] at applied
      cases applied
  | ok d' =>
      have sound := sync.sound.applyMaxSize applied
      obtain ⟨-, rfl⟩ := HpackDecoder.applyMaxSize_eq sync.sound.counted applied
      exact ⟨_, rfl,
        ⟨sound, Nat.le_refl _,
          fitting_prefix_fitting entrySize_view_le (Nat.le_refl _) sync.beginning⟩, rfl⟩

end Sync

theorem toOption_eq_some {ε α : Type} {x : Except ε α} {a : α} (is : x.toOption = some a) :
    x = .ok a := by
  cases x with
  | error e => cases is
  | ok b => exact congrArg Except.ok (Option.some.inj is)

theorem insert_protocolMax (d : HpackDecoder) (entry : HeaderEntry) (sound : d.Sound) :
    (d.insert entry).protocolMax = d.protocolMax := by
  rw [HpackDecoder.insert_eq sound.counted]
  split <;> rfl

/-- **One representation.**  The decoder reads what the peer means and stays behind it. -/
theorem decodeField_send {p p' : Peer} {d : HpackDecoder} {r : Representation}
    {field : Option OctetEntry} (sync : Sync p d) (short : r.Short)
    (sent : p.send d.protocolMax r = some (p', field)) (rest : Bytes) :
    ∃ d', d.decodeField (r.bytes ++ rest) = .ok (d', field.map view, rest) ∧ Sync p' d' ∧
      d'.protocolMax = d.protocolMax := by
  cases r with
  | indexed index =>
      obtain ⟨e, there, same⟩ := Option.map_eq_some_iff.1 sent
      cases same
      obtain ⟨ours, positive⟩ := sync.entryAt there
      exact ⟨d, decodeField_indexed rest short positive ours, sync, rfl⟩
  | sizeUpdate newSize =>
      rw [Peer.send] at sent
      split at sent
      · rename_i allowed
        cases sent
        obtain ⟨d', applied, after, same⟩ := sync.resize allowed
        exact ⟨d', decodeField_sizeUpdate rest short applied, after, same⟩
      · cases sent
  | literal mode name value =>
      rw [Peer.send] at sent
      split at sent
      · rename_i nameOctets octets named valued
        cases sent
        have meant := toOption_eq_some valued
        have entered : Sync (if mode = .incremental then p.insert (nameOctets, octets) else p)
            (mode.table d (view (nameOctets, octets))) ∧
              (mode.table d (view (nameOctets, octets))).protocolMax = d.protocolMax := by
          cases mode with
          | incremental => exact ⟨sync.insert _, insert_protocolMax d _ sync.sound⟩
          | without => exact ⟨sync, rfl⟩
          | never => exact ⟨sync, rfl⟩
        refine ⟨mode.table d (view (nameOctets, octets)), ?_, entered⟩
        cases name with
        | index index =>
            obtain ⟨e, there, rfl⟩ := Option.map_eq_some_iff.1 named
            obtain ⟨ours, positive⟩ := sync.entryAt there
            rw [Representation.bytes, List.append_assoc]
            exact decodeField_mode rest mode short.1
              (readLiteral_index rest mode short.1 positive ours short.2 meant)
        | literal s =>
            rw [Representation.bytes, List.append_assoc, List.append_assoc]
            exact decodeField_mode rest mode (by decide)
              (readLiteral_literal rest mode short.1 (toOption_eq_some named) short.2 meant)
      · cases sent

/-- A whole block, parsed. -/
theorem decodeRest_sendBlock {p p' : Peer} {d : HpackDecoder} {block : List Representation}
    {fields : List OctetEntry} (sync : Sync p d) (short : ∀ r ∈ block, r.Short)
    (sent : p.sendBlock d.protocolMax block = some (p', fields))
    (limits : Option HeaderDecodeLimits) :
    ∃ d', Sync p' d' ∧ d'.protocolMax = d.protocolMax ∧ ∀ budget,
      HpackDecoder.decodeRest limits d budget (blockBytes block) =
        (d', .ok ((fields.map view).foldl (recordHeader limits) budget)) := by
  induction block generalizing p d fields with
  | nil =>
      cases sent
      exact ⟨d, sync, rfl, fun _ => rfl⟩
  | cons r block ih =>
      obtain ⟨first, later⟩ := List.forall_mem_cons.1 short
      obtain ⟨⟨p₁, field⟩, one, sent⟩ := Option.bind_eq_some_iff.1 sent
      obtain ⟨⟨p₂, more⟩, others, sent⟩ := Option.bind_eq_some_iff.1 sent
      cases sent
      obtain ⟨d₁, read, sync₁, same₁⟩ := decodeField_send sync first one (blockBytes block)
      obtain ⟨d', sync', same', ran⟩ := ih sync₁ later (same₁ ▸ others)
      refine ⟨d', sync', same'.trans same₁, fun budget => ?_⟩
      rw [blockBytes, List.flatMap_cons, ← blockBytes, HpackDecoder.decodeRest_step budget read, ran]
      cases field <;> rfl

/-- **A connection.**  Behind a peer that begins with an empty table no larger than ours,
every header list is what the peer meant, as far as its limits let it through. -/
theorem decodeBlocks_peer {peerMax maxSize : Nat} (smaller : peerMax ≤ maxSize)
    {blocks : List (List Representation × Option HeaderDecodeLimits)}
    (short : ∀ b ∈ blocks, ∀ r ∈ b.1, r.Short) {p' : Peer} {fields : List (List OctetEntry)}
    (sent : Peer.sendBlocks { maxSize := peerMax } maxSize (blocks.map Prod.fst) =
      some (p', fields)) :
    ((HpackDecoder.new maxSize).decodeBlocks (blocks.map fun b => (blockBytes b.1, b.2))).2 =
      List.zipWith (fun b list => limit b.2 (list.map fun e => toHeader (view e))) blocks fields := by
  have run : ∀ (p : Peer) (d : HpackDecoder), Sync p d → d.protocolMax = maxSize →
      ∀ fields, p.sendBlocks maxSize (blocks.map Prod.fst) = some (p', fields) →
        (d.decodeBlocks (blocks.map fun b => (blockBytes b.1, b.2))).2 =
          List.zipWith (fun b list => limit b.2 (list.map fun e => toHeader (view e))) blocks
            fields := by
    clear sent fields
    induction blocks with
    | nil =>
        intro p d _ _ fields sent
        cases sent
        rfl
    | cons b blocks ih =>
        intro p d sync allowed fields sent
        obtain ⟨first, later⟩ := List.forall_mem_cons.1 short
        obtain ⟨⟨p₁, list⟩, one, sent⟩ := Option.bind_eq_some_iff.1 sent
        obtain ⟨⟨p₂, lists⟩, others, sent⟩ := Option.bind_eq_some_iff.1 sent
        cases sent
        obtain ⟨d₁, sync₁, same₁, ran⟩ := decodeRest_sendBlock sync first (allowed ▸ one) b.2
        have read := HpackDecoder.decode_of_parsed (.ok (list.map view)) (ran {})
        have rest := ih later p₁ d₁ sync₁ (same₁.trans allowed) lists others
        rw [List.map_cons, HpackDecoder.decodeBlocks, read]
        simp only [rest, List.zipWith_cons_cons, Except.map, Fallible.bind_ok, List.map_map]
        rfl
  exact run _ _ (.new smaller) rfl fields sent

/-- A response that enters a field and one that is the index of it. -/
theorem decodeBlocks_peer_index :
    ((HpackDecoder.new 4096).decodeBlocks
      [(blockBytes [.literal .incremental (.literal ⟨false, [97]⟩) ⟨false, [98]⟩], none),
        (blockBytes [.indexed 62], none)]).2 =
      [.ok [{ name := "a", value := "b" }], .ok [{ name := "a", value := "b" }]] := by
  have read := @decodeBlocks_peer 4096 4096 (Nat.le_refl _)
    [([.literal .incremental (.literal ⟨false, [97]⟩) ⟨false, [98]⟩], none), ([.indexed 62], none)]
    (by simp [Representation.Short, WireString.Short]) ⟨[([97], [98])], 4096⟩
    [[([97], [98])], [([97], [98])]] rfl
  have text : decodeUtf8 [97] = "a" ∧ decodeUtf8 [98] = "b" := by decide +kernel
  refine read.trans ?_
  simp only [List.zipWith_cons_cons, List.zipWith_nil_left, List.map_cons, List.map_nil, view, toHeader,
    text.1, text.2, limit]

end GrpcBridge.H2

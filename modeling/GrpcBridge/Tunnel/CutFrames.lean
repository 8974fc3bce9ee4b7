/-
# Tunnel.CutFrames -- what a failed downstream write leaves on the wire

`writeFrame` remembers that a close has been sent, and nothing else.  When a
`Write` fails inside a frame, the bytes that it took stay on the wire, and the
next goroutine that waits for `writeMu` starts its own frame right behind them.
`stalled_corrupts` is such a run: the pump's binary frame stalls after one byte
of its payload, and the ticker's ping becomes part of that payload.

A frame is `Cut` while the wire ends inside it.  What stands between a cut frame
and the next one is then either `closeSent` or the connection itself, when its
next `Write` takes nothing (`unlessCut`).  Under that condition
`wholeFrames_of_reaches` holds in every run, for every behaviour of the
connection: the wire is a prefix of whole frames, and a cut frame is the last
thing on it.
-/
import GrpcBridge.Tunnel.Downstream
import Mathlib.Data.List.Induction

namespace GrpcBridge.Tunnel

set_option autoImplicit false

open GrpcBridge.Theory

/-! ## Bytes that end inside a frame -/

/-- The bytes are a prefix of whole frames. -/
def WholeFrames (wire : Bytes) : Prop :=
  ∃ frames : List WebSocket.Frame, (∀ f ∈ frames, f.Fits) ∧ wire <+: WebSocket.encodeAll frames

/-- The bytes are whole frames and then some bytes of one more, but not all of them. -/
def Cut (wire : Bytes) : Prop :=
  ∃ (frames : List WebSocket.Frame) (f : WebSocket.Frame) (sent rest : Bytes),
    (∀ g ∈ frames, g.Fits) ∧ f.Fits ∧ wire = WebSocket.encodeAll frames ++ sent ∧
      f.encode = sent ++ rest ∧ sent ≠ [] ∧ rest ≠ []

theorem fits_concat {frames : List WebSocket.Frame} {f : WebSocket.Frame}
    (fits : ∀ g ∈ frames, g.Fits) (last : f.Fits) : ∀ g ∈ frames ++ [f], g.Fits := by
  intro g inside
  rcases List.mem_append.1 inside with earlier | final
  · exact fits g earlier
  · rw [List.mem_singleton.1 final]
    exact last

theorem not_cut_nil : ¬ Cut [] := by
  rintro ⟨frames, f, sent, rest, _, _, wire, _, some, _⟩
  exact some (List.append_eq_nil_iff.1 wire.symm).2

/-- A prefix of whole frames ends between two frames or cuts one. -/
theorem WholeFrames.cases {wire : Bytes} (whole : WholeFrames wire) :
    Cut wire ∨
      ∃ frames : List WebSocket.Frame, (∀ f ∈ frames, f.Fits) ∧ wire = WebSocket.encodeAll frames := by
  obtain ⟨frames, fits, front⟩ := whole
  -- From the back: a prefix of one frame more either reaches into that frame or does not.
  induction frames using List.reverseRecOn with
  | nil => exact .inr ⟨[], fits, List.prefix_nil.1 front⟩
  | append_singleton frames f ih =>
      have earlier : ∀ g ∈ frames, g.Fits := fun g inside => fits g (List.mem_append_left _ inside)
      have last : f.Fits := fits f (List.mem_append_right _ (List.mem_singleton_self f))
      rw [WebSocket.encodeAll_concat] at front
      obtain ⟨rest, joined⟩ := front
      rcases List.append_eq_append_iff.1 joined with ⟨left, inside, _⟩ | ⟨sent, rfl, ended⟩
      · exact ih earlier ⟨left, inside.symm⟩
      · by_cases none : sent = []
        · subst none
          exact .inr ⟨frames, earlier, List.append_nil _⟩
        · by_cases all : rest = []
          · subst all
            rw [List.append_nil] at ended
            exact .inr ⟨frames ++ [f], fits, by rw [WebSocket.encodeAll_concat, ended]⟩
          · exact .inl ⟨frames, f, sent, rest, earlier, last, rfl, ended, none, all⟩

/-! ## Writes that stop anywhere -/

/-- The next `Write` takes nothing, with or without an error. -/
def Conn.Refuses (c : Conn) : Prop := ∃ next rest, c.script = next :: rest ∧ next.count = 0

theorem writeAll_refused (c : Conn) (b : UInt8) (p : Bytes) (refuses : c.Refuses) :
    ∃ e after, writeAll c (b :: p) = (some e, after) ∧ after.accepted = c.accepted := by
  obtain ⟨taken, script⟩ := c
  obtain ⟨⟨count, error⟩, rest, rfl, zero⟩ := refuses
  cases zero
  cases error with
  | none => exact ⟨.shortWrite, ⟨taken ++ [], rest⟩, by rw [writeAll]; rfl, List.append_nil _⟩
  | some e => exact ⟨e, ⟨taken ++ [], rest⟩, by rw [writeAll]; rfl, List.append_nil _⟩

namespace Socket

theorem writePayload_prefix (s : Socket) (op : UInt8) (p : Bytes) :
    ∃ sent rest, p = sent ++ rest ∧
      (s.writePayload op p).2.conn.accepted = s.conn.accepted ++ sent := by
  obtain ⟨sent, rest, parts, took, _⟩ := writeAll_prefix s.conn p
  simp only [writePayload]
  split
  · rename_i bytes _
    split
    · obtain ⟨counted, uncounted, parts, took, _⟩ := writeAll_prefix (CountedConn.mk s.conn bytes) p
      exact ⟨counted, uncounted, parts, took⟩
    · exact ⟨sent, rest, parts, took⟩
  · exact ⟨sent, rest, parts, took⟩

/-- **Whatever the connection does, a `writeFrame` adds a prefix of its frame.** -/
theorem writeFrame_prefix (s : Socket) (op : UInt8) (p : Bytes) (unclosed : s.closeSent = false) :
    ∃ sent rest, (frame op p).encode = sent ++ rest ∧
      (s.writeFrame op p).2.conn.accepted = s.conn.accepted ++ sent := by
  obtain ⟨sent, rest, parts, took, all⟩ := writeAll_prefix s.conn (header op p.length)
  rw [writeFrame, unclosed, if_neg Bool.false_ne_true, ← header_append]
  dsimp only
  generalize writeAll s.conn (header op p.length) = first at took all
  obtain ⟨result, conn⟩ := first
  cases result with
  | some e =>
      refine ⟨sent, rest ++ p, ?_, took⟩
      rw [parts, List.append_assoc]
  | none =>
      rw [all rfl, List.append_nil] at parts
      obtain ⟨body, left, pieces, more⟩ :=
        writePayload_prefix { s with conn := conn, closeSent := false || op == 8 } op p
      refine ⟨header op p.length ++ body, left, ?_, ?_⟩
      · rw [List.append_assoc, ← pieces]
      · have begun : conn.accepted = s.conn.accepted ++ header op p.length := by
          rw [parts]
          exact took
        have ended := more.trans (congrArg (· ++ body) begun)
        rw [List.append_assoc] at ended
        rw [← ended]
        dsimp only
        split
        · rename_i wrote
          rw [wrote]
        · rename_i wrote
          rw [wrote]

theorem header_cons (op : UInt8) (n : Nat) : ∃ rest, header op n = (0x80 ||| op) :: rest := by
  rw [header]
  split
  · exact ⟨_, rfl⟩
  · split
    · exact ⟨_, rfl⟩
    · exact ⟨_, rfl⟩

/-- A connection that refuses the first byte of a header refuses the frame. -/
theorem writeFrame_refused (s : Socket) (op : UInt8) (p : Bytes) (refuses : s.conn.Refuses) :
    (s.writeFrame op p).2.conn.accepted = s.conn.accepted := by
  obtain ⟨rest, shape⟩ := header_cons op p.length
  obtain ⟨e, after, stopped, same⟩ := writeAll_refused s.conn (0x80 ||| op) rest refuses
  rw [← shape] at stopped
  rw [writeFrame]
  split
  · rfl
  · simp only [stopped]
    exact same

end Socket

/-! ## Who writes -/

namespace Relay

/-- `relay` answers the next frame: against a socket that takes everything, its turn sends one. -/
def answers (r : Relay) : Bool := (turn { r with socket := {} }).2.socket.sent ≠ []

theorem payload_withSocket (h : Head) (key : Bytes) (offset : Nat) (r : Relay) (s : Socket) :
    payload h key offset { r with socket := s } =
      ((payload h key offset r).1, { (payload h key offset r).2 with socket := s }) := by
  fun_induction payload h key offset r with
  | case1 offset r more positive e read =>
      rw [payload, dif_pos more]
      simp only [read]
  | case2 offset r more positive masked reader read p next control ih =>
      rw [payload, dif_pos more]
      simp only [read, control, if_true]
      exact ih
  | case3 offset r more positive masked reader read p next data e upstream wrote =>
      rw [payload, dif_pos more]
      simp only [read, data, Bool.false_eq_true, if_false]
      rw [show writeAll r.upstream (WebSocket.mask key offset masked) = (some e, upstream) from wrote]
  | case4 offset r more positive masked reader read p next data upstream wrote ih =>
      rw [payload, dif_pos more]
      simp only [read, data, Bool.false_eq_true, if_false]
      rw [show writeAll r.upstream (WebSocket.mask key offset masked) = (none, upstream) from wrote]
      exact ih
  | case5 offset r done => rw [payload, dif_neg done]

/-- An answer to a socket that takes everything is sent. -/
theorem writeFrame_fresh (op : UInt8) (p : Bytes) : (Socket.writeFrame {} op p).2.sent ≠ [] := by
  have healthy : (Socket.conn {}).Healthy := fun w inside => nomatch inside
  obtain ⟨after, written, wrote⟩ := Socket.writeFrame_healthy {} op p rfl healthy
  rw [written, wrote.sent]
  exact List.cons_ne_nil _ _

theorem respond_silent (h : Head) (r : Relay)
    (silent : (respond h { r with socket := {} }).2.socket.sent = []) :
    (respond h r).2.socket = r.socket := by
  simp only [respond] at silent ⊢
  split
  · rename_i close
    rw [if_pos close] at silent
    split
    · rfl
    · rename_i admitted
      simp only [admitted] at silent
      exact absurd silent (writeFrame_fresh _ _)
  · rename_i other
    rw [if_neg other] at silent
    split
    · rename_i ping
      rw [if_pos ping] at silent
      exact absurd silent (writeFrame_fresh _ _)
    · split <;> rfl

/-- A turn that answers nothing leaves the socket alone. -/
theorem turn_silent (r : Relay) (silent : r.answers = false) : r.turn.2.socket = r.socket := by
  have unsent : (turn { r with socket := {} }).2.socket.sent = [] :=
    of_not_not (of_decide_eq_false silent)
  simp only [turn] at unsent ⊢
  split
  · rfl
  · rename_i h reader headRead
    simp only [headRead] at unsent
    split
    · rfl
    · rename_i fragmented fragments
      simp only [fragments] at unsent
      split
      · rfl
      · rename_i key body keyRead
        simp only [keyRead] at unsent
        have fresh := payload_withSocket h key 0
          { r with reader := body, fragmented := fragmented } {}
        have untouched := payload_socket h key 0 { r with reader := body, fragmented := fragmented }
        split
        · rename_i carried
          rw [carried] at untouched
          exact untouched
        · rename_i next carried
          rw [carried] at untouched fresh
          simp only [fresh] at unsent
          split
          · rename_i control
            rw [if_pos control] at unsent
            exact (respond_silent h next unsent).trans untouched
          · exact untouched

end Relay

/-- The step calls `writeFrame`. -/
def Writing.writes (w : Writers) : Writing → Bool
  | .read _ _ | .done => false
  | .pump | .pumpClose | .tick | .relayClose => true
  | .relay => w.relay.answers

namespace Writers

/-- The socket after a step: as it was, or after one `writeFrame` of a frame that fits. -/
theorem step_socket {size : Nat} {w next : Writers} {e : Writing}
    (short : w.pump.pending.length < 2 ^ 63) (stepped : step size w e = some next) :
    next.socket = w.socket ∨
      (e.writes w = true ∧ ∃ op p, (Socket.frame op p).Fits ∧
        next.socket = (w.socket.writeFrame op p).2) := by
  cases e with
  | read chunk failed =>
      simp only [step] at stepped
      split at stepped <;> cases stepped
      exact .inl rfl
  | pump =>
      simp only [step] at stepped
      split at stepped
      · rename_i chunk failed writing
        rw [writing] at short
        have fits : (Socket.frame 2 chunk).Fits := ⟨(by decide : (2 : UInt8) < 16), short⟩
        split at stepped
        · rename_i wrote
          cases stepped
          exact .inr ⟨rfl, 2, chunk, fits, by rw [wrote]; rfl⟩
        · rename_i wrote
          cases stepped
          exact .inr ⟨rfl, 2, chunk, fits, by rw [wrote]; rfl⟩
      · cases stepped
  | pumpClose =>
      simp only [step] at stepped
      split at stepped <;> cases stepped
      exact .inr ⟨rfl, 8, BigEndian.bytes 2 (1011 : UInt16).toNat, by decide, rfl⟩
  | tick =>
      simp only [step] at stepped
      split at stepped <;> cases stepped
      exact .inr ⟨rfl, 9, alive, by decide, rfl⟩
  | done =>
      simp only [step] at stepped
      split at stepped <;> cases stepped
      exact .inl rfl
  | relay =>
      have turned : next.socket = w.relay.turn.2.socket := by
        simp only [step] at stepped
        split at stepped
        · split at stepped
          · rename_i turned
            cases stepped
            rw [turned]
            rfl
          · rename_i turned
            cases stepped
            rw [turned]
            rfl
          · rename_i turned
            cases stepped
            rw [turned]
            rfl
        · cases stepped
      rw [turned]
      cases answers : w.relay.answers with
      | false => exact .inl (w.relay.turn_silent answers)
      | true =>
          have control := w.relay.turn_control_socket
          generalize w.relay.turn.2.socket = after at control
          cases control with
          | idle => exact .inl rfl
          | @write op p kind fits =>
              refine .inr ⟨answers, op, p, ⟨?_, fits⟩, rfl⟩
              rcases kind with rfl | rfl | rfl
              · exact (by decide : (8 : UInt8) < 16)
              · exact (by decide : (9 : UInt8) < 16)
              · exact (by decide : (10 : UInt8) < 16)
  | relayClose =>
      simp only [step] at stepped
      split at stepped <;> cases stepped
      exact .inr ⟨rfl, 8, BigEndian.bytes 2 (1002 : UInt16).toNat, by decide, rfl⟩

/-- A chunk in hand came out of one `Read`. -/
theorem step_pending {size : Nat} (fits : size < 2 ^ 63) {w next : Writers} {e : Writing}
    (short : w.pump.pending.length < 2 ^ 63) (stepped : step size w e = some next) :
    next.pump.pending.length < 2 ^ 63 := by
  have nothing : ([] : Bytes).length < 2 ^ 63 := by decide
  cases e with
  | read chunk failed =>
      simp only [step] at stepped
      split at stepped
      · rename_i within
        cases stepped
        show (Pump.pending (if chunk ≠ [] then _ else _)).length < _
        by_cases empty : chunk = []
        · subst empty
          cases failed <;> exact nothing
        · rw [if_pos empty]
          exact Nat.lt_of_le_of_lt within.2 fits
      · cases stepped
  | pump =>
      simp only [step] at stepped
      split at stepped
      · rename_i chunk failed _
        split at stepped
        · cases stepped
          cases failed <;> exact nothing
        · cases stepped
          exact nothing
      · cases stepped
  | pumpClose =>
      simp only [step] at stepped
      split at stepped <;> cases stepped
      exact nothing
  | tick | done | relayClose =>
      simp only [step] at stepped
      split at stepped <;> cases stepped
      exact short
  | relay =>
      simp only [step] at stepped
      split at stepped
      · split at stepped <;> cases stepped <;> exact short
      · cases stepped

end Writers

/-- Where a frame has been cut, what comes next is refused: the cut frame is a close,
or the connection takes nothing more. -/
def unlessCut (w : Writers) (e : Writing) : Prop :=
  e.writes w = true → Cut w.socket.conn.accepted →
    w.socket.closeSent = true ∨ w.socket.conn.Refuses

/-! ## Runs -/

namespace Writers

/-- **Every permitted step adds nothing to a cut frame.** -/
theorem step_cut {size : Nat} {w next : Writers} {e : Writing}
    (short : w.pump.pending.length < 2 ^ 63) (permitted : unlessCut w e)
    (stepped : step size w e = some next) (cut : Cut w.socket.conn.accepted) :
    next.socket.conn.accepted = w.socket.conn.accepted := by
  rcases step_socket short stepped with same | ⟨writes, op, p, _, wrote⟩
  · rw [same]
  · rw [wrote]
    rcases permitted writes cut with closed | refuses
    · rw [Socket.writeFrame_closed _ op p closed]
    · exact Socket.writeFrame_refused _ op p refuses

/-- **Every permitted step leaves a prefix of whole frames.** -/
theorem step_wholeFrames {size : Nat} {w next : Writers} {e : Writing}
    (short : w.pump.pending.length < 2 ^ 63) (permitted : unlessCut w e)
    (stepped : step size w e = some next) (whole : WholeFrames w.socket.conn.accepted) :
    WholeFrames next.socket.conn.accepted := by
  rcases whole.cases with cut | ⟨frames, fits, ended⟩
  · rw [step_cut short permitted stepped cut]
    exact whole
  · rcases step_socket short stepped with same | ⟨_, op, p, fit, wrote⟩
    · rw [same]
      exact whole
    · rw [wrote]
      cases closed : w.socket.closeSent with
      | true =>
          rw [Socket.writeFrame_closed _ op p closed]
          exact whole
      | false =>
          obtain ⟨sent, rest, parts, took⟩ := Socket.writeFrame_prefix _ op p closed
          refine ⟨frames ++ [Socket.frame op p], fits_concat fits fit, rest, ?_⟩
          rw [took, ended, WebSocket.encodeAll_concat, parts, List.append_assoc]

end Writers

structure Intact (w : Writers) : Prop where
  wire : WholeFrames w.socket.conn.accepted
  /-- A chunk in hand came out of one `Read`. -/
  short : w.pump.pending.length < 2 ^ 63

theorem Writers.step_intact {size : Nat} (fits : size < 2 ^ 63) (w : Writers) (e : Writing)
    (next : Writers) (intact : Intact w) (permitted : unlessCut w e)
    (stepped : step size w e = some next) : Intact next where
  wire := step_wholeFrames intact.short permitted stepped intact.wire
  short := step_pending fits intact.short stepped

/-- **A failed downstream write ends the stream, where the connection sees to it.**
Whatever the `Write` calls take and return, in every run in which no frame is begun
on a connection that still takes bytes after a cut frame other than a close, the wire
is a prefix of whole frames, and nothing is ever added to a frame that has been cut. -/
theorem wholeFrames_of_reaches (size : Nat) (fits : size < 2 ^ 63) (reader : Source)
    (upstream : CountedConn) (writes : List Written) (counter : Option Nat) (w : Writers)
    (reached : (Writers.machine size reader upstream writes counter).Reaches unlessCut w) :
    WholeFrames w.socket.conn.accepted ∧
      ∀ later, (Writers.machine size reader upstream writes counter).Steps unlessCut w later →
        Cut w.socket.conn.accepted → later.socket.conn.accepted = w.socket.conn.accepted := by
  have intact : Intact w := by
    apply reached.invariant Intact (Writers.step_intact fits)
    refine ⟨⟨[], ?_, List.prefix_rfl⟩, (by decide : 0 < 2 ^ 63)⟩
    intro f inside
    cases inside
  refine ⟨intact.wire, fun later steps cut => ?_⟩
  have kept := steps.invariant
    (fun t => Intact t ∧ t.socket.conn.accepted = w.socket.conn.accepted)
    (fun t e next held permitted stepped =>
      have still : Cut t.socket.conn.accepted := by
        rw [held.2]
        exact cut
      ⟨Writers.step_intact fits t e next held.1 permitted stepped,
        (Writers.step_cut held.1.short permitted stepped still).trans held.2⟩)
    ⟨intact, rfl⟩
  exact kept.2

/-! ## Two tunnels that stall -/

/-- The client connection fails inside the pump's frame and stays closed. -/
def closedTunnel : Machine Writers Writing :=
  Writers.machine bufferSize ⟨[], false⟩ {} [⟨2, none⟩, ⟨1, some .failed⟩, ⟨0, some .closed⟩] (some 0)

/-- Nothing is on the wire yet, or the next `Write` takes nothing. -/
def untouched (w : Writers) (_ : Writing) : Prop :=
  w.socket.conn.accepted = [] ∨ w.socket.conn.script.head?.map Written.count = some 0

instance (w : Writers) (e : Writing) : Decidable (untouched w e) :=
  inferInstanceAs (Decidable (_ ∨ _))

theorem unlessCut_of_untouched (w : Writers) (e : Writing) (untouched : untouched w e) :
    unlessCut w e := by
  intro _ cut
  rcases untouched with nothing | refused
  · rw [nothing] at cut
    exact absurd cut not_cut_nil
  · obtain ⟨next, first, zero⟩ := Option.map_eq_some_iff.1 refused
    obtain ⟨rest, script⟩ := List.head?_eq_some_iff.1 first
    exact .inr ⟨next, rest, script, zero⟩

theorem closedTunnel_sends : (closedTunnel.run untouched closedTunnel.init
    [.read [1, 2, 3] false, .pump, .tick]).map (fun w => (w.socket.conn.accepted, w.ticking)) =
      some ([0x82, 3, 1], false) := by
  decide +kernel

theorem wholeFrames_closedTunnel : ∃ w, closedTunnel.Reaches unlessCut w ∧
    w.socket.conn.accepted = [0x82, 3, 1] ∧ w.ticking = false ∧
    WholeFrames w.socket.conn.accepted := by
  obtain ⟨w, ran, seen⟩ := Option.map_eq_some_iff.1 closedTunnel_sends
  obtain ⟨wire, ticking⟩ := Prod.mk.inj seen
  have reached := (Machine.steps_of_run _ ran).mono unlessCut_of_untouched
  exact ⟨w, reached, wire, ticking,
    (wholeFrames_of_reaches bufferSize (by decide) _ _ _ _ w reached).1⟩

/-- The header goes out, one byte of the payload follows, and the write deadline passes. -/
def stalledWrites : List Written := [⟨2, none⟩, ⟨1, some .failed⟩]

def stalledTunnel : Machine Writers Writing :=
  Writers.machine bufferSize ⟨[], false⟩ {} stalledWrites (some 0)

/-- The pump's frame fails while the ticker waits for `writeMu`. -/
def stalled : List Writing := [.read [1, 2, 3] false, .pump, .tick]

theorem stalled_sends : (stalledTunnel.run Machine.always stalledTunnel.init stalled).map
    (fun w => (w.socket.conn.accepted, w.pump)) =
      some ([0x82, 3, 1, 0x89, 5, 97, 108, 105, 118, 101], .returned false) := by
  decide +kernel

/-- The ping ends the payload of the binary frame, and its last bytes begin no frame. -/
theorem not_wholeFrames_stalled :
    ¬ WholeFrames [0x82, 3, 1, 0x89, 5, 97, 108, 105, 118, 101] := by
  rintro ⟨frames, fits, rest, joined⟩
  have read := WebSocket.decodeAll_encodeAll frames fits
  rw [← joined] at read
  have first : WebSocket.decode ([0x82, 3, 1, 0x89, 5, 97, 108, 105, 118, 101] ++ rest) =
      some (Socket.frame 2 [1, 0x89, 5], [97, 108, 105, 118, 101] ++ rest) :=
    WebSocket.decode_encode (Socket.frame 2 [1, 0x89, 5]) (by decide) _
  rw [WebSocket.decodeAll_of_decode first] at read
  obtain ⟨more, decoded, _⟩ := Option.map_eq_some_iff.1 read
  have refused : WebSocket.decode ([97, 108, 105, 118, 101] ++ rest) = none := rfl
  rw [show [97, 108, 105, 118, 101] ++ rest = 97 :: ([108, 105, 118, 101] ++ rest) from rfl,
    WebSocket.decodeAll] at decoded
  split at decoded
  · cases decoded
  · rename_i begun
    cases refused.symm.trans begun

/-- **A stalled frame does not end the stream.**  The pump's frame has failed, and the
ping behind it is on the wire. -/
theorem stalled_corrupts : ∃ w, stalledTunnel.Reaches Machine.always w ∧
    w.pump = .returned false ∧ ¬ WholeFrames w.socket.conn.accepted := by
  obtain ⟨w, ran, seen⟩ := Option.map_eq_some_iff.1 stalled_sends
  obtain ⟨wire, pump⟩ := Prod.mk.inj seen
  refine ⟨w, Machine.steps_of_run stalled ran, pump, ?_⟩
  rw [wire]
  exact not_wholeFrames_stalled

end GrpcBridge.Tunnel

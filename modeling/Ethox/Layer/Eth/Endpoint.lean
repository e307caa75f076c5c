import Ethox.Nic.ExternalRun

/-!
# The Ethernet endpoint

An `Endpoint` holds the link address of an interface. Its receiver parses each buffer a
device hands it as an Ethernet frame, drops it silently when it is malformed or addressed to
another station, and otherwise hands the frame to the upper layer; its sender hands every raw
buffer to the upper layer. The packets passed up carry a handle that still reaches the
device's flow control, so an upper handler is again an `Action` over the device's handle.

`wire::ethernet` is not part of this slice, and the spec treats header parsers as given:
`EthernetFrame::new_checked` followed by `repr` is a parameter `parse`, and
`EthernetAddress` with `is_broadcast` is modelled from the spec.
-/

namespace Ethox.Layer.Eth

open Nic

/-- Modelled from the spec: `wire::EthernetAddress`, its six octets read as one 48-bit word. -/
structure EthernetAddress where
  /-- The six octets, the first one most significant. -/
  bits : BitVec 48
deriving DecidableEq, Repr

namespace EthernetAddress

/-- The broadcast address `ff:ff:ff:ff:ff:ff`. -/
def broadcast : EthernetAddress := ⟨BitVec.allOnes 48⟩

/-- Modelled from the spec: `EthernetAddress::is_broadcast`. -/
def isBroadcast (self : EthernetAddress) : Bool := self == broadcast

end EthernetAddress

/-- `wire::EthernetRepr`: the header fields of a frame, the ether type by its 16-bit value. -/
structure EthernetRepr where
  /-- The sender's address. -/
  srcAddr : EthernetAddress
  /-- The destination address. -/
  dstAddr : EthernetAddress
  /-- The ether type. -/
  ethertype : UInt16
deriving DecidableEq, Repr

/-- `eth::packet::In`: a frame passed up, with what its handle reports as the own address. -/
structure In (P : Type) where
  /-- `Handle::src_addr`: the endpoint's address. -/
  srcAddr : EthernetAddress
  /-- The buffer holding the frame. -/
  frame : P
  /-- `EthernetFrame::repr` of the frame. -/
  repr : EthernetRepr

/-- `eth::packet::Raw`: a buffer passed up for sending. -/
structure Raw (P : Type) where
  /-- `Handle::src_addr`: the endpoint's address. -/
  srcAddr : EthernetAddress
  /-- The buffer. -/
  payload : P

/-- An implementation of `eth::Recv` with state `σ`. -/
abbrev Recv (σ P : Type) := σ → In P → Action σ P

/-- An implementation of `eth::Send` with state `σ`. -/
abbrev Send (σ P : Type) := σ → Raw P → Action σ P

/-- `eth::Endpoint`. -/
structure Endpoint where
  /-- Our own address. The code's comment says frames with a mismatching destination are
  ignored, but `accepts` also takes frames to the broadcast address. -/
  addr : EthernetAddress

/-- `Receiver`: an endpoint borrowed for receiving, with the upper-layer handler. -/
structure Receiver (σ P : Type) where
  /-- The borrowed endpoint. -/
  endpoint : Endpoint
  /-- The upper protocol receiver. -/
  handler : Recv σ P

/-- `Sender`: an endpoint borrowed for sending, with the upper-layer handler. -/
structure Sender (σ P : Type) where
  /-- The borrowed endpoint. -/
  endpoint : Endpoint
  /-- The upper protocol sender. -/
  handler : Send σ P

variable {σ P : Type}

namespace Endpoint

/-- `Endpoint::new`. -/
def new (addr : EthernetAddress) : Endpoint := ⟨addr⟩

/-- `Endpoint::recv`. -/
def recv (self : Endpoint) (handler : Recv σ P) : Receiver σ P := ⟨self, handler⟩

/-- `Endpoint::send`. -/
def send (self : Endpoint) (handler : Send σ P) : Sender σ P := ⟨self, handler⟩

/-- `Endpoint::accepts`. -/
def accepts (self : Endpoint) (dstAddr : EthernetAddress) : Bool :=
  self.addr == dstAddr || dstAddr.isBroadcast

/-- The endpoint takes frames to its own address and to the broadcast address, no others. -/
theorem accepts_iff (self : Endpoint) (dstAddr : EthernetAddress) :
    self.accepts dstAddr ↔ dstAddr = self.addr ∨ dstAddr = .broadcast := by
  simp only [accepts, EthernetAddress.isBroadcast, Bool.or_eq_true, beq_iff_eq]
  exact or_congr eq_comm Iff.rfl

end Endpoint

/-- `nic::Recv::receive` of `Receiver`: drop a buffer that does not parse or is not for us,
and hand the frame up otherwise. -/
def Receiver.receive (parse : P → Option EthernetRepr) (self : Receiver σ P) : Handler σ P :=
  fun state payload =>
    match parse payload with
    | none => .done state payload
    | some repr =>
      if !self.endpoint.accepts repr.dstAddr then .done state payload
      else self.handler state ⟨self.endpoint.addr, payload, repr⟩

/-- `nic::Send::send` of `Sender`: hand the buffer up. -/
def Sender.send (self : Sender σ P) : Handler σ P :=
  fun state payload => self.handler state ⟨self.endpoint.addr, payload⟩

/-- The state an upper handler leaves after it is handed `frame` on a receive handle. -/
def upperState (handler : Recv σ P) (state : σ) (frame : In P) : σ :=
  ((handler state frame).run ⟨.notPossible⟩).state

/-- The frames among `buffers` that parse and are addressed to `addr` or to the broadcast
address, as the upper layer of an endpoint with address `addr` is to be handed them. -/
def delivered (parse : P → Option EthernetRepr) (addr : EthernetAddress) (buffers : List P) :
    List (In P) :=
  buffers.filterMap fun payload => (parse payload).bind fun repr =>
    if repr.dstAddr = addr ∨ repr.dstAddr = .broadcast then some ⟨addr, payload, repr⟩ else none

section Receiving

variable (parse : P → Option EthernetRepr) (addr : EthernetAddress) (handler : Recv σ P)

/-- Receiving one buffer runs the upper handler exactly when the buffer is delivered. -/
theorem receiveState_receive (state : σ) (payload : P) :
    External.receiveState (((Endpoint.new addr).recv handler).receive parse) state payload =
      ((delivered parse addr [payload]).map fun frame => upperState handler state frame).headD state := by
  simp only [External.receiveState, Receiver.receive, Endpoint.recv, Endpoint.new, delivered,
    List.filterMap_cons, List.filterMap_nil]
  rcases parse payload with _ | repr
  · rfl
  · by_cases accepted : repr.dstAddr = addr ∨ repr.dstAddr = .broadcast
    · simp [accepted, (Endpoint.accepts_iff ⟨addr⟩ repr.dstAddr).mpr accepted, upperState]
    · simp [accepted, mt (Endpoint.accepts_iff ⟨addr⟩ repr.dstAddr).mp accepted, Action.run]

/-- Receiving a sequence of buffers runs the upper handler on the delivered frames, in order,
once each. -/
theorem foldl_receive (buffers : List P) (state : σ) :
    buffers.foldl (External.receiveState (((Endpoint.new addr).recv handler).receive parse)) state =
      (delivered parse addr buffers).foldl (upperState handler) state := by
  induction buffers generalizing state with
  | nil => rfl
  | cons payload buffers ih =>
    rw [List.foldl_cons, ih, receiveState_receive]
    simp only [delivered, List.filterMap_cons, List.filterMap_nil]
    split <;> simp [*]

end Receiving

/-- Over a run of `rx` calls with `max > 0` on an `External` nic through the receiver of
`Endpoint::new(addr)`: the calls consume the receive buffers `recv, recv + 1, ...` one each,
returning `Ok(1)` for each whatever its contents, and `Ok(0)` once none is left; and the
upper handler runs exactly on the consumed buffers that parse and are addressed to `addr` or
to the broadcast address, once each and in buffer order. -/
theorem receive_delivers_accepted_frames (parse : P → Option EthernetRepr) (addr : EthernetAddress)
    (handler : Recv σ P) (nic : External P) (state : σ) (maxes : List Usize)
    (positive : ∀ max ∈ maxes, max ≠ 0) :
    ∃ last events,
      nic.exec state (maxes.map (Call.rx · (((Endpoint.new addr).recv handler).receive parse))) =
        some (last, (delivered parse addr ((nic.buffer.drop nic.recv.toNat).take
          (min maxes.length nic.toRecv.toNat))).foldl (upperState handler) state, events) ∧
      events.map Event.result = List.replicate (min maxes.length nic.toRecv.toNat) (.ok 1) ++
        List.replicate (maxes.length - nic.toRecv.toNat) (.ok 0) ∧
      last.recv.toNat = nic.recv.toNat + min maxes.length nic.toRecv.toNat := by
  obtain ⟨last, events, ran, results, count⟩ :=
    @External.exec_rx _ _ nic state (((Endpoint.new addr).recv handler).receive parse) maxes positive
  exact ⟨last, events, by rwa [foldl_receive] at ran, results, count⟩

/-- This station, `02:00:00:00:00:01`. -/
def station : EthernetAddress := ⟨0x020000000001⟩

/-- Another station. -/
def neighbour : EthernetAddress := ⟨0x020000000002⟩

/-- A nic whose three receive buffers hold a malformed frame, a frame to another station and
a broadcast frame, each buffer standing for its own parse. -/
def mixedNic : External (Option EthernetRepr) :=
  External.newRecv [none, some ⟨neighbour, neighbour, 0x0800⟩, some ⟨neighbour, .broadcast, 0x0806⟩]
    (by decide)

/-- An upper handler that records the header of every frame it is handed. -/
def record : Recv (List EthernetRepr) (Option EthernetRepr) :=
  fun log frame => .done (log ++ [frame.repr]) frame.frame

/-- Four `rx` calls on the mixed nic consume its three buffers and hand only the broadcast
frame up. -/
theorem receive_delivers_accepted_frames_mixed :
    (∀ max ∈ ([1, 1, 1, 1] : List Usize), max ≠ 0) ∧
    ∃ last events,
      mixedNic.exec [] (([1, 1, 1, 1] : List Usize).map
          (Call.rx · (((Endpoint.new station).recv record).receive id))) =
        some (last, (delivered id station ((mixedNic.buffer.drop mixedNic.recv.toNat).take
          (min ([1, 1, 1, 1] : List Usize).length mixedNic.toRecv.toNat))).foldl (upperState record) [],
          events) ∧
      events.map Event.result =
        List.replicate (min ([1, 1, 1, 1] : List Usize).length mixedNic.toRecv.toNat) (.ok 1) ++
          List.replicate (([1, 1, 1, 1] : List Usize).length - mixedNic.toRecv.toNat) (.ok 0) ∧
      last.recv.toNat = mixedNic.recv.toNat + min ([1, 1, 1, 1] : List Usize).length mixedNic.toRecv.toNat :=
  ⟨by simp, receive_delivers_accepted_frames id station record mixedNic [] _ (by simp)⟩

example : (delivered id station ((mixedNic.buffer.drop mixedNic.recv.toNat).take
    (min 4 mixedNic.toRecv.toNat))).foldl (upperState record) [] = [⟨neighbour, .broadcast, 0x0806⟩] := by
  decide

end Ethox.Layer.Eth

import Ethox.Wire.Ip

/-!
# Preparing a UDP packet

`udp::RawPacket::prepare` adds the 8 header bytes to the requested payload length with
`checked_add`, asks the IP layer below for a packet of that length with protocol `Udp`, and
then `Init::initialize` converts the same sum, computed again with a plain `+`, to the 16-bit
length field with `u16::try_from`. The IP layer, the split of its prepared packet and the
emission of the header bytes are not part of this slice: they are the parameters of a
`Lower`, and only what `prepare` does between them is modelled.
-/

namespace Ethox.Layer.Udp

open Wire

/-- `wire::ip::Protocol`, by the variants `prepare` names. -/
inductive Protocol where
  | udp
  | unknown (value : UInt8)
deriving DecidableEq, Repr

/-- `ip::Init`: what the UDP layer asks the IP layer for. -/
structure IpInit (S : Type) where
  /-- The sender address selection, passed through. -/
  source : S
  /-- The destination address. -/
  dstAddr : IpAddress
  /-- The protocol of the payload. -/
  protocol : Protocol
  /-- The length of the IP payload. -/
  payload : Usize

/-- `udp::Repr`: the header fields. -/
structure Repr where
  /-- The source port. -/
  srcPort : UInt16
  /-- The destination port. -/
  dstPort : UInt16
  /-- The length of header and payload. -/
  length : UInt16
deriving DecidableEq, Repr

/-- `udp::Init`, with `ip::Source` left abstract as `S`. -/
structure Init (S : Type) where
  /-- The sender ip selection, passed directly to the ip layer below. -/
  source : S
  /-- The source port to use on the local machine. -/
  srcPort : UInt16
  /-- The destination address of the packet. -/
  dstAddr : IpAddress
  /-- The destination port of the packet. -/
  dstPort : UInt16
  /-- The length of the payload which is sent. -/
  payload : Usize

/-- What `prepare` uses of the layers below it: `ip::RawPacket::prepare` on the raw packet `R`,
`into_incoming` of the prepared packet `O`, giving its control `C` and IP packet `B`, and
`udp::Repr::emit` into the payload of an IP packet, with the checksum ignored. -/
structure Lower (S R O C B : Type) where
  /-- `ip::RawPacket::prepare`. -/
  prepare : R → IpInit S → Result O
  /-- `ip::OutPacket::into_incoming`. -/
  intoIncoming : O → C × B
  /-- `udp::Repr::emit`. -/
  emit : Repr → B → B

/-- `udp::Packet`: the control, the IP packet and the header just written. -/
structure Packet (C B : Type) where
  /-- The control of the layers below. -/
  control : C
  /-- The IP packet holding the UDP packet. -/
  packet : B
  /-- The UDP header. -/
  repr : Repr

variable {S R O C B : Type}

/-- `Init::initialize`: the header for the packet, its length converted with `u16::try_from`,
emitted into `payload`. -/
def Init.initialize (self : Init S) (emit : Repr → B → B) (payload : B) : Result (Repr × B) :=
  let length := self.payload + 8
  if length.toNat < 2 ^ 16 then
    let repr : Repr := ⟨self.srcPort, self.dstPort, UInt16.ofNat length.toNat⟩
    .ok (repr, emit repr payload)
  else .error .badSize

/-- `RawPacket::prepare`. -/
def RawPacket.prepare (lower : Lower S R O C B) (raw : R) (init : Init S) : Result (Packet C B) := do
  let packetLen ← match Usize.checkedAdd init.payload 8 with
    | some packetLen => pure packetLen
    | none => throw .badSize
  let prepared ← lower.prepare raw ⟨init.source, init.dstAddr, .udp, packetLen⟩
  let (control, packet) := lower.intoIncoming prepared
  let (repr, packet) ← Init.initialize init lower.emit packet
  pure ⟨control, packet, repr⟩

/-- The request `prepare` sends below: `init.payload + 8` bytes of protocol `Udp`. -/
def Init.request (init : Init S) : IpInit S := ⟨init.source, init.dstAddr, .udp, init.payload + 8⟩

/-- The header `prepare` writes for a packet whose length fits: the init's ports, and the
length `init.payload + 8`. -/
def Init.header (init : Init S) : Repr :=
  ⟨init.srcPort, init.dstPort, UInt16.ofNat (init.payload.toNat + 8)⟩

/-- Once the sum fits a `usize`, `initialize` writes the header exactly when it fits 16 bits. -/
theorem initialize_of_lt (init : Init S) (emit : Repr → B → B) (payload : B)
    (fits : init.payload.toNat + 8 < 2 ^ 64) :
    Init.initialize init emit payload =
      if init.payload.toNat + 8 < 2 ^ 16 then .ok (init.header, emit init.header payload)
      else .error .badSize := by
  have exact : (init.payload + 8).toNat = init.payload.toNat + 8 := Usize.toNat_add_of_lt fits
  simp only [ Init.initialize, Init.header, exact]

/-- `prepare` fails with `BadSize` on overflow, passes an error of the IP layer through, and
otherwise returns the prepared packet with the header emitted exactly when the length fits
16 bits. -/
theorem prepare_eq (lower : Lower S R O C B) (raw : R) (init : Init S) :
    RawPacket.prepare lower raw init =
      if 2 ^ 64 ≤ init.payload.toNat + 8 then .error .badSize
      else match lower.prepare raw init.request with
        | .error e => .error e
        | .ok prepared =>
          if init.payload.toNat + 8 < 2 ^ 16 then
            .ok ⟨(lower.intoIncoming prepared).1, lower.emit init.header (lower.intoIncoming prepared).2,
              init.header⟩
          else .error .badSize := by
  by_cases overflow : 2 ^ 64 ≤ init.payload.toNat + 8
  · have none : Usize.checkedAdd init.payload 8 = none := Usize.checkedAdd_eq_none.mpr overflow
    simp only [RawPacket.prepare, none, if_pos overflow]
    rfl
  · have fits : init.payload.toNat + 8 < 2 ^ 64 := by omega
    have sum : Usize.checkedAdd init.payload 8 = some (init.payload + 8) :=
      Usize.checkedAdd_eq_some.mpr ⟨fits, Usize.toNat_add_of_lt fits⟩
    have asked : lower.prepare raw ⟨init.source, init.dstAddr, .udp, init.payload + 8⟩ =
        lower.prepare raw init.request := rfl
    simp only [RawPacket.prepare, sum, if_neg overflow, pure_bind, asked]
    cases lower.prepare raw init.request with
    | error e => rfl
    | ok prepared =>
      simp only [initialize_of_lt init lower.emit _ fits]
      split <;> rfl

/-- `prepare` never wraps. When `init.payload + 8` overflows a `usize` it fails with `BadSize`
whatever the layers below do. Otherwise it asks the IP layer for exactly `init.payload + 8`
bytes of protocol `Udp` and goes on from the answer: a refusal of the IP layer is its result,
and a packet the IP layer prepares is its result, with the header emitted into it, when the sum
fits 16 bits. It succeeds only when the sum fits 16 bits, with that sum, untruncated, as the
header's length and the init's ports. -/
theorem prepare_length_exact (lower : Lower S R O C B) (raw : R) (init : Init S) :
    (2 ^ 64 ≤ init.payload.toNat + 8 → RawPacket.prepare lower raw init = .error .badSize) ∧
    (init.payload.toNat + 8 < 2 ^ 64 →
      init.request.protocol = .udp ∧ init.request.payload.toNat = init.payload.toNat + 8 ∧
      (∀ e, lower.prepare raw init.request = .error e → RawPacket.prepare lower raw init = .error e) ∧
      (∀ prepared, lower.prepare raw init.request = .ok prepared → init.payload.toNat + 8 < 2 ^ 16 →
        RawPacket.prepare lower raw init = .ok ⟨(lower.intoIncoming prepared).1,
          lower.emit init.header (lower.intoIncoming prepared).2, init.header⟩)) ∧
    (∀ packet, RawPacket.prepare lower raw init = .ok packet →
      init.payload.toNat + 8 ≤ 65535 ∧ packet.repr.length.toNat = init.payload.toNat + 8 ∧
        packet.repr.srcPort = init.srcPort ∧ packet.repr.dstPort = init.dstPort) := by
  refine ⟨fun overflow => by rw [prepare_eq, if_pos overflow], fun fits => ?_, fun packet prepared => ?_⟩
  · have noOverflow : ¬ 2 ^ 64 ≤ init.payload.toNat + 8 := by omega
    refine ⟨rfl, Usize.toNat_add_of_lt fits, fun e refused => ?_, fun prepared accepted short => ?_⟩
    · rw [prepare_eq, if_neg noOverflow, refused]
    · rw [prepare_eq, if_neg noOverflow, accepted]
      exact if_pos short
  · rw [prepare_eq] at prepared
    repeat' split at prepared
    all_goals cases prepared
    exact ⟨by omega, UInt16.toNat_ofNat_of_lt (by simp only [UInt16.size]; omega), rfl, rfl⟩

/-- The outcome of `prepare` in full. It succeeds exactly when the IP layer prepares the
request and `init.payload + 8` fits 16 bits, with the IP layer's control and packet and the
header emitted into it. Once the sum fits a `usize` the IP layer is asked first, so a refusal
of the IP layer is passed through unchanged even when the sum does not fit 16 bits; every other
failure is `BadSize`. -/
theorem prepare_outcome (lower : Lower S R O C B) (raw : R) (init : Init S) :
    (∀ packet, RawPacket.prepare lower raw init = .ok packet ↔
      init.payload.toNat + 8 < 2 ^ 16 ∧ ∃ prepared, lower.prepare raw init.request = .ok prepared ∧
        packet = ⟨(lower.intoIncoming prepared).1, lower.emit init.header (lower.intoIncoming prepared).2,
          init.header⟩) ∧
    (∀ e, RawPacket.prepare lower raw init = .error e ↔
      (init.payload.toNat + 8 < 2 ^ 64 ∧ lower.prepare raw init.request = .error e) ∨
      (e = .badSize ∧ (2 ^ 64 ≤ init.payload.toNat + 8 ∨
        2 ^ 16 ≤ init.payload.toNat + 8 ∧ ∃ prepared, lower.prepare raw init.request = .ok prepared))) := by
  rw [prepare_eq]
  by_cases overflow : 2 ^ 64 ≤ init.payload.toNat + 8
  · rw [if_pos overflow]
    refine ⟨fun packet => iff_of_false Except.noConfusion fun ⟨fits, _⟩ => by omega, fun e => ?_⟩
    refine ⟨fun same => .inr ⟨(Except.error.inj same).symm, .inl overflow⟩, ?_⟩
    rintro (⟨fits, -⟩ | ⟨rfl, -⟩)
    · omega
    · rfl
  · rw [if_neg overflow]
    cases lower.prepare raw init.request with
    | error e' =>
      dsimp only
      refine ⟨fun packet => iff_of_false Except.noConfusion fun ⟨_, _, refused, _⟩ => Except.noConfusion refused,
        fun e => ⟨fun same => .inl ⟨by omega, by rw [Except.error.inj same]⟩, ?_⟩⟩
      rintro (⟨-, same⟩ | ⟨-, long | ⟨-, _, refused⟩⟩)
      · rw [Except.error.inj same]
      · exact absurd long overflow
      · exact Except.noConfusion refused
    | ok prepared =>
      dsimp only
      by_cases fits : init.payload.toNat + 8 < 2 ^ 16
      · rw [if_pos fits]
        refine ⟨fun packet => ⟨fun same => ⟨fits, prepared, rfl, (Except.ok.inj same).symm⟩, ?_⟩,
          fun e => iff_of_false Except.noConfusion ?_⟩
        · rintro ⟨-, _, ⟨⟩, rfl⟩
          rfl
        · rintro (⟨-, refused⟩ | ⟨-, long | ⟨long, -⟩⟩)
          · exact Except.noConfusion refused
          · exact absurd long overflow
          · omega
      · rw [if_neg fits]
        refine ⟨fun packet => iff_of_false Except.noConfusion fun ⟨short, _⟩ => fits short, fun e => ?_⟩
        refine ⟨fun same => .inr ⟨(Except.error.inj same).symm, .inr ⟨by omega, prepared, rfl⟩⟩, ?_⟩
        rintro (⟨-, refused⟩ | ⟨rfl, -⟩)
        · exact Except.noConfusion refused
        · rfl

/-- An IP layer with a route to `192.168.0.0/16` only, over a link carrying at most 1480
bytes of IP payload: it prepares a packet of the requested length, refuses other destinations
with `Unreachable` and longer requests with `BadSize`, and leaves the header bytes empty until
the header is emitted into them. -/
def localLower : Lower Unit Unit Usize Unit (Option Repr) :=
  ⟨fun _ request =>
    if !(IpCidr.ipv4 ⟨0xC0A80000, 16, by decide⟩).containsAddr request.dstAddr then .error .unreachable
    else if 1480 < request.payload.toNat then .error .badSize
    else .ok request.payload,
   fun _ => ((), none),
   fun repr _ => some repr⟩

/-- The greeting of the documentation: 13 bytes from port 9400 to port 43 of 192.168.0.1. -/
def hello : Init Unit := ⟨(), 9400, .ipv4 0xC0A80001, 43, 13⟩

/-- The greeting sent to 8.8.8.8, which the IP layer has no route to. -/
def helloRemote : Init Unit := { hello with dstAddr := .ipv4 0x08080808 }

/-- The IP layer prepares the 21 bytes the greeting asks for, and `prepare` returns them with
the header emitted; sent to 8.8.8.8 instead, the greeting meets the IP layer's `Unreachable`,
which `prepare` returns. -/
theorem prepare_length_exact_hello :
    hello.payload.toNat + 8 < 2 ^ 64 ∧ localLower.prepare () hello.request = .ok 21 ∧
      hello.payload.toNat + 8 < 2 ^ 16 ∧
      RawPacket.prepare localLower () hello = .ok ⟨(), some hello.header, hello.header⟩ ∧
    helloRemote.payload.toNat + 8 < 2 ^ 64 ∧
      localLower.prepare () helloRemote.request = .error .unreachable ∧
      RawPacket.prepare localLower () helloRemote = .error .unreachable :=
  have fits : hello.payload.toNat + 8 < 2 ^ 64 := by decide
  have asked : localLower.prepare () hello.request = .ok 21 := rfl
  have short : hello.payload.toNat + 8 < 2 ^ 16 := by decide
  have refused : localLower.prepare () helloRemote.request = .error .unreachable := rfl
  ⟨fits, asked, short, ((prepare_length_exact localLower () hello).2.1 fits).2.2.2 21 asked short,
    fits, refused, ((prepare_length_exact localLower () helloRemote).2.1 fits).2.2.1 _ refused⟩

example : (RawPacket.prepare localLower () hello).map Packet.repr = .ok ⟨9400, 43, 21⟩ := by
  decide

end Ethox.Layer.Udp

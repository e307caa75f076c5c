import Ethox.Layer.Eth.Endpoint
import Ethox.Nic.ExternalOps

/-!
# Sending into a buffer and receiving it back

The repository tests its Ethernet layer by looping one buffer through an `External` nic: a
`tx` through the endpoint's sender writes a frame into the next buffer to send,
`set_one_past_receive` moves the split past that buffer, and an `rx` through the endpoint's
receiver reads it back. The receiver then sees exactly the bytes the sender left, whether or
not the sender queued them: queueing only decides what `tx` counts. The one hypothesis is
that the receive cursor stands at the buffer being sent, as it does on a fresh `new_send`
nic.
-/

namespace Ethox.Layer.Eth

open Nic

variable {σ P : Type}

/-- Looping one buffer through a nic: the sender's `tx` counts the buffer exactly when the
upper sender queued it, `rx` then hands out that same buffer and returns `Ok(1)`, and the
upper receiver runs on the payload the upper sender left there, when it parses and is addressed
to the endpoint or to everyone, and not at all otherwise. -/
theorem loopback_delivers_written_frame (parse : P → Option EthernetRepr) (addr : EthernetAddress)
    (sender : Send σ P) (receiver : Recv σ P) (nic : External P) (state : σ) (max max' : Usize)
    (positive : max ≠ 0) (positive' : max' ≠ 0) (pending : nic.toSend ≠ 0)
    (caught : nic.recv = nic.nextSend) :
    ∃ payload last events, nic.buffer[nic.nextSend.toNat]? = some payload ∧
      nic.runOps state [.call (.tx max ((Endpoint.new addr).send sender).send),
          .setOnePastReceive (nic.nextSend + 1),
          .call (.rx max' (((Endpoint.new addr).recv receiver).receive parse))] =
        some (last, (delivered parse addr [((sender state ⟨addr, payload⟩).run ⟨.setTrue false⟩).payload]).foldl
          (upperState receiver) ((sender state ⟨addr, payload⟩).run ⟨.setTrue false⟩).state, events) ∧
      events.map Event.handed = [some nic.nextSend.toNat, some nic.nextSend.toNat] ∧
      events.map Event.result =
        [.ok (if ((sender state ⟨addr, payload⟩).run ⟨.setTrue false⟩).replies.isEmpty then 0 else 1),
          .ok 1] := by
  obtain ⟨payload, sent, found, sentStep, written, sameRecv, -, -⟩ :=
    @External.step_tx_pending σ P nic state max ((Endpoint.new addr).send sender).send positive pending
  refine ⟨payload, ?_⟩
  generalize outcomeEq : (((Endpoint.new addr).send sender).send state payload).run ⟨.setTrue false⟩ =
    outcome at sentStep written
  rw [show (sender state ⟨addr, payload⟩).run ⟨.setTrue false⟩ = outcome from outcomeEq]
  have index : nic.nextSend.toNat < nic.buffer.length := by
    obtain ⟨first, inside, -⟩ := nic.nextSend_of_toSend pending
    rwa [← first] at inside
  have succ : (nic.nextSend + 1).toNat = nic.nextSend.toNat + 1 :=
    Usize.toNat_add_of_lt (by have := nic.buffer_length_lt; simp; omega)
  generalize caughtUpEq : sent.setOnePastReceive (nic.nextSend + 1) = caughtUp
  have buffer : caughtUp.buffer = nic.buffer.set nic.nextSend.toNat outcome.payload := caughtUpEq ▸ written
  have mark : caughtUp.recv = nic.nextSend := caughtUpEq ▸ sameRecv.trans caught
  have one : caughtUp.toRecv.toNat = 1 := by
    rw [External.toNat_toRecv, buffer, mark, List.length_set, ← caughtUpEq]
    show min nic.buffer.length (nic.nextSend + 1).toNat - nic.nextSend.toNat = 1
    omega
  obtain ⟨received, next, buffers, rxStep, -, -⟩ :=
    @External.step_rx_pending σ P caughtUp outcome.state max'
      (((Endpoint.new addr).recv receiver).receive parse) positive' (Usize.toNat_pos.mp (by omega))
  have same : received = outcome.payload := by
    have head := congrArg List.head? buffers
    rw [List.head?_drop, mark, buffer, List.getElem?_set_self index] at head
    exact Option.some_injective _ head.symm
  subst same
  have up := foldl_receive parse addr receiver [outcome.payload] outcome.state
  rw [List.foldl_cons, List.foldl_nil] at up
  rw [up] at rxStep
  subst caughtUpEq
  refine ⟨next, _, found, External.runOps_cons (by rw [External.apply, sentStep]; rfl)
    (External.runOps_cons rfl (External.runOps_cons (by rw [External.apply, rxStep]; rfl) rfl)), ?_, ?_⟩
  · rw [← mark]
    rfl
  · rfl

/-- The nic as a loopback channel. On a nic whose receive counter `recv` stands at
`next_send`, a sender that queues whatever it is handed writes `k` frames, `k` at most
`to_send()`, through the endpoint into the buffers `next_send, ..., next_send + k - 1`; the
owner moves the split past them; and `k` receive calls through the same endpoint read them back.
Each of the `2k` calls returns `Ok(1)`, the sending calls and then the receiving calls hand out
those buffers in order, and the upper receiver runs, from where the upper sender left the
state, on exactly the frames the upper sender wrote that parse and are addressed to the
endpoint or to everyone, in the order they were written. -/
theorem loopback_delivers_in_order (parse : P → Option EthernetRepr) (addr : EthernetAddress)
    (sender : Send σ P) (receiver : Recv σ P)
    (queues : ∀ state raw, ((sender state raw).run ⟨.setTrue false⟩).replies ≠ [])
    (nic : External P) (state : σ) (maxes : List Usize) (positive : ∀ max ∈ maxes, max ≠ 0)
    (room : maxes.length ≤ nic.toSend.toNat) (caught : nic.recv = nic.nextSend) :
    ∃ last events, nic.runOps state
        (maxes.map (fun max => .call (.tx max ((Endpoint.new addr).send sender).send)) ++
          .setOnePastReceive (nic.nextSend + BitVec.ofNat 64 maxes.length) ::
          maxes.map fun max => .call (.rx max (((Endpoint.new addr).recv receiver).receive parse))) =
        some (last, (delivered parse addr (External.sendEach ((Endpoint.new addr).send sender).send state
            ((nic.buffer.drop nic.nextSend.toNat).take maxes.length)).2).foldl (upperState receiver)
          (External.sendEach ((Endpoint.new addr).send sender).send state
            ((nic.buffer.drop nic.nextSend.toNat).take maxes.length)).1, events) ∧
      events.map (fun e => (e.handed, e.result)) =
        (List.range' nic.nextSend.toNat maxes.length ++ List.range' nic.nextSend.toNat maxes.length).map
          fun i => (some i, .ok 1) := by
  obtain ⟨sent, txEvents, txRan, written, length, sameRecv, -, -, txHanded⟩ :=
    @External.exec_tx σ P nic state ((Endpoint.new addr).send sender).send (fun s p => queues s ⟨addr, p⟩)
      maxes positive room
  have short : (External.sendEach ((Endpoint.new addr).send sender).send state
      ((nic.buffer.drop nic.nextSend.toNat).take maxes.length)).2.length ≤ maxes.length := by
    rw [External.length_sendEach]
    exact List.length_take_le _ _
  generalize External.sendEach ((Endpoint.new addr).send sender).send state
    ((nic.buffer.drop nic.nextSend.toNat).take maxes.length) = outcome at txRan written short ⊢
  have bound : maxes.length = 0 ∨ nic.nextSend.toNat + maxes.length ≤ nic.buffer.length := by
    rcases Nat.eq_zero_or_pos maxes.length with zero | more
    · exact .inl zero
    · obtain ⟨first, -, -⟩ := nic.nextSend_of_toSend (Usize.toNat_pos.mp (by omega))
      have := nic.toNat_toSend
      exact .inr (by omega)
  generalize caughtUpEq : sent.setOnePastReceive (nic.nextSend + BitVec.ofNat 64 maxes.length) = caughtUp
  have mark : caughtUp.recv.toNat = nic.nextSend.toNat := by
    rw [← caughtUpEq, ← caught, ← sameRecv]
    rfl
  have buffer : caughtUp.buffer = sent.buffer := by rw [← caughtUpEq]; rfl
  have toRecv : caughtUp.toRecv.toNat = maxes.length := by
    rw [External.toNat_toRecv, mark, ← caughtUpEq]
    show min sent.buffer.length (nic.nextSend + BitVec.ofNat 64 maxes.length).toNat - nic.nextSend.toNat = _
    rw [length]
    rcases bound with zero | fits
    · rw [zero, BitVec.add_zero]
      omega
    · have := nic.buffer_length_lt
      rw [Usize.toNat_add_of_lt (by rw [BitVec.toNat_ofNat]; omega), BitVec.toNat_ofNat,
        Nat.mod_eq_of_lt (by omega)]
      omega
  obtain ⟨last, rxEvents, rxRan, rxHanded, -⟩ := @External.exec_rx_events σ P caughtUp outcome.1
    (((Endpoint.new addr).recv receiver).receive parse) maxes positive
  have read : (caughtUp.buffer.drop caughtUp.recv.toNat).take (min maxes.length caughtUp.toRecv.toNat) =
      outcome.2 := by
    rw [toRecv, Nat.min_self, mark, buffer]
    refine List.ext_getElem? fun j => ?_
    rw [List.getElem?_take, List.getElem?_drop]
    split
    · rw [written, if_pos (by omega), Nat.add_sub_cancel_left]
    · exact (List.getElem?_eq_none (by omega)).symm
  rw [read, foldl_receive] at rxRan
  have sending : nic.runOps state (maxes.map fun max => .call (.tx max ((Endpoint.new addr).send sender).send)) =
      some (sent, outcome.1, txEvents) := by
    rw [← txRan, ← External.runOps_map_call, List.map_map]
    rfl
  have reconfigured : sent.apply outcome.1 (.setOnePastReceive (nic.nextSend + BitVec.ofNat 64 maxes.length)) =
      some (caughtUp, outcome.1, none) := by
    rw [← caughtUpEq]
    rfl
  have receiving : caughtUp.runOps outcome.1
      (maxes.map fun max => .call (.rx max (((Endpoint.new addr).recv receiver).receive parse))) =
      some (last, (delivered parse addr outcome.2).foldl (upperState receiver) outcome.1, rxEvents) := by
    rw [← rxRan, ← External.runOps_map_call, List.map_map]
    rfl
  refine ⟨last, txEvents ++ rxEvents,
    External.runOps_append sending (External.runOps_cons reconfigured receiving), ?_⟩
  rw [List.map_append, txHanded, rxHanded, toRecv, Nat.min_self, Nat.sub_self, mark, List.replicate_zero,
    List.append_nil, List.map_append]

/-- An upper sender that writes a frame of ether type `0xBEEF` from its endpoint to this
station and queues it, as the repository's loopback test does. -/
def greet : Send (List EthernetRepr) (Option EthernetRepr) :=
  fun log raw => .queue fun _ => .done log (some ⟨raw.srcAddr, station, 0xBEEF⟩)

/-- A send-only nic of one buffer, each buffer standing for its own parse. -/
def oneBuffer : External (Option EthernetRepr) := External.newSend [none] (by decide)

/-- The repository's loopback test: the frame written through the endpoint of this station is
read back through it and handed up. -/
theorem loopback_delivers_written_frame_oneBuffer :
    (1 : Usize) ≠ 0 ∧ oneBuffer.toSend ≠ 0 ∧ oneBuffer.recv = oneBuffer.nextSend ∧
    ∃ payload last events, oneBuffer.buffer[oneBuffer.nextSend.toNat]? = some payload ∧
      oneBuffer.runOps [] [.call (.tx 1 ((Endpoint.new station).send greet).send),
          .setOnePastReceive (oneBuffer.nextSend + 1),
          .call (.rx 1 (((Endpoint.new station).recv record).receive id))] =
        some (last, (delivered id station [((greet [] ⟨station, payload⟩).run ⟨.setTrue false⟩).payload]).foldl
          (upperState record) ((greet [] ⟨station, payload⟩).run ⟨.setTrue false⟩).state, events) ∧
      events.map Event.handed = [some oneBuffer.nextSend.toNat, some oneBuffer.nextSend.toNat] ∧
      events.map Event.result =
        [.ok (if ((greet [] ⟨station, payload⟩).run ⟨.setTrue false⟩).replies.isEmpty then 0 else 1), .ok 1] :=
  ⟨by decide, by decide, rfl, loopback_delivers_written_frame id station greet record oneBuffer [] 1 1
    (by decide) (by decide) (by decide) rfl⟩

/-- A send-only nic of two buffers. -/
def twoBuffers : External (Option EthernetRepr) := External.newSend [none, none] (by decide)

/-- Two frames looped through a send-only nic of two buffers. -/
theorem loopback_delivers_in_order_twoBuffers :
    (∀ state raw, ((greet state raw).run ⟨.setTrue false⟩).replies ≠ []) ∧
    (∀ max ∈ ([1, 1] : List Usize), max ≠ 0) ∧ ([1, 1] : List Usize).length ≤ twoBuffers.toSend.toNat ∧
    twoBuffers.recv = twoBuffers.nextSend ∧
    ∃ last events, twoBuffers.runOps []
        (([1, 1] : List Usize).map (fun max => .call (.tx max ((Endpoint.new station).send greet).send)) ++
          .setOnePastReceive (twoBuffers.nextSend + BitVec.ofNat 64 ([1, 1] : List Usize).length) ::
          ([1, 1] : List Usize).map fun max => .call (.rx max (((Endpoint.new station).recv record).receive id))) =
        some (last, (delivered id station (External.sendEach ((Endpoint.new station).send greet).send []
            ((twoBuffers.buffer.drop twoBuffers.nextSend.toNat).take ([1, 1] : List Usize).length)).2).foldl
          (upperState record) (External.sendEach ((Endpoint.new station).send greet).send []
            ((twoBuffers.buffer.drop twoBuffers.nextSend.toNat).take ([1, 1] : List Usize).length)).1, events) ∧
      events.map (fun e => (e.handed, e.result)) =
        (List.range' twoBuffers.nextSend.toNat ([1, 1] : List Usize).length ++
          List.range' twoBuffers.nextSend.toNat ([1, 1] : List Usize).length).map fun i => (some i, .ok 1) :=
  have room : ([1, 1] : List Usize).length ≤ twoBuffers.toSend.toNat := by simp [twoBuffers, External.newSend]
  ⟨fun _ _ => List.cons_ne_nil _ _, by simp, room, rfl,
    loopback_delivers_in_order id station greet record (fun _ _ => List.cons_ne_nil _ _) twoBuffers [] [1, 1]
      (by simp) room rfl⟩

example : (delivered id station (External.sendEach ((Endpoint.new station).send greet).send []
    [none, none]).2).foldl (upperState record) [] =
      [⟨station, station, 0xBEEF⟩, ⟨station, station, 0xBEEF⟩] := by
  decide

end Ethox.Layer.Eth

import Ethox.Nic.External
import Ethox.Nic.Queues

/-!
# Runs of the external nic

A run is a sequence of `tx` and `rx` calls on one `External`, each with its own `max` and
handler, and with no reset in between. Each call is recorded as the `Event` it shows: its
kind, its `max`, its result, and, as a ghost, the index `next_id` at which it lent a buffer
to its handler, as `txHanded` and `rxHanded` compute it. The counters of an `External`
represent the two queues of the abstract device (`queues`), and every call is one step of
that device (`step_refines`), so whatever holds of the device's runs holds of the nic's. The
handlers themselves run exactly as `replay` says from the indices the events show: each on
the buffer at its index as the slice holds it at its call. The nic never panics along a run.
-/

namespace Ethox.Nic

/-- A call on a device: `tx` with a sender or `rx` with a receptor, each with its `max`. -/
inductive Call (σ P : Type) where
  | tx (max : Usize) (sender : Handler σ P)
  | rx (max : Usize) (receptor : Handler σ P)

namespace Call

variable {σ P : Type}

/-- Whether a call is `tx`, and its `max`. -/
def signature : Call σ P → Bool × Usize
  | .tx max _ => (true, max)
  | .rx max _ => (false, max)

/-- The handler a call lends its buffer to. -/
def handler : Call σ P → Handler σ P
  | .tx _ sender => sender
  | .rx _ receptor => receptor

/-- The handle a call lends with the buffer: one whose `queue` succeeds for `tx`, and one whose
`queue` is refused for `rx`. -/
def handle : Call σ P → Handle
  | .tx .. => ⟨.setTrue false⟩
  | .rx .. => ⟨.notPossible⟩

end Call

/-- What the handlers of `calls` make of a slice and a state when the calls lend the buffers
`handed`, one entry per call, as a `nic::Packet` lends them: a call that lends buffer `i` runs
its handler once, on the payload at `i` and a handle of its kind, and the slice keeps the
payload the handler leaves; a call that lends nothing runs nothing. `none` when an index lies
outside the slice. -/
def replay {σ P : Type} : List P → σ → List (Call σ P) → List (Option Nat) → Option (List P × σ)
  | buffer, state, call :: calls, some i :: handed => buffer[i]?.bind fun payload =>
    let outcome := (call.handler state payload).run call.handle
    replay (buffer.set i outcome.payload) outcome.state calls handed
  | buffer, state, _ :: calls, none :: handed => replay buffer state calls handed
  | buffer, state, _, _ => some (buffer, state)

namespace External

variable {σ P : Type}

/-- The device the counters represent: buffers `recv ..` still to receive, `to_recv` of
them, and buffers `split + sent ..` still to send, `to_send` of them. -/
def queues (self : External P) : Queues :=
  ⟨⟨self.recv.toNat, self.toRecv.toNat⟩, ⟨self.split.toNat + self.sent.toNat, self.toSend.toNat⟩⟩

/-- One call, with the event it shows; `none` on a panic. -/
def step (self : External P) (state : σ) : Call σ P → Option (External P × σ × Event)
  | .tx max sender => (self.txHanded max sender state).map fun (next, state, result, handed) =>
    (next, state, ⟨true, max, handed, result⟩)
  | .rx max receptor => (self.rxHanded max receptor state).map fun (next, state, result, handed) =>
    (next, state, ⟨false, max, handed, result⟩)

/-- A sequence of calls, threading the handlers' state; `none` on a panic. -/
def exec (self : External P) (state : σ) : List (Call σ P) → Option (External P × σ × List Event)
  | [] => some (self, state, [])
  | call :: calls => (self.step state call).bind fun (next, state, e) =>
    (next.exec state calls).map fun (last, state, events) => (last, state, e :: events)

section Refinement

variable {self next : External P}

/-- The receive queue starts at `recv` and holds `to_recv()` buffers. -/
@[simp] theorem queues_toRecv : self.queues.toRecv = ⟨self.recv.toNat, self.toRecv.toNat⟩ := rfl

/-- The send queue starts at `split + sent` and holds `to_send()` buffers. -/
@[simp] theorem queues_toSend :
    self.queues.toSend = ⟨self.split.toNat + self.sent.toNat, self.toSend.toNat⟩ := rfl

/-- Storing a payload changes no counter. -/
@[simp] theorem queues_setBuffer (index : Nat) (payload : P) :
    (self.setBuffer index payload).queues = self.queues := by
  simp [queues]

/-- Storing the sender's payload and counting its buffer sent pops the send queue. -/
theorem queues_sent_succ (pending : self.toSend ≠ 0) (index : Nat) (payload : P) :
    { self.setBuffer index payload with sent := self.sent + 1 }.queues =
      { self.queues with toSend := self.queues.toSend.pop } := by
  have succ := (self.nextSend_of_toSend pending).2.2
  simp only [queues, Queue.pop, toNat_toRecv, toNat_toSend, length_setBuffer, recv_setBuffer,
    split_setBuffer, succ, Queues.mk.injEq, Queue.mk.injEq, true_and, and_true]
  omega

/-- Storing the receptor's payload and counting its buffer received pops the receive queue. -/
theorem queues_recv_succ (pending : self.toRecv ≠ 0) (index : Nat) (payload : P) :
    { self.setBuffer index payload with recv := self.recv + 1 }.queues =
      { self.queues with toRecv := self.queues.toRecv.pop } := by
  have succ := (self.nextRecv_of_toRecv pending).2
  simp only [queues, Queue.pop, toNat_toRecv, toNat_toSend, length_setBuffer, sent_setBuffer,
    split_setBuffer, succ, Queues.mk.injEq, Queue.mk.injEq, true_and, and_true]
  omega

/-- The send queue is empty exactly when `to_send()` is `0`. -/
theorem toSend_eq_zero_iff : self.queues.toSend.left = 0 ↔ self.toSend = 0 := by
  rw [BitVec.toNat_eq]
  rfl

/-- The receive queue is empty exactly when `to_recv()` is `0`. -/
theorem toRecv_eq_zero_iff : self.queues.toRecv.left = 0 ↔ self.toRecv = 0 := by
  rw [BitVec.toNat_eq]
  rfl

variable {state state' : σ} {e : Event} {max : Usize}

/-- A `tx` call is a `tx` step of the device, with `queued` what its sender did. -/
theorem step_tx {sender : Handler σ P} (stepped : self.step state (.tx max sender) = some (next, state', e)) :
    ∃ queued, self.queues.tx max queued = (next.queues, e) := by
  obtain ⟨⟨next, state', result, handed⟩, called, ⟨⟩⟩ := Option.map_eq_some'.mp stepped
  by_cases guard : max ≠ 0 ∧ self.toSend ≠ 0
  · obtain ⟨payload, -, lent⟩ := txHanded_of_pending sender state guard.1 guard.2
    have head : self.nextSend.toNat = self.queues.toSend.next := (self.nextSend_of_toSend guard.2).1
    have busy : ¬ (max = 0 ∨ self.queues.toSend.left = 0) := by rw [toSend_eq_zero_iff]; tauto
    refine ⟨!((sender state payload).run ⟨.setTrue false⟩).replies.isEmpty, ?_⟩
    rw [Queues.tx_of_busy busy]
    rw [lent] at called
    dsimp only at called
    split at called <;> rename_i none <;> cases called
    · simp [none, head]
    · rw [if_pos (by simpa using none), head]
      exact Prod.ext (queues_sent_succ guard.2 _ _).symm rfl
  · rw [txHanded_of_idle sender state guard] at called
    cases called
    have idle : max = 0 ∨ self.queues.toSend.left = 0 := by rw [toSend_eq_zero_iff]; tauto
    exact ⟨false, Queues.tx_of_idle idle false⟩

/-- An `rx` call is an `rx` step of the device. -/
theorem step_rx {receptor : Handler σ P}
    (stepped : self.step state (.rx max receptor) = some (next, state', e)) :
    self.queues.rx max = (next.queues, e) := by
  obtain ⟨⟨next, state', result, handed⟩, called, ⟨⟩⟩ := Option.map_eq_some'.mp stepped
  by_cases guard : max ≠ 0 ∧ self.toRecv ≠ 0
  · obtain ⟨payload, -, lent⟩ := rxHanded_of_pending receptor state guard.1 guard.2
    rw [lent] at called
    cases called
    have busy : ¬ (max = 0 ∨ self.queues.toRecv.left = 0) := by rw [toRecv_eq_zero_iff]; tauto
    rw [Queues.rx_of_busy busy, queues_recv_succ guard.2]
    rfl
  · rw [rxHanded_of_idle receptor state guard] at called
    cases called
    have idle : max = 0 ∨ self.queues.toRecv.left = 0 := by rw [toRecv_eq_zero_iff]; tauto
    exact Queues.rx_of_idle idle

/-- Every call shows its own kind and `max`. -/
theorem step_signature {call : Call σ P} (stepped : self.step state call = some (next, state', e)) :
    (e.isTx, e.max) = call.signature := by
  cases call <;> obtain ⟨_, -, ⟨⟩⟩ := Option.map_eq_some'.mp stepped <;> rfl

/-- Every call of the nic is one step of the device, and shows its own kind and `max`. -/
theorem step_refines {call : Call σ P} (stepped : self.step state call = some (next, state', e)) :
    Queues.Step self.queues e next.queues ∧ (e.isTx, e.max) = call.signature := by
  refine ⟨?_, step_signature stepped⟩
  cases call with
  | tx max sender =>
    obtain ⟨queued, stepped⟩ := step_tx stepped
    exact .tx max queued stepped
  | rx max receptor => exact .rx max (step_rx stepped)

/-- The handler of a call runs on the buffer its event shows, as the slice holds it at the
call, and the call leaves the state and payload the handler left; a call that lends nothing
changes neither. -/
theorem step_replay {call : Call σ P} (stepped : self.step state call = some (next, state', e))
    (calls : List (Call σ P)) (handed : List (Option Nat)) :
    replay self.buffer state (call :: calls) (e.handed :: handed) = replay next.buffer state' calls handed := by
  cases call with
  | tx max sender =>
    obtain ⟨⟨next, state', result, index⟩, called, ⟨⟩⟩ := Option.map_eq_some'.mp stepped
    by_cases guard : max ≠ 0 ∧ self.toSend ≠ 0
    · obtain ⟨payload, found, lent⟩ := txHanded_of_pending sender state guard.1 guard.2
      rw [lent] at called
      dsimp only at called
      split at called <;> cases called <;> rw [replay, found] <;> rfl
    · rw [txHanded_of_idle sender state guard] at called
      cases called
      rfl
  | rx max receptor =>
    obtain ⟨⟨next, state', result, index⟩, called, ⟨⟩⟩ := Option.map_eq_some'.mp stepped
    by_cases guard : max ≠ 0 ∧ self.toRecv ≠ 0
    · obtain ⟨payload, found, lent⟩ := rxHanded_of_pending receptor state guard.1 guard.2
      rw [lent] at called
      cases called
      rw [replay, found]
      rfl
    · rw [rxHanded_of_idle receptor state guard] at called
      cases called
      rfl

variable {last : External P} {events : List Event}

/-- Every run of the nic is a run of the device, one event per call. -/
theorem exec_refines {calls : List (Call σ P)} (ran : self.exec state calls = some (last, state', events)) :
    Queues.Runs self.queues events last.queues ∧
      events.map (fun e => (e.isTx, e.max)) = calls.map Call.signature := by
  induction calls generalizing self state events with
  | nil =>
    cases ran
    exact ⟨.nil _, rfl⟩
  | cons call calls ih =>
    simp only [exec, Option.bind_eq_some, Option.map_eq_some'] at ran
    obtain ⟨⟨next, mid, e⟩, stepped, ⟨⟨_, _, rest⟩, ran, ⟨⟩⟩⟩ := ran
    obtain ⟨run, signatures⟩ := ih ran
    obtain ⟨step, signature⟩ := step_refines stepped
    exact ⟨.cons step run, by simp [signature, signatures]⟩

/-- Along every run, the handlers run exactly as `replay` says from the indices the events
show, and leave the slice and the state the run ends with. -/
theorem exec_replay {calls : List (Call σ P)} (ran : self.exec state calls = some (last, state', events)) :
    replay self.buffer state calls (events.map Event.handed) = some (last.buffer, state') := by
  induction calls generalizing self state events with
  | nil =>
    cases ran
    rfl
  | cons call calls ih =>
    simp only [exec, Option.bind_eq_some, Option.map_eq_some'] at ran
    obtain ⟨⟨next, mid, e⟩, stepped, ⟨⟨_, _, rest⟩, ran, ⟨⟩⟩⟩ := ran
    rw [List.map_cons, step_replay stepped]
    exact ih ran

/-- No call panics. -/
theorem step_isSome (self : External P) (state : σ) (call : Call σ P) :
    (self.step state call).isSome := by
  cases call with
  | tx max sender => simpa only [step, tx, Option.isSome_map'] using self.tx_isSome sender state
  | rx max receptor => simpa only [step, rx, Option.isSome_map'] using self.rx_isSome receptor state

/-- No run panics. -/
theorem exec_isSome (self : External P) (state : σ) (calls : List (Call σ P)) :
    (self.exec state calls).isSome := by
  induction calls generalizing self state with
  | nil => rfl
  | cons call calls ih =>
    obtain ⟨⟨next, mid, e⟩, stepped⟩ := Option.isSome_iff_exists.mp (self.step_isSome state call)
    simp only [exec, stepped, Option.some_bind, Option.isSome_map', ih]

end Refinement

section Receiving

variable {self : External P} {state : σ} {max : Usize}

/-- A run is its first call followed by the run from where that call left the nic. -/
theorem exec_cons {next last : External P} {mid state' : σ} {e : Event} {call : Call σ P}
    {calls : List (Call σ P)} {events : List Event} (stepped : self.step state call = some (next, mid, e))
    (ran : next.exec mid calls = some (last, state', events)) :
    self.exec state (call :: calls) = some (last, state', e :: events) := by
  simp only [exec, stepped, ran, Option.some_bind, Option.map_some']

/-- The state a receptor leaves after it is handed `payload` on a receive handle. -/
def receiveState (receptor : Handler σ P) (state : σ) (payload : P) : σ :=
  ((receptor state payload).run ⟨.notPossible⟩).state

/-- An `rx` call with `max = 0` or nothing to receive shows `Ok(0)` and changes nothing. -/
theorem step_rx_idle {receptor : Handler σ P} (idle : max = 0 ∨ self.toRecv = 0) :
    self.step state (.rx max receptor) = some (self, state, ⟨false, max, none, .ok 0⟩) := by
  rw [step, rxHanded_of_idle receptor state (by tauto)]
  rfl

/-- A pending `rx` call hands the buffer at `recv` to the receptor, counts it, and leaves the
nic one buffer further along, with the buffers after it as they were. -/
theorem step_rx_pending {receptor : Handler σ P} (positive : max ≠ 0) (pending : self.toRecv ≠ 0) :
    ∃ payload next, self.buffer.drop self.recv.toNat = payload :: next.buffer.drop next.recv.toNat ∧
      self.step state (.rx max receptor) =
        some (next, receiveState receptor state payload, ⟨false, max, some self.recv.toNat, .ok 1⟩) ∧
      next.recv.toNat = self.recv.toNat + 1 ∧ next.toRecv.toNat = self.toRecv.toNat - 1 := by
  obtain ⟨payload, found, lent⟩ := rxHanded_of_pending receptor state positive pending
  obtain ⟨inside, succ⟩ := self.nextRecv_of_toRecv pending
  obtain ⟨_, first⟩ := List.getElem?_eq_some_iff.mp (show self.buffer[self.recv.toNat]? = _ from found)
  refine ⟨payload, _, ?_, by rw [step, lent]; rfl, succ,
    congrArg (fun q => q.toRecv.left) (queues_recv_succ pending _ _)⟩
  simp only [succ, buffer_setBuffer, nextRecv]
  rw [List.drop_set_of_lt _ _ (Nat.lt_succ_self _), ← first]
  exact List.drop_eq_getElem_cons _

/-- A run of `rx` calls with `max > 0` and one receptor hands the receptor the buffers
`recv, recv + 1, ...`, one per call while any is left, in order; the calls return `Ok(1)` for
each of them, and after them `Ok(0)`, handing out nothing. -/
theorem exec_rx_events (receptor : Handler σ P) (maxes : List Usize) (positive : ∀ max ∈ maxes, max ≠ 0) :
    ∃ last events, self.exec state (maxes.map (Call.rx · receptor)) =
        some (last, ((self.buffer.drop self.recv.toNat).take (min maxes.length self.toRecv.toNat)).foldl
          (receiveState receptor) state, events) ∧
      events.map (fun e => (e.handed, e.result)) =
        (List.range' self.recv.toNat (min maxes.length self.toRecv.toNat)).map (fun i => (some i, .ok 1)) ++
          List.replicate (maxes.length - self.toRecv.toNat) (none, .ok 0) ∧
      last.recv.toNat = self.recv.toNat + min maxes.length self.toRecv.toNat := by
  induction maxes generalizing self state with
  | nil => exact ⟨self, [], by simp [exec], by simp, by simp⟩
  | cons max maxes ih =>
    have later := fun m mem => positive m (List.mem_cons_of_mem max mem)
    rw [List.length_cons]
    by_cases pending : self.toRecv = 0
    · obtain ⟨last, events, ran, handed, count⟩ := @ih self state later
      have empty : self.toRecv.toNat = 0 := by rw [pending]; rfl
      rw [empty, Nat.min_zero] at ran handed count ⊢
      refine ⟨last, _ :: events, exec_cons (step_rx_idle (.inr pending)) ran, ?_, count⟩
      rw [List.map_cons, handed]
      rfl
    · obtain ⟨payload, next, buffers, stepped, succ, left⟩ :=
        step_rx_pending (positive max (List.mem_cons_self _ _)) pending
      obtain ⟨last, events, ran, handed, count⟩ := @ih next (receiveState receptor state payload) later
      have more : 0 < self.toRecv.toNat := Usize.toNat_pos.mpr pending
      have taken : min (maxes.length + 1) self.toRecv.toNat = min maxes.length next.toRecv.toNat + 1 := by
        omega
      refine ⟨last, _ :: events, exec_cons stepped ?_, ?_, by omega⟩
      · rwa [taken, buffers, List.take_succ_cons, List.foldl_cons]
      · rw [List.map_cons, handed, taken, left, succ, List.range'_succ,
          show maxes.length - (self.toRecv.toNat - 1) = maxes.length + 1 - self.toRecv.toNat by omega]
        rfl

/-- A run of `rx` calls with `max > 0` and one receptor hands the receptor the buffers
`recv, recv + 1, ...`, one per call while any is left, in order; the calls return `Ok(1)` for
each of them and `Ok(0)` after. -/
theorem exec_rx (receptor : Handler σ P) (maxes : List Usize) (positive : ∀ max ∈ maxes, max ≠ 0) :
    ∃ last events, self.exec state (maxes.map (Call.rx · receptor)) =
        some (last, ((self.buffer.drop self.recv.toNat).take (min maxes.length self.toRecv.toNat)).foldl
          (receiveState receptor) state, events) ∧
      events.map Event.result = List.replicate (min maxes.length self.toRecv.toNat) (.ok 1) ++
        List.replicate (maxes.length - self.toRecv.toNat) (.ok 0) ∧
      last.recv.toNat = self.recv.toNat + min maxes.length self.toRecv.toNat := by
  obtain ⟨last, events, ran, handed, count⟩ := @exec_rx_events σ P self state receptor maxes positive
  refine ⟨last, events, ran, ?_, count⟩
  have results := congrArg (List.map Prod.snd) handed
  simp only [List.map_map, List.map_append, Function.comp_def, List.map_replicate, List.map_const',
    List.length_range'] at results
  exact results

end Receiving

end External

end Ethox.Nic

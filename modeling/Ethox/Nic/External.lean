import Ethox.Nic

/-!
# The external nic

`External` serves a slice of externally provided buffers: those below `split` are to be
received and those from `split` on are to be sent, and `recv` and `sent` count how many of
each have been handed out. The counters are `usize`; `to_recv` and `to_send` saturate and
`next_send` is a wrapping sum. `tx` and `rx` hand at most one buffer per call to their
handler by indexing the slice, which panics out of bounds; a panic is `none` here. The
guard of each call excludes every index that could be out of bounds and every counter
increment that could wrap, for all values of the counters.
-/

namespace Ethox.Nic

/-- `nic::external::External`. -/
structure External (P : Type) where
  /-- Backing buffer, accessible as a slice of packet payloads. -/
  buffer : List P
  /-- Number of received packages. -/
  recv : Usize
  /-- Number of sent packages. -/
  sent : Usize
  /-- The index of the split. -/
  split : Usize
  /-- A slice's length is a `usize`. -/
  buffer_length_lt : buffer.length < 2 ^ 64

namespace External

variable {σ P : Type}

/-- `External::set_one_past_receive`. Its comment calls `at` the index of the last buffer to
receive; as the name says, the code makes it the split, one past that buffer. -/
def setOnePastReceive (self : External P) (index : Usize) : External P := { self with split := index }

/-- `External::reset_send`. -/
def resetSend (self : External P) : External P := { self with sent := 0 }

/-- `External::reset_receive`. -/
def resetReceive (self : External P) : External P := { self with recv := 0 }

/-- `External::new_send`: a nic only sending packets. -/
def newSend (buffer : List P) (fits : buffer.length < 2 ^ 64) : External P := ⟨buffer, 0, 0, 0, fits⟩

/-- `External::new_recv`: a nic only receiving packets. -/
def newRecv (buffer : List P) (fits : buffer.length < 2 ^ 64) : External P :=
  ⟨buffer, 0, 0, BitVec.ofNat 64 buffer.length, fits⟩

/-- `self.buffer.len()`. -/
def len (self : External P) : Usize := BitVec.ofNat 64 self.buffer.length

/-- `External::to_recv`: remaining number of buffers to receive. -/
def toRecv (self : External P) : Usize :=
  Usize.saturatingSub (Usize.min self.len self.split) self.recv

/-- `External::to_send`: remaining number of buffers to send. -/
def toSend (self : External P) : Usize :=
  Usize.saturatingSub (Usize.saturatingSub self.len self.split) self.sent

/-- `External::next_recv`. -/
def nextRecv (self : External P) : Usize := self.recv

/-- `External::next_send`. -/
def nextSend (self : External P) : Usize := self.split + self.sent

/-- The slice with `payload` at `index`, as a handler's writes through `&mut` leave it. -/
def setBuffer (self : External P) (index : Nat) (payload : P) : External P :=
  { self with
    buffer := self.buffer.set index payload
    buffer_length_lt := by simpa using self.buffer_length_lt }

/-- Hand the buffer at `index` to `handler` with a fresh handle over `flag`, as `tx` and `rx`
do: what the handler did, and the nic with the payload it left; `none` when `index` is out
of bounds, where indexing the slice panics. -/
def handOut (self : External P) (index : Nat) (handler : Handler σ P) (state : σ)
    (flag : EnqueueFlag) : Option (Outcome σ P × External P) :=
  self.buffer[index]?.map fun payload =>
    let outcome := (handler state payload).run ⟨flag⟩
    (outcome, self.setBuffer index outcome.payload)

/-- `Device::tx` of `External`, returning besides its result the index `next_id` of the buffer
it lends the sender, if it lends one; the code keeps that index to itself. -/
def txHanded (self : External P) (max : Usize) (sender : Handler σ P) (state : σ) :
    Option (External P × σ × Result Usize × Option Nat) :=
  if max = 0 ∨ self.toSend = 0 then some (self, state, .ok 0, none)
  else
    let nextId := self.nextSend.toNat
    (self.handOut nextId sender state (.setTrue false)).map fun (outcome, self) =>
      if outcome.handle.flag.wasSent then
        ({ self with sent := self.sent + 1 }, outcome.state, .ok 1, some nextId)
      else (self, outcome.state, .ok 0, some nextId)

/-- `Device::rx` of `External`, returning besides its result the index `next_id` of the buffer
it lends the receptor, if it lends one; the code keeps that index to itself. -/
def rxHanded (self : External P) (max : Usize) (receptor : Handler σ P) (state : σ) :
    Option (External P × σ × Result Usize × Option Nat) :=
  if max = 0 ∨ self.toRecv = 0 then some (self, state, .ok 0, none)
  else
    let nextId := self.nextRecv.toNat
    (self.handOut nextId receptor state .notPossible).map fun (outcome, self) =>
      ({ self with recv := self.recv + 1 }, outcome.state, .ok 1, some nextId)

/-- `Device::tx` of `External`. -/
def tx (self : External P) (max : Usize) (sender : Handler σ P) (state : σ) :
    Option (External P × σ × Result Usize) :=
  (self.txHanded max sender state).map fun (next, state, result, _) => (next, state, result)

/-- `Device::rx` of `External`. -/
def rx (self : External P) (max : Usize) (receptor : Handler σ P) (state : σ) :
    Option (External P × σ × Result Usize) :=
  (self.rxHanded max receptor state).map fun (next, state, result, _) => (next, state, result)

section Lemmas

variable (self : External P)

/-- The length `len()` reports is the slice's, which never wraps. -/
@[simp] theorem toNat_len : self.len.toNat = self.buffer.length :=
  Nat.mod_eq_of_lt self.buffer_length_lt

/-- `to_recv()` as a number: the receive buffers inside the slice not yet received. -/
@[simp] theorem toNat_toRecv :
    self.toRecv.toNat = min self.buffer.length self.split.toNat - self.recv.toNat := by
  simp [toRecv]

/-- `to_send()` as a number: the send buffers not yet sent. -/
@[simp] theorem toNat_toSend :
    self.toSend.toNat = self.buffer.length - self.split.toNat - self.sent.toNat := by
  simp [toSend]

/-- Storing a payload replaces the slice's element at its index. -/
@[simp] theorem buffer_setBuffer (index : Nat) (payload : P) :
    (self.setBuffer index payload).buffer = self.buffer.set index payload := rfl

/-- Storing a payload keeps the slice's length. -/
@[simp] theorem length_setBuffer (index : Nat) (payload : P) :
    (self.setBuffer index payload).buffer.length = self.buffer.length := by
  simp [setBuffer]

/-- Storing a payload keeps `recv`. -/
@[simp] theorem recv_setBuffer (index : Nat) (payload : P) :
    (self.setBuffer index payload).recv = self.recv := rfl

/-- Storing a payload keeps `sent`. -/
@[simp] theorem sent_setBuffer (index : Nat) (payload : P) :
    (self.setBuffer index payload).sent = self.sent := rfl

/-- Storing a payload keeps `split`. -/
@[simp] theorem split_setBuffer (index : Nat) (payload : P) :
    (self.setBuffer index payload).split = self.split := rfl

/-- While buffers remain to be sent, the next one to send lies in the slice, its index does
not wrap, and neither does the count of sent buffers. -/
theorem nextSend_of_toSend (pending : self.toSend ≠ 0) :
    self.nextSend.toNat = self.split.toNat + self.sent.toNat ∧
      self.split.toNat + self.sent.toNat < self.buffer.length ∧
      (self.sent + 1).toNat = self.sent.toNat + 1 := by
  have left := Usize.toNat_pos.mpr pending
  have fits := self.buffer_length_lt
  rw [toNat_toSend] at left
  exact ⟨Usize.toNat_add_of_lt (by omega), by omega, Usize.toNat_add_of_lt (by simp; omega)⟩

/-- While buffers remain to be received, the next one to receive lies in the slice and the
count of received buffers does not wrap. -/
theorem nextRecv_of_toRecv (pending : self.toRecv ≠ 0) :
    self.nextRecv.toNat < min self.buffer.length self.split.toNat ∧
      (self.recv + 1).toNat = self.recv.toNat + 1 := by
  have left := Usize.toNat_pos.mpr pending
  have fits := self.buffer_length_lt
  rw [toNat_toRecv] at left
  exact ⟨by simp only [nextRecv]; omega, Usize.toNat_add_of_lt (by simp; omega)⟩

end Lemmas

section Calls

variable {self : External P} {max : Usize} (handler : Handler σ P) (state : σ)

/-- A `tx` call whose guard fails lends nothing, returns `Ok(0)` and changes nothing. -/
theorem txHanded_of_idle (idle : ¬ (max ≠ 0 ∧ self.toSend ≠ 0)) :
    self.txHanded max handler state = some (self, state, .ok 0, none) := by
  rw [txHanded, if_pos (by tauto)]

/-- An `rx` call whose guard fails lends nothing, returns `Ok(0)` and changes nothing. -/
theorem rxHanded_of_idle (idle : ¬ (max ≠ 0 ∧ self.toRecv ≠ 0)) :
    self.rxHanded max handler state = some (self, state, .ok 0, none) := by
  rw [rxHanded, if_pos (by tauto)]

/-- A `tx` call that passes its guard lends the buffer at `split + sent` to the sender on a
send handle, stores the payload the sender leaves, and counts the buffer sent exactly when
the sender called `queue`. -/
theorem txHanded_of_pending (positive : max ≠ 0) (pending : self.toSend ≠ 0) :
    ∃ payload, self.buffer[self.nextSend.toNat]? = some payload ∧
      self.txHanded max handler state =
        let outcome := (handler state payload).run ⟨.setTrue false⟩
        if outcome.replies.isEmpty then
          some (self.setBuffer self.nextSend.toNat outcome.payload, outcome.state, .ok 0,
            some self.nextSend.toNat)
        else some ({ self.setBuffer self.nextSend.toNat outcome.payload with sent := self.sent + 1 },
          outcome.state, .ok 1, some self.nextSend.toNat) := by
  have inside := (self.nextSend_of_toSend pending).2.1
  rw [← (self.nextSend_of_toSend pending).1] at inside
  obtain ⟨payload, found⟩ : ∃ payload, self.buffer[self.nextSend.toNat]? = some payload :=
    ⟨_, List.getElem?_eq_getElem inside⟩
  refine ⟨payload, found, ?_⟩
  have flag := (Action.run_setTrue (handler state payload) false).2
  rw [txHanded, if_neg (by tauto)]
  dsimp only
  rw [handOut, found]
  by_cases none : ((handler state payload).run ⟨.setTrue false⟩).replies.isEmpty <;>
    simp [flag, none, EnqueueFlag.wasSent]

/-- An `rx` call that passes its guard lends the buffer at `recv` to the receptor on a
receive handle, stores the payload the receptor leaves, and counts the buffer received. -/
theorem rxHanded_of_pending (positive : max ≠ 0) (pending : self.toRecv ≠ 0) :
    ∃ payload, self.buffer[self.nextRecv.toNat]? = some payload ∧
      self.rxHanded max handler state =
        let outcome := (handler state payload).run ⟨.notPossible⟩
        some ({ self.setBuffer self.nextRecv.toNat outcome.payload with recv := self.recv + 1 },
          outcome.state, .ok 1, some self.nextRecv.toNat) := by
  have inside := (self.nextRecv_of_toRecv pending).1
  obtain ⟨payload, found⟩ : ∃ payload, self.buffer[self.nextRecv.toNat]? = some payload :=
    ⟨_, List.getElem?_eq_getElem (by omega)⟩
  refine ⟨payload, found, ?_⟩
  rw [rxHanded, if_neg (by tauto)]
  dsimp only
  rw [handOut, found]
  rfl

/-- A call whose guard fails returns `Ok(0)` and changes nothing. -/
theorem tx_of_idle (idle : ¬ (max ≠ 0 ∧ self.toSend ≠ 0)) :
    self.tx max handler state = some (self, state, .ok 0) := by
  rw [tx, txHanded_of_idle handler state idle]
  rfl

/-- A call whose guard fails returns `Ok(0)` and changes nothing. -/
theorem rx_of_idle (idle : ¬ (max ≠ 0 ∧ self.toRecv ≠ 0)) :
    self.rx max handler state = some (self, state, .ok 0) := by
  rw [rx, rxHanded_of_idle handler state idle]
  rfl

/-- A `tx` call that passes its guard hands the buffer at `split + sent` to the sender on a
send handle, stores the payload the sender leaves, and counts the buffer sent exactly when
the sender called `queue`. -/
theorem tx_of_pending (positive : max ≠ 0) (pending : self.toSend ≠ 0) :
    ∃ payload, self.buffer[self.nextSend.toNat]? = some payload ∧
      self.tx max handler state =
        let outcome := (handler state payload).run ⟨.setTrue false⟩
        if outcome.replies.isEmpty then
          some (self.setBuffer self.nextSend.toNat outcome.payload, outcome.state, .ok 0)
        else some ({ self.setBuffer self.nextSend.toNat outcome.payload with sent := self.sent + 1 },
          outcome.state, .ok 1) := by
  obtain ⟨payload, found, lent⟩ := txHanded_of_pending handler state positive pending
  refine ⟨payload, found, ?_⟩
  rw [tx, lent]
  dsimp only
  split <;> rfl

/-- An `rx` call that passes its guard hands the buffer at `recv` to the receptor on a
receive handle, stores the payload the receptor leaves, and counts the buffer received. -/
theorem rx_of_pending (positive : max ≠ 0) (pending : self.toRecv ≠ 0) :
    ∃ payload, self.buffer[self.nextRecv.toNat]? = some payload ∧
      self.rx max handler state =
        let outcome := (handler state payload).run ⟨.notPossible⟩
        some ({ self.setBuffer self.nextRecv.toNat outcome.payload with recv := self.recv + 1 },
          outcome.state, .ok 1) := by
  obtain ⟨payload, found, lent⟩ := rxHanded_of_pending handler state positive pending
  exact ⟨payload, found, by rw [rx, lent]; rfl⟩

/-- `tx` never panics. -/
theorem tx_isSome : (self.tx max handler state).isSome := by
  by_cases guard : max ≠ 0 ∧ self.toSend ≠ 0
  · obtain ⟨payload, -, sent⟩ := tx_of_pending handler state guard.1 guard.2
    rw [sent]
    dsimp only
    split <;> rfl
  · rw [tx_of_idle handler state guard]
    rfl

/-- `rx` never panics. -/
theorem rx_isSome : (self.rx max handler state).isSome := by
  by_cases guard : max ≠ 0 ∧ self.toRecv ≠ 0
  · obtain ⟨payload, -, received⟩ := rx_of_pending handler state guard.1 guard.2
    rw [received]
    rfl
  · rw [rx_of_idle handler state guard]
    rfl

end Calls

/-- Whatever the counters and the length of the slice, `tx` indexes the slice only at
`split + sent`, computed without wrapping and within bounds, and only then increments `sent`,
without wrapping; likewise `rx` at `recv`. Otherwise they return `Ok(0)` and change nothing. -/
theorem tx_rx_in_bounds (self : External P) (max : Usize) (handler : Handler σ P) (state : σ) :
    (max ≠ 0 ∧ self.toSend ≠ 0 →
      self.nextSend.toNat = self.split.toNat + self.sent.toNat ∧
        self.nextSend.toNat < self.buffer.length ∧
        (self.sent + 1).toNat = self.sent.toNat + 1 ∧ (self.tx max handler state).isSome) ∧
    (¬ (max ≠ 0 ∧ self.toSend ≠ 0) → self.tx max handler state = some (self, state, .ok 0)) ∧
    (max ≠ 0 ∧ self.toRecv ≠ 0 →
      self.nextRecv.toNat < self.buffer.length ∧ (self.recv + 1).toNat = self.recv.toNat + 1 ∧
        (self.rx max handler state).isSome) ∧
    (¬ (max ≠ 0 ∧ self.toRecv ≠ 0) → self.rx max handler state = some (self, state, .ok 0)) := by
  refine ⟨fun ⟨_, pending⟩ => ?_, tx_of_idle handler state,
    fun ⟨_, pending⟩ => ?_, rx_of_idle handler state⟩
  · obtain ⟨index, inside, bounded⟩ := self.nextSend_of_toSend pending
    exact ⟨index, index ▸ inside, bounded, tx_isSome handler state⟩
  · obtain ⟨inside, bounded⟩ := self.nextRecv_of_toRecv pending
    exact ⟨by omega, bounded, rx_isSome handler state⟩

/-- A nic with one buffer, only sending. -/
def singleSend : External Unit := newSend [()] (by decide)

/-- A sender that queues its buffer once. -/
def queueOnce : Handler Unit Unit := fun state payload => .queue fun _ => .done state payload

/-- On the one-buffer sending nic, `tx` indexes buffer `0`, inside the slice. -/
theorem tx_in_bounds_singleSend :
    singleSend.nextSend.toNat = singleSend.split.toNat + singleSend.sent.toNat ∧
      singleSend.nextSend.toNat < singleSend.buffer.length ∧
      (singleSend.sent + 1).toNat = singleSend.sent.toNat + 1 ∧
      (singleSend.tx 1 queueOnce ()).isSome :=
  (tx_rx_in_bounds singleSend 1 queueOnce ()).1 ⟨by decide, by decide⟩

/-- With buffers left to send and `max > 0`, every `queue` of the sender succeeds, and `tx`
returns `Ok(1)` and counts one buffer sent if the sender called `queue` at least once, and
`Ok(0)` with the counters unchanged if it never did; with buffers left to receive, every
`queue` of the receptor is refused as illegal, and `rx` returns `Ok(1)` and counts one
buffer received whatever the receptor did. -/
theorem queue_counts_once (self : External P) (max : Usize) (positive : max ≠ 0)
    (sender receptor : Handler σ P) (state : σ) :
    (self.toSend ≠ 0 → ∃ payload outcome, self.buffer[self.nextSend.toNat]? = some payload ∧
      outcome = (sender state payload).run ⟨.setTrue false⟩ ∧
      (∀ reply ∈ outcome.replies, reply = .ok ()) ∧
      (outcome.replies = [] → self.tx max sender state =
        some (self.setBuffer self.nextSend.toNat outcome.payload, outcome.state, .ok 0)) ∧
      (outcome.replies ≠ [] → self.tx max sender state =
        some ({ self.setBuffer self.nextSend.toNat outcome.payload with sent := self.sent + 1 },
          outcome.state, .ok 1) ∧ (self.sent + 1).toNat = self.sent.toNat + 1)) ∧
    (self.toRecv ≠ 0 → ∃ payload outcome, self.buffer[self.nextRecv.toNat]? = some payload ∧
      outcome = (receptor state payload).run ⟨.notPossible⟩ ∧
      (∀ reply ∈ outcome.replies, reply = .error .illegal) ∧
      self.rx max receptor state =
        some ({ self.setBuffer self.nextRecv.toNat outcome.payload with recv := self.recv + 1 },
          outcome.state, .ok 1) ∧ (self.recv + 1).toNat = self.recv.toNat + 1) := by
  refine ⟨fun pending => ?_, fun pending => ?_⟩
  · obtain ⟨payload, found, sent⟩ := tx_of_pending sender state positive pending
    refine ⟨payload, _, found, rfl, (Action.run_setTrue _ false).1, fun none => ?_, fun some => ?_⟩
    · simpa [none] using sent
    · exact ⟨by simpa [List.isEmpty_iff, some] using sent, (self.nextSend_of_toSend pending).2.2⟩
  · obtain ⟨payload, found, received⟩ := rx_of_pending receptor state positive pending
    exact ⟨payload, _, found, rfl, (Action.run_notPossible _).1, received,
      (self.nextRecv_of_toRecv pending).2⟩

/-- On the one-buffer sending nic, a sender queueing once has `tx` return `Ok(1)`. -/
theorem queue_counts_once_singleSend :
    singleSend.tx 1 queueOnce () = some ({ singleSend.setBuffer 0 () with sent := 1 }, (), .ok 1) := by
  obtain ⟨⟨⟩, outcome, -, rfl, -, -, queued⟩ :=
    (queue_counts_once singleSend 1 (by decide) queueOnce queueOnce ()).1 (by decide)
  exact (queued (by decide)).1

/-- `rx` does not return `Ok(1)` on every state with buffers left to send: a nic that only
sends has nothing to receive, and `rx` returns `Ok(0)`. -/
theorem rx_idle_without_receive_buffers :
    ¬ ∀ (self : External Unit) (max : Usize) (receptor : Handler Unit Unit),
      self.toSend ≠ 0 → max ≠ 0 → (self.rx max receptor ()).map (·.2.2) = some (.ok 1) :=
  fun always => absurd (always singleSend 1 queueOnce (by decide) (by decide)) (by decide)

end External

end Ethox.Nic

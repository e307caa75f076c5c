import Ethox.Nic.ExternalRun

/-!
# The external nic under all its operations

Its owner polls an `External` with `tx` and `rx` and, between polls, reconfigures it with
`set_one_past_receive`, `reset_send` and `reset_receive`, which move the split and rewind the
counters without touching a buffer. A handler is given a mutable borrow of one element of the
slice, so whatever runs, a buffer that no handler was handed keeps its contents. The
reconfigurations can hand a buffer out again, so the order facts of `ExternalRun` hold only
between them; what holds across them is stated here.

The two constructors fix a role: a nic from `new_send` only sends and one from `new_recv` only
receives, over every run of device calls.
-/

namespace Ethox.Nic

/-- What the owner of a nic does with it: a device call, or one of the reconfigurations made
between polls. -/
inductive Op (σ P : Type) where
  | call (call : Call σ P)
  | setOnePastReceive (index : Usize)
  | resetSend
  | resetReceive

namespace External

variable {σ P : Type}

/-- One operation, with the event of a device call; `none` on a panic. -/
def apply (self : External P) (state : σ) : Op σ P → Option (External P × σ × Option Event)
  | .call call => (self.step state call).map fun (next, state, e) => (next, state, some e)
  | .setOnePastReceive index => some (self.setOnePastReceive index, state, none)
  | .resetSend => some (self.resetSend, state, none)
  | .resetReceive => some (self.resetReceive, state, none)

/-- A sequence of operations, with the events of its device calls; `none` on a panic. -/
def runOps (self : External P) (state : σ) : List (Op σ P) → Option (External P × σ × List Event)
  | [] => some (self, state, [])
  | op :: ops => (self.apply state op).bind fun (next, state, e) =>
    (next.runOps state ops).map fun (last, state, events) => (last, state, e.toList ++ events)

/-- What a step may do to the slice: keep its length, hand out only an index inside it, and
change no buffer but the one it hands out. -/
structure Frames (before after : External P) (handed : Option Nat) : Prop where
  /-- The slice keeps its length. -/
  length_eq : after.buffer.length = before.buffer.length
  /-- A buffer handed out lies inside the slice. -/
  handed_lt : ∀ i ∈ handed, i < before.buffer.length
  /-- Every other buffer keeps its contents. -/
  getElem?_eq : ∀ i, handed ≠ some i → after.buffer[i]? = before.buffer[i]?

section Frame

variable {self next : External P}

/-- A step that hands nothing out and keeps the slice. -/
theorem Frames.of_buffer_eq (same : next.buffer = self.buffer) : Frames self next none :=
  ⟨by rw [same], fun _ h => absurd h (Option.not_mem_none _), fun _ _ => by rw [same]⟩

/-- Storing into the buffer at an index inside the slice, whatever the counters become. -/
theorem Frames.setBuffer {index : Nat} (inside : index < self.buffer.length) (payload : P)
    (same : next.buffer = (self.setBuffer index payload).buffer) : Frames self next (some index) := by
  refine ⟨by rw [same, length_setBuffer], fun i mem => Option.mem_some_iff.mp mem ▸ inside,
    fun i other => ?_⟩
  rw [same, buffer_setBuffer, List.getElem?_set_ne (fun h => other (congrArg some h))]

variable {state state' : σ} {e : Event}

/-- A device call changes the slice only at the buffer it hands out. -/
theorem step_frames {call : Call σ P} (stepped : self.step state call = some (next, state', e)) :
    Frames self next e.handed := by
  cases call with
  | tx max sender =>
    obtain ⟨⟨next, state', result, handed⟩, called, ⟨⟩⟩ := Option.map_eq_some'.mp stepped
    by_cases guard : max ≠ 0 ∧ self.toSend ≠ 0
    · obtain ⟨payload, -, lent⟩ := txHanded_of_pending sender state guard.1 guard.2
      have inside := (self.nextSend_of_toSend guard.2)
      rw [lent] at called
      dsimp only at called
      split at called <;> cases called <;>
        exact Frames.setBuffer (inside.1 ▸ inside.2.1) _ rfl
    · rw [txHanded_of_idle sender state guard] at called
      cases called
      exact Frames.of_buffer_eq rfl
  | rx max receptor =>
    obtain ⟨⟨next, state', result, handed⟩, called, ⟨⟩⟩ := Option.map_eq_some'.mp stepped
    by_cases guard : max ≠ 0 ∧ self.toRecv ≠ 0
    · obtain ⟨payload, -, lent⟩ := rxHanded_of_pending receptor state guard.1 guard.2
      rw [lent] at called
      cases called
      exact Frames.setBuffer
        (lt_of_lt_of_le (self.nextRecv_of_toRecv guard.2).1 (min_le_left _ _)) _ rfl
    · rw [rxHanded_of_idle receptor state guard] at called
      cases called
      exact Frames.of_buffer_eq rfl

/-- An operation changes the slice only at the buffer its device call hands out, if any. -/
theorem apply_frames {op : Op σ P} {e : Option Event}
    (applied : self.apply state op = some (next, state', e)) :
    Frames self next (e.bind Event.handed) := by
  cases op
  case call call =>
    obtain ⟨⟨next, state', e⟩, stepped, ⟨⟩⟩ := Option.map_eq_some'.mp applied
    exact step_frames stepped
  all_goals cases applied; exact Frames.of_buffer_eq rfl

/-- A pending `tx` call hands the buffer at `next_send` to the sender, stores what the sender
leaves there, and counts the buffer sent exactly when the sender queued it. -/
theorem step_tx_pending {max : Usize} (sender : Handler σ P) (positive : max ≠ 0)
    (pending : self.toSend ≠ 0) :
    ∃ payload next, self.buffer[self.nextSend.toNat]? = some payload ∧
      self.step state (.tx max sender) = some (next, ((sender state payload).run ⟨.setTrue false⟩).state,
        ⟨true, max, some self.nextSend.toNat,
          .ok (if ((sender state payload).run ⟨.setTrue false⟩).replies.isEmpty then 0 else 1)⟩) ∧
      next.buffer =
        self.buffer.set self.nextSend.toNat ((sender state payload).run ⟨.setTrue false⟩).payload ∧
      next.recv = self.recv ∧ next.split = self.split ∧
      next.sent = if ((sender state payload).run ⟨.setTrue false⟩).replies.isEmpty then self.sent
        else self.sent + 1 := by
  obtain ⟨payload, found, lent⟩ := txHanded_of_pending sender state positive pending
  by_cases none : ((sender state payload).run ⟨.setTrue false⟩).replies.isEmpty
  · refine ⟨payload,
      self.setBuffer self.nextSend.toNat ((sender state payload).run ⟨.setTrue false⟩).payload, found, ?_,
      rfl, rfl, rfl, by rw [if_pos none]; rfl⟩
    rw [step, lent]
    simp only [none, if_true]
    rfl
  · refine ⟨payload,
      { self.setBuffer self.nextSend.toNat ((sender state payload).run ⟨.setTrue false⟩).payload with
        sent := self.sent + 1 }, found, ?_, rfl, rfl, rfl, by rw [if_neg none]⟩
    rw [step, lent]
    simp only [none, if_false]
    rfl

/-- A run of operations is its first operation followed by the run from where it left the nic. -/
theorem runOps_cons {last : External P} {mid : σ} {op : Op σ P} {ops : List (Op σ P)}
    {e : Option Event} {events : List Event} (applied : self.apply state op = some (next, mid, e))
    (ran : next.runOps mid ops = some (last, state', events)) :
    self.runOps state (op :: ops) = some (last, state', e.toList ++ events) := by
  simp only [runOps, applied, ran, Option.some_bind, Option.map_some']

/-- No operation panics. -/
theorem apply_isSome (self : External P) (state : σ) (op : Op σ P) : (self.apply state op).isSome := by
  cases op
  case call call => simp only [apply, Option.isSome_map', step_isSome]
  all_goals rfl

end Frame

/-- Over every sequence of device calls and reconfigurations, from any state and with any
handlers: nothing panics, the slice keeps its length, every buffer handed to a handler lies
inside it, and a buffer that no call handed out holds at the end what it held at the start. -/
theorem runOps_untouched_buffers (self : External P) (state : σ) (ops : List (Op σ P)) :
    ∃ last state' events, self.runOps state ops = some (last, state', events) ∧
      last.buffer.length = self.buffer.length ∧
      (∀ e ∈ events, ∀ i ∈ e.handed, i < self.buffer.length) ∧
      ∀ i, (∀ e ∈ events, e.handed ≠ some i) → last.buffer[i]? = self.buffer[i]? := by
  induction ops generalizing self state with
  | nil => exact ⟨self, state, [], rfl, rfl, by simp, fun _ _ => rfl⟩
  | cons op ops ih =>
    obtain ⟨⟨next, mid, e⟩, applied⟩ := Option.isSome_iff_exists.mp (self.apply_isSome state op)
    have frames := apply_frames applied
    obtain ⟨last, state', events, ran, length, inside, untouched⟩ := ih next mid
    refine ⟨last, state', (e.toList ++ events), runOps_cons applied ran, length.trans frames.length_eq,
      fun e' mem i handed => ?_, fun i never => ?_⟩
    · rcases List.mem_append.mp mem with now | later
      · obtain rfl := Option.mem_toList.mp now
        exact frames.handed_lt i (Option.mem_bind_iff.mpr ⟨e', rfl, handed⟩)
      · exact frames.length_eq ▸ inside e' later i handed
    · have first : e.bind Event.handed ≠ some i := by
        intro here
        obtain ⟨e', mem, handed⟩ := Option.bind_eq_some.mp here
        exact never e' (List.mem_append_left _ (Option.mem_toList.mpr mem)) handed
      exact (untouched i fun e' mem => never e' (List.mem_append_right _ mem)).trans
        (frames.getElem?_eq i first)

/-- A nic from `new_send` has nothing to receive. -/
theorem newSend_toRecv (buffer : List P) (fits : buffer.length < 2 ^ 64) :
    (newSend buffer fits).queues.toRecv.left = 0 := by
  simp [newSend]

/-- A nic from `new_recv` has nothing to send. -/
theorem newRecv_toSend (buffer : List P) (fits : buffer.length < 2 ^ 64) :
    (newRecv buffer fits).queues.toSend.left = 0 := by
  simp only [queues_toSend, toNat_toSend, newRecv, BitVec.toNat_ofNat]
  omega

/-- Over every run of device calls, with any `max` and any handlers, a nic from `new_send`
never hands a buffer to a receptor, every `rx` returning `Ok(0)`, and a nic from `new_recv`
never hands a buffer to a sender, every `tx` returning `Ok(0)`. -/
theorem new_nics_keep_their_role (buffer : List P) (fits : buffer.length < 2 ^ 64) (state : σ)
    (calls : List (Call σ P)) :
    (∃ last state' events, (newSend buffer fits).exec state calls = some (last, state', events) ∧
      ∀ e ∈ events, e.isTx = false → e.handed = none ∧ e.result = .ok 0) ∧
    (∃ last state' events, (newRecv buffer fits).exec state calls = some (last, state', events) ∧
      ∀ e ∈ events, e.isTx = true → e.handed = none ∧ e.result = .ok 0) := by
  constructor
  · obtain ⟨⟨last, state', events⟩, ran⟩ := Option.isSome_iff_exists.mp (exec_isSome _ state calls)
    exact ⟨last, state', events, ran,
      (exec_refines ran).1.rx_idle_of_empty (newSend_toRecv buffer fits)⟩
  · obtain ⟨⟨last, state', events⟩, ran⟩ := Option.isSome_iff_exists.mp (exec_isSome _ state calls)
    exact ⟨last, state', events, ran,
      (exec_refines ran).1.tx_idle_of_empty (newRecv_toSend buffer fits)⟩

/-- Nics of one buffer from either constructor keep their role over a `tx` and an `rx` call. -/
theorem new_nics_keep_their_role_single : [()].length < 2 ^ 64 ∧
    (∃ last state' events, (newSend [()] (by decide)).exec () [.tx 1 queueOnce, .rx 1 queueOnce] =
        some (last, state', events) ∧
      ∀ e ∈ events, e.isTx = false → e.handed = none ∧ e.result = .ok 0) ∧
    (∃ last state' events, (newRecv [()] (by decide)).exec () [.tx 1 queueOnce, .rx 1 queueOnce] =
        some (last, state', events) ∧
      ∀ e ∈ events, e.isTx = true → e.handed = none ∧ e.result = .ok 0) :=
  ⟨by decide, new_nics_keep_their_role [()] (by decide) () [.tx 1 queueOnce, .rx 1 queueOnce]⟩

section Sending

variable {self : External P} {state : σ}

/-- What a sender leaves when it is handed `buffers` in turn on send handles: its last state,
and the payload it left in each buffer. -/
def sendEach (sender : Handler σ P) (state : σ) : List P → σ × List P
  | [] => (state, [])
  | payload :: buffers =>
    ((sendEach sender ((sender state payload).run ⟨.setTrue false⟩).state buffers).1,
      ((sender state payload).run ⟨.setTrue false⟩).payload ::
        (sendEach sender ((sender state payload).run ⟨.setTrue false⟩).state buffers).2)

/-- The sender leaves one payload per buffer it is handed. -/
@[simp] theorem length_sendEach (sender : Handler σ P) (state : σ) (buffers : List P) :
    (sendEach sender state buffers).2.length = buffers.length := by
  induction buffers generalizing state <;> simp [sendEach, *]

/-- A run of device calls is a run of operations. -/
theorem runOps_map_call (self : External P) (state : σ) (calls : List (Call σ P)) :
    self.runOps state (calls.map .call) = self.exec state calls := by
  induction calls generalizing self state with
  | nil => rfl
  | cons call calls ih =>
    simp only [List.map_cons, runOps, exec, apply, Option.map_bind, ih]
    cases self.step state call <;> rfl

/-- A run of operations is its first part followed by the rest from where the first part
left the nic. -/
theorem runOps_append {mid last : External P} {state' state'' : σ} {ops ops' : List (Op σ P)}
    {events events' : List Event} (first : self.runOps state ops = some (mid, state', events))
    (rest : mid.runOps state' ops' = some (last, state'', events')) :
    self.runOps state (ops ++ ops') = some (last, state'', events ++ events') := by
  induction ops generalizing self state events with
  | nil =>
    cases first
    exact rest
  | cons op ops ih =>
    obtain ⟨⟨next, mid', e⟩, applied, continued⟩ := Option.bind_eq_some.mp first
    obtain ⟨⟨_, _, events''⟩, ran, same⟩ := Option.map_eq_some'.mp continued
    cases same
    rw [List.cons_append, runOps_cons applied (ih ran), List.append_assoc]

/-- A run of `tx` calls with `max > 0` and a sender that queues whatever it is handed, while
buffers remain to be sent: the calls hand the sender the buffers `next_send, next_send + 1,
...` in order, each returning `Ok(1)`, store what it leaves in each, and count them sent. -/
theorem exec_tx (sender : Handler σ P)
    (queues : ∀ state payload, ((sender state payload).run ⟨.setTrue false⟩).replies ≠ [])
    (maxes : List Usize) (positive : ∀ max ∈ maxes, max ≠ 0)
    (room : maxes.length ≤ self.toSend.toNat) :
    ∃ last events, self.exec state (maxes.map (Call.tx · sender)) =
        some (last, (sendEach sender state ((self.buffer.drop self.nextSend.toNat).take maxes.length)).1,
          events) ∧
      (∀ i, last.buffer[i]? = if self.nextSend.toNat ≤ i ∧ i < self.nextSend.toNat + maxes.length then
          (sendEach sender state ((self.buffer.drop self.nextSend.toNat).take maxes.length)).2[i -
            self.nextSend.toNat]?
        else self.buffer[i]?) ∧
      last.buffer.length = self.buffer.length ∧ last.recv = self.recv ∧ last.split = self.split ∧
      last.sent.toNat = self.sent.toNat + maxes.length ∧
      events.map (fun e => (e.handed, e.result)) =
        (List.range' self.nextSend.toNat maxes.length).map fun i => (some i, .ok 1) := by
  induction maxes generalizing self state with
  | nil =>
    exact ⟨self, [], rfl, fun i => (if_neg (by rw [List.length_nil]; omega)).symm, rfl, rfl, rfl, rfl, rfl⟩
  | cons max maxes ih =>
    rw [List.length_cons] at room ⊢
    have pending : self.toSend ≠ 0 := Usize.toNat_pos.mp (by omega)
    obtain ⟨payload, next, found, stepped, buffer, recv, split, sent⟩ :=
      @step_tx_pending σ P self state max sender (positive max (List.mem_cons_self _ _)) pending
    have counted : ((sender state payload).run ⟨.setTrue false⟩).replies.isEmpty = false :=
      Bool.eq_false_iff.mpr (mt List.isEmpty_iff.mp (queues state payload))
    rw [counted, if_neg Bool.false_ne_true] at stepped sent
    obtain ⟨first, inside, succ⟩ := self.nextSend_of_toSend pending
    have nextSend : next.nextSend.toNat = self.nextSend.toNat + 1 := by
      have := self.buffer_length_lt
      rw [External.nextSend, split, sent, Usize.toNat_add_of_lt (by rw [succ]; omega), succ, first]
      omega
    have toSend : next.toSend.toNat = self.toSend.toNat - 1 := by
      simp only [toNat_toSend, buffer, List.length_set, split, sent, succ]
      omega
    obtain ⟨last, events, ran, written, length, sameRecv, sameSplit, count, handed⟩ :=
      @ih next ((sender state payload).run ⟨.setTrue false⟩).state
        (fun m mem => positive m (List.mem_cons_of_mem max mem)) (by omega)
    have tail : next.buffer.drop next.nextSend.toNat = self.buffer.drop (self.nextSend.toNat + 1) := by
      rw [nextSend, buffer, List.drop_set_of_lt _ _ (Nat.lt_succ_self _)]
    have head : (self.buffer.drop self.nextSend.toNat).take (maxes.length + 1) =
        payload :: (self.buffer.drop (self.nextSend.toNat + 1)).take maxes.length := by
      rw [List.drop_eq_getElem_cons (by rw [first]; exact inside), List.take_succ_cons,
        (List.getElem?_eq_some_iff.mp found).2]
    rw [tail] at ran written
    refine ⟨last, ⟨true, max, some self.nextSend.toNat, .ok 1⟩ :: events, ?_, fun i => ?_,
      by rw [length, buffer, List.length_set], sameRecv.trans recv, sameSplit.trans split, ?_, ?_⟩
    · rw [head]
      exact exec_cons stepped ran
    · rw [written i, head, nextSend, buffer, List.getElem?_set]
      simp only [sendEach]
      by_cases here : i = self.nextSend.toNat
      · subst here
        simp [inside, first]
      · by_cases later : self.nextSend.toNat + 1 ≤ i ∧ i < self.nextSend.toNat + 1 + maxes.length
        · rw [if_pos later, if_pos (by omega),
            show i - self.nextSend.toNat = i - (self.nextSend.toNat + 1) + 1 by omega, List.getElem?_cons_succ]
        · rw [if_neg later, if_neg (Ne.symm here), if_neg (by omega)]
    · rw [count, sent, succ]
      omega
    · rw [List.map_cons, handed, nextSend, List.range'_succ]
      rfl

/-- `reset_receive` rewinds reception: afterwards a run of `rx` calls with `max > 0` hands the
receptor the buffers `0, 1, ...` below `min(n, split)` again, in order, each returning `Ok(1)`,
and `Ok(0)` after them. `reset_send` rewinds sending: afterwards a run of `tx` calls with a
sender that queues whatever it is handed hands it the buffers `split, split + 1, ...` again, in
order, each returning `Ok(1)`, while buffers remain. -/
theorem resets_rewind (self : External P) (state : σ) (receptor sender : Handler σ P)
    (queues : ∀ state payload, ((sender state payload).run ⟨.setTrue false⟩).replies ≠ [])
    (maxes : List Usize) (positive : ∀ max ∈ maxes, max ≠ 0) :
    (∃ last events, self.resetReceive.exec state (maxes.map (Call.rx · receptor)) =
        some (last, (self.buffer.take (min maxes.length (min self.buffer.length self.split.toNat))).foldl
          (receiveState receptor) state, events) ∧
      events.map (fun e => (e.handed, e.result)) =
        (List.range' 0 (min maxes.length (min self.buffer.length self.split.toNat))).map
          (fun i => (some i, .ok 1)) ++
          List.replicate (maxes.length - min self.buffer.length self.split.toNat) (none, .ok 0)) ∧
    (maxes.length ≤ self.buffer.length - self.split.toNat →
      ∃ last events, self.resetSend.exec state (maxes.map (Call.tx · sender)) =
          some (last, (sendEach sender state ((self.buffer.drop self.split.toNat).take maxes.length)).1,
            events) ∧
        events.map (fun e => (e.handed, e.result)) =
          (List.range' self.split.toNat maxes.length).map fun i => (some i, .ok 1)) := by
  refine ⟨?_, fun room => ?_⟩
  · obtain ⟨last, events, ran, handed, -⟩ :=
      @exec_rx_events σ P self.resetReceive state receptor maxes positive
    have toRecv : self.resetReceive.toRecv.toNat = min self.buffer.length self.split.toNat := by
      simp [resetReceive]
    rw [toRecv] at ran handed
    exact ⟨last, events, ran, handed⟩
  · have first : self.resetSend.nextSend.toNat = self.split.toNat := by simp [resetSend, External.nextSend]
    obtain ⟨last, events, ran, -, -, -, -, -, handed⟩ := @exec_tx σ P self.resetSend state sender queues
      maxes positive (by simpa [resetSend] using room)
    rw [first] at ran handed
    exact ⟨last, events, ran, handed⟩

/-- A nic over three numbered buffers after some traffic: buffer `0`, below the split, has
been received, and buffer `1`, the first of the two to send, has been sent. -/
def afterTraffic : External Nat := ⟨[7, 8, 9], 1, 1, 1, by decide⟩

/-- A receptor that logs the payload it is handed. -/
def logPayload : Handler (List Nat) Nat := fun log payload => .done (log ++ [payload]) payload

/-- A sender that logs the payload it is handed and queues it. -/
def logAndQueue : Handler (List Nat) Nat := fun log payload =>
  .queue fun _ => .done (log ++ [payload]) payload

/-- After some traffic, `reset_receive` has two `rx` calls hand out buffer `0` again and then
nothing, and `reset_send` has two `tx` calls hand out buffers `1` and `2` again. -/
theorem resets_rewind_afterTraffic :
    (∀ log payload, ((logAndQueue log payload).run ⟨.setTrue false⟩).replies ≠ []) ∧
    (∀ max ∈ ([1, 1] : List Usize), max ≠ 0) ∧
    (∃ last events, afterTraffic.resetReceive.exec [] (([1, 1] : List Usize).map (Call.rx · logPayload)) =
        some (last, [7], events) ∧
      events.map (fun e => (e.handed, e.result)) = [(some 0, .ok 1), (none, .ok 0)]) ∧
    (∃ last events, afterTraffic.resetSend.exec [] (([1, 1] : List Usize).map (Call.tx · logAndQueue)) =
        some (last, [8, 9], events) ∧
      events.map (fun e => (e.handed, e.result)) = [(some 1, .ok 1), (some 2, .ok 1)]) := by
  have queues : ∀ log payload, ((logAndQueue log payload).run ⟨.setTrue false⟩).replies ≠ [] :=
    fun _ _ => List.cons_ne_nil _ _
  obtain ⟨receiving, sending⟩ :=
    resets_rewind afterTraffic [] logPayload logAndQueue queues [1, 1] (by simp)
  exact ⟨queues, by simp, receiving, sending (by decide)⟩

end Sending

end External

end Ethox.Nic

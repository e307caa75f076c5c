import Ethox.Basic

/-!
# The device as its user sees it

What a buffer-serving device such as `External` is for: it holds two queues of buffer
indices, those still to be received and those still to be sent, each a run of consecutive
indices. A call with `max > 0` hands the head of its queue to the handler. A received
buffer always leaves its queue; a buffer to send leaves only when its sender queued it, so
a declined buffer is offered again. Calls are observed as `Event`s, and every fact about
runs here concerns this model alone; `ExternalRun` shows that `External` refines it.
-/

namespace Ethox.Nic

/-- One call as seen from outside: whether it was `tx`, its `max`, the index of the buffer
it handed to its handler, and what it returned. -/
structure Event where
  /-- A `tx` call, or else an `rx` call. -/
  isTx : Bool
  /-- The `max` of the call. -/
  max : Usize
  /-- The index of the buffer handed to the handler, if any. -/
  handed : Option Nat
  /-- The return value. -/
  result : Result Usize
deriving DecidableEq

namespace Event

/-- The count a call returned, `0` for an error. -/
def count (e : Event) : Nat :=
  match e.result with
  | .ok count => count.toNat
  | .error _ => 0

/-- The count an `rx` call returned; `0` for a `tx` call. -/
def rxCount (e : Event) : Nat := if e.isTx then 0 else e.count

/-- The count a `tx` call returned; `0` for an `rx` call. -/
def txCount (e : Event) : Nat := if e.isTx then e.count else 0

/-- The buffer an `rx` call handed to its receptor. -/
def received (e : Event) : Option Nat := if e.isTx then none else e.handed

/-- The buffer a `tx` call counted as sent, its sender having queued it. -/
def queued (e : Event) : Option Nat := if e.isTx ∧ e.count = 1 then e.handed else none

/-- A `tx` call with `max > 0`. -/
def live (e : Event) : Bool := e.isTx && e.max != 0

/-- A buffer that `a` handed out and did not send is the one `b` hands out. -/
def Reoffered (a b : Event) : Prop := a.count = 0 → b.handed = a.handed

end Event

/-- The sum of the counts of the `rx` calls. -/
def rxTotal (events : List Event) : Nat := (events.map Event.rxCount).sum

/-- The sum of the counts of the `tx` calls. -/
def txTotal (events : List Event) : Nat := (events.map Event.txCount).sum

/-- A queue of consecutive buffer indices: `next`, `next + 1`, ..., `left` of them. -/
structure Queue where
  /-- The head, when `left > 0`. -/
  next : Nat
  /-- The number of indices in the queue. -/
  left : Nat
deriving DecidableEq

namespace Queue

/-- The queue without its head. -/
def pop (q : Queue) : Queue := ⟨q.next + 1, q.left - 1⟩

/-- The head of the queue, if it has one. -/
def head? (q : Queue) : Option Nat := if q.left = 0 then none else some q.next

/-- One call's effect on a queue: it takes nothing and counts `0`, or takes the head of a
nonempty queue and counts `1`. -/
def Serves (q : Queue) (taken : Option Nat) (count : Nat) (q' : Queue) : Prop :=
  (taken = none ∧ count = 0 ∧ q' = q) ∨ (taken = some q.next ∧ count = 1 ∧ q.left ≠ 0 ∧ q' = q.pop)

/-- A call counting nothing leaves the queue as it was. -/
theorem Serves.eq_of_count_eq_zero {q q' : Queue} {taken : Option Nat} {count : Nat}
    (serves : q.Serves taken count q') (zero : count = 0) : q' = q := by
  rcases serves with ⟨-, -, same⟩ | ⟨-, one, -, -⟩
  · exact same
  · omega

/-- Calls on a queue, each with what it took and what it counted, in order. -/
inductive Drains : Queue → List (Option Nat × Nat) → Queue → Prop
  | nil (q : Queue) : Drains q [] q
  | cons {q q₁ q' : Queue} {taken : Option Nat} {count : Nat} {steps : List (Option Nat × Nat)} :
      q.Serves taken count q₁ → Drains q₁ steps q' → Drains q ((taken, count) :: steps) q'

/-- Calls on a queue take its indices in order, each at most once, and their counts add up
to the number taken. -/
theorem Drains.taken_in_order {q q' : Queue} {steps : List (Option Nat × Nat)}
    (drains : Drains q steps q') :
    steps.filterMap Prod.fst = List.range' q.next (q.left - q'.left) ∧
      (steps.map Prod.snd).sum = q.left - q'.left ∧ q'.left ≤ q.left := by
  induction drains with
  | nil q => simp
  | @cons q q₁ q' taken count steps serves _ ih =>
    obtain ⟨order, total, fewer⟩ := ih
    rcases serves with ⟨rfl, rfl, rfl⟩ | ⟨rfl, rfl, nonempty, rfl⟩
    · simpa using ⟨order, total, fewer⟩
    · simp only [pop] at order total fewer
      refine ⟨?_, by simp [total]; omega, by omega⟩
      rw [show q.left - q'.left = q.left - 1 - q'.left + 1 by omega, List.range'_succ, ← order]
      rfl

end Queue

/-- The abstract device: the queue of buffers to receive and the queue of buffers to send. -/
structure Queues where
  /-- Buffers still to be received. -/
  toRecv : Queue
  /-- Buffers still to be sent. -/
  toSend : Queue
deriving DecidableEq

namespace Queues

/-- An `rx` call with `max`: the head of the receive queue is handed out and received. -/
def rx (q : Queues) (max : Usize) : Queues × Event :=
  if max = 0 ∨ q.toRecv.left = 0 then (q, ⟨false, max, none, .ok 0⟩)
  else ({ q with toRecv := q.toRecv.pop }, ⟨false, max, some q.toRecv.next, .ok 1⟩)

/-- A `tx` call with `max`: the head of the send queue is handed out, and sent when its
sender `queued` it. -/
def tx (q : Queues) (max : Usize) (queued : Bool) : Queues × Event :=
  if max = 0 ∨ q.toSend.left = 0 then (q, ⟨true, max, none, .ok 0⟩)
  else if queued then ({ q with toSend := q.toSend.pop }, ⟨true, max, some q.toSend.next, .ok 1⟩)
  else (q, ⟨true, max, some q.toSend.next, .ok 0⟩)

section Calls

variable {q : Queues} {max : Usize}

/-- An `rx` call with `max = 0` or nothing to receive shows `Ok(0)` and changes nothing. -/
theorem rx_of_idle (idle : max = 0 ∨ q.toRecv.left = 0) : q.rx max = (q, ⟨false, max, none, .ok 0⟩) :=
  if_pos idle

/-- An `rx` call that passes its guard pops the receive queue. -/
theorem rx_of_busy (busy : ¬ (max = 0 ∨ q.toRecv.left = 0)) :
    q.rx max = ({ q with toRecv := q.toRecv.pop }, ⟨false, max, some q.toRecv.next, .ok 1⟩) :=
  if_neg busy

/-- A `tx` call with `max = 0` or nothing to send shows `Ok(0)` and changes nothing. -/
theorem tx_of_idle (idle : max = 0 ∨ q.toSend.left = 0) (queued : Bool) :
    q.tx max queued = (q, ⟨true, max, none, .ok 0⟩) :=
  if_pos idle

/-- A `tx` call that passes its guard hands out the head of the send queue, and pops it if
its sender queued it. -/
theorem tx_of_busy (busy : ¬ (max = 0 ∨ q.toSend.left = 0)) (queued : Bool) :
    q.tx max queued = if queued then ({ q with toSend := q.toSend.pop }, ⟨true, max, some q.toSend.next, .ok 1⟩)
      else (q, ⟨true, max, some q.toSend.next, .ok 0⟩) :=
  if_neg busy

end Calls

/-- One call of the abstract device and what it shows. -/
inductive Step : Queues → Event → Queues → Prop
  | rx {q q' : Queues} {e : Event} (max : Usize) : q.rx max = (q', e) → Step q e q'
  | tx {q q' : Queues} {e : Event} (max : Usize) (queued : Bool) :
      q.tx max queued = (q', e) → Step q e q'

/-- Runs of the abstract device. -/
inductive Runs : Queues → List Event → Queues → Prop
  | nil (q : Queues) : Runs q [] q
  | cons {q q₁ q' : Queues} {e : Event} {events : List Event} :
      Step q e q₁ → Runs q₁ events q' → Runs q (e :: events) q'

variable {q q₁ q' : Queues} {e : Event} {events : List Event}

/-- What one call can do: an `rx` call hands out nothing, or hands out the head of the receive
queue and pops it; a `tx` call hands out nothing when `max = 0` or nothing is left to send,
or hands out the head of the send queue and pops it exactly when its sender queued it. -/
theorem Step.cases (step : Step q e q₁) : ∃ max,
    (e = ⟨false, max, none, .ok 0⟩ ∧ q₁ = q) ∨
    (max ≠ 0 ∧ q.toRecv.left ≠ 0 ∧ e = ⟨false, max, some q.toRecv.next, .ok 1⟩ ∧
      q₁ = { q with toRecv := q.toRecv.pop }) ∨
    ((max = 0 ∨ q.toSend.left = 0) ∧ e = ⟨true, max, none, .ok 0⟩ ∧ q₁ = q) ∨
    (max ≠ 0 ∧ q.toSend.left ≠ 0 ∧ e = ⟨true, max, some q.toSend.next, .ok 0⟩ ∧ q₁ = q) ∨
    (max ≠ 0 ∧ q.toSend.left ≠ 0 ∧ e = ⟨true, max, some q.toSend.next, .ok 1⟩ ∧
      q₁ = { q with toSend := q.toSend.pop }) := by
  rcases step with ⟨max, done⟩ | ⟨max, queued, done⟩ <;> refine ⟨max, ?_⟩
  · by_cases idle : max = 0 ∨ q.toRecv.left = 0
    · rw [rx_of_idle idle] at done
      cases done
      exact .inl ⟨rfl, rfl⟩
    · rw [rx_of_busy idle] at done
      cases done
      exact .inr (.inl ⟨fun h => idle (.inl h), fun h => idle (.inr h), rfl, rfl⟩)
  · by_cases idle : max = 0 ∨ q.toSend.left = 0
    · rw [tx_of_idle idle] at done
      cases done
      exact .inr (.inr (.inl ⟨idle, rfl, rfl⟩))
    · rw [tx_of_busy idle] at done
      have busy : max ≠ 0 ∧ q.toSend.left ≠ 0 := not_or.mp idle
      cases queued <;> cases done
      · exact .inr (.inr (.inr (.inl ⟨busy.1, busy.2, rfl, rfl⟩)))
      · exact .inr (.inr (.inr (.inr ⟨busy.1, busy.2, rfl, rfl⟩)))

/-- A call returns `Ok(c)` with `c` at most `max` and at most one. -/
theorem Step.counts (step : Step q e q₁) : ∃ c, e.result = .ok c ∧ c.toNat ≤ min e.max.toNat 1 := by
  obtain ⟨max, ⟨rfl, -⟩ | ⟨positive, -, rfl, -⟩ | ⟨-, rfl, -⟩ | ⟨-, -, rfl, -⟩ | ⟨positive, -, rfl, -⟩⟩ :=
    step.cases
  · exact ⟨0, rfl, Nat.zero_le _⟩
  · exact ⟨1, rfl, le_min (Usize.toNat_pos.mpr positive) le_rfl⟩
  · exact ⟨0, rfl, Nat.zero_le _⟩
  · exact ⟨0, rfl, Nat.zero_le _⟩
  · exact ⟨1, rfl, le_min (Usize.toNat_pos.mpr positive) le_rfl⟩

/-- On the receive queue, a call takes the buffer it hands to a receptor. -/
theorem Step.receive_side (step : Step q e q₁) : q.toRecv.Serves e.received e.rxCount q₁.toRecv := by
  obtain ⟨max, ⟨rfl, rfl⟩ | ⟨-, nonempty, rfl, rfl⟩ | ⟨-, rfl, rfl⟩ | ⟨-, -, rfl, rfl⟩ | ⟨-, -, rfl, rfl⟩⟩ :=
    step.cases
  · exact .inl ⟨rfl, rfl, rfl⟩
  · exact .inr ⟨rfl, rfl, nonempty, rfl⟩
  all_goals exact .inl ⟨rfl, rfl, rfl⟩

/-- On the send queue, a call takes the buffer its sender queued. -/
theorem Step.send_side (step : Step q e q₁) : q.toSend.Serves e.queued e.txCount q₁.toSend := by
  obtain ⟨max, ⟨rfl, rfl⟩ | ⟨-, -, rfl, rfl⟩ | ⟨-, rfl, rfl⟩ | ⟨-, -, rfl, rfl⟩ | ⟨-, nonempty, rfl, rfl⟩⟩ :=
    step.cases
  iterate 4 exact .inl ⟨rfl, rfl, rfl⟩
  exact .inr ⟨rfl, rfl, nonempty, rfl⟩

/-- The buffer the send queue offers: its head, if it has one. -/
def sendOffer (q : Queues) : Option Nat := q.toSend.head?

/-- A `tx` call with `max > 0` hands out the buffer the send queue offers. -/
theorem Step.live_handed (step : Step q e q₁) (live : e.live) : e.handed = q.sendOffer := by
  obtain ⟨max, ⟨rfl, -⟩ | ⟨-, -, rfl, -⟩ | ⟨idle, rfl, -⟩ | ⟨-, busy, rfl, -⟩ | ⟨-, busy, rfl, -⟩⟩ :=
    step.cases
  all_goals simp only [Event.live, Bool.and_eq_true, bne_iff_ne, ne_eq] at live
  · cases live.1
  · cases live.1
  · exact (if_pos (idle.resolve_left live.2)).symm
  all_goals exact (if_neg busy).symm

/-- A call counting no buffer sent leaves the send queue as it was. -/
theorem Step.sendOffer_of_txCount (step : Step q e q₁) (zero : e.txCount = 0) :
    q₁.sendOffer = q.sendOffer := by
  rw [sendOffer, step.send_side.eq_of_count_eq_zero zero, sendOffer]

/-- A call that is not a live `tx` counts no buffer sent. -/
theorem Step.txCount_of_not_live (step : Step q e q₁) (idle : ¬ e.live) : e.txCount = 0 := by
  obtain ⟨max, ⟨rfl, -⟩ | ⟨-, -, rfl, -⟩ | ⟨-, rfl, -⟩ | ⟨-, -, rfl, -⟩ | ⟨positive, -, rfl, -⟩⟩ :=
    step.cases
  iterate 4 rfl
  exact absurd (by simpa [Event.live] using positive) idle

/-- With nothing left to receive, an `rx` call hands out nothing and shows `Ok(0)`, and the
receive queue stays empty. -/
theorem Step.rx_idle_of_empty (step : Step q e q₁) (empty : q.toRecv.left = 0) :
    (e.isTx = false → e.handed = none ∧ e.result = .ok 0) ∧ q₁.toRecv.left = 0 := by
  obtain ⟨max, ⟨rfl, rfl⟩ | ⟨-, nonempty, -, -⟩ | ⟨-, rfl, rfl⟩ | ⟨-, -, rfl, rfl⟩ | ⟨-, -, rfl, rfl⟩⟩ :=
    step.cases
  · exact ⟨fun _ => ⟨rfl, rfl⟩, empty⟩
  · exact absurd empty nonempty
  all_goals exact ⟨nofun, empty⟩

/-- With nothing left to send, a `tx` call hands out nothing and shows `Ok(0)`, and the send
queue stays empty. -/
theorem Step.tx_idle_of_empty (step : Step q e q₁) (empty : q.toSend.left = 0) :
    (e.isTx = true → e.handed = none ∧ e.result = .ok 0) ∧ q₁.toSend.left = 0 := by
  obtain ⟨max, ⟨rfl, rfl⟩ | ⟨-, -, rfl, rfl⟩ | ⟨-, rfl, rfl⟩ | ⟨-, nonempty, -, -⟩ | ⟨-, nonempty, -, -⟩⟩ :=
    step.cases
  · exact ⟨nofun, empty⟩
  · exact ⟨nofun, empty⟩
  · exact ⟨fun _ => ⟨rfl, rfl⟩, empty⟩
  all_goals exact absurd empty nonempty

/-- A run that starts with nothing to receive hands no buffer to a receptor. -/
theorem Runs.rx_idle_of_empty (run : Runs q events q') (empty : q.toRecv.left = 0) :
    ∀ e ∈ events, e.isTx = false → e.handed = none ∧ e.result = .ok 0 := by
  induction run with
  | nil q => simp
  | cons step _ ih =>
    have first := step.rx_idle_of_empty empty
    exact List.forall_mem_cons.mpr ⟨first.1, ih first.2⟩

/-- A run that starts with nothing to send hands no buffer to a sender. -/
theorem Runs.tx_idle_of_empty (run : Runs q events q') (empty : q.toSend.left = 0) :
    ∀ e ∈ events, e.isTx = true → e.handed = none ∧ e.result = .ok 0 := by
  induction run with
  | nil q => simp
  | cons step _ ih =>
    have first := step.tx_idle_of_empty empty
    exact List.forall_mem_cons.mpr ⟨first.1, ih first.2⟩

/-- A run shows the receive queue drained in order. -/
theorem Runs.receive_side (run : Runs q events q') :
    q.toRecv.Drains (events.map fun e => (e.received, e.rxCount)) q'.toRecv := by
  induction run with
  | nil q => exact .nil _
  | cons step _ ih => exact .cons step.receive_side ih

/-- A run shows the send queue drained in order. -/
theorem Runs.send_side (run : Runs q events q') :
    q.toSend.Drains (events.map fun e => (e.queued, e.txCount)) q'.toSend := by
  induction run with
  | nil q => exact .nil _
  | cons step _ ih => exact .cons step.send_side ih

/-- Over a run, receptors are handed the receive queue's indices in order, each once, and the
`rx` counts add up to how far the queue advanced. -/
theorem Runs.received_in_order (run : Runs q events q') :
    events.filterMap Event.received = List.range' q.toRecv.next (q.toRecv.left - q'.toRecv.left) ∧
      rxTotal events = q.toRecv.left - q'.toRecv.left := by
  obtain ⟨order, total, -⟩ := run.receive_side.taken_in_order
  simpa [List.filterMap_map, rxTotal, Function.comp_def] using And.intro order total

/-- Over a run, the buffers senders queued are the send queue's indices in order, each once,
and the `tx` counts add up to how far the queue advanced. -/
theorem Runs.queued_in_order (run : Runs q events q') :
    events.filterMap Event.queued = List.range' q.toSend.next (q.toSend.left - q'.toSend.left) ∧
      txTotal events = q.toSend.left - q'.toSend.left := by
  obtain ⟨order, total, -⟩ := run.send_side.taken_in_order
  simpa [List.filterMap_map, txTotal, Function.comp_def] using And.intro order total

/-- Every call of a run returns `Ok(c)` with `c ≤ min(max, 1)`. -/
theorem Runs.counts (run : Runs q events q') :
    ∀ e ∈ events, ∃ c, e.result = .ok c ∧ c.toNat ≤ min e.max.toNat 1 := by
  induction run with
  | nil q => simp
  | cons step _ ih => exact List.forall_mem_cons.mpr ⟨step.counts, ih⟩

/-- The first live `tx` call of a run hands out the buffer the send queue offers at its start. -/
theorem Runs.first_live_handed (run : Runs q events q') :
    ∀ b ∈ (events.filter Event.live).head?, b.handed = q.sendOffer := by
  induction run with
  | nil q => simp
  | @cons q q₁ q' e events step rest ih =>
    by_cases live : e.live
    · simp only [List.filter_cons, live, ↓reduceIte, List.head?_cons, Option.mem_def,
        Option.some.injEq, forall_eq']
      exact step.live_handed live
    · simp only [List.filter_cons, live, Bool.false_eq_true, ↓reduceIte]
      rw [← step.sendOffer_of_txCount (step.txCount_of_not_live live)]
      exact ih

/-- A buffer a live `tx` call handed out and did not send is handed out by the next live
`tx` call. -/
theorem Runs.reoffered (run : Runs q events q') : (events.filter Event.live).Chain' Event.Reoffered := by
  induction run with
  | nil q => exact List.chain'_nil
  | @cons q q₁ q' e events step rest ih =>
    by_cases live : e.live
    · simp only [List.filter_cons, live, ↓reduceIte]
      refine List.chain'_cons'.mpr ⟨fun b first unsent => ?_, ih⟩
      have zero : e.txCount = 0 := by
        simp only [Event.live, Bool.and_eq_true] at live
        simp [Event.txCount, live.1, unsent]
      rw [rest.first_live_handed b first, step.sendOffer_of_txCount zero, step.live_handed live]
    · simpa [List.filter_cons, live] using ih

end Queues

end Ethox.Nic

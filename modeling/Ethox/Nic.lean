import Ethox.Basic

/-!
# Packets, handles and handlers of a device

A device hands one buffer at a time to a handler, together with a flow-control handle. The
handle's one operation here is `queue`: a sender queues its buffer to have it transmitted,
and the handle of a received buffer refuses. A handler is modelled by what it does with the
packet: it calls `queue` any number of times, each time seeing the answer, and returns with
its own state and the payload as it leaves them. Handlers are arbitrary code, so every
theorem about a device quantifies over every `Action`.

`EnqueueFlag` is declared in `nic::common`, outside this slice; its operations are modelled
from the specification.
-/

namespace Ethox.Nic

/-- Modelled from the spec: `nic::common::EnqueueFlag`, the flag behind a handle, either
`NotPossible` (receiving) or `SetTrue(b)` (sending; `b` starts false and becomes true when a
handler requests transmission). -/
inductive EnqueueFlag where
  | notPossible
  | setTrue (flag : Bool)
deriving DecidableEq, Repr

namespace EnqueueFlag

/-- Modelled from the spec: `EnqueueFlag::queue`, an illegal operation on a receive flag,
and an idempotent request for transmission on a send flag. -/
def queue : EnqueueFlag → Result Unit × EnqueueFlag
  | notPossible => (.error .illegal, notPossible)
  | setTrue _ => (.ok (), setTrue true)

/-- Modelled from the spec: `EnqueueFlag::was_sent`, whether transmission was requested. -/
def wasSent : EnqueueFlag → Bool
  | notPossible => false
  | setTrue flag => flag

end EnqueueFlag

/-- `nic::external::Handle`. -/
structure Handle where
  /-- The flag the device inspects after the handler returns. -/
  flag : EnqueueFlag
deriving DecidableEq, Repr

/-- `Handle::queue`. -/
def Handle.queue (self : Handle) : Result Unit × Handle :=
  (self.flag.queue.1, ⟨self.flag.queue.2⟩)

/-- What a handler does with the packet it is handed: call `queue` on the handle and
continue with the answer, or return with its state and the payload. -/
inductive Action (σ P : Type) where
  | done (state : σ) (payload : P)
  | queue (next : Result Unit → Action σ P)

/-- An implementation of `nic::Send` or `nic::Recv` with state `σ`: what it does when
handed a payload. -/
abbrev Handler (σ P : Type) := σ → P → Action σ P

/-- What a handler call leaves behind: the handle, the handler's state and the payload as it
returns, and the answers `queue` gave, in order. -/
structure Outcome (σ P : Type) where
  /-- The handle after the call. -/
  handle : Handle
  /-- The handler's state after the call. -/
  state : σ
  /-- The payload as the handler leaves it. -/
  payload : P
  /-- The answer of each `queue` call. -/
  replies : List (Result Unit)

variable {σ P : Type}

/-- Run a handler's action against a handle. -/
def Action.run : Action σ P → Handle → Outcome σ P
  | .done state payload, handle => ⟨handle, state, payload, []⟩
  | .queue next, handle =>
    let rest := (next handle.queue.1).run handle.queue.2
    { rest with replies := handle.queue.1 :: rest.replies }

/-- On a send handle every `queue` succeeds, and the flag ends set exactly when it was set
before or `queue` was called. -/
theorem Action.run_setTrue (action : Action σ P) (flag : Bool) :
    (∀ reply ∈ (action.run ⟨.setTrue flag⟩).replies, reply = .ok ()) ∧
      (action.run ⟨.setTrue flag⟩).handle =
        ⟨.setTrue (flag || !(action.run ⟨.setTrue flag⟩).replies.isEmpty)⟩ := by
  induction action generalizing flag with
  | done state payload => simp [run]
  | queue next ih =>
    obtain ⟨answers, handle⟩ := ih (.ok ()) true
    simp only [run, Handle.queue, EnqueueFlag.queue, List.mem_cons, forall_eq_or_imp]
    exact ⟨⟨trivial, answers⟩, by simp [handle]⟩

/-- On a receive handle every `queue` is refused as illegal, and the flag stays. -/
theorem Action.run_notPossible (action : Action σ P) :
    (∀ reply ∈ (action.run ⟨.notPossible⟩).replies, reply = .error .illegal) ∧
      (action.run ⟨.notPossible⟩).handle = ⟨.notPossible⟩ := by
  induction action with
  | done state payload => simp [run]
  | queue next ih =>
    obtain ⟨answers, handle⟩ := ih (.error .illegal)
    simp only [run, Handle.queue, EnqueueFlag.queue, List.mem_cons, forall_eq_or_imp]
    exact ⟨⟨trivial, answers⟩, handle⟩

end Ethox.Nic

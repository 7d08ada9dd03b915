import Mathlib

/-!
# Broadcast notifications without a permit

The part of tokio's `Notify` that `notify_waiters` and `notified` make up. A call of
`notify_waiters` wakes the `Notified` futures that exist at that moment and stores nothing for later
ones. A future therefore remembers how many calls there had been when it was created, and is woken
once there are more.
-/

structure Notify where
  /-- The number of `notify_waiters` calls so far. -/
  calls : ℕ

namespace Notify

/-- A future that waits for the next `notify_waiters`. -/
structure Notified where
  seen : ℕ

def new : Notify := ⟨0⟩

def notifyWaiters (n : Notify) : Notify := ⟨n.calls + 1⟩

def notified (n : Notify) : Notified := ⟨n.calls⟩

/-- A notification was delivered to the future. -/
def delivered (n : Notify) (w : Notified) : Bool := w.seen < n.calls

/-- The future was created by now. -/
def Knows (n : Notify) (w : Notified) : Prop := w.seen ≤ n.calls

lemma knows_notified (n : Notify) : n.Knows n.notified := le_rfl

lemma Knows.notifyWaiters {n : Notify} {w : Notified} (h : n.Knows w) :
    n.notifyWaiters.Knows w := Nat.le_succ_of_le h

/-- A call wakes every future there is. -/
lemma Knows.delivered_notifyWaiters {n : Notify} {w : Notified} (h : n.Knows w) :
    n.notifyWaiters.delivered w = true := by
  simpa [delivered, Notify.notifyWaiters] using Nat.lt_succ_of_le h

end Notify

import HostAgent.KeyMap
import HostAgent.Time.Duration

/-!
# What is known not to be ignored

The answer that a container is not on the ignore list may be used again for some
time. Only this answer is kept: that a container is on the list is asked anew
every time. A lifetime of zero keeps nothing.

## Main results

* `IgnoreCache.isKnown_of_zero`: with a lifetime of zero nothing is ever known.
* `IgnoreCache.isKnown_remember`, `IgnoreCache.isKnown_forget`: what is known after each operation.
* `IgnoreCache.isKnown_remember_of_ne`, `IgnoreCache.isKnown_forget_of_ne`: an operation on one
  container says nothing about another.
-/

namespace HostAgent

/-- When containers were last seen not to be ignored. -/
structure IgnoreCache where
  lifetime : Duration
  seen : KeyMap Duration
deriving DecidableEq, Repr

namespace IgnoreCache

/-- Nothing known yet. -/
def empty (lifetime : Duration) : IgnoreCache := ⟨lifetime, ∅⟩

/-- Is it known at an instant that a container is not ignored? -/
def isKnown (c : IgnoreCache) (now : Duration) (id : String) : Bool :=
  (c.seen.get? id).any fun instant => now.since instant < c.lifetime

/-- The container was seen not to be ignored. -/
def remember (c : IgnoreCache) (now : Duration) (id : String) : IgnoreCache :=
  if c.lifetime = .zero then c else { c with seen := c.seen.insert id now }

/-- Nothing is known about the container any more. -/
def forget (c : IgnoreCache) (id : String) : IgnoreCache :=
  { c with seen := c.seen.erase id }

theorem isKnown_of_zero (c : IgnoreCache) (h : c.lifetime = .zero) (now : Duration)
    (id : String) : c.isKnown now id = false := by
  rw [isKnown, h]
  cases c.seen.get? id with
  | none => rfl
  | some instant =>
    show decide (now.since instant < Duration.zero) = false
    exact decide_eq_false fun hlt : (now.since instant).nanos < 0 => Nat.not_lt_zero _ hlt

theorem isKnown_remember (c : IgnoreCache) (now later : Duration) (id : String) :
    (c.remember now id).isKnown later id =
      if c.lifetime = .zero then c.isKnown later id
      else decide (later.since now < c.lifetime) := by
  unfold remember
  split
  · rfl
  · simp [isKnown]

theorem isKnown_forget (c : IgnoreCache) (now : Duration) (id : String) :
    (c.forget id).isKnown now id = false := by
  simp [isKnown, forget]

theorem isKnown_remember_of_ne (c : IgnoreCache) (now later : Duration) {id other : String}
    (h : other ≠ id) : (c.remember now id).isKnown later other = c.isKnown later other := by
  unfold remember
  split
  · rfl
  · simp [isKnown, h]

theorem isKnown_forget_of_ne (c : IgnoreCache) (now : Duration) {id other : String}
    (h : other ≠ id) : (c.forget id).isKnown now other = c.isKnown now other := by
  simp only [isKnown, forget, KeyMap.get?_erase, if_neg h]
  rfl

end IgnoreCache

end HostAgent

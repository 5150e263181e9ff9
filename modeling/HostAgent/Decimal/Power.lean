/-!
# Powers of two and ten

The bounds of words and the units of decimal scales. They are written by `Nat.pow`
itself, so that they mean the same whichever instances of `^` are known.

## Main results

* `twoPow_succ`, `tenPow_succ`: one more factor.
-/

namespace HostAgent

/-- Two to a power: a number of so many bits is below it. -/
def twoPow (bits : Nat) : Nat := Nat.pow 2 bits

/-- Ten to a power: a number of so many decimal digits is below it. -/
def tenPow (digits : Nat) : Nat := Nat.pow 10 digits

theorem twoPow_succ (n : Nat) : twoPow (n + 1) = twoPow n * 2 := rfl

theorem tenPow_succ (n : Nat) : tenPow (n + 1) = tenPow n * 10 := rfl

end HostAgent

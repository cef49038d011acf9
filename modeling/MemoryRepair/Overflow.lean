/-!
Sums and products of 64-bit quantities. A result that needs more than 64 bits
ends the whole run, so it is an outcome of its own and never a wrapped number.
-/
namespace MemoryRepair

inductive Overflow
  | addition
  | multiplication
  deriving DecidableEq, Repr

namespace Overflow

def message : Overflow → String
  | addition => "attempt to add with overflow"
  | multiplication => "attempt to multiply with overflow"

end Overflow

namespace Word64

def add (a b : UInt64) : Except Overflow UInt64 :=
  if a.toNat + b.toNat < UInt64.size then .ok (a + b) else .error .addition

def mul (a b : UInt64) : Except Overflow UInt64 :=
  if a.toNat * b.toNat < UInt64.size then .ok (a * b) else .error .multiplication

/-- Numbers added to a word one after the other, with a check at each. -/
def sum (total : UInt64) : List Nat → Except Overflow UInt64
  | [] => .ok total
  | n :: rest =>
    if total.toNat + n < UInt64.size then sum (.ofNat (total.toNat + n)) rest
    else .error .addition

theorem add_eq_ok (a b : UInt64) (h : a.toNat + b.toNat < UInt64.size) :
    add a b = .ok (a + b) :=
  if_pos h

theorem add_eq_error (a b : UInt64) (h : UInt64.size ≤ a.toNat + b.toNat) :
    add a b = .error .addition :=
  if_neg (Nat.not_lt.mpr h)

/-- A sum that fits is the sum of the numbers. -/
theorem toNat_of_add_eq_ok {a b c : UInt64} (h : add a b = .ok c) :
    c.toNat = a.toNat + b.toNat := by
  unfold add at h
  split at h
  · rename_i hfits
    injection h with h
    subst h
    rw [UInt64.toNat_add]
    exact Nat.mod_eq_of_lt hfits
  · cases h

end Word64

end MemoryRepair

import MemoryRepair.Bytes

/-!
The packed address of a fault. Thirteen coordinates share 64 bits, the first in
the least significant place. Packing and unpacking walk the layout table, so each
coordinate is a digit of a numeral with mixed bases.
-/
namespace MemoryRepair

/-- The digits of a number in mixed bases, the least significant one first. -/
def unpack : List Nat → Nat → List Nat
  | [], _ => []
  | base :: bases, n => n % base :: unpack bases (n / base)

/-- The number with the given digits, each cut to its base. -/
def pack : List Nat → List Nat → Nat
  | base :: bases, digit :: digits => digit % base + base * pack bases digits
  | _, _ => 0

/-- How many numbers have a numeral in the given bases. -/
def span (bases : List Nat) : Nat :=
  bases.foldr (fun base total => base * total) 1

@[simp] theorem length_unpack (bases : List Nat) (n : Nat) :
    (unpack bases n).length = bases.length := by
  induction bases generalizing n with
  | nil => rfl
  | cons base bases ih => simp [unpack, ih]

theorem pack_unpack (bases : List Nat) (n : Nat) :
    pack bases (unpack bases n) = n % span bases := by
  induction bases generalizing n with
  | nil => exact (Nat.mod_one n).symm
  | cons base bases ih =>
    have hspan : span (base :: bases) = base * span bases := rfl
    rw [unpack, pack, ih, Nat.mod_mod, hspan, Nat.mod_mul]

theorem unpack_pack (bases digits : List Nat) (hpos : ∀ base ∈ bases, 0 < base)
    (h : digits.length = bases.length) :
    unpack bases (pack bases digits) =
      List.zipWith (fun digit base => digit % base) digits bases := by
  induction bases generalizing digits with
  | nil =>
    cases digits with
    | nil => rfl
    | cons digit digits => cases h
  | cons base bases ih =>
    cases digits with
    | nil => cases h
    | cons digit digits =>
      have hbase : 0 < base := hpos base List.mem_cons_self
      have hlow : (digit % base + base * pack bases digits) % base = digit % base := by
        rw [Nat.add_mul_mod_self_left, Nat.mod_mod]
      have hhigh : (digit % base + base * pack bases digits) / base = pack bases digits := by
        rw [Nat.add_mul_div_left _ _ hbase, Nat.div_eq_of_lt (Nat.mod_lt _ hbase), Nat.zero_add]
      have hrest : ∀ b ∈ bases, 0 < b := fun b hb => hpos b (List.mem_cons_of_mem _ hb)
      rw [pack, unpack, hlow, hhigh, ih digits hrest (Nat.succ.inj h)]
      rfl

inductive Coordinate
  | processor | die | stack | sid | channel | bankGroup | bank | row | column
  | errorType | repairType | reserved | crc8
  deriving DecidableEq, Repr

structure FaultAddress where
  processor : UInt32
  die : UInt32
  stack : UInt32
  sid : UInt32
  channel : UInt32
  bankGroup : UInt32
  bank : UInt32
  row : UInt32
  column : UInt32
  errorType : UInt32
  repairType : UInt32
  reserved : UInt32
  crc8 : UInt32
  deriving DecidableEq, Repr

namespace FaultAddress

/-- The coordinates from the least significant one up, with their widths in bits. -/
def layout : List (Coordinate × Nat) :=
  [(.processor, 2), (.die, 1), (.stack, 3), (.sid, 3), (.channel, 8), (.bankGroup, 3),
   (.bank, 3), (.row, 17), (.column, 10), (.errorType, 2), (.repairType, 2), (.reserved, 2),
   (.crc8, 8)]

/-- How many values each coordinate has, in layout order. -/
def bases : List Nat := layout.map fun (_, width) => 1 <<< width

theorem span_bases : span bases = UInt64.size := rfl

theorem bases_pos : ∀ base ∈ bases, 0 < base := by decide

def get (fault : FaultAddress) : Coordinate → UInt32
  | .processor => fault.processor
  | .die => fault.die
  | .stack => fault.stack
  | .sid => fault.sid
  | .channel => fault.channel
  | .bankGroup => fault.bankGroup
  | .bank => fault.bank
  | .row => fault.row
  | .column => fault.column
  | .errorType => fault.errorType
  | .repairType => fault.repairType
  | .reserved => fault.reserved
  | .crc8 => fault.crc8

def ofCoordinates (value : Coordinate → UInt32) : FaultAddress :=
  ⟨value .processor, value .die, value .stack, value .sid, value .channel, value .bankGroup,
   value .bank, value .row, value .column, value .errorType, value .repairType, value .reserved,
   value .crc8⟩

@[simp] theorem get_ofCoordinates (value : Coordinate → UInt32) (c : Coordinate) :
    (ofCoordinates value).get c = value c := by
  cases c <;> rfl

/-- All coordinates in layout order. -/
def toList (fault : FaultAddress) : List UInt32 :=
  layout.map fun (coordinate, _) => fault.get coordinate

/-- The fault whose coordinates are the digits in layout order. -/
def ofDigits (digits : List Nat) : FaultAddress :=
  ofCoordinates fun coordinate =>
    UInt32.ofNat (digits.getD (layout.findIdx (·.1 == coordinate)) 0)

def decode (raw : UInt64) : FaultAddress :=
  ofDigits (unpack bases raw.toNat)

/-- Bits of a coordinate beyond its width are lost. -/
def encode (fault : FaultAddress) : UInt64 :=
  UInt64.ofNat (pack bases (fault.toList.map (·.toNat)))

def zero : FaultAddress := ofCoordinates fun _ => 0

/-- The 64-bit value of its low and high words. -/
def joinWords (low high : UInt32) : UInt64 :=
  UInt64.ofNat (low.toNat + UInt32.size * high.toNat)

def ofWords (low high : UInt32) : FaultAddress :=
  decode (joinWords low high)

end FaultAddress

end MemoryRepair

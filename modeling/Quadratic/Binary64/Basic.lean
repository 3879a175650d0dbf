/-
Quadratic.Binary64.Basic — the numbers of the calculator: the binary
floating-point format of 64 bits, as a datatype.

A finite number is a sign and a RANK: its place, counted from zero, in
the increasing list of the finite magnitudes of the format. The rank
is what the low 63 bits of the interchange encoding spell, so every
number but NaN has exactly one description here, and equality of the
datatype is equality of bit patterns with all NaNs taken as one.

* `units k` is the exact value of the magnitude of rank `k`, counted in
  units of 2⁻¹⁰⁷⁴. Every finite number of the format is a whole number
  of units, so exact arithmetic needs natural numbers only.
* `signedRank` is the order of the numbers: it is monotone, it sends
  the two zeros to 0, and NaN has none.

`units` is defined for every natural number, also past the last finite
rank. There it continues the format with an unbounded exponent, which
is how the rule for overflow is stated (`Quadratic.Binary64.Rounding`).
-/

-- A power is the one of the core library, whatever other instances are
-- imported.
attribute [local instance (high)] instPowNat

namespace Quadratic

/-! ## 1. Signs -/

/-- The sign of a number. Zeros and infinities have one too. -/
inductive Sign
  | plus
  | minus
deriving DecidableEq

namespace Sign

/-- The other sign. -/
def flip : Sign → Sign
  | plus => minus
  | minus => plus

/-- The sign of a product. -/
def mul : Sign → Sign → Sign
  | plus, t => t
  | minus, t => t.flip

/-- A magnitude with its sign. -/
def apply : Sign → Nat → Int
  | plus, n => n
  | minus, n => -(n : Int)

/-- The sign of an integer. Zero counts as positive. -/
def ofInt (i : Int) : Sign :=
  if i < 0 then minus else plus

end Sign

/-! ## 2. Numbers -/

/-- The number of finite magnitudes: the rank that stands for infinity. -/
abbrev infinityRank : Nat := 0x7ff0000000000000

/-- A number of the 64-bit format. -/
inductive Binary64
  | nan
  | infinity (sign : Sign)
  | finite (sign : Sign) (rank : Fin infinityRank)
deriving DecidableEq

namespace Binary64

/-- Positive zero or negative zero. -/
def zero (s : Sign) : Binary64 := finite s ⟨0, by decide⟩

instance : Inhabited Binary64 := ⟨zero .plus⟩

/-! ## 3. The exact value of a rank

Ranks come in runs of 2⁵². Within a run the magnitudes are equally
spaced; the first two runs have spacing one unit, and each later run
has twice the spacing of the run before it. -/

/-- The spacing of the run of `k` is two to this power, in units. -/
def exponent (k : Nat) : Nat := k / 2 ^ (52 : Nat) - 1

/-- The magnitude of rank `k` in multiples of the spacing of its run. -/
def significand (k : Nat) : Nat :=
  if k < 2 ^ (52 : Nat) then k else 2 ^ (52 : Nat) + k % 2 ^ (52 : Nat)

/-- The magnitude of rank `k`, in units of 2⁻¹⁰⁷⁴. -/
def units (k : Nat) : Nat := significand k * 2 ^ exponent k

/-- The number of units in one. -/
abbrev unitsPerOne : Nat := 2 ^ (1074 : Nat)

/-! ## 4. Sign and order -/

/-- The number with the opposite sign. -/
def neg : Binary64 → Binary64
  | nan => nan
  | infinity s => infinity s.flip
  | finite s k => finite s.flip k

/-- The magnitude, as a positive number. -/
def abs : Binary64 → Binary64
  | nan => nan
  | infinity _ => infinity .plus
  | finite _ k => finite .plus k

/-- Neither NaN nor infinite. -/
def isFinite : Binary64 → Bool
  | finite _ _ => true
  | _ => false

/-- The place of a number in the order of all of them, infinities
included; the two zeros share the place 0, and NaN has no place. -/
def signedRank : Binary64 → Option Int
  | nan => none
  | infinity s => some (s.apply infinityRank)
  | finite s k => some (s.apply k)

/-- Smaller than. False if either side is NaN. -/
def lt (x y : Binary64) : Bool :=
  match x.signedRank, y.signedRank with
  | some i, some j => i < j
  | _, _ => false

/-- Smaller than or equal to. False if either side is NaN. -/
def le (x y : Binary64) : Bool :=
  match x.signedRank, y.signedRank with
  | some i, some j => i ≤ j
  | _, _ => false

/-- Numerical equality: the two zeros are equal, and NaN is not equal
to anything. -/
def numEq (x y : Binary64) : Bool :=
  match x.signedRank, y.signedRank with
  | some i, some j => i = j
  | _, _ => false

/-! ## 5. The interchange encoding -/

/-- The number that a word of 64 bits encodes: the top bit is the sign,
the other bits are the rank. -/
def ofBits (w : UInt64) : Binary64 :=
  let s := if w.toNat < 2 ^ (63 : Nat) then Sign.plus else Sign.minus
  let k := w.toNat % 2 ^ (63 : Nat)
  if h : k < infinityRank then finite s ⟨k, h⟩
  else if k = infinityRank then infinity s
  else nan

/-- The sign bit in place. -/
def signBit : Sign → Nat
  | .plus => 0
  | .minus => 2 ^ (63 : Nat)

/-- The word that encodes a number. NaN gets the quiet pattern without
payload. -/
def toBits : Binary64 → UInt64
  | nan => 0x7ff8000000000000
  | infinity s => UInt64.ofNat (signBit s + infinityRank)
  | finite s k => UInt64.ofNat (signBit s + k)

end Binary64

end Quadratic

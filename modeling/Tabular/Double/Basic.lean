/-
Doubles as data: a sign and a magnitude. The magnitude is the lower 63 bits of the encoding
read as a number, which grows with the absolute value: finite magnitudes come first, then
infinity, then the magnitudes that are not numbers. Comparing doubles is comparing integers.
-/
import Tabular.Double.Power

namespace Tabular

/-- The weight of the sign in an encoding: every magnitude is smaller. -/
abbrev Double.signWeight : Nat :=
  0x8000000000000000

/-- A 64-bit floating-point number. -/
structure Double where
  negative : Bool
  magnitude : Nat
  magnitude_lt : magnitude < Double.signWeight
  deriving DecidableEq

namespace Double

/-! ## Magnitudes -/

/-- The magnitude of infinity; every larger one is not a number. -/
def infinite : Nat :=
  0x7FF0000000000000

/-- The magnitude that a text for what is not a number is read as. -/
def quiet : Nat :=
  0x7FF8000000000000

/-- The weight of the exponent in a magnitude: the fraction below it has 52 bits. -/
abbrev exponentWeight : Nat :=
  0x10000000000000

/-- A finite magnitude as a multiple of the smallest positive double, `2 ^ -1074`. -/
def units (magnitude : Nat) : Nat :=
  if magnitude < exponentWeight then magnitude
  else (exponentWeight + magnitude % exponentWeight) * twoTo (magnitude / exponentWeight - 1)

def ofMagnitude (negative : Bool) (magnitude : Nat) : Double :=
  ⟨negative, magnitude % signWeight, Nat.mod_lt _ (by decide)⟩

def ofBits (bits : Nat) : Double :=
  ofMagnitude (bits / signWeight % 2 == 1) bits

def toBits (d : Double) : Nat :=
  (if d.negative then signWeight else 0) + d.magnitude

def isNaN (d : Double) : Bool :=
  infinite < d.magnitude

def isInfinite (d : Double) : Bool :=
  d.magnitude == infinite

def isFinite (d : Double) : Bool :=
  d.magnitude < infinite

def zero : Double :=
  ofMagnitude false 0

def neg (d : Double) : Double :=
  { d with negative := !d.negative }

/-! ## Orders -/

/-- The integer that orders the numbers by value: both zeros have rank zero. -/
def rank (d : Double) : Int :=
  if d.negative then -(d.magnitude : Int) else d.magnitude

/-- Comparison by value; a double that is not a number compares with nothing. -/
def compare? (a b : Double) : Option Ordering :=
  if a.isNaN || b.isNaN then none else some (compare a.rank b.rank)

/-- Equality by value: the zeros are equal, and what is not a number differs from itself. -/
def equals (a b : Double) : Bool :=
  a.compare? b == some .eq

/-- The integer that orders all encodings: negative zero comes just before zero, and what is not
a number comes last on the side of its sign. -/
def totalRank (d : Double) : Int :=
  if d.negative then -(d.magnitude : Int) - 1 else d.magnitude

/-- The total order of all encodings. -/
def totalCompare (a b : Double) : Ordering :=
  compare a.totalRank b.totalRank

theorem toBits_lt (d : Double) : d.toBits < UInt64.size := by
  have h := d.magnitude_lt
  unfold toBits
  simp only [signWeight, UInt64.size] at h ⊢
  split <;> omega

theorem ofBits_toBits (d : Double) : ofBits d.toBits = d := by
  obtain ⟨s, m, h⟩ := d
  cases s
  · have h1 : (0 + m) / signWeight % 2 = 0 := by simp only [signWeight] at h ⊢; omega
    have h2 : (0 + m) % signWeight = m := by simp only [signWeight] at h ⊢; omega
    simp only [ofBits, ofMagnitude, toBits, Bool.false_eq_true, if_false, h1, h2]
    rfl
  · have h1 : (signWeight + m) / signWeight % 2 = 1 := by simp only [signWeight] at h ⊢; omega
    have h2 : (signWeight + m) % signWeight = m := by simp only [signWeight] at h ⊢; omega
    simp only [ofBits, ofMagnitude, toBits, if_true, h1, h2]
    rfl

theorem toBits_ofBits {n : Nat} (h : n < UInt64.size) : (ofBits n).toBits = n := by
  simp only [ofBits, ofMagnitude, toBits]
  simp only [signWeight, UInt64.size] at h ⊢
  by_cases hs : n / 9223372036854775808 % 2 = 1
  · simp only [hs, beq_self_eq_true, if_true]
    omega
  · simp only [beq_iff_eq, hs, if_false]
    omega

end Double

end Tabular

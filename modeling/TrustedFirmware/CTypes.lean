import Mathlib.Tactic.Common

/-!
# C's integer types and conversions

The sources pass values between `int` and the 64-bit unsigned types (`uint64_t`,
`unsigned long`, `size_t`, `uintptr_t`, all `UInt64` here). A conversion to an unsigned type is
modulo `2^64`. A conversion to `int` of a value outside its range is implementation-defined; the
compilers the firmware is built with reduce it modulo `2^32` into `[-2^31, 2^31)`, which is
`Int.bmod`.

`CInt` is a value of `int`: it carries its range, so a function of the model that returns an
`int` cannot return anything else. `CInt.ofInt_toUInt64` is the round trip the semihosting
driver relies on when it keeps a host handle in a `uintptr_t`.
-/

namespace TrustedFirmware

/-- A C `int` converted to `uint64_t`, modulo `2^64`. -/
def uint64OfInt (i : Int) : UInt64 := UInt64.ofNat (i % 18446744073709551616).toNat

theorem toNat_uint64OfInt (i : Int) :
    ((uint64OfInt i).toNat : Int) = i % 18446744073709551616 := by
  rw [uint64OfInt, UInt64.toNat_ofNat_of_lt (show _ < 18446744073709551616 by omega),
    Int.toNat_of_nonneg (by omega)]

/-- A value of C's `int`: 32 bits, two's complement. -/
structure CInt where
  val : Int
  range : -2147483648 ≤ val ∧ val < 2147483648
  deriving DecidableEq

namespace CInt

@[ext] theorem ext {x y : CInt} (h : x.val = y.val) : x = y := by
  cases x; cases y; cases h; rfl

/-- The conversion of an integer to `int`: reduced modulo `2^32` into `int`'s range. -/
def ofInt (n : Int) : CInt :=
  ⟨n.bmod 4294967296, by
    have h1 := @Int.le_bmod n 4294967296 (by decide)
    have h2 := @Int.bmod_lt n 4294967296 (by decide)
    omega⟩

instance (n : Nat) : OfNat CInt n := ⟨ofInt n⟩

/-- The conversion of an `int` to a 64-bit unsigned type: sign extension. -/
def toUInt64 (x : CInt) : UInt64 := uint64OfInt x.val

theorem val_ofInt (n : Int) : (ofInt n).val = n.bmod 4294967296 := rfl

/-- A value inside `int`'s range converts to itself. -/
theorem val_ofInt_of_range {n : Int} (h1 : -2147483648 ≤ n) (h2 : n < 2147483648) :
    (ofInt n).val = n := by
  rw [val_ofInt, Int.bmod_def]
  split <;> omega

/-- A value from `2^31` up to `2^32` converts to the negative `int` `2^32` below it. -/
theorem val_ofInt_of_wrap {n : Int} (h1 : 2147483648 ≤ n) (h2 : n < 4294967296) :
    (ofInt n).val = n - 4294967296 := by
  rw [val_ofInt, Int.bmod_def]
  split <;> omega

@[simp] theorem ofInt_val (x : CInt) : ofInt x.val = x :=
  ext (val_ofInt_of_range x.range.1 x.range.2)

/-- An `int` stored in a 64-bit unsigned variable and read back as `int` is unchanged. -/
@[simp] theorem ofInt_toUInt64 (x : CInt) : ofInt x.toUInt64.toNat = x := by
  ext
  have hx := x.range
  rw [toUInt64, toNat_uint64OfInt, val_ofInt, Int.bmod_def]
  split <;> omega

end CInt

end TrustedFirmware

import Mathlib.Algebra.Group.Nat.Defs

/-
  Machine words of a 32-bit C implementation.

  Values of signed and unsigned types are kept as integers
  and naturals; the two conversions below say what a value
  becomes when it is stored in a 32-bit object. Byte order
  is little-endian.

  Main declarations:
    * `Word.unsigned`, `Word.signed`
    * `Word.littleEndian`, `Word.ofLittleEndian`
    * `Word.ofLittleEndian_littleEndian`
-/

------------------------------------------------------------
-- Conversions
------------------------------------------------------------

namespace Word

/- Convert to a 32-bit unsigned type. -/
def unsigned (x : Int) : Nat :=
  (x % 4294967296).toNat

/- Convert to a 32-bit signed type. -/
def signed (x : Int) : Int :=
  (x + 2147483648) % 4294967296 - 2147483648

/- Convert to a 16-bit signed type. -/
def signed16 (x : Int) : Int :=
  (x + 32768) % 65536 - 32768

theorem unsigned_lt (x : Int) :
    unsigned x < 4294967296 := by
  unfold unsigned
  omega

theorem unsigned_of_range
    {x : Int}
    (hLow : 0 ≤ x)
    (hHigh : x < 4294967296) :
    (unsigned x : Int) = x := by
  unfold unsigned
  omega

theorem signed_of_range
    {x : Int}
    (hLow : -2147483648 ≤ x)
    (hHigh : x < 2147483648) :
    signed x = x := by
  unfold signed
  omega

theorem signed_range (x : Int) :
    -2147483648 ≤ signed x ∧ signed x < 2147483648 := by
  unfold signed
  omega

theorem signed_unsigned (x : Int) :
    signed (unsigned x) = signed x := by
  unfold signed unsigned
  omega

end Word

------------------------------------------------------------
-- Little-Endian Byte Strings
------------------------------------------------------------

namespace Word

/- The low `k` bytes of a natural number. -/
def littleEndian : Nat → Nat → List UInt8
| 0, _ => []
| k + 1, n =>
    UInt8.ofNat (n % 256) :: littleEndian k (n / 256)

/- The number a byte string stands for. -/
def ofLittleEndian : List UInt8 → Nat
| [] => 0
| b :: bs => b.toNat + 256 * ofLittleEndian bs

@[simp] theorem length_littleEndian (k n : Nat) :
    (littleEndian k n).length = k := by
  induction k generalizing n with
  | zero => rfl
  | succ k ih => simp [littleEndian, ih]

/- Reading back what was stored. -/
theorem ofLittleEndian_littleEndian
    {k n : Nat}
    (hBound : n < 256 ^ k) :
    ofLittleEndian (littleEndian k n) = n := by
  induction k generalizing n with
  | zero =>
      have hZero : n = 0 := by simpa using hBound
      simp [littleEndian, ofLittleEndian, hZero]
  | succ k ih =>
      have hQuot : n / 256 < 256 ^ k := by
        rw [Nat.div_lt_iff_lt_mul (by decide)]
        simpa [Nat.pow_succ] using hBound
      simp only [littleEndian, ofLittleEndian, ih hQuot,
        UInt8.toNat_ofNat']
      omega

end Word

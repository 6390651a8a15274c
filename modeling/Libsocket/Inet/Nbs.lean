import Libsocket.Descriptor
import Libsocket.Library.CString
import Libsocket.Library.Feistel
import Mathlib.Algebra.Group.Nat.Defs
import Mathlib.Data.List.TakeWhile
import Mathlib.Logic.Function.Iterate

/-
  The cipher of `rusrpass.c`, in which passwords are passed
  on: blocks of 64 bits, the texts for them, and chains of
  blocks, each with the text before it as its key.

  Main declarations:
    * `nbssetkey`, `blkencrypt`, `blkencrypt_undo`
    * `enblkclr`, `deblkclr`, `enblknot`, `deblknot`
    * `nbsencrypt`, `nbsdecrypt`
-/

namespace Libsocket

------------------------------------------------------------
-- Tables
------------------------------------------------------------

/- The bit-selection table `e`, and so `E`. -/
def eTable : List Nat := [
  32, 1, 2, 3, 4, 5,
  4, 5, 6, 7, 8, 9,
  8, 9, 10, 11, 12, 13,
  12, 13, 14, 15, 16, 17,
  16, 17, 18, 19, 20, 21,
  20, 21, 22, 23, 24, 25,
  24, 25, 26, 27, 28, 29,
  28, 29, 30, 31, 32, 1]

/- `IP` -/
def ipTable : List Nat := [
  58, 50, 42, 34, 26, 18, 10, 2,
  60, 52, 44, 36, 28, 20, 12, 4,
  62, 54, 46, 38, 30, 22, 14, 6,
  64, 56, 48, 40, 32, 24, 16, 8,
  57, 49, 41, 33, 25, 17, 9, 1,
  59, 51, 43, 35, 27, 19, 11, 3,
  61, 53, 45, 37, 29, 21, 13, 5,
  63, 55, 47, 39, 31, 23, 15, 7]

/- `FP` -/
def fpTable : List Nat := [
  40, 8, 48, 16, 56, 24, 64, 32,
  39, 7, 47, 15, 55, 23, 63, 31,
  38, 6, 46, 14, 54, 22, 62, 30,
  37, 5, 45, 13, 53, 21, 61, 29,
  36, 4, 44, 12, 52, 20, 60, 28,
  35, 3, 43, 11, 51, 19, 59, 27,
  34, 2, 42, 10, 50, 18, 58, 26,
  33, 1, 41, 9, 49, 17, 57, 25]

/- `PC1_C` -/
def pc1C : List Nat := [
  57, 49, 41, 33, 25, 17, 9,
  1, 58, 50, 42, 34, 26, 18,
  10, 2, 59, 51, 43, 35, 27,
  19, 11, 3, 60, 52, 44, 36]

/- `PC1_D` -/
def pc1D : List Nat := [
  63, 55, 47, 39, 31, 23, 15,
  7, 62, 54, 46, 38, 30, 22,
  14, 6, 61, 53, 45, 37, 29,
  21, 13, 5, 28, 20, 12, 4]

def shifts : Vector Nat 16 :=
  #v[1, 1, 2, 2, 2, 2, 2, 2, 1, 2, 2, 2, 2, 2, 2, 1]

/- `PC2_C` -/
def pc2C : List Nat := [
  14, 17, 11, 24, 1, 5,
  3, 28, 15, 6, 21, 10,
  23, 19, 12, 4, 26, 8,
  16, 7, 27, 20, 13, 2]

/- `PC2_D` -/
def pc2D : List Nat := [
  41, 52, 31, 37, 47, 55,
  30, 40, 51, 45, 33, 48,
  44, 49, 39, 56, 34, 53,
  46, 42, 50, 36, 29, 32]

/- The selection functions `S`. -/
def sTable : List (List Nat) := [
  [14, 4, 13, 1, 2, 15, 11, 8, 3, 10, 6, 12, 5, 9, 0, 7,
   0, 15, 7, 4, 14, 2, 13, 1, 10, 6, 12, 11, 9, 5, 3, 8,
   4, 1, 14, 8, 13, 6, 2, 11, 15, 12, 9, 7, 3, 10, 5, 0,
   15, 12, 8, 2, 4, 9, 1, 7, 5, 11, 3, 14, 10, 0, 6, 13],
  [15, 1, 8, 14, 6, 11, 3, 4, 9, 7, 2, 13, 12, 0, 5, 10,
   3, 13, 4, 7, 15, 2, 8, 14, 12, 0, 1, 10, 6, 9, 11, 5,
   0, 14, 7, 11, 10, 4, 13, 1, 5, 8, 12, 6, 9, 3, 2, 15,
   13, 8, 10, 1, 3, 15, 4, 2, 11, 6, 7, 12, 0, 5, 14, 9],
  [10, 0, 9, 14, 6, 3, 15, 5, 1, 13, 12, 7, 11, 4, 2, 8,
   13, 7, 0, 9, 3, 4, 6, 10, 2, 8, 5, 14, 12, 11, 15, 1,
   13, 6, 4, 9, 8, 15, 3, 0, 11, 1, 2, 12, 5, 10, 14, 7,
   1, 10, 13, 0, 6, 9, 8, 7, 4, 15, 14, 3, 11, 5, 2, 12],
  [7, 13, 14, 3, 0, 6, 9, 10, 1, 2, 8, 5, 11, 12, 4, 15,
   13, 8, 11, 5, 6, 15, 0, 3, 4, 7, 2, 12, 1, 10, 14, 9,
   10, 6, 9, 0, 12, 11, 7, 13, 15, 1, 3, 14, 5, 2, 8, 4,
   3, 15, 0, 6, 10, 1, 13, 8, 9, 4, 5, 11, 12, 7, 2, 14],
  [2, 12, 4, 1, 7, 10, 11, 6, 8, 5, 3, 15, 13, 0, 14, 9,
   14, 11, 2, 12, 4, 7, 13, 1, 5, 0, 15, 10, 3, 9, 8, 6,
   4, 2, 1, 11, 10, 13, 7, 8, 15, 9, 12, 5, 6, 3, 0, 14,
   11, 8, 12, 7, 1, 14, 2, 13, 6, 15, 0, 9, 10, 4, 5, 3],
  [12, 1, 10, 15, 9, 2, 6, 8, 0, 13, 3, 4, 14, 7, 5, 11,
   10, 15, 4, 2, 7, 12, 9, 5, 6, 1, 13, 14, 0, 11, 3, 8,
   9, 14, 15, 5, 2, 8, 12, 3, 7, 0, 4, 10, 1, 13, 11, 6,
   4, 3, 2, 12, 9, 5, 15, 10, 11, 14, 1, 7, 6, 0, 8, 13],
  [4, 11, 2, 14, 15, 0, 8, 13, 3, 12, 9, 7, 5, 10, 6, 1,
   13, 0, 11, 7, 4, 9, 1, 10, 14, 3, 5, 12, 2, 15, 8, 6,
   1, 4, 11, 13, 12, 3, 7, 14, 10, 15, 6, 8, 0, 5, 9, 2,
   6, 11, 13, 8, 1, 4, 10, 7, 9, 5, 0, 15, 14, 2, 3, 12],
  [13, 2, 8, 4, 6, 15, 11, 1, 10, 9, 3, 14, 5, 0, 12, 7,
   1, 15, 13, 8, 10, 3, 7, 4, 12, 5, 6, 11, 0, 14, 9, 2,
   7, 11, 4, 1, 9, 12, 14, 2, 0, 6, 10, 13, 15, 3, 5, 8,
   2, 1, 14, 7, 4, 10, 8, 13, 15, 12, 9, 0, 3, 5, 6, 11]]

/- `P` -/
def pTable : List Nat := [
  16, 7, 20, 21,
  29, 12, 28, 17,
  1, 15, 23, 26,
  5, 18, 31, 10,
  2, 8, 24, 14,
  32, 27, 3, 9,
  19, 13, 30, 6,
  22, 11, 4, 25]

------------------------------------------------------------
-- The Key Schedule
------------------------------------------------------------

/- An array with one bit in each character. -/
abbrev Bits (n : Nat) : Type := Vector Bool n

/- A bit of an array, at a place that exists. -/
def Bits.bit {n : Nat} (v : Bits n) (i : Nat) : Bool :=
  v.getD i false

/- The places of a table are counted from 1. -/
def Bits.select
    {n : Nat}
    (v : Bits n)
    (table : List Nat)
    (m : Nat) : Bits m :=
  Vector.ofFn fun j => v.bit (table.getD j 1 - 1)

/- The arrays `blk` and `keyblk`. -/
abbrev Blk : Type := Bits 100

def rotate (v : Bits 28) : Bits 28 :=
  Vector.ofFn fun j => v.bit ((j + 1) % 28)

/- The keys of the rounds that are left. -/
def keysFrom : List Nat → Bits 28 → Bits 28 → List (Bits 48)
| [], _, _ => []
| k :: ks, c, d =>
    let c := rotate^[k] c
    let d := rotate^[k] d
    (Vector.ofFn fun j : Fin 48 =>
      if j.val < 24 then
        c.bit (pc2C.getD j 1 - 1)
      else
        d.bit (pc2D.getD (j - 24) 29 - 28 - 1)) ::
      keysFrom ks c d

/- `KS` -/
abbrev KeySchedule : Type := Vector (Bits 48) 16

theorem length_keysFrom
    (ks : List Nat)
    (c d : Bits 28) :
    (keysFrom ks c d).length = ks.length := by
  induction ks generalizing c d with
  | nil => rfl
  | cons k ks ih =>
      rw [keysFrom, List.length_cons, List.length_cons, ih]

/- `nbssetkey` -/
def nbssetkey (key : Blk) : KeySchedule where
  toArray := (keysFrom shifts.toList (key.select pc1C 28)
    (key.select pc1D 28)).toArray
  size_toArray := by
    rw [List.size_toArray, length_keysFrom, Vector.length_toList]

------------------------------------------------------------
-- Blocks
------------------------------------------------------------

/- Six bits of `preS`, as an index. -/
def sixBits (preS : Bits 48) (t : Nat) : Nat :=
  (preS.bit t).toNat * 32 + (preS.bit (t + 1)).toNat * 8 +
    (preS.bit (t + 2)).toNat * 4 + (preS.bit (t + 3)).toNat * 2 +
    (preS.bit (t + 4)).toNat + (preS.bit (t + 5)).toNat * 16

/- `f(R, K)` -/
def roundF (k : Bits 48) (r : Bits 32) : Bits 32 :=
  let preS : Bits 48 := Vector.zipWith xor (r.select eTable 48) k
  let f : Bits 32 := Vector.ofFn fun i =>
    ((sTable.getD (i / 4) []).getD
      (sixBits preS (6 * (i / 4))) 0).testBit (3 - i % 4)
  f.select pTable 32

/- `L` and `R` -/
abbrev Halves : Type := Bits 32 × Bits 32

/-
  One of the 16 rounds. The two halves follow one another
  in memory.
-/
def desRound
    (ks : KeySchedule)
    (edflag : Bool)
    (b : Halves)
    (ii : Nat) : Halves :=
  let k := ks.getD (if edflag then 15 - ii else ii)
    (Vector.replicate 48 false)
  (b.2, Vector.zipWith xor b.1 (roundF k b.2))

/- `block` is permuted into `L` and `R`. -/
def intoHalves (block : Bits 64) : Halves :=
  (Vector.ofFn fun j => block.bit (ipTable.getD j 1 - 1),
    Vector.ofFn fun j =>
      block.bit (ipTable.getD (32 + j) 1 - 1))

/- `L` and `R`, as one array. -/
def Halves.bit (b : Halves) (j : Nat) : Bool :=
  if j < 32 then b.1.bit j else b.2.bit (j - 32)

def outOfHalves (b : Halves) : Bits 64 :=
  Vector.ofFn fun j => b.bit (fpTable.getD j 1 - 1)

/- `blkencrypt` -/
def blkencrypt
    (ks : KeySchedule)
    (block : Blk)
    (edflag : Bool) : Blk :=
  let b := intoHalves (Vector.ofFn fun j => block.bit j)
  let b := (List.range 16).foldl (desRound ks edflag) b
  let out := outOfHalves b.swap
  Vector.ofFn fun j =>
    if j.val < 64 then out.bit j else block.bit j

------------------------------------------------------------
-- Decrypting
------------------------------------------------------------

theorem Bits.bit_ofFn
    {n : Nat}
    (f : Fin n → Bool)
    {i : Nat}
    (hI : i < n) :
    Bits.bit (Vector.ofFn f) i = f ⟨i, hI⟩ := by
  simp [Bits.bit, Vector.getD, Array.getD, hI]

theorem Bits.bit_outside
    {n : Nat}
    (v : Bits n)
    {i : Nat}
    (hI : n ≤ i) :
    v.bit i = false := by
  simp [Bits.bit, Vector.getD, Array.getD, Nat.not_lt.mpr hI]

/- Arrays with the same bits. -/
theorem Bits.ext
    {n : Nat}
    {v w : Bits n}
    (hSame : ∀ i < n, v.bit i = w.bit i) :
    v = w := by
  apply Vector.ext
  intro i hI
  have hBit := hSame i hI
  simpa [Bits.bit, Vector.getD, Array.getD, hI] using hBit

/- `FP` is the inverse of `IP`, and `IP` of `FP`. -/
theorem fpTable_ipTable :
    ∀ i < 64, fpTable.getD i 1 - 1 < 64 ∧
      ipTable.getD (fpTable.getD i 1 - 1) 1 - 1 = i := by
  decide +kernel

theorem ipTable_fpTable :
    ∀ i < 64, ipTable.getD i 1 - 1 < 64 ∧
      fpTable.getD (ipTable.getD i 1 - 1) 1 - 1 = i := by
  decide +kernel

theorem bit_intoHalves
    (block : Bits 64)
    {j : Nat}
    (hJ : j < 64) :
    (intoHalves block).bit j =
      block.bit (ipTable.getD j 1 - 1) := by
  unfold intoHalves Halves.bit
  by_cases hLeft : j < 32
  · rw [if_pos hLeft, Bits.bit_ofFn _ hLeft]
  · have hRight : j - 32 < 32 := by omega
    have hAgain : 32 + (j - 32) = j := by omega
    rw [if_neg hLeft, Bits.bit_ofFn _ hRight]
    dsimp only
    rw [hAgain]

theorem outOfHalves_intoHalves
    (block : Bits 64) :
    outOfHalves (intoHalves block) = block := by
  apply Bits.ext
  intro i hI
  have hTable := fpTable_ipTable i hI
  unfold outOfHalves
  rw [Bits.bit_ofFn _ hI, bit_intoHalves block hTable.1,
    hTable.2]

theorem intoHalves_outOfHalves
    (b : Halves) :
    intoHalves (outOfHalves b) = b := by
  have hBit : ∀ j < 64,
      (intoHalves (outOfHalves b)).bit j = b.bit j := by
    intro j hJ
    have hTable := ipTable_fpTable j hJ
    rw [bit_intoHalves _ hJ]
    unfold outOfHalves
    rw [Bits.bit_ofFn _ hTable.1]
    dsimp only
    rw [hTable.2]
  apply Prod.ext
  · apply Bits.ext
    intro i hI
    have hLeft := hBit i (by omega)
    unfold Halves.bit at hLeft
    rwa [if_pos hI, if_pos hI] at hLeft
  · apply Bits.ext
    intro i hI
    have hRight := hBit (32 + i) (by omega)
    unfold Halves.bit at hRight
    rw [if_neg (by omega), if_neg (by omega),
      Nat.add_sub_cancel_left] at hRight
    exact hRight

/- The rounds, as a network. -/
def desNet : Feistel (Bits 48) (Bits 32) where
  mix := Vector.zipWith xor
  mix_mix := by
    intro a b
    apply Vector.ext
    intro i hI
    simp
  f := roundF

/- The keys in the order in which they are used. -/
def keysOf (ks : KeySchedule) (edflag : Bool) :
    List (Bits 48) :=
  (List.range 16).map fun ii =>
    ks.getD (if edflag then 15 - ii else ii)
      (Vector.replicate 48 false)

theorem keysOf_reverse
    (ks : KeySchedule)
    (edflag : Bool) :
    keysOf ks (!edflag) = (keysOf ks edflag).reverse := by
  cases edflag with
  | false => rfl
  | true => rfl

theorem foldl_desRound
    (ks : KeySchedule)
    (edflag : Bool)
    (b : Halves) :
    (List.range 16).foldl (desRound ks edflag) b =
      desNet.run (keysOf ks edflag) b := by
  unfold Feistel.run keysOf
  rw [List.foldl_map]
  rfl

/- The first 64 bits go through the network. -/
theorem blkencrypt_eq
    (ks : KeySchedule)
    (block : Blk)
    (edflag : Bool) :
    blkencrypt ks block edflag =
      Vector.ofFn fun j : Fin 100 => if j.val < 64 then
        (desNet.cipher intoHalves outOfHalves
          (keysOf ks edflag)
          (Vector.ofFn fun j => block.bit j)).bit j
      else
        block.bit j := by
  unfold blkencrypt Feistel.cipher
  dsimp only
  rw [foldl_desRound]

theorem bit_blkencrypt_above
    (ks : KeySchedule)
    (block : Blk)
    (edflag : Bool)
    {i : Nat}
    (hI : 64 ≤ i) :
    (blkencrypt ks block edflag).bit i = block.bit i := by
  rw [blkencrypt_eq]
  by_cases hIn : i < 100
  · rw [Bits.bit_ofFn _ hIn]
    exact if_neg (Nat.not_lt.mpr hI)
  · rw [Bits.bit_outside _ (Nat.not_lt.mp hIn),
      Bits.bit_outside _ (Nat.not_lt.mp hIn)]

theorem blkencrypt_again
    (ks : KeySchedule)
    (block : Blk)
    (edflag : Bool) :
    blkencrypt ks (blkencrypt ks block edflag) (!edflag) =
      block := by
  have hFront : ∀ block' : Bits 64,
      (Vector.ofFn fun j : Fin 64 => Bits.bit block' j) =
        block' := by
    intro block'
    apply Bits.ext
    intro i hI
    rw [Bits.bit_ofFn _ hI]
  apply Bits.ext
  intro i hI
  by_cases hIn : i < 64
  · have hInner : (Vector.ofFn fun j : Fin 64 =>
        (blkencrypt ks block edflag).bit j) =
        desNet.cipher intoHalves outOfHalves
          (keysOf ks edflag)
          (Vector.ofFn fun j : Fin 64 => block.bit j) := by
      rw [← hFront (desNet.cipher _ _ _ _), blkencrypt_eq]
      apply Bits.ext
      intro j hJ
      rw [Bits.bit_ofFn _ hJ, Bits.bit_ofFn _ hJ,
        Bits.bit_ofFn _ (by omega)]
      exact if_pos hJ
    rw [blkencrypt_eq ks (blkencrypt ks block edflag),
      Bits.bit_ofFn _ hI]
    dsimp only
    rw [if_pos hIn, hInner, keysOf_reverse,
      Feistel.cipher_reverse _ intoHalves_outOfHalves
        outOfHalves_intoHalves, Bits.bit_ofFn _ hIn]
  · rw [bit_blkencrypt_above _ _ _ (Nat.not_lt.mp hIn),
      bit_blkencrypt_above _ _ _ (Nat.not_lt.mp hIn)]

/- Encrypting and decrypting undo each other. -/
theorem blkencrypt_inverse (ks : KeySchedule) :
    Function.LeftInverse
      (fun block => blkencrypt ks block true)
      (fun block => blkencrypt ks block false) ∧
    Function.RightInverse
      (fun block => blkencrypt ks block true)
      (fun block => blkencrypt ks block false) :=
  ⟨fun block => blkencrypt_again ks block false,
    fun block => blkencrypt_again ks block true⟩

------------------------------------------------------------
-- Texts
------------------------------------------------------------

/- The characters in front of the first that is NUL. -/
def cText (s : Bytes) : Bytes := s.takeWhile (· != 0)

/- `enblkclr`: seven bits of each of eight characters. -/
def enblkclr (str : Bytes) : Blk :=
  Vector.ofFn fun i =>
    match (cText str)[i.val / 8]? with
    | some c =>
        decide (i.val < 64) && decide (i.val % 8 < 7) &&
          c.toNat.testBit (6 - i.val % 8)
    | none => false

/- Some bits, from the highest on, as a number. -/
def numberAt (f : Nat → Bool) : Nat → Nat
| 0 => 0
| n + 1 => 2 * numberAt f n + (f n).toNat

/- `deblkclr` -/
def deblkclr (blk : Blk) : Bytes :=
  cText ((List.range 10).map fun i =>
    UInt8.ofNat (numberAt (fun j => blk.bit (8 * i + j)) 7))

/- The number of a character; `char` is signed. -/
def unknot (c : UInt8) : UInt8 :=
  let c := if 90 < c ∧ c < 128 then c - 6 else c
  let c := if 57 < c ∧ c < 128 then c - 7 else c
  c - 46

/- `enblknot`: six bits of each of eleven characters. -/
def enblknot (crp : Bytes) : Blk :=
  Vector.ofFn fun i =>
    match (cText crp)[i.val / 6]? with
    | some c =>
        decide (i.val < 66) &&
          (unknot c).toNat.testBit (5 - i.val % 6)
    | none => false

/- The character of a number. -/
def knot (n : Nat) : UInt8 :=
  let c := UInt8.ofNat n + 46
  let c := if 57 < c ∧ c < 128 then c + 7 else c
  if 90 < c ∧ c < 128 then c + 6 else c

/- `deblknot` -/
def deblknot (blk : Blk) : Bytes :=
  cText ((List.range 11).map fun i =>
    knot (numberAt (fun j => blk.bit (6 * i + j)) 6))

/- `nbs8encrypt` -/
def nbs8encrypt (str key : Bytes) : Bytes :=
  deblknot (blkencrypt (nbssetkey (enblkclr key))
    (enblkclr str) false)

/- `nbs8decrypt` -/
def nbs8decrypt (crp key : Bytes) : Bytes :=
  deblkclr (blkencrypt (nbssetkey (enblkclr key))
    (enblknot crp) true)

def dollar : UInt8 := 36

/-
  `nbsencrypt`: each part is the key of the next. The text is
  what stands in front of its NUL.
-/
def nbsencrypt (str key : Bytes) : Bytes :=
  if str = [] then
    []
  else
    nbs8encrypt (str.take 8) key ++
      dollar :: nbsencrypt (str.drop 8) (str.take 8)
termination_by str.length
decreasing_by
  rename_i hSome
  have hLength := List.length_pos_iff.mpr hSome
  rw [List.length_drop]
  omega

/- `nbsdecrypt` -/
def nbsdecrypt (cpt key : Bytes) : Bytes :=
  if cpt = [] then
    []
  else
    let oldbuf := nbs8decrypt (cpt.takeWhile (· != dollar)) key
    match _hRest : cpt.dropWhile (· != dollar) with
    | [] => oldbuf
    | _ :: rest => oldbuf ++ nbsdecrypt rest oldbuf
termination_by cpt.length
decreasing_by
  have hLength := (List.dropWhile_suffix
    (l := cpt) (· != dollar)).length_le
  rw [_hRest, List.length_cons] at hLength
  omega

------------------------------------------------------------
-- Bits And Characters
------------------------------------------------------------

theorem numberAt_lt
    (f : Nat → Bool)
    (n : Nat) :
    numberAt f n < 2 ^ n := by
  induction n with
  | zero => exact Nat.one_pos
  | succ n ih =>
      have hBit := (f n).toNat_le
      rw [numberAt, Nat.pow_succ]
      omega

/- The bits are there again. -/
theorem testBit_numberAt
    (f : Nat → Bool)
    {n i : Nat}
    (hI : i < n) :
    (numberAt f n).testBit i = f (n - 1 - i) := by
  induction n generalizing i with
  | zero => cases hI
  | succ n ih =>
      cases i with
      | zero =>
          rw [numberAt, Nat.testBit_zero]
          cases hBit : f n with
          | false => simp [hBit]
          | true => simp [hBit]
      | succ i =>
          have hHalf : (2 * numberAt f n + (f n).toNat) / 2 =
              numberAt f n := by
            have hBit := (f n).toNat_le
            omega
          have hPlace : n + 1 - 1 - (i + 1) = n - 1 - i := by
            omega
          rw [numberAt, Nat.testBit_succ, hHalf,
            ih (Nat.lt_of_succ_lt_succ hI), hPlace]

/- The lower bits of a number. -/
theorem numberAt_testBit
    (c n : Nat) :
    numberAt (fun j => c.testBit (n - 1 - j)) n =
      c % 2 ^ n := by
  apply Nat.eq_of_testBit_eq
  intro i
  rw [Nat.testBit_mod_two_pow]
  by_cases hI : i < n
  · have hPlace : n - 1 - (n - 1 - i) = i := by omega
    rw [testBit_numberAt _ hI, hPlace]
    simp [hI]
  · have hSmall := numberAt_lt
      (fun j => c.testBit (n - 1 - j)) n
    have hPow : 2 ^ n ≤ 2 ^ i :=
      Nat.pow_le_pow_right Nat.two_pos (Nat.not_lt.mp hI)
    rw [Nat.testBit_lt_two_pow (hSmall.trans_le hPow)]
    simp [hI]

theorem unknot_knot :
    ∀ n < 64, (unknot (knot n)).toNat = n ∧ knot n ≠ 0 ∧
      knot n ≠ dollar := by
  decide +kernel

theorem cText_of_isText
    {s : Bytes}
    (hText : CString.IsText s) :
    cText s = s := by
  apply List.takeWhile_eq_self_iff.mpr
  intro c hC
  exact bne_iff_ne.mpr (hText c hC)

/- The eleven characters, none of which is NUL. -/
theorem deblknot_eq (blk : Blk) :
    deblknot blk = (List.range 11).map fun i =>
      knot (numberAt (fun j => blk.bit (6 * i + j)) 6) := by
  apply cText_of_isText
  intro c hC
  rcases List.mem_map.mp hC with ⟨i, -, rfl⟩
  exact (unknot_knot _ (numberAt_lt _ 6)).2.1

theorem dollar_not_mem_deblknot (blk : Blk) :
    ∀ c ∈ deblknot blk, (c != dollar) = true := by
  intro c hC
  rw [deblknot_eq] at hC
  rcases List.mem_map.mp hC with ⟨i, -, rfl⟩
  exact bne_iff_ne.mpr (unknot_knot _ (numberAt_lt _ 6)).2.2

/- The characters of a block give the block back. -/
theorem enblknot_deblknot
    {blk : Blk}
    (hAbove : ∀ i, 64 ≤ i → blk.bit i = false) :
    enblknot (deblknot blk) = blk := by
  have hText : cText (deblknot blk) = deblknot blk := by
    apply cText_of_isText
    intro c hC
    rw [deblknot_eq] at hC
    rcases List.mem_map.mp hC with ⟨i, -, rfl⟩
    exact (unknot_knot _ (numberAt_lt _ 6)).2.1
  apply Bits.ext
  intro i hI
  unfold enblknot
  rw [Bits.bit_ofFn _ hI, hText, deblknot_eq]
  dsimp only
  by_cases hIn : i < 66
  · have hChar : i / 6 < 11 := by omega
    have hPlace : 6 - 1 - (5 - i % 6) = i % 6 := by omega
    rw [List.getElem?_map, List.getElem?_range hChar]
    dsimp only [Option.map_some]
    rw [(unknot_knot _ (numberAt_lt _ 6)).1,
      testBit_numberAt _ (by omega), hPlace, Nat.div_add_mod]
    simp [hIn]
  · rw [List.getElem?_eq_none (by simp; omega),
      hAbove i (by omega)]

/- What is left of a text: seven bits of each character. -/
def sevenBits (s : Bytes) : Bytes :=
  s.map fun c => UInt8.ofNat (c.toNat % 128)

/- No character vanishes with its highest bit. -/
def IsSevenBit (s : Bytes) : Prop :=
  ∀ c ∈ s, c.toNat % 128 ≠ 0

theorem IsSevenBit.isText
    {s : Bytes}
    (hSeven : IsSevenBit s) :
    CString.IsText s := by
  rintro c hC rfl
  exact hSeven 0 hC rfl

theorem toNat_sevenBits (c : UInt8) :
    (UInt8.ofNat (c.toNat % 128)).toNat = c.toNat % 128 := by
  have hSmall := Nat.mod_lt c.toNat (Nat.zero_lt_succ 127)
  exact UInt8.toNat_ofNat_of_lt' (hSmall.trans (by decide))

theorem IsSevenBit.sevenBits_isText
    {s : Bytes}
    (hSeven : IsSevenBit s) :
    CString.IsText (sevenBits s) := by
  intro c hC
  rcases List.mem_map.mp hC with ⟨d, hD, rfl⟩
  intro hZero
  have hNat := congrArg UInt8.toNat hZero
  rw [toNat_sevenBits] at hNat
  exact hSeven d hD hNat

theorem numberAt_congr
    {f g : Nat → Bool}
    {n : Nat}
    (hSame : ∀ j < n, f j = g j) :
    numberAt f n = numberAt g n := by
  induction n with
  | zero => rfl
  | succ n ih =>
      rw [numberAt, numberAt, hSame n (Nat.lt_succ_self n),
        ih fun j hJ => hSame j (Nat.lt_succ_of_lt hJ)]

theorem numberAt_false (n : Nat) :
    numberAt (fun _ => false) n = 0 := by
  induction n with
  | zero => rfl
  | succ n ih =>
      rw [numberAt, ih]
      rfl

/- A block of a text, one character after the other. -/
theorem numberAt_enblkclr
    {s : Bytes}
    (hText : CString.IsText s)
    (hShort : s.length ≤ 8)
    {i : Nat}
    (hI : i < 10) :
    numberAt (fun j => (enblkclr s).bit (8 * i + j)) 7 =
      match s[i]? with
      | some c => c.toNat % 128
      | none => 0 := by
  have hBit : ∀ j < 7, (enblkclr s).bit (8 * i + j) =
      match s[i]? with
      | some c => c.toNat.testBit (7 - 1 - j)
      | none => false := by
    intro j hJ
    have hChar : (8 * i + j) / 8 = i := by omega
    have hPlace : (8 * i + j) % 8 = j := by omega
    unfold enblkclr
    rw [Bits.bit_ofFn _ (by omega), cText_of_isText hText]
    dsimp only
    rw [hChar, hPlace]
    cases hAt : s[i]? with
    | none => rfl
    | some c =>
        have hIn := (List.getElem?_eq_some_iff.mp hAt).1
        have hFront : 8 * i + j < 64 := by omega
        simp [hFront, hJ]
  rw [numberAt_congr hBit]
  cases s[i]? with
  | none => exact numberAt_false 7
  | some c => exact numberAt_testBit c.toNat 7

theorem deblkclr_enblkclr
    {s : Bytes}
    (hSeven : IsSevenBit s)
    (hShort : s.length ≤ 8) :
    deblkclr (enblkclr s) = sevenBits s := by
  have hChars : ((List.range 10).map fun i => UInt8.ofNat
      (numberAt (fun j => (enblkclr s).bit (8 * i + j)) 7)) =
      sevenBits s ++ List.replicate (9 - s.length + 1) 0 := by
    apply List.ext_getElem
    · simp [sevenBits]
      omega
    · intro i hI _
      rw [List.length_map, List.length_range] at hI
      rw [List.getElem_map, List.getElem_range,
        numberAt_enblkclr hSeven.isText hShort hI]
      by_cases hIn : i < s.length
      · rw [List.getElem?_eq_getElem hIn,
          List.getElem_append_left (by simpa [sevenBits])]
        simp [sevenBits]
      · rw [List.getElem?_eq_none (Nat.not_lt.mp hIn),
          List.getElem_append_right (by
            simpa [sevenBits] using hIn),
          List.getElem_replicate]
        rfl
  unfold deblkclr
  rw [hChars, List.replicate_succ]
  exact CString.takeWhile_store hSeven.sevenBits_isText _

/- As a key, a text is as good as its lower seven bits. -/
theorem enblkclr_sevenBits
    {s : Bytes}
    (hSeven : IsSevenBit s) :
    enblkclr (sevenBits s) = enblkclr s := by
  apply Bits.ext
  intro i hI
  unfold enblkclr
  rw [Bits.bit_ofFn _ hI, Bits.bit_ofFn _ hI,
    cText_of_isText hSeven.isText,
    cText_of_isText hSeven.sevenBits_isText]
  dsimp only
  unfold sevenBits
  rw [List.getElem?_map]
  cases hAt : s[i / 8]? with
  | none => rfl
  | some c =>
      dsimp only [Option.map_some]
      rw [toNat_sevenBits]
      by_cases hPlace : i % 8 < 7
      · have hLow : 6 - i % 8 < 7 := by omega
        have hBit := Nat.testBit_mod_two_pow c.toNat 7
          (6 - i % 8)
        rw [decide_eq_true hLow, Bool.true_and] at hBit
        exact congrArg _ hBit
      · simp [hPlace]

------------------------------------------------------------
-- Chains Of Blocks
------------------------------------------------------------

theorem nbs8decrypt_nbs8encrypt
    {s : Bytes}
    (hSeven : IsSevenBit s)
    (hShort : s.length ≤ 8)
    (key : Bytes) :
    nbs8decrypt (nbs8encrypt s key) key = sevenBits s := by
  have hAbove : ∀ i, 64 ≤ i →
      (blkencrypt (nbssetkey (enblkclr key)) (enblkclr s)
        false).bit i = false := by
    intro i hI
    rw [bit_blkencrypt_above _ _ _ hI]
    by_cases hIn : i < 100
    · unfold enblkclr
      rw [Bits.bit_ofFn _ hIn]
      dsimp only
      rw [decide_eq_false (Nat.not_lt.mpr hI)]
      split
      · rfl
      · rfl
    · exact Bits.bit_outside _ (Nat.not_lt.mp hIn)
  unfold nbs8decrypt nbs8encrypt
  rw [enblknot_deblknot hAbove]
  have hAgain := blkencrypt_again (nbssetkey (enblkclr key))
    (enblkclr s) false
  rw [Bool.not_false] at hAgain
  rw [hAgain]
  exact deblkclr_enblkclr hSeven hShort

/- Of a key, the block that it gives matters. -/
theorem nbsdecrypt_congr
    {key key' : Bytes}
    (hSame : enblkclr key = enblkclr key')
    (cpt : Bytes) :
    nbsdecrypt cpt key = nbsdecrypt cpt key' := by
  have hFirst : ∀ part, nbs8decrypt part key =
      nbs8decrypt part key' := by
    intro part
    unfold nbs8decrypt
    rw [hSame]
  rw [nbsdecrypt, nbsdecrypt]
  simp only [hFirst]

/- The part in front of a separator, and the rest. -/
theorem nbsdecrypt_append
    {part : Bytes}
    (hPart : ∀ c ∈ part, (c != dollar) = true)
    (rest key : Bytes) :
    nbsdecrypt (part ++ dollar :: rest) key =
      nbs8decrypt part key ++
        nbsdecrypt rest (nbs8decrypt part key) := by
  have hTake : (part ++ dollar :: rest).takeWhile
      (· != dollar) = part := by
    rw [List.takeWhile_append_of_pos hPart,
      List.takeWhile_cons_of_neg (by simp), List.append_nil]
  have hDrop : (part ++ dollar :: rest).dropWhile
      (· != dollar) = dollar :: rest := by
    rw [List.dropWhile_append_of_pos hPart,
      List.dropWhile_cons_of_neg (by simp)]
  rw [nbsdecrypt, if_neg (by simp), hTake]
  split
  next hNone =>
      rw [hDrop] at hNone
      cases hNone
  next hSome =>
      rw [hDrop] at hSome
      cases hSome
      rfl

end Libsocket

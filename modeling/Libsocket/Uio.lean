import Libsocket.Library.Memory
import Libsocket.Library.Scatter
import Libsocket.Library.Word
import Libsocket.Process

/-
  Reading and writing several buffers with one call:
  `writev` gathers them in a block that it allocates, `readv`
  scatters such a block over them.

  Main declarations:
    * `writev`, `readv`
    * `gatherLoop_eq`, `scatterLoop_eq`
    * `writev_law_iff`, `readv_distributes`
-/

namespace Libsocket

------------------------------------------------------------
-- Vectors
------------------------------------------------------------

/- `IOV_MAX` and `SSIZE_MAX` -/
def iovMax : Int := 16
def ssizeMax : Nat := 2147483647

/- `struct iovec` -/
structure Iovec where
  iovBase : Nat
  iovLen : UInt32
deriving DecidableEq, Repr

/- The bytes of an entry. -/
def Iovec.region (m : Memory UInt8) (v : Iovec) : Bytes :=
  m.load v.iovBase v.iovLen.toNat

/- The lengths of all entries. -/
def iovLengths (iov : List Iovec) : List Nat :=
  iov.map fun v => v.iovLen.toNat

/- The exact number of bytes. -/
def iovBytes (iov : List Iovec) : Nat := (iovLengths iov).sum

/- The sum that both functions compute, in a `size_t`. -/
def iovTotal (iov : List Iovec) : UInt32 :=
  iov.foldl (fun nbytes v => nbytes + v.iovLen) 0

------------------------------------------------------------
-- writev
------------------------------------------------------------

/-
  Whether there is memory, what the new block holds, and the
  result and the error number of `write` for a buffer.
-/
structure WritevEnv where
  memory : Bool
  junk : Memory UInt8
  write : Bytes → Int × Option Errno

/-
  The result of a call, the error number that it sets, and
  the buffer that it passes to `write`.
-/
structure WritevResult where
  ret : Int
  errno : Option Errno
  written : Option Bytes
deriving DecidableEq

/- Copy all entries; a copy behind the block is a stop. -/
def gatherLoop (m : Memory UInt8) :
    List Iovec → UInt32 → Bytes → Option Bytes
| [], _, buf => some buf
| v :: iov, pos, buf =>
    if pos.toNat + v.iovLen.toNat ≤ buf.length then
      gatherLoop m iov (pos + v.iovLen)
        (buf.take pos.toNat ++ v.region m ++
          buf.drop (pos.toNat + v.iovLen.toNat))
    else
      none

/- `writev` -/
def writev
    (env : WritevEnv)
    (m : Memory UInt8)
    (iov : List Iovec)
    (iovcnt : Int) : Option WritevResult :=
  if iovcnt ≤ 0 ∨ iovMax < iovcnt then
    some ⟨-1, some .EINVAL, none⟩
  else
    let iov := iov.take iovcnt.toNat
    let nbytes := iovTotal iov
    if ssizeMax < nbytes.toNat then
      some ⟨-1, some .EINVAL, none⟩
    else if env.memory = false then
      some ⟨-1, some .ENOMEM, none⟩
    else do
      let buf ← gatherLoop m iov 0
        (env.junk.load 0 nbytes.toNat)
      let (ret, errno) := env.write buf
      return ⟨ret, errno, some buf⟩

------------------------------------------------------------
-- readv
------------------------------------------------------------

/-
  Whether there is memory, what the new block holds, and what
  `read` delivers into a buffer of some size.
-/
structure ReadvEnv where
  memory : Bool
  junk : Memory UInt8
  read : Nat → Except Errno Bytes
  fits : ∀ n data, read n = .ok data → data.length ≤ n

/-
  The result of a call, the error number that it sets, the
  memory afterwards, and what `read` delivered.
-/
structure ReadvResult where
  ret : Int
  errno : Option Errno
  memory : Memory UInt8
  delivered : Option (Except Errno Bytes)

/- Copy to all entries; a copy from behind is a stop. -/
def scatterLoop (buf : Bytes) :
    List Iovec → UInt32 → UInt32 → Memory UInt8 →
      Option (Memory UInt8)
| [], _, _, m => some m
| v :: iov, pos, remainder, m =>
    let len :=
      if v.iovLen < remainder then v.iovLen else remainder
    if pos.toNat + len.toNat ≤ buf.length then
      scatterLoop buf iov (pos + len) (remainder - len)
        (m.store v.iovBase
          ((buf.drop pos.toNat).take len.toNat))
    else
      none

/- `readv` -/
def readv
    (env : ReadvEnv)
    (m : Memory UInt8)
    (iov : List Iovec)
    (iovcnt : Int) : Option ReadvResult :=
  if iovcnt ≤ 0 ∨ iovMax < iovcnt then
    some ⟨-1, some .EINVAL, m, none⟩
  else
    let iov := iov.take iovcnt.toNat
    let maxbytes := iovTotal iov
    if ssizeMax < maxbytes.toNat then
      some ⟨-1, some .EINVAL, m, none⟩
    else if env.memory = false then
      some ⟨-1, some .ENOMEM, m, none⟩
    else
      match env.read maxbytes.toNat with
      | .error e => some ⟨-1, some e, m, some (.error e)⟩
      | .ok data => do
          let buf := overlay
            (env.junk.load 0 maxbytes.toNat) data
          let nbytes := UInt32.ofNat data.length
          let m ← scatterLoop buf iov 0 nbytes m
          return ⟨Word.signed nbytes.toNat, none, m,
            some (.ok data)⟩

------------------------------------------------------------
-- Sums
------------------------------------------------------------

/- The computed sum is the exact one, cut to 32 bits. -/
theorem toNat_foldl (iov : List Iovec) (n : UInt32) :
    (iov.foldl (fun nbytes v => nbytes + v.iovLen) n).toNat =
      (n.toNat + iovBytes iov) % 4294967296 := by
  induction iov generalizing n with
  | nil =>
      simp [iovBytes, iovLengths]
  | cons v iov ih =>
      rw [List.foldl_cons, ih, UInt32.toNat_add]
      simp only [iovBytes, iovLengths, List.map_cons,
        List.sum_cons]
      omega

theorem toNat_iovTotal (iov : List Iovec) :
    (iovTotal iov).toNat = iovBytes iov % 4294967296 := by
  rw [iovTotal, toNat_foldl]
  simp

------------------------------------------------------------
-- Gathering
------------------------------------------------------------

/- All entries, one after the other. -/
def gathered (m : Memory UInt8) (iov : List Iovec) : Bytes :=
  iov.flatMap fun v => v.region m

theorem gathered_cons
    (m : Memory UInt8)
    (v : Iovec)
    (iov : List Iovec) :
    gathered m (v :: iov) = v.region m ++ gathered m iov := rfl

theorem iovBytes_cons (v : Iovec) (iov : List Iovec) :
    iovBytes (v :: iov) = v.iovLen.toNat + iovBytes iov := by
  rw [iovBytes, iovLengths, List.map_cons, List.sum_cons]
  rfl

/-
  The entries land behind what is there already, as long as
  the block has room. The position cannot wrap around before
  the block is full.
-/
theorem gatherLoop_eq
    (m : Memory UInt8)
    (iov : List Iovec)
    (pos : UInt32)
    (front rest : Bytes)
    (hPos : pos.toNat = front.length)
    (hSize : (front ++ rest).length < 4294967296) :
    gatherLoop m iov pos (front ++ rest) =
      if iovBytes iov ≤ rest.length then
        some (front ++ gathered m iov ++
          rest.drop (iovBytes iov))
      else
        none := by
  induction iov generalizing pos front rest with
  | nil =>
      simp [gatherLoop, gathered, iovBytes, iovLengths]
  | cons v iov ih =>
      rw [List.length_append] at hSize
      rw [iovBytes_cons, gatherLoop, List.length_append, hPos]
      by_cases hFits : v.iovLen.toNat ≤ rest.length
      · rw [if_pos (by omega)]
        have hRegion : (v.region m).length = v.iovLen.toNat :=
          Memory.length_load
        have hShape : (front ++ rest).take front.length ++
            v.region m ++
            (front ++ rest).drop
              (front.length + v.iovLen.toNat) =
            (front ++ v.region m) ++
              rest.drop v.iovLen.toNat := by
          rw [List.take_left, ← List.drop_drop,
            List.drop_left]
        rw [hShape, ih]
        · rw [List.length_drop, List.drop_drop]
          by_cases hAll : v.iovLen.toNat + iovBytes iov ≤
              rest.length
          · rw [if_pos (by omega), if_pos hAll, gathered_cons,
              List.append_assoc front]
          · rw [if_neg (by omega), if_neg hAll]
        · rw [UInt32.toNat_add, hPos, List.length_append,
            hRegion]
          exact Nat.mod_eq_of_lt (by omega)
        · simp only [List.length_append, List.length_drop,
            hRegion]
          omega
      · rw [if_neg (by omega), if_neg (by omega)]

/-
  The call refuses a sum that is too large, or passes the
  entries to `write`, one after the other, and returns what
  `write` returns.
-/
def WritevLaw
    (env : WritevEnv)
    (m : Memory UInt8)
    (iov : List Iovec) : Prop :=
  ssizeMax < iovBytes iov ∧
      writev env m iov iov.length =
        some ⟨-1, some .EINVAL, none⟩ ∨
    writev env m iov iov.length =
      some ⟨(env.write (gathered m iov)).1,
        (env.write (gathered m iov)).2,
        some (gathered m iov)⟩

/- What a call with a valid count comes to. -/
theorem writev_eq
    (env : WritevEnv)
    (m : Memory UInt8)
    {iov : List Iovec}
    (hSome : 1 ≤ iov.length)
    (hFew : iov.length ≤ 16) :
    writev env m iov iov.length =
      if ssizeMax < iovBytes iov % 4294967296 then
        some ⟨-1, some .EINVAL, none⟩
      else if env.memory = false then
        some ⟨-1, some .ENOMEM, none⟩
      else if iovBytes iov < 4294967296 then
        some ⟨(env.write (gathered m iov)).1,
          (env.write (gathered m iov)).2,
          some (gathered m iov)⟩
      else
        none := by
  have hCount : ¬ ((iov.length : Int) ≤ 0 ∨
      iovMax < (iov.length : Int)) := by
    unfold iovMax
    omega
  unfold writev
  rw [if_neg hCount, Int.toNat_natCast, List.take_length]
  dsimp only
  rw [toNat_iovTotal]
  by_cases hLarge : ssizeMax < iovBytes iov % 4294967296
  · rw [if_pos hLarge, if_pos hLarge]
  rw [if_neg hLarge, if_neg hLarge]
  by_cases hMemory : env.memory = false
  · rw [if_pos hMemory, if_pos hMemory]
  rw [if_neg hMemory, if_neg hMemory]
  have hBlock : (env.junk.load 0
      (iovBytes iov % 4294967296)).length =
        iovBytes iov % 4294967296 := Memory.length_load
  have hGather := gatherLoop_eq m iov 0 []
    (env.junk.load 0 (iovBytes iov % 4294967296)) rfl
    (by rw [List.nil_append, hBlock]; omega)
  rw [List.nil_append, List.nil_append, hBlock] at hGather
  rw [hGather]
  by_cases hWraps : iovBytes iov < 4294967296
  · rw [Nat.mod_eq_of_lt hWraps] at hBlock ⊢
    rw [if_pos (Nat.le_refl _), if_pos hWraps,
      List.drop_of_length_le (Nat.le_of_eq hBlock),
      List.append_nil]
    rfl
  · rw [if_neg (by omega), if_neg hWraps]
    rfl

/-
  The call is right exactly when the sum, cut to 32 bits, is
  refused, or the exact sum is small and there is memory.
-/
theorem writev_law_iff
    (env : WritevEnv)
    (m : Memory UInt8)
    {iov : List Iovec}
    (hSome : 1 ≤ iov.length)
    (hFew : iov.length ≤ 16) :
    WritevLaw env m iov ↔
      ssizeMax < iovBytes iov % 4294967296 ∨
        iovBytes iov ≤ ssizeMax ∧ env.memory = true := by
  unfold WritevLaw
  rw [writev_eq env m hSome hFew]
  have hMax : ssizeMax = 2147483647 := rfl
  by_cases hLarge : ssizeMax < iovBytes iov % 4294967296
  · rw [if_pos hLarge]
    exact iff_of_true (.inl ⟨by omega, rfl⟩) (.inl hLarge)
  rw [if_neg hLarge]
  cases hMemory : env.memory with
  | false => simp [hLarge]
  | true =>
      simp only [Bool.true_eq_false, if_false]
      by_cases hWraps : iovBytes iov < 4294967296
      · rw [if_pos hWraps]
        exact iff_of_true (.inr rfl) (.inr ⟨by omega, trivial⟩)
      · rw [if_neg hWraps]
        simp [hLarge]
        omega

/- Two entries are written. -/
theorem writev_two_entries :
    WritevLaw
      ⟨true, fun _ => 0, fun b => (b.length, none)⟩
      (fun a => UInt8.ofNat a)
      [⟨100, 2⟩, ⟨200, 3⟩] :=
  (writev_law_iff _ _ (by decide) (by decide)).mpr
    (.inr ⟨by decide, rfl⟩)

/-
  Sixteen entries of 2 ^ 28 bytes each: their sum wraps to 0,
  and the first copy is made behind an empty block.
-/
theorem writev_wraps :
    ¬ ∀ (env : WritevEnv) (m : Memory UInt8)
        (iov : List Iovec),
      1 ≤ iov.length → iov.length ≤ 16 →
        WritevLaw env m iov := by
  intro hAlways
  have hLaw := hAlways
    ⟨true, fun _ => 0, fun b => (b.length, none)⟩
    (fun _ => 0) (List.replicate 16 ⟨0, 268435456⟩)
    (by decide) (by decide)
  unfold WritevLaw at hLaw
  rw [writev_eq _ _ (by decide) (by decide)] at hLaw
  have hBytes : iovBytes (List.replicate 16 ⟨0, 268435456⟩) =
      4294967296 := by decide
  rw [hBytes, if_neg (by decide), if_neg (by decide),
    if_neg (by decide)] at hLaw
  rcases hLaw with ⟨-, hLeft⟩ | hRight
  · cases hLeft
  · cases hRight

------------------------------------------------------------
-- Scattering
------------------------------------------------------------

/- Where each part goes. -/
def placed
    (iov : List Iovec)
    (parts : List Bytes) : List (Nat × Bytes) :=
  (iov.map fun v => v.iovBase).zip parts

/-
  The loop fills the entries with what is left of the data.
  Position and remainder stay inside the block.
-/
theorem scatterLoop_eq
    (buf : Bytes)
    (iov : List Iovec)
    (pos remainder : UInt32)
    (m : Memory UInt8)
    (hInside : pos.toNat + remainder.toNat ≤ buf.length)
    (hSize : buf.length < 4294967296) :
    scatterLoop buf iov pos remainder m =
      some (m.storeAll (placed iov (Scatter.fill
        (iovLengths iov)
        ((buf.drop pos.toNat).take remainder.toNat)))) := by
  induction iov generalizing pos remainder m with
  | nil => rfl
  | cons v iov ih =>
      have hLen : (if v.iovLen < remainder then v.iovLen
          else remainder).toNat =
            min v.iovLen.toNat remainder.toNat := by
        split
        next hLess =>
          have hLess' := UInt32.lt_iff_toNat_lt.mp hLess
          omega
        next hNot =>
          rw [UInt32.lt_iff_toNat_lt] at hNot
          omega
      have hPos : (pos + if v.iovLen < remainder then v.iovLen
          else remainder).toNat = pos.toNat +
            min v.iovLen.toNat remainder.toNat := by
        rw [UInt32.toNat_add, hLen]
        exact Nat.mod_eq_of_lt (by omega)
      have hRemainder : (remainder - if v.iovLen < remainder
          then v.iovLen else remainder).toNat =
            remainder.toNat -
              min v.iovLen.toNat remainder.toNat := by
        rw [UInt32.toNat_sub_of_le, hLen]
        rw [UInt32.le_iff_toNat_le, hLen]
        omega
      have hRest : ((buf.drop pos.toNat).take
          remainder.toNat).drop v.iovLen.toNat =
            (buf.drop (pos.toNat +
              min v.iovLen.toNat remainder.toNat)).take
              (remainder.toNat -
                min v.iovLen.toNat remainder.toNat) := by
        rw [List.drop_take, List.drop_drop]
        rcases Nat.le_total v.iovLen.toNat remainder.toNat with
          hEnough | hShort
        · rw [Nat.min_eq_left hEnough]
        · rw [Nat.min_eq_right hShort, Nat.sub_self,
            Nat.sub_eq_zero_of_le hShort, List.take_zero,
            List.take_zero]
      rw [scatterLoop, if_pos (by rw [hLen]; omega), ih]
      · rw [hPos, hRemainder, hLen, ← hRest, ← List.take_take]
        rfl
      · rw [hPos, hRemainder]
        omega

/- No two entries overlap. -/
def EntriesApart (iov : List Iovec) : Prop :=
  iov.Pairwise fun v w => Memory.Apart v.iovBase
    v.iovLen.toNat w.iovBase w.iovLen.toNat

/- The part that an entry gets. -/
def Gets
    (iov : List Iovec)
    (parts : List Bytes)
    (i : Nat)
    (v : Iovec)
    (part : Bytes) : Prop :=
  iov[i]? = some v ∧ parts[i]? = some part

/-
  The data has been distributed in these parts, one for each
  entry: all of it, in order, and nothing else is changed.
-/
structure Distributed
    (m m' : Memory UInt8)
    (iov : List Iovec)
    (data : Bytes)
    (parts : List Bytes) : Prop where
  one_each : parts.length = iov.length
  reproduced : parts.flatten = data
  fits : ∀ i v part, Gets iov parts i v part →
    part.length ≤ v.iovLen.toNat
  in_order : ∀ i j v w part later, i < j →
    Gets iov parts i v part → Gets iov parts j w later →
    later ≠ [] → part.length = v.iovLen.toNat
  stored : m' = m.storeAll (placed iov parts)
  untouched : ∀ b,
    (∀ i v part, Gets iov parts i v part →
      Memory.Outside b v.iovBase part.length) →
    m' b = m b
  read_back : EntriesApart iov →
    ∀ i v part, Gets iov parts i v part →
      m'.load v.iovBase part.length = part ∧
        ∀ k, part.length ≤ k → k < v.iovLen.toNat →
          m' (v.iovBase + k) = m (v.iovBase + k)

/- A placed part is one that an entry gets. -/
theorem getElem?_placed
    {iov : List Iovec}
    {parts : List Bytes}
    {i : Nat}
    {place : Nat × Bytes} :
    (placed iov parts)[i]? = some place ↔
      ∃ v, Gets iov parts i v place.2 ∧
        v.iovBase = place.1 := by
  rw [placed, List.getElem?_zip_eq_some, List.getElem?_map,
    Option.map_eq_some_iff]
  constructor
  · intro hBoth
    rcases hBoth with ⟨⟨v, hV, hBase⟩, hPart⟩
    exact ⟨v, ⟨hV, hPart⟩, hBase⟩
  · intro hGets
    rcases hGets with ⟨v, ⟨hV, hPart⟩, hBase⟩
    exact ⟨⟨v, hV, hBase⟩, hPart⟩

theorem EntriesApart.at
    {iov : List Iovec}
    {i j : Nat}
    {v w : Iovec}
    (hApart : EntriesApart iov)
    (hV : iov[i]? = some v)
    (hW : iov[j]? = some w)
    (hNe : i ≠ j) :
    Memory.Apart v.iovBase v.iovLen.toNat w.iovBase
      w.iovLen.toNat := by
  rcases List.getElem?_eq_some_iff.mp hV with ⟨hI, rfl⟩
  rcases List.getElem?_eq_some_iff.mp hW with ⟨hJ, rfl⟩
  have hPair := List.pairwise_iff_getElem.mp hApart
  rcases Nat.lt_or_gt_of_ne hNe with hLess | hGreater
  · exact hPair i j hI hJ hLess
  · exact (hPair j i hJ hI hGreater).symm

/- Parts that fit into such entries do not overlap either. -/
theorem EntriesApart.placed
    {iov : List Iovec}
    {parts : List Bytes}
    (hApart : EntriesApart iov)
    (hFits : ∀ i v part, Gets iov parts i v part →
      part.length ≤ v.iovLen.toNat) :
    (placed iov parts).Pairwise fun p q =>
      Memory.Apart p.1 p.2.length q.1 q.2.length := by
  apply List.pairwise_iff_getElem.mpr
  intro i j hI hJ hLess
  rcases getElem?_placed.mp (List.getElem?_eq_getElem hI) with
    ⟨v, hV, hBaseV⟩
  rcases getElem?_placed.mp (List.getElem?_eq_getElem hJ) with
    ⟨w, hW, hBaseW⟩
  have hFitsV := hFits i v _ hV
  have hFitsW := hFits j w _ hW
  rw [← hBaseV, ← hBaseW]
  rcases hApart.at hV.1 hW.1 (Nat.ne_of_lt hLess) with
    hLow | hHigh
  · exact .inl (by omega)
  · exact .inr (by omega)

/- Filling the entries distributes the data. -/
theorem distributed_fill
    (m : Memory UInt8)
    (iov : List Iovec)
    {data : Bytes}
    (hRoom : data.length ≤ iovBytes iov) :
    Distributed m
      (m.storeAll (placed iov
        (Scatter.fill (iovLengths iov) data)))
      iov data (Scatter.fill (iovLengths iov) data) := by
  have hSizes : ∀ (i : Nat) (v : Iovec), iov[i]? = some v →
      (iovLengths iov)[i]? = some v.iovLen.toNat := by
    intro i v hV
    rw [iovLengths, List.getElem?_map, hV]
    rfl
  have hFits : ∀ i v part,
      Gets iov (Scatter.fill (iovLengths iov) data) i v part →
      part.length ≤ v.iovLen.toNat :=
    fun i v part hGets =>
      Scatter.fits (hSizes i v hGets.1) hGets.2
  have hUntouched : ∀ b, (∀ i v part,
      Gets iov (Scatter.fill (iovLengths iov) data) i v part →
      Memory.Outside b v.iovBase part.length) →
      m.storeAll (placed iov
        (Scatter.fill (iovLengths iov) data)) b = m b := by
    intro b hOutside
    apply Memory.storeAll_outside
    intro place hMem
    rcases List.mem_iff_getElem?.mp hMem with ⟨i, hI⟩
    rcases getElem?_placed.mp hI with ⟨v, hGets, hBase⟩
    rw [← hBase]
    exact hOutside i v place.2 hGets
  constructor
  · rw [Scatter.length_fill, iovLengths, List.length_map]
  · rw [Scatter.flatten_fill]
    exact List.take_of_length_le hRoom
  · exact hFits
  · intro i j v w part later hBefore hPart hLater hSome
    exact Scatter.full_before hBefore (hSizes i v hPart.1)
      hPart.2 hLater.2 hSome
  · rfl
  · exact hUntouched
  · intro hApart i v part hGets
    constructor
    · have hMem : (v.iovBase, part) ∈ placed iov
          (Scatter.fill (iovLengths iov) data) :=
        List.mem_iff_getElem?.mpr
          ⟨i, getElem?_placed.mpr ⟨v, hGets, rfl⟩⟩
      exact Memory.load_storeAll (hApart.placed hFits) hMem
    · intro k hBehind hInside
      apply hUntouched
      intro j w other hOther
      have hOtherFits := hFits j w other hOther
      by_cases hSame : i = j
      · subst hSame
        cases hGets.1.symm.trans hOther.1
        cases hGets.2.symm.trans hOther.2
        exact .inr (by omega)
      · rcases hApart.at hGets.1 hOther.1 hSame with
          hLow | hHigh
        · exact .inl (by omega)
        · exact .inr (by omega)

/-
  The call reads if the computed sum is not refused and there
  is memory. It returns the count of what was delivered and
  distributes it over the entries, or stores nothing.
-/
theorem readv_distributes
    (env : ReadvEnv)
    (m : Memory UInt8)
    (iov : List Iovec)
    (hSome : 1 ≤ iov.length)
    (hFew : iov.length ≤ 16) :
    ∃ result, readv env m iov iov.length = some result ∧
      (∀ data, result.delivered = some (.ok data) →
        result.ret = data.length ∧
          ∃ parts,
            Distributed m result.memory iov data parts) ∧
      (∀ e, result.delivered = some (.error e) →
        result.ret = -1 ∧ result.errno = some e ∧
          result.memory = m) ∧
      (result.delivered = none →
        result.ret = -1 ∧ result.memory = m) ∧
      result.delivered =
        if (iovTotal iov).toNat ≤ ssizeMax ∧
            env.memory = true then
          some (env.read (iovTotal iov).toNat)
        else
          none := by
  have hCount : ¬ ((iov.length : Int) ≤ 0 ∨
      iovMax < (iov.length : Int)) := by
    unfold iovMax
    omega
  have hMax : ssizeMax = 2147483647 := rfl
  unfold readv
  rw [if_neg hCount, Int.toNat_natCast, List.take_length]
  dsimp only
  by_cases hLarge : ssizeMax < (iovTotal iov).toNat
  · rw [if_pos hLarge, if_neg (by omega)]
    refine ⟨_, rfl, ?_⟩
    simp
  rw [if_neg hLarge]
  cases hMemory : env.memory with
  | false =>
      refine ⟨_, rfl, ?_⟩
      simp
  | true =>
      rw [if_neg (by decide),
        if_pos ⟨Nat.le_of_not_lt hLarge, rfl⟩]
      cases hRead : env.read (iovTotal iov).toNat with
      | error e =>
          refine ⟨_, rfl, ?_⟩
          simp
      | ok data =>
          have hFits := env.fits _ _ hRead
          have hNbytes : (UInt32.ofNat data.length).toNat =
              data.length :=
            UInt32.toNat_ofNat_of_lt'
              (Nat.lt_of_le_of_lt hFits
                (iovTotal iov).toNat_lt)
          have hLength : (overlay (env.junk.load 0
              (iovTotal iov).toNat) data).length =
                (iovTotal iov).toNat := by
            rw [length_overlay, Memory.length_load]
          have hData : ((overlay (env.junk.load 0
              (iovTotal iov).toNat) data).drop 0).take
                data.length = data := by
            rw [List.drop_zero, overlay, Memory.length_load,
              List.take_of_length_le hFits, List.take_left]
          have hLoop := scatterLoop_eq
            (overlay (env.junk.load 0 (iovTotal iov).toNat)
              data) iov 0 (UInt32.ofNat data.length) m
            (by
              rw [hNbytes, hLength, UInt32.toNat_zero,
                Nat.zero_add]
              exact hFits)
            (by
              rw [hLength]
              exact (iovTotal iov).toNat_lt)
          rw [hNbytes] at hLoop
          rw [UInt32.toNat_zero, hData] at hLoop
          have hRoom : data.length ≤ iovBytes iov := by
            have hTotal := toNat_iovTotal iov
            have hMod := Nat.mod_le (iovBytes iov) 4294967296
            omega
          dsimp only
          rw [hLoop, hNbytes, Word.signed_of_range (by omega)
            (by omega)]
          refine ⟨_, rfl, ?_, ?_, ?_, rfl⟩
          · intro other hSame
            cases hSame
            exact ⟨rfl, _, distributed_fill m iov hRoom⟩
          · intro e hSame
            cases hSame
          · intro hSame
            cases hSame

/- Three bytes are there to be read. -/
def ReadvEnv.three : ReadvEnv where
  memory := true
  junk := fun _ => 0
  read := fun n => .ok ([1, 2, 3].take n)
  fits := by
    intro n data hRead
    cases hRead
    exact List.length_take_le n _

/- Three bytes are read into room for five. -/
theorem readv_two_entries :
    ∃ result, readv .three (fun _ => 0)
        [⟨100, 2⟩, ⟨200, 3⟩] 2 = some result ∧
      result.ret = 3 ∧
        ∃ parts, Distributed (fun _ => 0) result.memory
          [⟨100, 2⟩, ⟨200, 3⟩] [1, 2, 3] parts := by
  rcases readv_distributes .three (fun _ => 0)
    [⟨100, 2⟩, ⟨200, 3⟩] (by decide) (by decide) with
    ⟨result, hRun, hData, -, -, hDelivered⟩
  rw [if_pos (by decide)] at hDelivered
  have hAll : ReadvEnv.three.read
      (iovTotal [⟨100, 2⟩, ⟨200, 3⟩]).toNat =
      .ok [1, 2, 3] := by rfl
  rw [hAll] at hDelivered
  exact ⟨result, hRun, hData _ hDelivered⟩

end Libsocket

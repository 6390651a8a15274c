import Libsocket.Inet
import Libsocket.Ini.Lookup

/-
  Reading the addresses of the name servers from the
  resolver's configuration file.

  Main declarations:
    * `resolvLine`
    * `resolvConfGetdnsaddrs`
    * `serverOf?`, `resolvLine_dnsaddrs`
-/

namespace Libsocket

/- `MAXNS` -/
def maxNs : Nat := 3

/- `PATH_MAX` -/
def pathMax : Nat := 512

/- The key that a line with an address begins with. -/
def nameserverKey : Bytes := bytes "nameserver"

/- The characters of an address. -/
def isAddressChar (b : UInt8) : Bool :=
  isDigit b || b == fullStop

/- The line buffer, and the array of addresses. -/
structure ResolvState where
  buf : Bytes
  dnsaddrs : List (Option Bytes)
  count : Nat
deriving DecidableEq, Repr

/- One turn of the loop, with the line that was read. -/
def resolvLine (s : ResolvState) (read : Bytes) :
    ResolvState :=
  let buf := overlay s.buf (CString.store read)
  let p := CString.skip isSpace buf 0
  if buf.getD p 0 = hash then
    { s with buf := buf }
  else if (CString.textAt buf p).take nameserverKey.length ≠
      nameserverKey then
    { s with buf := buf }
  else
    let p := p + nameserverKey.length
    if isSpace (buf.getD p 0) = false then
      { s with buf := buf }
    else
      let p := CString.skip isSpace buf p
      let q := CString.skip isAddressChar buf p
      let buf := buf.set q 0
      if (inetAton (CString.textAt buf p)).isNone then
        { s with buf := buf }
      else
        { s with
          buf := buf
          dnsaddrs := s.dnsaddrs.set s.count
            (some (CString.textAt buf p)) }

/-
  What the environment gives to a call: what the buffers hold
  at first, and whether there is memory left.
-/
structure ResolvEnv where
  iniBuf : Fin iniBufSize → UInt8
  path : Fin pathMax → UInt8
  buf : Fin iniBufSize → UInt8
  memory : Bool

/-
  `__lsck_resolv_conf_getdnsaddrs`: the array, if the call
  does not return `NULL`. `fopen` gives what a file holds, if
  it can be opened.
-/
def resolvConfGetdnsaddrs
    (env : ResolvEnv)
    (cfg : Option Bytes)
    (fopen : Bytes → Option Bytes) :
    Option (Option (List (Option Bytes))) :=
  match cfg with
  | none => some none
  | some cfg => do
      let (path, _) ← getPrivateProfileString env.iniBuf
        (some (bytes "main")) (some (bytes "resolv.conf"))
        none (List.ofFn env.path) pathMax (fopen cfg)
      let name ← CString.read? path
      match fopen name with
      | none => return none
      | some file =>
          if env.memory then
            return some ((fgetsAll iniBufSize file).foldl
              resolvLine ⟨List.ofFn env.buf,
                List.replicate (maxNs + 1) none, 0⟩).dnsaddrs
          else
            return none

/- The addresses in an array, up to the first `NULL`. -/
def nameservers : List (Option Bytes) → List Bytes
| some address :: rest => address :: nameservers rest
| _ => []

/-
  The address in a line that names a server: what follows the
  key and white space, up to the first other character.
-/
def serverOf? (line : Bytes) : Option Bytes :=
  let rest := line.dropWhile isSpace
  let behind := rest.drop nameserverKey.length
  let address :=
    (behind.dropWhile isSpace).takeWhile isAddressChar
  if rest.take nameserverKey.length = nameserverKey ∧
      isSpace (behind.head?.getD 0) = true ∧
      (inetAton address).isSome = true then
    some address
  else
    none

------------------------------------------------------------
-- One Line
------------------------------------------------------------

@[simp] theorem length_resolvLine
    (s : ResolvState)
    (read : Bytes) :
    (resolvLine s read).buf.length = s.buf.length := by
  unfold resolvLine
  dsimp only
  split
  · exact length_overlay _ _
  split
  · exact length_overlay _ _
  split
  · exact length_overlay _ _
  split
  all_goals rw [List.length_set, length_overlay]

/- Nothing ever moves on in the array. -/
@[simp] theorem count_resolvLine
    (s : ResolvState)
    (read : Bytes) :
    (resolvLine s read).count = s.count := by
  unfold resolvLine
  dsimp only
  repeat' split
  all_goals rfl

/-
  A turn of the loop: an address that a line names goes to
  the entry that is next, and other lines change no address.
-/
theorem resolvLine_dnsaddrs
    {s : ResolvState}
    {read : Bytes}
    (hRoom : read.length < s.buf.length) :
    (resolvLine s read).dnsaddrs =
      (serverOf? (lineText read)).elim s.dnsaddrs
        fun address =>
          s.dnsaddrs.set s.count (some address) := by
  have hLine := (holdsAt_lineText hRoom).skip
    (p := isSpace) (by decide)
  unfold resolvLine serverOf?
  dsimp only
  generalize overlay s.buf (CString.store read) = buf
    at hLine ⊢
  generalize (lineText read).dropWhile isSpace = rest
    at hLine ⊢
  generalize CString.skip isSpace buf 0 = p at hLine ⊢
  rw [hLine.getD_eq, hLine.textAt_eq]
  by_cases hKey :
      rest.take nameserverKey.length = nameserverKey
  · have hPlain : rest.head?.getD 0 ≠ hash := by
      have hHead := congrArg List.head? hKey
      rw [List.head?_take, if_neg (by decide)] at hHead
      rw [hHead]
      decide
    have hParts := List.take_append_drop
      nameserverKey.length rest
    rw [hKey] at hParts
    rw [← hParts] at hLine
    have hBlank := hLine.behind
    generalize rest.drop nameserverKey.length = behind
      at hBlank ⊢
    rw [if_neg hPlain, if_neg (not_not.mpr hKey),
      hBlank.getD_eq]
    cases hSpace : isSpace (behind.head?.getD 0) with
    | false =>
        rw [if_pos rfl, if_neg]
        · rfl
        · rintro ⟨-, hTrue, -⟩
          cases hTrue
    | true =>
        have hAddress := hBlank.skip (p := isSpace) (by decide)
        rw [if_neg (by decide),
          hAddress.skip_eq (p := isAddressChar) (by decide),
          hAddress.cut_takeWhile.textAt_eq]
        cases hAton : inetAton
            ((behind.dropWhile isSpace).takeWhile
              isAddressChar) with
        | none =>
            rw [if_pos Option.isNone_none, if_neg]
            · rfl
            · rintro ⟨-, -, hTrue⟩
              cases hTrue
        | some a =>
            rw [if_neg (by simp), if_pos ⟨hKey, rfl, rfl⟩]
            rfl
  · rw [if_pos hKey, ite_self, if_neg (c := _ ∧ _)]
    · rfl
    · rintro ⟨hSame, -⟩
      exact hKey hSame

/- The written form of an address has no other characters. -/
theorem isAddressChar_inetNtoa
    {a : InAddr}
    {c : UInt8}
    (hMem : c ∈ inetNtoa a) :
    isAddressChar c = true := by
  have hDigits : ∀ b : UInt8, ∀ c ∈ decimal b.toNat,
      isAddressChar c = true := by
    intro b c hC
    have hAll : ((List.range 256).all fun m =>
        (decimal m).all isAddressChar) = true := by
      decide +kernel
    have hByte := List.mem_range.mpr b.toNat_lt
    have hOne := List.all_eq_true.mp hAll b.toNat hByte
    exact List.all_eq_true.mp hOne c hC
  unfold inetNtoa at hMem
  simp only [List.mem_append, List.mem_cons] at hMem
  rcases hMem with h | rfl | h | rfl | h | rfl | h
  · exact hDigits _ _ h
  · decide
  · exact hDigits _ _ h
  · decide
  · exact hDigits _ _ h
  · decide
  · exact hDigits _ _ h

/- The line that names a server. -/
def nameserverLine (a : InAddr) : Bytes :=
  nameserverKey ++ [32] ++ inetNtoa a

/- A character of an address is not white space. -/
theorem isSpace_of_isAddressChar
    {c : UInt8}
    (hC : isAddressChar c = true) :
    isSpace c = false := by
  unfold isAddressChar isDigit at hC
  unfold isSpace
  simp only [Bool.or_eq_true, decide_eq_true_eq, beq_iff_eq]
    at hC
  rcases hC with hDigit | rfl
  · have hNot : c ≠ 32 := by
      rintro rfl
      exact absurd hDigit.1 (by decide)
    simp only [Bool.or_eq_false_iff, beq_eq_false_iff_ne]
    refine ⟨hNot, ?_⟩
    simp only [decide_eq_false_iff_not]
    omega
  · decide

/- The server that a written line names. -/
theorem serverOf?_nameserverLine (a : InAddr) :
    serverOf? (nameserverLine a ++ [newline]) =
      some (inetNtoa a) := by
  have hChars : ∀ c ∈ inetNtoa a, isAddressChar c = true :=
    fun c hC => isAddressChar_inetNtoa hC
  have hShape : nameserverLine a ++ [newline] =
      nameserverKey ++ (32 :: (inetNtoa a ++ [newline])) := by
    simp [nameserverLine]
  have hFirst : (nameserverKey ++
      (32 :: (inetNtoa a ++ [newline]))).dropWhile isSpace =
        nameserverKey ++ (32 :: (inetNtoa a ++ [newline])) :=
    List.dropWhile_cons_of_neg (by decide)
  have hSpaces : (32 :: (inetNtoa a ++ [newline])).dropWhile
      isSpace = inetNtoa a ++ [newline] := by
    rw [List.dropWhile_cons_of_pos (by decide)]
    apply Trim.dropWhile_eq_self
    intro c hC
    cases hA : inetNtoa a with
    | nil =>
        have hDot : fullStop ∈ inetNtoa a := by simp [inetNtoa]
        rw [hA] at hDot
        cases hDot
    | cons d ds =>
        rw [hA] at hC
        cases hC
        exact isSpace_of_isAddressChar
          (hChars c (by rw [hA]; simp))
  have hEnd : (inetNtoa a ++ [newline]).takeWhile
      isAddressChar = inetNtoa a := by
    rw [List.takeWhile_append_of_pos hChars,
      List.takeWhile_cons_of_neg (by decide), List.append_nil]
  unfold serverOf?
  dsimp only
  rw [hShape, hFirst, List.take_left, List.drop_left, hSpaces,
    hEnd, inetAton_inetNtoa]
  rfl

end Libsocket

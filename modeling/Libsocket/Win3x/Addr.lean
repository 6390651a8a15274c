import Libsocket.Library.Tokens
import Libsocket.Win3x.Systemini

/-
  The address table of Windows 3.x, built from the list of
  the interfaces.

  Main declarations:
    * `getaddrtable`
    * `enumerate_iff`
    * `InterfacesLaw`
    * `interfaces_law_iff`
-/

namespace Libsocket.Win3x

------------------------------------------------------------
-- The Table
------------------------------------------------------------

/- `LSCK_IF_ADDR_TABLE_MAX` -/
def lsckIfAddrTableMax : Nat := 16

/- `LSCK_IF_HW_TYPE_VIRTUAL` -/
def lsckIfHwTypeVirtual : Nat := 0

/- `__lsck_if_addr_inet_loopback`, if there is memory. -/
def loopback : LsckIfAddrInet :=
  { LsckIfAddrInet.cleared with
    addr := ⟨127, 0, 0, 1⟩
    netmask := ⟨255, 0, 0, 0⟩
    gwPresent := false
    hwType := lsckIfHwTypeVirtual }

/-
  The pointers of the table, `none` for `NULL`, and the index
  of the next entry.
-/
structure Building where
  inet : List (Option LsckIfAddrInet)
  ifCount : Nat

/-
  `memcpy` to the entry at the index. Without memory for it
  the copy goes to `NULL`.
-/
def Building.store
    (t : Building)
    (entry : LsckIfAddrInet) : Option Building :=
  match t.inet[t.ifCount]? with
  | some (some _) =>
      some ⟨t.inet.set t.ifCount (some entry), t.ifCount + 1⟩
  | _ => none

/- The name servers of an interface, with `n` to go. -/
def interfaceDns
    (env : SysiniEnv)
    (interface : Bytes) :
    Nat → Nat → LsckIfAddrInet → Option LsckIfAddrInet
| 0, _, inet => some inet
| n + 1, j, inet => do
    match ← getdnsaddr env interface (j + 1) with
    | none => return inet
    | some a =>
        interfaceDns env interface n (j + 1) (inet.setDns j a)

/-
  The name servers of an interface, or the global ones. The
  strings of those lie in a buffer that is gone, so that any
  use of them is undefined behaviour.
-/
def dnsAddresses
    (env : SysiniEnv)
    (interface : Bytes)
    (inet : LsckIfAddrInet) : Option LsckIfAddrInet := do
  match ← getdnsaddr env interface 1 with
  | none =>
      match ← getdnsaddrs env with
      | none => return inet
      | some _ => none
  | some a =>
      interfaceDns env interface lsckIfAddrInetDnsMax 0
        (inet.setDns 0 a)

/-
  The names of the host. Copying a name that is `NULL` is
  undefined behaviour.
-/
def hostNames
    (env : SysiniEnv)
    (inet : LsckIfAddrInet) : Option LsckIfAddrInet := do
  let host ← ← gethostname env
  let hostname ← strcpyArray host
  let domain ← ← getdomainname env
  let domainname ← strcpyArray domain
  if dot ∉ host ∧
      host.length + 1 + domain.length < maxGetHostName then
    let hostname ← strcpyArray (host ++ dot :: domain)
    return inet.setNames hostname domainname
  else
    return inet.setNames hostname domainname

/- One turn of the loop over the interfaces. -/
def addInterface
    (env : SysiniEnv)
    (t : Building)
    (p : Bytes) : Option Building := do
  match ← getipaddr env p with
  | none => return t
  | some addr =>
      match ← getnetmask env p with
      | none => return t
      | some netmask =>
          let gw ← getgwaddr env p
          let inet ← dnsAddresses env p
            (LsckIfAddrInet.addressed addr netmask gw
              ).setEthernet
          let inet ← hostNames env inet
          t.store inet

/- The loop over the interfaces. -/
def enumerate
    (env : SysiniEnv)
    (q : List Bytes)
    (t : Building) : Option Building :=
  q.foldlM (addInterface env) t

/- The table before the loop, with its loopback entry. -/
def Building.start (lo : Option LsckIfAddrInet) : Building where
  inet := lo :: List.replicate lsckIfAddrTableMax none
  ifCount := 1

/- The entries in front of the `NULL`. -/
def Building.entries (t : Building) : List LsckIfAddrInet :=
  (t.inet.takeWhile Option.isSome).filterMap id

/- `__win3x_getaddrtable` -/
def getaddrtable
    (env : SysiniEnv) : Option (Option LsckIfAddrTable) := do
  let lo := if env.loopback then some loopback else none
  if ¬ env.table then
    return none
  else
    match ← getinterfaces env with
    | none => return none
    | some q =>
        let t ← enumerate env q (.start lo)
        return some ⟨afInet, t.entries⟩

------------------------------------------------------------
-- The Loop
------------------------------------------------------------

/- An address in the file that can be read and is not zero. -/
def validAddr
    (env : SysiniEnv)
    (interface keyname : Bytes) : Option InAddr :=
  usable (valueIn env.file interface keyname)

/- The addresses that an entry is due for. -/
def interfaceEntry
    (env : SysiniEnv)
    (p : Bytes) : Option (InAddr × InAddr) := do
  let addr ← validAddr env p (bytes "IPAddress")
  let netmask ← validAddr env p (bytes "IPMask")
  return (addr, netmask)

theorem nonZeroAddr_eq
    (env : SysiniEnv)
    (keyname interface : Bytes) :
    nonZeroAddr env keyname interface =
      some (validAddr env interface keyname) := by
  obtain ⟨buf, n, hRun, hReads, hCount⟩ :=
    systemini_eq env interface keyname
  unfold nonZeroAddr getinterfaceaddr validAddr usable
  simp only [hRun, Option.bind_eq_bind, Option.bind_some,
    hReads, Option.pure_def]
  cases hValue : valueIn env.file interface keyname with
  | none =>
      rw [hValue] at hCount
      rw [if_pos (hCount.mpr rfl)]
      rfl
  | some value =>
      rw [hValue] at hCount
      by_cases hEmpty : value = []
      · rw [if_pos (hCount.mpr hEmpty), hEmpty]
        decide
      · rw [if_neg fun hZero => hEmpty (hCount.mp hZero)]
        rfl

/-
  A turn for an interface without addresses changes nothing;
  any other stores through an entry without memory.
-/
theorem addInterface_eq
    (env : SysiniEnv)
    {t : Building}
    (hNull : ∀ entry, t.inet[t.ifCount]? ≠ some (some entry))
    (p : Bytes) :
    addInterface env t p =
      if interfaceEntry env p = none then some t
      else none := by
  have hStore : ∀ entry, t.store entry = none := by
    intro entry
    unfold Building.store
    split
    · rename_i old hOld
      exact absurd hOld (hNull old)
    · rfl
  unfold addInterface getipaddr getnetmask getgwaddr
    interfaceEntry
  simp only [nonZeroAddr_eq, Option.bind_eq_bind,
    Option.bind_some, Option.pure_def]
  cases validAddr env p (bytes "IPAddress") with
  | none => rfl
  | some addr =>
      cases validAddr env p (bytes "IPMask") with
      | none => rfl
      | some netmask =>
          simp only [hStore, Option.bind_some, reduceCtorEq,
            if_false, Option.bind_fun_none]

/-
  The loop ends well exactly if no interface of the list has
  a valid address and mask.
-/
theorem enumerate_eq
    (env : SysiniEnv)
    {t : Building}
    (hNull : ∀ entry, t.inet[t.ifCount]? ≠ some (some entry))
    (q : List Bytes) :
    enumerate env q t =
      if q.filterMap (interfaceEntry env) = [] then some t
      else none := by
  induction q with
  | nil => rfl
  | cons p q ih =>
      unfold enumerate at ih ⊢
      rw [List.foldlM_cons, addInterface_eq env hNull]
      cases hEntry : interfaceEntry env p with
      | none =>
          rw [if_pos rfl, List.filterMap_cons_none hEntry]
          exact ih
      | some entry =>
          rw [if_neg (by simp), List.filterMap_cons_some hEntry,
            if_neg (by simp)]
          rfl

theorem start_null
    (lo : Option LsckIfAddrInet) :
    ∀ entry, (Building.start lo).inet[
      (Building.start lo).ifCount]? ≠ some (some entry) := by
  intro entry hSome
  cases hSome

------------------------------------------------------------
-- The Law
------------------------------------------------------------

/- The names that a value lists. -/
def interfaceNames (value : Bytes) : List Bytes :=
  (value.splitOnP (· == comma)).filter (· ≠ [])

/-
  The list holds the names of the value; the table holds the
  loopback entry and one for each interface with addresses,
  as far as there is room.
-/
structure InterfacesLaw
    (env : SysiniEnv)
    (value : Bytes) : Prop where
  list : getinterfaces env = some (some (interfaceNames value))
  table : ∃ t, getaddrtable env = some (some t) ∧
    t.inet.head? = some loopback ∧
    t.inet.length ≤ lsckIfAddrTableMax ∧
    t.inet.tail.map (fun e => (e.addr, e.netmask)) =
      ((interfaceNames value).filterMap
        (interfaceEntry env)).take (lsckIfAddrTableMax - 1)

/- Only a value of commas lists no name. -/
theorem interfaceNames_eq_nil_iff (value : Bytes) :
    interfaceNames value = [] ↔ ∀ b ∈ value, b = comma :=
  (@Strtok.tokens_eq_nil_iff (· == comma) value).trans
    (by simp)

/- Without an interface the table is the loopback entry. -/
theorem getaddrtable_empty
    {env : SysiniEnv}
    (hList : getinterfaces env = some (some [])) :
    getaddrtable env =
      if env.table then
        some (some ⟨afInet,
          if env.loopback then [loopback] else []⟩)
      else
        some none := by
  unfold getaddrtable
  simp only [hList, Option.bind_eq_bind, Option.bind_some,
    Option.pure_def]
  cases env.table with
  | false => rfl
  | true =>
      cases env.loopback with
      | false => rfl
      | true => rfl

/-
  The law holds exactly for a value of commas, and none but
  commas, if there is memory. Whatever the list may hold, the
  loop ends well only if no interface in it is due an entry.
-/
theorem interfaces_law_iff
    (env : SysiniEnv)
    {value : Bytes}
    (hValue : valueIn env.file (bytes "MSTCP")
      (bytes "Interfaces") = some value) :
    (InterfacesLaw env value ↔
      value ≠ [] ∧ (∀ b ∈ value, b = comma) ∧
        env.list = true ∧ env.table = true ∧
          env.loopback = true) ∧
    (∀ lo q,
      (∃ t, enumerate env q (.start lo) = some t) ↔
        q.filterMap (interfaceEntry env) = []) := by
  have hKey : interfaceValue env.file = value := by
    unfold interfaceValue
    rw [hValue]
    rfl
  have hGet := getinterfaces_eq env
  rw [hKey] at hGet
  constructor
  · constructor
    · intro hLaw
      have hList := hLaw.list
      rw [hGet] at hList
      split at hList
      · rename_i hBoth
        obtain ⟨⟨b, hMem, hPlain⟩, hMemory⟩ := hBoth
        have hNames : interfaceNames value = [] := by
          have hSame := Option.some.inj (Option.some.inj hList)
          exact hSame.symm
        rw [if_pos ⟨⟨b, hMem, hPlain⟩, hMemory⟩] at hGet
        obtain ⟨t, hTable, hHead, -, -⟩ := hLaw.table
        rw [getaddrtable_empty hGet] at hTable
        refine ⟨List.ne_nil_of_mem hMem,
          (interfaceNames_eq_nil_iff value).mp hNames,
          hMemory, ?_, ?_⟩
        · by_contra hNo
          rw [if_neg hNo] at hTable
          cases hTable
        · by_contra hNo
          rw [if_neg hNo] at hTable
          split at hTable
          · cases hTable
            cases hHead
          · cases hTable
      · cases hList
    · intro hCommas
      obtain ⟨hSome, hAll, hMemory, hTable, hLoopback⟩ :=
        hCommas
      obtain ⟨b, rest, hShape⟩ :=
        List.exists_cons_of_ne_nil hSome
      have hMem : b ∈ value := by
        rw [hShape]
        exact List.mem_cons_self
      have hPlain : b ≠ equals := by
        rw [hAll b hMem]
        decide
      rw [if_pos ⟨⟨b, hMem, hPlain⟩, hMemory⟩] at hGet
      have hNames := (interfaceNames_eq_nil_iff value).mpr hAll
      have hBuilt := getaddrtable_empty hGet
      rw [if_pos hTable, if_pos hLoopback] at hBuilt
      constructor
      · rw [hNames]
        exact hGet
      · refine ⟨_, hBuilt, rfl, ?_, ?_⟩
        · exact (by decide : 1 ≤ lsckIfAddrTableMax)
        · rw [hNames]
          rfl
  · intro lo q
    rw [enumerate_eq env (start_null lo)]
    by_cases hNone : q.filterMap (interfaceEntry env) = []
    · simp [hNone]
    · simp [hNone]

/- All memory is granted. -/
def SysiniEnv.granting (file : Bytes) : SysiniEnv where
  file := some file
  line := fun _ _ _ => 0
  buf := fun _ _ _ => 0
  list := true
  copy := fun _ => true
  dnsList := true
  hostCopy := true
  domainCopy := true
  loopback := true
  table := true

theorem commas_listed :
    InterfacesLaw
      (.granting (bytes "[MSTCP]\nInterfaces=,,\n"))
      (bytes ",,") :=
  (@interfaces_law_iff
    (.granting (bytes "[MSTCP]\nInterfaces=,,\n"))
    (bytes ",,") (by decide)).1.mpr
      ⟨by decide, by decide +kernel, rfl, rfl, rfl⟩

/- A file with one interface. -/
def oneInterface : Bytes :=
  bytes "[MSTCP]\nInterfaces=ne2\n" ++
    bytes "[ne2]\nIPAddress=10.0.0.1\nIPMask=255.0.0.0\n"

/-
  An interface with its addresses is not listed; and if it
  were, its entry would be stored through `NULL`.
-/
theorem interface_missed :
    valueIn (some oneInterface) (bytes "MSTCP")
        (bytes "Interfaces") = some (bytes "ne2") ∧
      getinterfaces (.granting oneInterface) =
        some (some []) ∧
      ¬ InterfacesLaw (.granting oneInterface)
        (bytes "ne2") ∧
      enumerate (.granting oneInterface) [bytes "ne2"]
        (.start (some loopback)) = none := by
  have hValue : valueIn (some oneInterface) (bytes "MSTCP")
      (bytes "Interfaces") = some (bytes "ne2") := by
    decide +kernel
  have hList : getinterfaces (.granting oneInterface) =
      some (some []) := by
    rw [getinterfaces_eq, if_pos]
    refine ⟨⟨110, ?_, by decide⟩, rfl⟩
    change 110 ∈ (valueIn (some oneInterface) _ _).getD []
    rw [hValue]
    decide
  refine ⟨hValue, hList, ?_, ?_⟩
  · intro hLaw
    have hNames := hLaw.list
    rw [hList] at hNames
    revert hNames
    decide
  · rw [enumerate_eq _ (start_null _)]
    decide +kernel

end Libsocket.Win3x

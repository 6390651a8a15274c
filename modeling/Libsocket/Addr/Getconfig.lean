import Libsocket.Addr
import Libsocket.Ini.Texts

/-
  The address of an interface as the configuration file gives
  it.

  Main declarations:
    * `getconfig`
    * `told`, `usable`
    * `ConfigLaw`, `ReadAsWritten`
    * `config_law_iff`
-/

namespace Libsocket

------------------------------------------------------------
-- The Function
------------------------------------------------------------

/- `BAD_IP` -/
def badIp : Bytes := bytes "0.0.0.0"

/- The size of `addrbuf`. -/
def addrbufSize : Nat := 16

/-
  What the buffers hold at first, and whether there is memory
  for the record. The line buffer is one for each look-up.
-/
structure ConfigEnv where
  iniBuf : Bytes → Fin iniBufSize → UInt8
  addrbuf : Fin addrbufSize → UInt8
  hostname : Fin maxGetHostName → UInt8
  memory : Bool

/-
  Look an address up. The result is what `addrbuf` holds
  afterwards, and the address unless the value is `BAD_IP` or
  `inet_aton` rejects it.
-/
def configAddress
    (env : ConfigEnv)
    (file : Option Bytes)
    (appname keyname addrbuf : Bytes) :
    Option (Bytes × Option InAddr) := do
  let (addrbuf, _) ← getPrivateProfileString
    (env.iniBuf keyname) (some appname) (some keyname)
    (some badIp) addrbuf addrbufSize file
  let text ← CString.read? addrbuf
  if text = badIp then
    return (addrbuf, none)
  else
    return (addrbuf, inetAton text)

/- `sprintf (dnskey, "DNS%iAddress", i + 1)` -/
def dnsKey (i : Nat) : Bytes :=
  bytes "DNS" ++ decimal (i + 1) ++ bytes "Address"

/- A cleared record with its addresses. -/
def LsckIfAddrInet.addressed
    (addr netmask : InAddr)
    (gw : Option InAddr) : LsckIfAddrInet where
  addr := addr
  netmask := netmask
  gwPresent := gw.isSome
  gw := gw.getD .any
  dns := LsckIfAddrInet.cleared.dns
  hwType := LsckIfAddrInet.cleared.hwType
  hwAddrlen := LsckIfAddrInet.cleared.hwAddrlen
  hostname := LsckIfAddrInet.cleared.hostname
  domainname := LsckIfAddrInet.cleared.domainname
  room := LsckIfAddrInet.cleared.room

def LsckIfAddrInet.setEthernet
    (inet : LsckIfAddrInet) : LsckIfAddrInet :=
  { inet with
    hwType := lsckIfHwTypeEthernet
    hwAddrlen := lsckIfHwAddrlenEthernet }

def LsckIfAddrInet.setNames
    (inet : LsckIfAddrInet)
    (hostname domainname : NameArray) : LsckIfAddrInet :=
  { inet with
    hostname := hostname
    domainname := domainname }

def LsckIfAddrInet.setDns
    (inet : LsckIfAddrInet)
    (i : Nat)
    (a : InAddr) : LsckIfAddrInet :=
  { inet with
    dns := inet.dns.set i a
    room := by rw [List.length_set, inet.room] }

/- The loop over the name servers, with `n` of them to go. -/
def configDns
    (env : ConfigEnv)
    (file : Option Bytes)
    (appname : Bytes) :
    Nat → Nat → Bytes → LsckIfAddrInet →
      Option LsckIfAddrInet
| 0, _, _, inet => some inet
| n + 1, i, addrbuf, inet => do
    let (addrbuf, a) ← configAddress env file appname
      (dnsKey i) addrbuf
    match a with
    | none => return inet
    | some a =>
        configDns env file appname n (i + 1) addrbuf
          (inet.setDns i a)

/- `strcpy` to an array of the record. -/
def strcpyArray (text : Bytes) : Option NameArray :=
  if hRoom : text.length < maxGetHostName then
    some ⟨text, hRoom⟩
  else
    none

/-
  The host and the domain name. Without a dot the pointer to
  the domain name is `NULL`.
-/
def configNames
    (host : Bytes)
    (inet : LsckIfAddrInet) : Option LsckIfAddrInet :=
  if host ≠ [] then
    if dot ∈ host then do
      let hostname ← strcpyArray (Cut.before dot host)
      let domainname ← strcpyArray (Cut.after dot host)
      return inet.setNames hostname domainname
    else
      none
  else
    some inet

/-
  `__lsck_if_addr_inet_getconfig`: the record, or `none` for
  `NULL`, and the number of blocks that are left allocated.
-/
def getconfig
    (env : ConfigEnv)
    (cfg : Option Bytes)
    (fopen : Bytes → Option Bytes)
    (appname : Bytes) :
    Option (Option LsckIfAddrInet × Nat) :=
  if ¬ env.memory then
    some (none, 0)
  else
    match cfg with
    | none => some (none, 1)
    | some cfg => do
        let (addrbuf, addr) ← configAddress env (fopen cfg)
          appname (bytes "IPAddress") (List.ofFn env.addrbuf)
        match addr with
        | none => return (none, 0)
        | some addr => do
            let (addrbuf, netmask) ← configAddress env
              (fopen cfg) appname (bytes "IPMask") addrbuf
            match netmask with
            | none => return (none, 0)
            | some netmask => do
                let (addrbuf, gw) ← configAddress env
                  (fopen cfg) appname (bytes "Gateway") addrbuf
                let inet ← configDns env (fopen cfg) appname
                  lsckIfAddrInetDnsMax 0 addrbuf
                  (.addressed addr netmask gw)
                let (hostname, _) ← getPrivateProfileString
                  (env.iniBuf (bytes "hostname"))
                  (some (bytes "main"))
                  (some (bytes "hostname")) none
                  (List.ofFn env.hostname) maxGetHostName
                  (fopen cfg)
                let host ← CString.read? hostname
                let inet ← configNames host inet.setEthernet
                return (some inet, 1)

------------------------------------------------------------
-- What The Values Mean
------------------------------------------------------------

/- The address that the code reads from a value. -/
def told (value : Option Bytes) : Option InAddr :=
  let text := (value.getD badIp).take (addrbufSize - 1)
  if text = badIp then none else inetAton text

/- The address that a value stands for, if it is not zero. -/
def usable (value : Option Bytes) : Option InAddr :=
  (value.bind inetAton).filter fun a => decide (a ≠ .any)

theorem isText_badIp : CString.IsText badIp := by decide

/- A look-up of an address goes by the value. -/
theorem configAddress_eq
    (env : ConfigEnv)
    (file : Option Bytes)
    (appname keyname : Bytes)
    {addrbuf : Bytes}
    (hRoom : addrbuf.length = addrbufSize) :
    ∃ addrbuf', addrbuf'.length = addrbufSize ∧
      configAddress env file appname keyname addrbuf =
        some (addrbuf', told (valueIn file appname keyname)) := by
  have hDefault : ∀ text, some badIp = some text →
      CString.IsText text := by
    rintro text ⟨rfl⟩
    exact isText_badIp
  rcases getPrivateProfileString_receives
    (env.iniBuf keyname) appname keyname file
    (Nat.le_of_eq hRoom.symm) (by decide) hDefault with
    ⟨addrbuf', n, hRun, hReceives, -⟩
  refine ⟨addrbuf', hReceives.length.trans hRoom, ?_⟩
  unfold configAddress told
  simp only [hRun, hReceives.reads, Option.bind_eq_bind,
    Option.bind_some, Option.getD_some, Option.pure_def]
  split
  · rfl
  · rfl

/- The entries for the values, up to one that is not used. -/
def dnsEntries (read : Option Bytes → Option InAddr) :
    List (Option Bytes) → List InAddr
| [] => []
| value :: values =>
    match read value with
    | none => List.replicate (values.length + 1) .any
    | some a => a :: dnsEntries read values

/- The values of the keys of the name servers. -/
def dnsValues
    (file : Option Bytes)
    (appname : Bytes)
    (i n : Nat) : List (Option Bytes) :=
  (List.range' i n).map fun j =>
    valueIn file appname (dnsKey j)

/- A record with other name servers. -/
def LsckIfAddrInet.withDns
    (inet : LsckIfAddrInet)
    (dns : List InAddr)
    (hLength : dns.length = lsckIfAddrInetDnsMax) :
    LsckIfAddrInet :=
  { inet with
    dns := dns
    room := hLength }

/- The loop fills in what the values tell. -/
theorem configDns_eq
    (env : ConfigEnv)
    (file : Option Bytes)
    (appname : Bytes)
    {n i : Nat}
    {addrbuf : Bytes}
    {inet : LsckIfAddrInet}
    {front : List InAddr}
    (hRoom : addrbuf.length = addrbufSize)
    (hIndex : front.length = i)
    (hDns : inet.dns = front ++ List.replicate n .any) :
    ∃ hLength, configDns env file appname n i addrbuf inet =
      some (inet.withDns (front ++
        dnsEntries told (dnsValues file appname i n))
        hLength) := by
  induction n generalizing i addrbuf inet front with
  | zero =>
      have hSame : front ++ dnsEntries told
          (dnsValues file appname i 0) = inet.dns :=
        hDns.symm
      refine ⟨hSame ▸ inet.room, ?_⟩
      rw [configDns]
      congr 1
      cases inet
      congr 1
  | succ n ih =>
      rcases configAddress_eq env file appname (dnsKey i)
        hRoom with ⟨addrbuf', hRoom', hRun⟩
      have hValues : dnsValues file appname i (n + 1) =
          valueIn file appname (dnsKey i) ::
            dnsValues file appname (i + 1) n := by
        unfold dnsValues
        rw [List.range'_succ, List.map_cons]
      have hLeft : (dnsValues file appname (i + 1) n).length =
          n := by
        unfold dnsValues
        rw [List.length_map, List.length_range']
      rw [configDns, hRun, hValues, dnsEntries]
      cases hTold : told (valueIn file appname (dnsKey i)) with
      | none =>
          have hSame : inet.dns = front ++ List.replicate
              ((dnsValues file appname (i + 1) n).length + 1)
              .any := by
            rw [hLeft]
            exact hDns
          refine ⟨hSame ▸ inet.room, ?_⟩
          cases inet
          simp only [Option.bind_eq_bind, Option.bind_some,
            Option.pure_def]
          congr 2
      | some a =>
          have hNext : (inet.setDns i a).dns =
              (front ++ [a]) ++ List.replicate n .any := by
            simp only [LsckIfAddrInet.setDns]
            rw [hDns, ← hIndex,
              List.set_append_right (h := Nat.le_refl _),
              Nat.sub_self, List.replicate_succ,
              List.set_cons_zero]
            simp
          have hCount : (front ++ [a]).length = i + 1 := by
            rw [List.length_append, hIndex]
            rfl
          rcases ih hRoom' hCount hNext with ⟨hLength, hRest⟩
          simp only [List.append_assoc, List.singleton_append]
            at hLength hRest
          exact ⟨hLength, hRest⟩

------------------------------------------------------------
-- What The Function Returns
------------------------------------------------------------

/- The values that the function looks up. -/
section Values

variable (file : Option Bytes) (appname : Bytes)

def ipAddress : Option Bytes :=
  valueIn file appname (bytes "IPAddress")

def ipMask : Option Bytes :=
  valueIn file appname (bytes "IPMask")

def gateway : Option Bytes :=
  valueIn file appname (bytes "Gateway")

def dnsAddresses : List (Option Bytes) :=
  dnsValues file appname 0 lsckIfAddrInetDnsMax

def configuredHost : Bytes :=
  (valueIn file (bytes "main") (bytes "hostname")).getD []

end Values

/- A record with what the values tell, without the names. -/
structure Told
    (file : Option Bytes)
    (appname : Bytes)
    (inet : LsckIfAddrInet) : Prop where
  addr : told (ipAddress file appname) = some inet.addr
  netmask : told (ipMask file appname) = some inet.netmask
  gwPresent : inet.gwPresent =
    (told (gateway file appname)).isSome
  gw : inet.gw = (told (gateway file appname)).getD .any
  dns : inet.dns = dnsEntries told (dnsAddresses file appname)

/- Either address is missing, so that the record is freed. -/
theorem getconfig_refuses
    {env : ConfigEnv}
    {fopen : Bytes → Option Bytes}
    {cfg appname : Bytes}
    (hMemory : env.memory = true)
    (hNone : told (ipAddress (fopen cfg) appname) = none ∨
      told (ipMask (fopen cfg) appname) = none) :
    getconfig env (some cfg) fopen appname =
      some (none, 0) := by
  rcases @configAddress_eq env (fopen cfg) appname
    (bytes "IPAddress") (List.ofFn env.addrbuf)
    List.length_ofFn with ⟨addrbuf₁, hRoom₁, hFirst⟩
  rcases configAddress_eq env (fopen cfg) appname
    (bytes "IPMask") hRoom₁ with ⟨addrbuf₂, hRoom₂, hSecond⟩
  unfold getconfig
  rw [if_neg (not_not.mpr hMemory)]
  dsimp only
  rw [hFirst]
  unfold ipAddress ipMask at hNone
  cases hAddr : told (valueIn (fopen cfg) appname
      (bytes "IPAddress")) with
  | none => rfl
  | some addr =>
      rcases hNone with hIp | hMask
      · rw [hIp] at hAddr
        cases hAddr
      · simp only [Option.bind_eq_bind, Option.bind_some,
          hSecond, hMask, Option.pure_def]

/- With both of them only the names are left to be stored. -/
theorem getconfig_goes
    {env : ConfigEnv}
    {fopen : Bytes → Option Bytes}
    {cfg appname : Bytes}
    (hMemory : env.memory = true)
    (hAddr : told (ipAddress (fopen cfg) appname) ≠ none)
    (hMask : told (ipMask (fopen cfg) appname) ≠ none) :
    ∃ inet, Told (fopen cfg) appname inet ∧
      inet.hostname = .empty ∧ inet.domainname = .empty ∧
      getconfig env (some cfg) fopen appname =
        (configNames ((configuredHost (fopen cfg)).take
          (maxGetHostName - 1)) inet).map
            fun inet => (some inet, 1) := by
  rcases Option.ne_none_iff_exists'.mp hAddr with
    ⟨addr, hAddr⟩
  rcases Option.ne_none_iff_exists'.mp hMask with
    ⟨netmask, hMask⟩
  rcases @configAddress_eq env (fopen cfg) appname
    (bytes "IPAddress") (List.ofFn env.addrbuf)
    List.length_ofFn with ⟨addrbuf₁, hRoom₁, hFirst⟩
  rcases configAddress_eq env (fopen cfg) appname
    (bytes "IPMask") hRoom₁ with ⟨addrbuf₂, hRoom₂, hSecond⟩
  rcases configAddress_eq env (fopen cfg) appname
    (bytes "Gateway") hRoom₂ with ⟨addrbuf₃, hRoom₃, hThird⟩
  change _ = some (_, told (gateway (fopen cfg) appname))
    at hThird
  rcases @configDns_eq env (fopen cfg) appname
    lsckIfAddrInetDnsMax 0 addrbuf₃
    (.addressed addr netmask
      (told (gateway (fopen cfg) appname)))
    [] hRoom₃ rfl rfl with ⟨hLength, hFourth⟩
  rcases @getPrivateProfileString_receives
    (env.iniBuf (bytes "hostname")) (bytes "main")
    (bytes "hostname") none (List.ofFn env.hostname)
    maxGetHostName (fopen cfg)
    (Nat.le_of_eq List.length_ofFn.symm) (by decide)
    (fun text hText => by cases hText) with
    ⟨hostname, n, hFifth, hReceives, -⟩
  unfold ipAddress at hAddr
  unfold ipMask at hMask
  rw [hAddr] at hFirst
  rw [hMask] at hSecond
  refine ⟨((LsckIfAddrInet.addressed addr netmask
    (told (gateway (fopen cfg) appname))).withDns _
      hLength).setEthernet, ⟨hAddr, hMask, rfl, rfl, rfl⟩,
    rfl, rfl, ?_⟩
  unfold getconfig
  rw [if_neg (not_not.mpr hMemory)]
  simp only [hFirst, hSecond, hThird, hFourth, hFifth,
    hReceives.reads, Option.bind_eq_bind, Option.bind_some,
    Option.getD_none, Option.pure_def]
  unfold configuredHost
  cases configNames _ _ with
  | none => rfl
  | some inet => rfl

------------------------------------------------------------
-- The Names
------------------------------------------------------------

/- The host name is empty, or has a dot and fits its array. -/
def HostReads (host : Bytes) : Prop :=
  host = [] ∨ dot ∈ host ∧ host.length < maxGetHostName

/- The names of a record are the parts of a host name. -/
structure Split
    (host : Bytes)
    (inet : LsckIfAddrInet) : Prop where
  hostname : inet.hostname.text = Cut.before dot host
  domainname : inet.domainname.text = Cut.after dot host

/- The names are stored unless a `NULL` would be copied. -/
theorem configNames_eq_some
    {host : Bytes}
    {inet inet' : LsckIfAddrInet}
    (hHost : inet.hostname = .empty)
    (hDomain : inet.domainname = .empty)
    (hRun : configNames host inet = some inet') :
    (host = [] ∨ dot ∈ host) ∧ Split host inet' ∧
      inet' = inet.setNames inet'.hostname
        inet'.domainname := by
  unfold configNames at hRun
  split at hRun
  next hSome =>
    split at hRun
    next hDot =>
      unfold strcpyArray at hRun
      split at hRun
      · split at hRun
        · cases hRun
          exact ⟨.inr hDot, ⟨rfl, rfl⟩, rfl⟩
        · cases hRun
      · cases hRun
    next => cases hRun
  next hNone =>
    rw [not_not] at hNone
    subst hNone
    cases hRun
    refine ⟨.inl rfl, ⟨?_, ?_⟩, rfl⟩
    · rw [hHost]
      rfl
    · rw [hDomain]
      rfl

theorem configNames_isSome
    {host : Bytes}
    (inet : LsckIfAddrInet)
    (hReads : HostReads host) :
    ∃ inet', configNames host inet = some inet' := by
  unfold configNames
  rcases hReads with rfl | ⟨hDot, hFits⟩
  · exact ⟨inet, rfl⟩
  · have hSome : host ≠ [] := by
      rintro rfl
      cases hDot
    have hBefore := (Cut.length_before_le dot host).trans_lt
      hFits
    have hAfter := (Cut.length_after_le dot host).trans_lt
      hFits
    rw [if_pos hSome, if_pos hDot, strcpyArray, strcpyArray,
      dif_pos hBefore, dif_pos hAfter]
    exact ⟨_, rfl⟩

/- A host name that is cut loses a part of its domain. -/
theorem hostReads_of_split
    {host : Bytes}
    {inet : LsckIfAddrInet}
    (hDot : host.take (maxGetHostName - 1) = [] ∨
      dot ∈ host.take (maxGetHostName - 1))
    (hTaken : Split (host.take (maxGetHostName - 1)) inet)
    (hWhole : Split host inet) :
    HostReads host := by
  rcases hDot with hNil | hDot
  · left
    cases host with
    | nil => rfl
    | cons b host => cases hNil
  · right
    have hParts := List.take_append_drop
      (maxGetHostName - 1) host
    refine ⟨List.mem_of_mem_take hDot, ?_⟩
    have hSame := hTaken.domainname.symm.trans
      hWhole.domainname
    conv_rhs at hSame =>
      rw [← hParts, Cut.after_append_of_mem hDot]
    have hLength := congrArg List.length hSame
    rw [List.length_append, List.length_drop] at hLength
    unfold maxGetHostName at hLength ⊢
    omega

theorem take_of_hostReads
    {host : Bytes}
    (hReads : HostReads host) :
    host.take (maxGetHostName - 1) = host := by
  rcases hReads with rfl | ⟨-, hFits⟩
  · rfl
  · apply List.take_of_length_le
    omega

------------------------------------------------------------
-- The Name Servers
------------------------------------------------------------

/- From here on no value tells anything but zero. -/
def DnsSilent : List (Option Bytes) → Prop
| [] => True
| value :: values =>
    told value = none ∨
      told value = some .any ∧ DnsSilent values

/-
  Up to the first value that is no use, each tells the address
  that it stands for.
-/
def DnsReads : List (Option Bytes) → Prop
| [] => True
| value :: values =>
    if usable value = none then
      DnsSilent (value :: values)
    else
      told value = usable value ∧ DnsReads values

theorem usable_ne_any
    {value : Option Bytes}
    {a : InAddr}
    (hUsable : usable value = some a) :
    a ≠ .any := by
  unfold usable at hUsable
  have hIs := (Option.filter_eq_some_iff.mp hUsable).2
  simpa using hIs

theorem dnsSilent_iff (values : List (Option Bytes)) :
    dnsEntries told values =
        List.replicate values.length .any ↔
      DnsSilent values := by
  induction values with
  | nil => exact ⟨fun _ => trivial, fun _ => rfl⟩
  | cons value values ih =>
      unfold DnsSilent
      rw [dnsEntries, List.length_cons]
      cases hTold : told value with
      | none => exact ⟨fun _ => .inl rfl, fun _ => rfl⟩
      | some a =>
          rw [List.replicate_succ, List.cons.injEq, ih]
          constructor
          · rintro ⟨rfl, hRest⟩
            exact .inr ⟨rfl, hRest⟩
          · rintro (hNone | ⟨hZero, hRest⟩)
            · cases hNone
            · cases hZero
              exact ⟨rfl, hRest⟩

theorem dnsReads_iff (values : List (Option Bytes)) :
    dnsEntries told values = dnsEntries usable values ↔
      DnsReads values := by
  induction values with
  | nil => exact ⟨fun _ => trivial, fun _ => rfl⟩
  | cons value values ih =>
      unfold DnsReads
      cases hUsable : usable value with
      | none =>
          rw [if_pos rfl, ← dnsSilent_iff]
          conv_lhs => rw [dnsEntries.eq_2 usable]
          rw [hUsable]
          rfl
      | some a =>
          rw [if_neg (Option.some_ne_none _)]
          conv_lhs => rw [dnsEntries, dnsEntries]
          rw [hUsable]
          cases hTold : told value with
          | none =>
              constructor
              · intro hSame
                rw [List.replicate_succ] at hSame
                exact absurd (List.cons.inj hSame).1.symm
                  (usable_ne_any hUsable)
              · rintro ⟨hNone, -⟩
                cases hNone
          | some b =>
              rw [List.cons.injEq, ih, Option.some.injEq]

------------------------------------------------------------
-- The Law
------------------------------------------------------------

/- One of the two addresses is no use. -/
def Unconfigured
    (file : Option Bytes)
    (appname : Bytes) : Prop :=
  usable (ipAddress file appname) = none ∨
    usable (ipMask file appname) = none

/- The record that the file stands for. -/
structure Configured
    (file : Option Bytes)
    (appname : Bytes)
    (inet : LsckIfAddrInet) : Prop where
  addr : usable (ipAddress file appname) = some inet.addr
  netmask : usable (ipMask file appname) = some inet.netmask
  gwPresent : inet.gwPresent =
    (usable (gateway file appname)).isSome
  gw : inet.gw = (usable (gateway file appname)).getD .any
  dns : inet.dns =
    dnsEntries usable (dnsAddresses file appname)
  names : Split (configuredHost file) inet

/-
  The function returns, and the result is `NULL` with nothing
  left allocated, or the record that the file stands for.
-/
def ConfigLaw
    (cfg : Option Bytes)
    (fopen : Bytes → Option Bytes)
    (appname : Bytes) : Prop :=
  ∀ env : ConfigEnv, env.memory = true →
    ∃ result, getconfig env cfg fopen appname = some result ∧
      (Unconfigured (cfg.bind fopen) appname →
        result = (none, 0)) ∧
      (¬ Unconfigured (cfg.bind fopen) appname →
        ∃ inet, result = (some inet, 1) ∧
          Configured (cfg.bind fopen) appname inet)

/-
  The values tell the addresses that they stand for. If the
  code does not get both the address and the mask from them,
  one of the two is no use.
-/
def ReadAsWritten
    (file : Option Bytes)
    (appname : Bytes) : Prop :=
  if told (ipAddress file appname) = none ∨
      told (ipMask file appname) = none then
    Unconfigured file appname
  else
    told (ipAddress file appname) =
        usable (ipAddress file appname) ∧
      told (ipMask file appname) =
        usable (ipMask file appname) ∧
      told (gateway file appname) =
        usable (gateway file appname) ∧
      DnsReads (dnsAddresses file appname) ∧
      HostReads (configuredHost file)

/- An optional address is known from what a record holds. -/
theorem address_eq
    {a b : Option InAddr}
    (hSome : a.isSome = b.isSome)
    (hValue : a.getD .any = b.getD .any) :
    a = b := by
  cases a with
  | none =>
      cases b with
      | none => rfl
      | some b => cases hSome
  | some a =>
      cases b with
      | none => cases hSome
      | some b => exact congrArg some hValue

/- A record that is right shows that all values were read so. -/
theorem reads_of_configured
    {file : Option Bytes}
    {appname : Bytes}
    {inet inet' : LsckIfAddrInet}
    (hTold : Told file appname inet)
    (hHost : inet.hostname = .empty)
    (hDomain : inet.domainname = .empty)
    (hRun : configNames
      ((configuredHost file).take (maxGetHostName - 1)) inet =
        some inet')
    (hRight : Configured file appname inet') :
    told (ipAddress file appname) =
        usable (ipAddress file appname) ∧
      told (ipMask file appname) =
        usable (ipMask file appname) ∧
      told (gateway file appname) =
        usable (gateway file appname) ∧
      DnsReads (dnsAddresses file appname) ∧
      HostReads (configuredHost file) := by
  rcases configNames_eq_some hHost hDomain hRun with
    ⟨hDot, hSplit, hSame⟩
  have hAddr : inet'.addr = inet.addr := by rw [hSame]; rfl
  have hMask : inet'.netmask = inet.netmask := by
    rw [hSame]; rfl
  have hPresent : inet'.gwPresent = inet.gwPresent := by
    rw [hSame]; rfl
  have hGw : inet'.gw = inet.gw := by rw [hSame]; rfl
  have hDns : inet'.dns = inet.dns := by rw [hSame]; rfl
  refine ⟨?_, ?_, ?_, ?_, ?_⟩
  · rw [hTold.addr, hRight.addr, hAddr]
  · rw [hTold.netmask, hRight.netmask, hMask]
  · apply address_eq
    · rw [← hTold.gwPresent, ← hRight.gwPresent, hPresent]
    · rw [← hTold.gw, ← hRight.gw, hGw]
  · rw [← dnsReads_iff, ← hTold.dns, ← hRight.dns, hDns]
  · exact hostReads_of_split hDot hSplit hRight.names

/- Values that are read so make the record a right one. -/
theorem configured_of_reads
    {file : Option Bytes}
    {appname : Bytes}
    {inet : LsckIfAddrInet}
    (hTold : Told file appname inet)
    (hHost : inet.hostname = .empty)
    (hDomain : inet.domainname = .empty)
    (hAddr : told (ipAddress file appname) =
      usable (ipAddress file appname))
    (hMask : told (ipMask file appname) =
      usable (ipMask file appname))
    (hGw : told (gateway file appname) =
      usable (gateway file appname))
    (hDns : DnsReads (dnsAddresses file appname))
    (hReads : HostReads (configuredHost file)) :
    ∃ inet', configNames
        ((configuredHost file).take (maxGetHostName - 1))
          inet = some inet' ∧
      Configured file appname inet' := by
  rw [take_of_hostReads hReads]
  rcases configNames_isSome inet hReads with ⟨inet', hRun⟩
  rcases configNames_eq_some hHost hDomain hRun with
    ⟨-, hSplit, hSame⟩
  refine ⟨inet', hRun, ?_, ?_, ?_, ?_, ?_, hSplit⟩
  · rw [← hAddr, hTold.addr, hSame]
    rfl
  · rw [← hMask, hTold.netmask, hSame]
    rfl
  · rw [← hGw, ← hTold.gwPresent, hSame]
    rfl
  · rw [← hGw, ← hTold.gw, hSame]
    rfl
  · rw [← (dnsReads_iff _).mpr hDns, ← hTold.dns, hSame]
    rfl

/- Some contents of the buffers. -/
def ConfigEnv.zero : ConfigEnv where
  iniBuf := fun _ _ => 0
  addrbuf := fun _ => 0
  hostname := fun _ => 0
  memory := true

/-
  The function does what the file says exactly when there is
  a file, and its values are read as they are written.
-/
theorem config_law_iff
    (cfg : Option Bytes)
    (fopen : Bytes → Option Bytes)
    (appname : Bytes) :
    ConfigLaw cfg fopen appname ↔
      cfg ≠ none ∧ ReadAsWritten (cfg.bind fopen) appname := by
  cases cfg with
  | none =>
      constructor
      · intro hLaw
        rcases hLaw .zero rfl with ⟨result, hRun, hNone, -⟩
        cases hRun
        have hNull := hNone (.inl rfl)
        cases hNull
      · rintro ⟨hSome, -⟩
        exact absurd rfl hSome
  | some cfg =>
      rw [Option.bind_some]
      unfold ConfigLaw ReadAsWritten
      rw [Option.bind_some]
      by_cases hNone :
          told (ipAddress (fopen cfg) appname) = none ∨
            told (ipMask (fopen cfg) appname) = none
      · rw [if_pos hNone]
        constructor
        · intro hLaw
          refine ⟨Option.some_ne_none _, ?_⟩
          by_contra hGiven
          rcases hLaw .zero rfl with ⟨result, hRun, -, hRecord⟩
          rcases hRecord hGiven with ⟨inet, rfl, -⟩
          rw [getconfig_refuses rfl hNone] at hRun
          cases hRun
        · rintro ⟨-, hGiven⟩ env hMemory
          refine ⟨_, getconfig_refuses hMemory hNone,
            fun _ => rfl, fun hNot => absurd hGiven hNot⟩
      · rw [if_neg hNone]
        rw [not_or] at hNone
        constructor
        · intro hLaw
          refine ⟨Option.some_ne_none _, ?_⟩
          rcases @getconfig_goes .zero fopen cfg appname rfl
            hNone.1 hNone.2 with
            ⟨inet, hTold, hHost, hDomain, hGoes⟩
          rcases hLaw .zero rfl with
            ⟨result, hRun, hNull, hRecord⟩
          rw [hGoes] at hRun
          rcases Option.map_eq_some_iff.mp hRun with
            ⟨inet', hNames, rfl⟩
          have hGiven : ¬ Unconfigured (fopen cfg) appname := by
            intro hNot
            cases hNull hNot
          rcases hRecord hGiven with ⟨inet'', hSame, hRight⟩
          cases hSame
          exact reads_of_configured hTold hHost hDomain hNames
            hRight
        · rintro ⟨-, hAddr, hMask, hGw, hDns, hReads⟩ env
            hMemory
          rcases getconfig_goes hMemory hNone.1 hNone.2 with
            ⟨inet, hTold, hHost, hDomain, hGoes⟩
          rcases configured_of_reads hTold hHost hDomain hAddr
            hMask hGw hDns hReads with ⟨inet', hNames, hRight⟩
          refine ⟨(some inet', 1), ?_, ?_, ?_⟩
          · rw [hGoes, hNames]
            rfl
          · rintro (hIp | hNot)
            · exact absurd (hAddr.trans hIp) hNone.1
            · exact absurd (hMask.trans hNot) hNone.2
          · intro _
            exact ⟨inet', rfl, hRight⟩

/- A host name without a domain. -/
theorem null_domain_copied :
    ¬ ∀ cfg fopen appname, ConfigLaw cfg fopen appname := by
  intro hLaw
  rcases hLaw (some (bytes "lsck.cfg")) (fun _ =>
      some (bytes ("[wsock]\nIPAddress=10.0.0.1\n" ++
        "IPMask=255.0.0.0\n[main]\nhostname=box\n")))
      (bytes "wsock") .zero rfl with ⟨result, hRun, -⟩
  have hStops : getconfig .zero (some (bytes "lsck.cfg"))
      (fun _ =>
        some (bytes ("[wsock]\nIPAddress=10.0.0.1\n" ++
          "IPMask=255.0.0.0\n[main]\nhostname=box\n")))
      (bytes "wsock") = none := by
    decide +kernel
  rw [hStops] at hRun
  cases hRun

end Libsocket

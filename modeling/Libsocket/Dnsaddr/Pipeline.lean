import Libsocket.Addr
import Libsocket.Dnsaddr.Servers
import Libsocket.Library.Filling

/-
  The addresses of all name servers, and how the resolver
  takes them over.

  Main declarations:
    * `getdnsaddrs`
    * `resInit`
    * `Obtained`, `Delivered`
    * `dns_pipeline`
-/

namespace Libsocket

open Filling

------------------------------------------------------------
-- The Two Passes
------------------------------------------------------------

/- The addresses of an entry, up to the first zero. -/
def countDns : List InAddr → Nat → Nat
| [], count => count
| a :: dns, count =>
    if a = .any then count else countDns dns (count + 1)

def countInterface
    (count : Nat)
    (table : Option LsckIfAddrTable) : Nat :=
  (inetEntries table).foldl
    (fun count inet => countDns inet.dns count) count

/- The addresses of the resolver's file, up to the `NULL`. -/
def countResolv : List (Option Bytes) → Nat → Option Nat
| [], _ => none
| none :: _, count => some count
| some _ :: rest, count => countResolv rest (count + 1)

def fillDns :
    List InAddr → Filling Bytes → Option (Filling Bytes)
| [], s => some s
| a :: dns, s =>
    if a = .any then
      some s
    else do
      let s ← store (inetNtoa a) s
      fillDns dns s

def fillInterface
    (s : Filling Bytes)
    (table : Option LsckIfAddrTable) :
    Option (Filling Bytes) :=
  (inetEntries table).foldlM
    (fun s inet => fillDns inet.dns s) s

def fillResolv :
    List (Option Bytes) → Filling Bytes →
      Option (Filling Bytes)
| [], _ => none
| none :: _, s => some s
| some address :: rest, s => do
    let s ← store address s
    fillResolv rest s

/-
  `__lsck_getdnsaddrs`, with the list that the call for the
  resolver's file returned. `memory` is the outcome of the
  allocation. A read or a store outside an array is undefined
  behaviour.
-/
def getdnsaddrs
    (memory : Bool)
    (resolv : Option (List (Option Bytes)))
    (interfaces : List (Option LsckIfAddrTable)) :
    Option (Option (List (Option Bytes))) := do
  let count ← match resolv with
    | none => some 0
    | some resolv => countResolv resolv 0
  let count := interfaces.foldl countInterface count
  if memory then
    let s ← match resolv with
      | none => some (cleared (count + 1))
      | some resolv => fillResolv resolv (cleared (count + 1))
    let s ← interfaces.foldlM fillInterface s
    return some s.entries
  else
    return none

------------------------------------------------------------
-- The Resolver
------------------------------------------------------------

/- `NAMESERVER_PORT` -/
def nameserverPort : Nat := 53

def htons (n : Nat) : Nat :=
  n % 256 * 256 + n / 256 % 256

/- `struct sockaddr_in` -/
structure SockaddrIn where
  sinFamily : Int
  sinPort : Nat
  sinAddr : InAddr
deriving DecidableEq

/- An address at which a name server listens. -/
def SockaddrIn.nameserver (a : InAddr) : SockaddrIn where
  sinFamily := afInet
  sinPort := htons nameserverPort
  sinAddr := a

/- The name servers of `_res`. -/
structure ResState where
  nscount : Nat
  nsaddrList : List SockaddrIn
  room : nsaddrList.length = maxNs
deriving DecidableEq

/- Store an address in the list. -/
def ResState.setNsaddr
    (res : ResState)
    (i : Nat)
    (a : InAddr) : ResState where
  nscount := res.nscount
  nsaddrList := res.nsaddrList.set i (.nameserver a)
  room := by rw [List.length_set, res.room]

def ResState.setNscount
    (res : ResState)
    (n : Nat) : ResState where
  nscount := n
  nsaddrList := res.nsaddrList
  room := res.room

/-
  The loop that takes the addresses over. `a` keeps its value
  if a text is not an address.
-/
def addNameservers :
    List (Option Bytes) → InAddr → Nat → ResState →
      Option (Nat × ResState)
| [], _, _, _ => none
| none :: _, _, nserv, res => some (nserv, res)
| some q :: rest, a, nserv, res =>
    if nserv < maxNs then
      let a := (inetAton q).getD a
      addNameservers rest a (nserv + 1)
        ((res.setNsaddr nserv a).setNscount (nserv + 1))
    else
      some (nserv, res)

/-
  `res_init`, as far as it sets the name servers: `p` is what
  `__lsck_getdnsaddrs` returned, `resconf` says whether the
  resolver's file can be opened, and `a` is what the variable
  holds at first.
-/
def resInit
    (p : Option (List (Option Bytes)))
    (resconf : Bool)
    (a : InAddr)
    (res : ResState) : Option ResState := do
  let res := (res.setNsaddr 0 .any).setNscount 1
  let (nserv, res) ← match p with
    | none => some (0, res)
    | some p => addNameservers p a 0 res
  if resconf ∧ nserv > 1 then
    return res.setNscount nserv
  else
    return res

------------------------------------------------------------
-- What The Passes Visit
------------------------------------------------------------

/- The name servers of an interface. -/
def dnsOf (table : Option LsckIfAddrTable) : List InAddr :=
  (inetEntries table).flatMap fun inet =>
    inet.dns.takeWhile fun a => decide (a ≠ .any)

/- The addresses from the file, then those of the interfaces. -/
def allServers
    (R : List Bytes)
    (interfaces : List (Option LsckIfAddrTable)) :
    List Bytes :=
  R ++ (interfaces.flatMap dnsOf).map inetNtoa

/-
  A list that stands for some addresses: `NULL`, or an array
  of them with a `NULL` behind.
-/
def Obtained
    (resolv : Option (List (Option Bytes)))
    (R : List Bytes) : Prop :=
  (∀ address ∈ R, (inetAton address).isSome = true) ∧
    (resolv = none ∧ R = [] ∨
      ∃ rest, resolv = some (R.map some ++ none :: rest))

theorem countDns_eq (dns : List InAddr) (count : Nat) :
    countDns dns count = count +
      ((dns.takeWhile fun a => decide (a ≠ .any)).map
        inetNtoa).length := by
  induction dns generalizing count with
  | nil => rfl
  | cons a dns ih =>
      rw [countDns]
      by_cases hAny : a = .any
      · rw [if_pos hAny, List.takeWhile_cons_of_neg
          (by simpa using hAny)]
        rfl
      · rw [if_neg hAny, ih, List.takeWhile_cons_of_pos
          (by simpa using hAny), List.map_cons,
          List.length_cons]
        omega

theorem fillDns_eq (dns : List InAddr) (s : Filling Bytes) :
    fillDns dns s = storeAll
      ((dns.takeWhile fun a => decide (a ≠ .any)).map
        inetNtoa) s := by
  induction dns generalizing s with
  | nil => rfl
  | cons a dns ih =>
      rw [fillDns]
      by_cases hAny : a = .any
      · rw [if_pos hAny, List.takeWhile_cons_of_neg
          (by simpa using hAny)]
        rfl
      · rw [if_neg hAny, List.takeWhile_cons_of_pos
          (by simpa using hAny), List.map_cons, storeAll]
        change (store (inetNtoa a) s).bind _ = _
        congr 1
        funext s'
        exact ih s'

/- Both passes visit the servers of an interface. -/
theorem dnsOf_texts (table : Option LsckIfAddrTable) :
    (inetEntries table).flatMap (fun inet =>
      (inet.dns.takeWhile fun a => decide (a ≠ .any)).map
        inetNtoa) = (dnsOf table).map inetNtoa := by
  unfold dnsOf
  rw [List.map_flatMap]

theorem countInterface_eq
    (count : Nat)
    (table : Option LsckIfAddrTable) :
    countInterface count table =
      count + ((dnsOf table).map inetNtoa).length := by
  rw [← dnsOf_texts]
  exact foldl_count (fun n inet => countDns_eq inet.dns n) _ _

theorem fillInterface_eq
    (s : Filling Bytes)
    (table : Option LsckIfAddrTable) :
    fillInterface s table =
      storeAll ((dnsOf table).map inetNtoa) s := by
  rw [← dnsOf_texts]
  exact foldlM_storeAll (fun s inet => fillDns_eq inet.dns s)
    _ _

theorem countResolv_eq
    (R : List Bytes)
    (rest : List (Option Bytes))
    (count : Nat) :
    countResolv (R.map some ++ none :: rest) count =
      some (count + R.length) := by
  induction R generalizing count with
  | nil => rfl
  | cons address R ih =>
      rw [List.map_cons, List.cons_append, countResolv, ih,
        List.length_cons]
      congr 1
      omega

theorem fillResolv_eq
    (R : List Bytes)
    (rest : List (Option Bytes))
    (s : Filling Bytes) :
    fillResolv (R.map some ++ none :: rest) s =
      storeAll R s := by
  induction R generalizing s with
  | nil => rfl
  | cons address R ih =>
      rw [List.map_cons, List.cons_append, fillResolv, storeAll]
      change (store address s).bind _ = _
      congr 1
      funext s'
      exact ih s'

/- The list is complete, and there is no store outside it. -/
theorem getdnsaddrs_eq
    {resolv : Option (List (Option Bytes))}
    {R : List Bytes}
    (interfaces : List (Option LsckIfAddrTable))
    (hResolv : Obtained resolv R) :
    getdnsaddrs true resolv interfaces =
      some (some
        ((allServers R interfaces).map some ++ [none])) := by
  have hCount : ∀ count,
      interfaces.foldl countInterface count =
        count + ((interfaces.flatMap dnsOf).map
          inetNtoa).length := by
    intro count
    rw [foldl_count countInterface_eq, List.map_flatMap]
  have hFill : ∀ s, interfaces.foldlM fillInterface s =
      storeAll ((interfaces.flatMap dnsOf).map inetNtoa) s := by
    intro s
    rw [foldlM_storeAll fillInterface_eq, List.map_flatMap]
  have hWhole := storeAll_counted (allServers R interfaces)
  unfold allServers at hWhole ⊢
  rw [storeAll_append, List.length_append] at hWhole
  rcases hResolv with ⟨-, ⟨rfl, rfl⟩ | ⟨rest, rfl⟩⟩
  · rw [List.length_nil] at hWhole
    unfold getdnsaddrs
    simp only [Option.bind_eq_bind, Option.bind_some, hCount,
      hFill, if_true, Option.pure_def]
    exact congrArg (fun result => result.bind fun s =>
      some (some s.entries)) hWhole
  · unfold getdnsaddrs
    simp only [countResolv_eq, fillResolv_eq,
      Option.bind_eq_bind, Option.bind_some, hCount,
      hFill, if_true, Option.pure_def]
    rw [Nat.zero_add, ← Option.bind_assoc, hWhole]
    rfl

/- The reader of the resolver's file checks each address. -/
theorem inetAton_of_serverOf?
    {line address : Bytes}
    (hNames : serverOf? line = some address) :
    (inetAton address).isSome = true := by
  unfold serverOf? at hNames
  dsimp only at hNames
  split at hNames
  next hIs =>
    cases hNames
    exact hIs.2.2
  next => cases hNames

theorem obtained_resolvConf
    (env : ResolvEnv)
    (cfg : Option Bytes)
    (fopen : Bytes → Option Bytes) :
    ∃ resolv R,
      resolvConfGetdnsaddrs env cfg fopen = some resolv ∧
        Obtained resolv R := by
  have hNone : Obtained none [] :=
    ⟨fun _ hMem => absurd hMem List.not_mem_nil,
      .inl ⟨rfl, rfl⟩⟩
  rw [resolvConfGetdnsaddrs_eq]
  cases resolvFile cfg fopen with
  | none => exact ⟨none, [], rfl, hNone⟩
  | some file =>
      cases env.memory with
      | false => exact ⟨none, [], rfl, hNone⟩
      | true =>
          rw [Option.bind_some, if_pos rfl]
          refine ⟨_, (readServers file).getLast?.toList, rfl,
            ?_, .inr ?_⟩
          · intro address hAddress
            have hLast := List.mem_of_getLast?
              (Option.mem_toList.mp hAddress)
            rcases List.mem_filterMap.mp hLast with
              ⟨line, -, hNames⟩
            exact inetAton_of_serverOf? hNames
          · cases (readServers file).getLast? with
            | none => exact ⟨List.replicate maxNs none, rfl⟩
            | some address =>
                exact ⟨List.replicate (maxNs - 1) none, rfl⟩

------------------------------------------------------------
-- What The Resolver Takes Over
------------------------------------------------------------

/-
  The first name servers of the list are in `_res`, and their
  number; it is 1 if there are none.
-/
def Delivered (names : List Bytes) (res : ResState) : Prop :=
  res.nscount = max 1 (min maxNs names.length) ∧
    (res.nsaddrList.take (min maxNs names.length)).map some =
      (names.take maxNs).map fun name =>
        (inetAton name).map SockaddrIn.nameserver

theorem take_setNsaddr
    {res : ResState}
    {i : Nat}
    (a : InAddr)
    (hRoom : i < maxNs) :
    (res.setNsaddr i a).nsaddrList.take (i + 1) =
      res.nsaddrList.take i ++ [.nameserver a] := by
  have hLength : i < res.nsaddrList.length := by
    rw [res.room]
    exact hRoom
  simp only [ResState.setNsaddr]
  rw [List.take_succ_eq_append_getElem
    (by rw [List.length_set]; exact hLength),
    List.getElem_set_self, List.take_set,
    List.set_eq_of_length_le]
  rw [List.length_take]
  exact Nat.min_le_left _ _

/- The loop takes over what there is room for. -/
theorem addNameservers_eq
    {names : List Bytes}
    {nserv : Nat}
    (rest : List (Option Bytes))
    (a : InAddr)
    (res : ResState)
    (hNames : ∀ name ∈ names, (inetAton name).isSome = true) :
    ∃ res',
      addNameservers (names.map some ++ none :: rest) a nserv
        res = some
          (nserv + (names.take (maxNs - nserv)).length, res') ∧
      res'.nscount =
        (if names.take (maxNs - nserv) = [] then res.nscount
          else nserv +
            (names.take (maxNs - nserv)).length) ∧
      (res'.nsaddrList.take
        (nserv + (names.take (maxNs - nserv)).length)).map
          some =
        (res.nsaddrList.take nserv).map some ++
          (names.take (maxNs - nserv)).map fun name =>
            (inetAton name).map SockaddrIn.nameserver := by
  induction names generalizing a nserv res with
  | nil =>
      refine ⟨res, ?_, ?_, ?_⟩
      · simp [addNameservers]
      · simp
      · simp
  | cons name names ih =>
      rw [List.map_cons, List.cons_append, addNameservers]
      by_cases hRoom : nserv < maxNs
      · rcases Option.isSome_iff_exists.mp
          (hNames name List.mem_cons_self) with
          ⟨b, hName⟩
        have hTake : (name :: names).take (maxNs - nserv) =
            name :: names.take (maxNs - (nserv + 1)) := by
          have hLeft : maxNs - nserv =
              maxNs - (nserv + 1) + 1 := by omega
          rw [hLeft, List.take_succ_cons]
        rcases @ih (nserv + 1) b
          ((res.setNsaddr nserv b).setNscount (nserv + 1))
          (fun other hOther => hNames other
            (List.mem_cons_of_mem _ hOther)) with
          ⟨res', hRun, hCount, hList⟩
        refine ⟨res', ?_, ?_, ?_⟩
        · rw [if_pos hRoom, hTake, hName, List.length_cons]
          dsimp only [Option.getD_some]
          rw [hRun]
          congr 2
          omega
        · rw [hCount, hTake, if_neg (List.cons_ne_nil _ _),
            List.length_cons]
          split
          next hNil =>
            rw [hNil, List.length_nil]
            rfl
          next => omega
        · have hSum : nserv +
              (name :: names.take
                (maxNs - (nserv + 1))).length =
              nserv + 1 + (names.take
                (maxNs - (nserv + 1))).length := by
            rw [List.length_cons]
            omega
          rw [hTake, hSum, hList]
          change ((res.setNsaddr nserv b).nsaddrList.take
            (nserv + 1)).map some ++ _ = _
          rw [take_setNsaddr b hRoom, List.map_append,
            List.append_assoc, List.map_cons, List.map_cons,
            hName]
          rfl
      · have hNone : maxNs - nserv = 0 := by omega
        refine ⟨res, ?_, ?_, ?_⟩
        · rw [if_neg hRoom, hNone]
          rfl
        · rw [hNone]
          rfl
        · rw [hNone]
          simp

theorem resInit_delivers
    {names : List Bytes}
    (resconf : Bool)
    (a : InAddr)
    (res : ResState)
    (hNames : ∀ name ∈ names, (inetAton name).isSome = true) :
    ∃ res', resInit (some (names.map some ++ [none])) resconf
      a res = some res' ∧ Delivered names res' := by
  rcases @addNameservers_eq names 0 [] a
    ((res.setNsaddr 0 .any).setNscount 1) hNames with
    ⟨res', hRun, hCount, hList⟩
  rw [Nat.sub_zero, Nat.zero_add] at *
  have hLength : (names.take maxNs).length =
      min maxNs names.length := List.length_take
  have hDelivered : Delivered names res' := by
    refine ⟨?_, ?_⟩
    · rw [hCount]
      cases names with
      | nil => rfl
      | cons name names =>
          have hSome : (name :: names).take maxNs ≠ [] :=
            List.cons_ne_nil _ _
          rw [if_neg hSome, hLength, List.length_cons]
          simp only [maxNs]
          omega
    · rw [← hLength, hList]
      rfl
  unfold resInit
  simp only [hRun, Option.bind_eq_bind, Option.bind_some]
  split
  next hMore =>
    refine ⟨_, rfl, ?_, hDelivered.2⟩
    rw [hLength] at hMore ⊢
    change min maxNs names.length = _
    omega
  next => exact ⟨res', rfl, hDelivered⟩

/-
  The list is what the file gives, followed by the addresses
  of the interfaces; the resolver takes the first ones over.
-/
theorem dns_pipeline :
    (∀ env cfg fopen, ∃ resolv R,
      resolvConfGetdnsaddrs env cfg fopen = some resolv ∧
        Obtained resolv R) ∧
    ∀ (resolv : Option (List (Option Bytes))) (R : List Bytes)
        (interfaces : List (Option LsckIfAddrTable)),
      Obtained resolv R →
      ∃ array,
        getdnsaddrs true resolv interfaces =
            some (some array) ∧
          array =
            (allServers R interfaces).map some ++ [none] ∧
          ∀ resconf a res, ∃ res',
            resInit (some array) resconf a res = some res' ∧
              Delivered (allServers R interfaces) res' := by
  refine ⟨obtained_resolvConf, ?_⟩
  intro resolv R interfaces hResolv
  refine ⟨_, getdnsaddrs_eq interfaces hResolv, rfl, ?_⟩
  intro resconf a res
  apply resInit_delivers
  intro name hMem
  rcases List.mem_append.mp hMem with hR | hInterface
  · exact hResolv.1 name hR
  · rcases List.mem_map.mp hInterface with ⟨b, -, rfl⟩
    rw [inetAton_inetNtoa]
    rfl

/- Two servers from the file, two from an interface. -/
theorem four_servers_three_taken :
    ∃ array,
      getdnsaddrs true
          (some [some (bytes "10.0.0.1"),
            some (bytes "10.0.0.2"), none, none])
          [none, some ⟨afInet, [{ LsckIfAddrInet.cleared with
            dns := [⟨10, 0, 0, 3⟩, ⟨10, 0, 0, 4⟩, .any, .any]
            room := rfl }]⟩] = some (some array) ∧
        array = [some (bytes "10.0.0.1"),
          some (bytes "10.0.0.2"), some (bytes "10.0.0.3"),
          some (bytes "10.0.0.4"), none] ∧
        ∀ resconf a res, ∃ res',
          resInit (some array) resconf a res = some res' ∧
            res'.nscount = 3 := by
  rcases dns_pipeline.2
      (some [some (bytes "10.0.0.1"),
        some (bytes "10.0.0.2"), none, none])
      [bytes "10.0.0.1", bytes "10.0.0.2"]
      [none, some ⟨afInet, [{ LsckIfAddrInet.cleared with
        dns := [⟨10, 0, 0, 3⟩, ⟨10, 0, 0, 4⟩, .any, .any]
        room := rfl }]⟩]
      ⟨by decide +kernel, .inr ⟨[none], rfl⟩⟩ with
    ⟨array, hRun, hArray, hTaken⟩
  refine ⟨array, hRun, ?_, ?_⟩
  · rw [hArray]
    decide +kernel
  · intro resconf a res
    rcases hTaken resconf a res with ⟨res', hInit, hGives⟩
    refine ⟨res', hInit, ?_⟩
    rw [hGives.1]
    decide +kernel

end Libsocket

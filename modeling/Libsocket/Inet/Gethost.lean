import Libsocket.Inet.Hosts

/-
  Looking for a host by its name or by its address, with the
  services in their order and a check of the names that name
  servers give for an address.

  Main declarations:
    * `HostSources`, `gethostbyname`, `gethostbyaddr`
    * `gethostbyaddr_checked`
-/

namespace Libsocket

------------------------------------------------------------
-- Services
------------------------------------------------------------

/- The services of `service_order`. -/
inductive HostService where
  | bind
  | hosts
  | nis
  deriving DecidableEq

/-
  An answer of a name server in `buf`, and what was in `host`
  and in its arrays before.
-/
structure HostReply where
  packet : Packet
  hostbuf : Nat
  oldAliases : List (Option Bytes)
  oldAddrs : List (Option Bytes)
  oldLength : Nat
  oldAddrtype : Int

/- The call of `getanswer` for a name. -/
def HostReply.call
    (reply : HostReply)
    (qname : Bytes)
    (qtype : QueryType) : AnswerCall where
  packet := reply.packet
  qname := qname
  qclass := cIn
  qtype := qtype
  hostbuf := reply.hostbuf
  oldAliases := reply.oldAliases
  oldAddrs := reply.oldAddrs
  oldLength := reply.oldLength
  oldAddrtype := reply.oldAddrtype

/-
  What `init_services` has read, the hosts file, the name of
  this host, and what `res_search` and `res_query` find for a
  name: an answer, or a number in `h_errno`.
-/
structure HostSources where
  order : List HostService
  trims : List Bytes
  multi : Bool
  spoof : Bool
  hosts : Bytes
  localname : Bytes
  search : Bytes → Nat ⊕ HostReply
  query : Bytes → Nat ⊕ HostReply

/-
  What the functions return. A `NULL` leaves a number in
  `h_errno`, or what was there before.
-/
inductive HostOutcome where
  | null (hErrno : Option Nat)
  | host (h : HostEntry)
  | abort
  | overrun
  deriving DecidableEq

/- `HOST_NOT_FOUND` -/
def hostNotFound : Nat := 1

/- `SERVICE_MAX` -/
def serviceMax : Nat := 3

def HostEntry.ofAnswer (h : AnswerHost) : HostEntry where
  name := h.name.2
  aliases := h.aliases
  addrtype := h.addrtype
  length := h.length
  addrs := h.addrs.map Prod.snd

------------------------------------------------------------
-- Domains
------------------------------------------------------------

/- One of the domains is taken off the end of a name. -/
def trimDomain (c trimdomain : Bytes) : Bytes :=
  if trimdomain.length < c.length ∧
      SameName (c.drop (c.length - trimdomain.length))
        trimdomain then
    c.take (c.length - trimdomain.length)
  else
    c

/- `dotrimdomain` -/
def dotrimdomain (trims : List Bytes) (c : Bytes) : Bytes :=
  trims.foldl trimDomain c

/- `trim_domains` -/
def trimDomains
    (trims : List Bytes)
    (h : HostEntry) : HostEntry :=
  { h with
    name := dotrimdomain trims h.name
    aliases := h.aliases.map (dotrimdomain trims) }

------------------------------------------------------------
-- Names
------------------------------------------------------------

/- Digits and dots, and no dot at the end. -/
def isNumericName (name : Bytes) : Bool :=
  name.head?.any isDigit &&
    name.all (fun c => isDigit c || c == dot) &&
    name.getLast? != some dot

/- The next service, or what the loop ends with. -/
abbrev ServiceTurn : Type := Option Nat ⊕ HostOutcome

/- The loop over the services. -/
def tryServices
    (f : HostService → ServiceTurn) :
    Option Nat → List HostService → HostOutcome
| hErrno, [] => .null hErrno
| hErrno, s :: order =>
    match f s with
    | .inl e => tryServices f (e.or hErrno) order
    | .inr r => r

/- What `getanswer` returns, where a host is done with. -/
def answerTurnOf
    (done : AnswerHost → ServiceTurn)
    (failed : Nat → Nat) : AnswerResult → ServiceTurn
| .null hErrno => .inl (some (failed hErrno))
| .host h => done h
| .abort => .inr .abort
| .overrun => .inr .overrun

variable (env : HostSources)

/- A service is asked for a name. -/
def serviceByName (name : Bytes) :
    HostService → ServiceTurn
| .bind =>
    match env.search name with
    | .inl hErrno => .inl (some hErrno)
    | .inr reply =>
        answerTurnOf
          (fun h => .inr
            (.host (trimDomains env.trims (.ofAnswer h))))
          id (getanswer (reply.call name .a))
| .hosts =>
    match gethtbyname env.multi env.localname env.hosts
        (dotrimdomain env.trims name) with
    | none => .inr .overrun
    | some none => .inl (some hostNotFound)
    | some (some h) =>
        .inr (.host (trimDomains env.trims h))
| .nis => .inl none

/- `gethostbyname` -/
def gethostbyname (name : Bytes) : HostOutcome :=
  if isNumericName name then
    if inetAddr name = ⟨255, 255, 255, 255⟩ then
      .null (some hostNotFound)
    else
      .host {
        name := name
        aliases := []
        addrtype := afInet
        length := 4
        addrs := [(inetAddr name).bytes] }
  else
    tryServices (serviceByName env name) none
      (env.order.take (serviceMax + 1))

------------------------------------------------------------
-- Addresses
------------------------------------------------------------

/- The name that stands for an address. -/
def reverseName (a : InAddr) : Bytes :=
  inetNtoa ⟨a.b₃, a.b₂, a.b₁, a.b₀⟩ ++ bytes ".in-addr.arpa"

/- `bcmp` finds no difference to the address. -/
def IsAddress (a : InAddr) (x : Bytes) : Prop :=
  x.take 4 = a.bytes

instance (a : InAddr) (x : Bytes) : Decidable (IsAddress a x) :=
  inferInstanceAs (Decidable (_ = _))

/-
  The check of a name that a name server gave: it has to be
  the name of a host with the address.
-/
def spoofCheck (a : InAddr) (hName : Bytes) : HostOutcome :=
  if maxDname ≤ hName.length then
    .null none
  else
    match gethostbyname { env with trims := [] }
        (hName ++ [dot]) with
    | .host h =>
        if hName ≠ h.name then
          .null (some hostNotFound)
        else if h.addrs.any fun x => IsAddress a x then
          .host (trimDomains env.trims h)
        else
          .null (some hostNotFound)
    | .null _ => .null (some hostNotFound)
    | r => r

/- The host with the address that was asked for. -/
def answeredHost (a : InAddr) (h : AnswerHost) : HostEntry :=
  { HostEntry.ofAnswer h with
    addrtype := afInet
    length := 4
    addrs := [a.bytes] }

/- A service is asked for an address. -/
def serviceByAddr (a : InAddr) : HostService → ServiceTurn
| .bind =>
    match env.query (reverseName a) with
    | .inl hErrno => .inl (some hErrno)
    | .inr reply =>
        answerTurnOf
          (fun h =>
            if env.spoof then
              .inr (spoofCheck env a h.name.2)
            else
              .inr (.host
                (trimDomains env.trims (answeredHost a h))))
          (fun _ => hostNotFound)
          (getanswer (reply.call (reverseName a) .ptr))
| .hosts =>
    match (allEntries parseHost env.hosts).find?
        fun p => p.addrtype = afInet ∧ p.addr = a with
    | none => .inl (some hostNotFound)
    | some p => .inr (.host (.ofFile p))
| .nis => .inl none

/- `gethostbyaddr`, for `AF_INET` and four bytes. -/
def gethostbyaddr (a : InAddr) : HostOutcome :=
  tryServices (serviceByAddr env a) none env.order

------------------------------------------------------------
-- What Is Found
------------------------------------------------------------

variable {env}

/- A host comes from one of the services. -/
theorem tryServices_host
    {f : HostService → ServiceTurn}
    {hErrno : Option Nat}
    {order : List HostService}
    {h : HostEntry}
    (hHost : tryServices f hErrno order = .host h) :
    ∃ s ∈ order, f s = .inr (.host h) := by
  induction order generalizing hErrno with
  | nil => cases hHost
  | cons s order ih =>
      unfold tryServices at hHost
      cases hTurn : f s with
      | inl e =>
          rw [hTurn] at hHost
          rcases ih hHost with ⟨s', hMem, hFound⟩
          exact ⟨s', List.mem_cons_of_mem s hMem, hFound⟩
      | inr r =>
          rw [hTurn] at hHost
          have hSame : r = .host h := hHost
          exact ⟨s, List.mem_cons_self, hSame ▸ hTurn⟩

/- A name is found again, with the address. -/
structure Confirmed
    (env : HostSources)
    (a : InAddr)
    (h : HostEntry) : Prop where
  forward : gethostbyname { env with trims := [] }
    (h.name ++ [dot]) = .host h
  address : ∃ x ∈ h.addrs, IsAddress a x

theorem spoofCheck_host
    {a : InAddr}
    {hName : Bytes}
    {h : HostEntry}
    (hHost : spoofCheck env a hName = .host h) :
    ∃ h', Confirmed env a h' ∧ h = trimDomains env.trims h' := by
  unfold spoofCheck at hHost
  split at hHost
  · cases hHost
  · split at hHost
    next h' hForward =>
        split at hHost
        · cases hHost
        next hName =>
            rw [not_not] at hName
            split at hHost
            next hAny =>
                rcases List.any_eq_true.mp hAny with
                  ⟨x, hX, hSame⟩
                cases hHost
                refine ⟨h', ⟨?_, x, hX, ?_⟩, rfl⟩
                · rw [← hName]
                  exact hForward
                · exact of_decide_eq_true hSame
            · cases hHost
    · cases hHost
    next hNot hOther =>
        exact absurd hHost (hNot h)

/- The three ways to a host for an address. -/
theorem serviceByAddr_host
    {a : InAddr}
    {s : HostService}
    {h : HostEntry}
    (hHost : serviceByAddr env a s = .inr (.host h)) :
    (∃ p ∈ allEntries parseHost env.hosts, p.addr = a ∧
        h = .ofFile p) ∨
      (env.spoof = true ∧ ∃ h', Confirmed env a h' ∧
        h = trimDomains env.trims h') ∨
      (env.spoof = false ∧ ∃ h', h =
        trimDomains env.trims (answeredHost a h')) := by
  cases s with
  | bind =>
      right
      unfold serviceByAddr at hHost
      dsimp only at hHost
      split at hHost
      · cases hHost
      next reply hQuery =>
          cases hAnswer :
              getanswer (reply.call (reverseName a) .ptr) with
          | null e =>
              rw [hAnswer] at hHost
              cases hHost
          | abort =>
              rw [hAnswer] at hHost
              cases hHost
          | overrun =>
              rw [hAnswer] at hHost
              cases hHost
          | host h' =>
              rw [hAnswer] at hHost
              unfold answerTurnOf at hHost
              dsimp only at hHost
              cases hSpoof : env.spoof with
              | true =>
                  rw [hSpoof, if_pos rfl] at hHost
                  exact .inl ⟨rfl,
                    spoofCheck_host (Sum.inr.inj hHost)⟩
              | false =>
                  rw [hSpoof, if_neg Bool.false_ne_true]
                    at hHost
                  exact .inr ⟨rfl, h', (HostOutcome.host.inj
                    (Sum.inr.inj hHost)).symm⟩
  | hosts =>
      left
      unfold serviceByAddr at hHost
      dsimp only at hHost
      split at hHost
      · cases hHost
      next p hFind =>
          have hIs := List.find?_some hFind
          rw [decide_eq_true_eq] at hIs
          exact ⟨p, List.mem_of_find?_eq_some hFind, hIs.2,
            (HostOutcome.host.inj (Sum.inr.inj hHost)).symm⟩
  | nis => cases hHost

/-
  Every host that is found for an address has the address;
  with `nospoof on` it is in the file of hosts, or the name
  that the name server gave leads back to the address.
-/
theorem gethostbyaddr_checked
    {a : InAddr}
    {h : HostEntry}
    (hHost : gethostbyaddr env a = .host h) :
    (∃ x ∈ h.addrs, IsAddress a x) ∧
      (env.spoof = true →
        (∃ p ∈ allEntries parseHost env.hosts, p.addr = a ∧
          h = .ofFile p) ∨
        ∃ h', Confirmed env a h' ∧
          h = trimDomains env.trims h') := by
  rcases tryServices_host hHost with ⟨s, -, hFound⟩
  have hBytes : IsAddress a a.bytes := rfl
  rcases serviceByAddr_host hFound with
    ⟨p, hP, hAddr, rfl⟩ | ⟨hSpoof, h', hBack, rfl⟩ |
      ⟨hSpoof, h', rfl⟩
  · refine ⟨⟨a.bytes, ?_, hBytes⟩,
      fun _ => .inl ⟨p, hP, hAddr, rfl⟩⟩
    rw [← hAddr]
    exact List.mem_singleton_self _
  · exact ⟨hBack.address, fun _ => .inr ⟨h', hBack, rfl⟩⟩
  · refine ⟨⟨a.bytes, List.mem_singleton_self _, hBytes⟩, ?_⟩
    intro hOn
    rw [hSpoof] at hOn
    cases hOn

/- Only the file of hosts, with the line `1.2.3.4 1`. -/
def HostSources.file : HostSources where
  order := [.bind, .hosts]
  trims := []
  multi := false
  spoof := true
  hosts := bytes "1.2.3.4 1\n"
  localname := []
  search := fun _ => .inl tryAgain
  query := fun _ => .inl tryAgain

theorem gethostbyaddr_checked_file :
    gethostbyaddr HostSources.file ⟨1, 2, 3, 4⟩ =
        .host (.ofFile plainHost.entry) ∧
      (∃ x ∈ (HostEntry.ofFile plainHost.entry).addrs,
        IsAddress ⟨1, 2, 3, 4⟩ x) := by
  have hHost : gethostbyaddr HostSources.file ⟨1, 2, 3, 4⟩ =
      .host (.ofFile plainHost.entry) := by
    decide +kernel
  exact ⟨hHost, (gethostbyaddr_checked hHost).1⟩

end Libsocket

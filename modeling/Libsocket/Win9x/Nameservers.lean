import Libsocket.Inet.Databases
import Libsocket.Library.Tokens
import Libsocket.Win3x.Addr

/-
  The lists of name servers that Windows keeps: the value in
  the registry of Windows '9x, the record of its phone book,
  and the value in the configuration file of Windows 3.x.

  Main declarations:
    * `mstcpGetdnsaddrs`, `rasGetdnsaddrs`
    * `IsList`
    * `mstcpRight_iff`, `systeminiRight_iff`
    * `rasGetdnsaddrs_overruns`
    * `nameserverLists_iff`
-/

namespace Libsocket

open Win3x (comma strdup SysiniEnv)

------------------------------------------------------------
-- Arrays Of Strings
------------------------------------------------------------

/- Store an entry, which must lie in the array. -/
def storeAt
    (list : List (Option Bytes))
    (i : Nat)
    (p : Option Bytes) : Option (List (Option Bytes)) :=
  if i < list.length then some (list.set i p) else none

/- Store copies from entry `i` on. -/
def storeCopies
    (copy : Nat → Bool) :
    Nat → List Bytes → List (Option Bytes) →
      Option (List (Option Bytes))
| _, [], list => some list
| i, q :: qs, list => do
    let list ← storeAt list i (strdup (copy i) (some q))
    storeCopies copy (i + 1) qs list

/- A list of strings up to a NULL, or NULL for no string. -/
def IsList
    (names : List Bytes) :
    Option (List (Option Bytes)) → Prop
| none => names = []
| some list => ∃ rest, list = names.map some ++ none :: rest

/- The copies that were made, or NULL. -/
def copied
    (copy : Nat → Bool) :
    Nat → List Bytes → List (Option Bytes)
| _, [] => []
| i, q :: qs =>
    strdup (copy i) (some q) :: copied copy (i + 1) qs

theorem length_copied
    (copy : Nat → Bool)
    (i : Nat)
    (qs : List Bytes) :
    (copied copy i qs).length = qs.length := by
  induction qs generalizing i with
  | nil => rfl
  | cons q qs ih => simp [copied, ih]

theorem copied_eq_iff
    (copy : Nat → Bool)
    (i : Nat)
    (qs : List Bytes) :
    copied copy i qs = qs.map some ↔
      ∀ k, k < qs.length → copy (i + k) = true := by
  induction qs generalizing i with
  | nil => simp [copied]
  | cons q qs ih =>
      rw [copied, List.map_cons, List.cons.injEq, ih]
      constructor
      · rintro ⟨hFirst, hRest⟩ k hk
        cases k with
        | zero =>
            simpa [strdup] using hFirst
        | succ k =>
            have hCopy := hRest k (Nat.lt_of_succ_lt_succ hk)
            rwa [show i + (k + 1) = i + 1 + k by omega]
      · intro hAll
        constructor
        · have hFirst := hAll 0 (Nat.succ_pos _)
          rw [Nat.add_zero] at hFirst
          simp [strdup, hFirst]
        · intro k hk
          have hCopy := hAll (k + 1) (Nat.succ_lt_succ hk)
          rwa [show i + 1 + k = i + (k + 1) by omega]

/- What fits is stored in its place. -/
theorem storeCopies_eq
    (copy : Nat → Bool)
    (front : List (Option Bytes))
    (qs : List Bytes)
    (more : Nat) :
    storeCopies copy front.length qs
        (front ++ List.replicate (qs.length + more) none) =
      some (front ++ copied copy front.length qs ++
        List.replicate more none) := by
  induction qs generalizing front with
  | nil => simp [storeCopies, copied]
  | cons q qs ih =>
      have hRoom : (q :: qs).length + more =
          qs.length + more + 1 := by
        rw [List.length_cons]
        omega
      have hStore : storeAt
          (front ++ List.replicate ((q :: qs).length + more)
            none) front.length
          (strdup (copy front.length) (some q)) =
        some ((front ++
          [strdup (copy front.length) (some q)]) ++
            List.replicate (qs.length + more) none) := by
        have hIn : front.length < (front ++ List.replicate
            (qs.length + more + 1) none).length := by
          rw [List.length_append, List.length_replicate]
          omega
        rw [storeAt, hRoom, if_pos hIn, List.replicate_succ]
        simp
      have hRest := ih (front ++
        [strdup (copy front.length) (some q)])
      rw [List.length_append, List.length_singleton] at hRest
      rw [storeCopies, hStore]
      simp only [Option.bind_eq_bind, Option.bind_some]
      rw [hRest]
      simp [copied]

/- A stored list is right if every copy was made. -/
theorem isList_copied
    (copy : Nat → Bool)
    (qs : List Bytes)
    (more : Nat) :
    IsList qs (some (copied copy 0 qs ++
        List.replicate (more + 1) none)) ↔
      ∀ k, k < qs.length → copy k = true := by
  have hCopied := copied_eq_iff copy 0 qs
  simp only [Nat.zero_add] at hCopied
  rw [← hCopied]
  constructor
  · rintro ⟨rest, hSame⟩
    exact (List.append_inj hSame (by
      rw [length_copied, List.length_map])).1
  · intro hSame
    exact ⟨List.replicate more none, by
      rw [hSame, List.replicate_succ]⟩

------------------------------------------------------------
-- The Registry
------------------------------------------------------------

/-
  The text of the key `EnableDNS`, the answers for the key
  and its value `NameServer`, and which requests for memory
  are granted.
-/
structure MstcpEnv where
  enableDns : Option Bytes
  key : Bool
  value : Option (Fin 256 → UInt8)
  list : Bool
  copy : Nat → Bool

/- `__win9x_mstcp_dnsenabled` -/
def mstcpDnsenabled (env : MstcpEnv) : Int :=
  match env.enableDns with
  | none => 1
  | some p => atoi p

/-
  The array for the string in the buffer, and whether NULL is
  copied. It has an entry more than there are commas, and one
  for the NULL at its end.
-/
def mstcpList
    (env : MstcpEnv)
    (buffer text : Bytes) :
    Option (Bool × Option (List (Option Bytes))) :=
  let nodns := text.count comma + 1
  if env.list = false then
    some (false, none)
  else do
    let first := Strtok.strtok (· == comma) buffer (some 0)
    let q := first.token.map (CString.textAt first.buffer)
    let list ← storeAt (List.replicate (nodns + 1) none) 0
      (strdup (env.copy 0) q)
    let rest := Strtok.strtokRest (· == comma) first.buffer
      first.last
    let list ← storeCopies env.copy 1 rest.1 list
    return (q.isNone, some list)

/- `__win9x_mstcp_getdnsaddrs` -/
def mstcpGetdnsaddrs
    (env : MstcpEnv) :
    Option (Bool × Option (List (Option Bytes))) :=
  if mstcpDnsenabled env ≠ 1 ∨ env.key = false then
    some (false, none)
  else
    match env.value with
    | none => some (false, none)
    | some value => do
        let text ← CString.read? (List.ofFn value)
        mstcpList env (List.ofFn value) text

/- The name servers that a value lists. -/
def serverTokens (value : Bytes) : List Bytes :=
  Strtok.tokens (· == comma) value

/- The value is asked for, and is this string. -/
structure MstcpEnv.Reads
    (env : MstcpEnv)
    (value : Bytes) : Prop where
  enabled : mstcpDnsenabled env = 1
  key : env.key = true
  value : ∃ buffer, env.value = some buffer ∧
    CString.read? (List.ofFn buffer) = some value

/- The list of the value's tokens, and no NULL is copied. -/
def MstcpRight
    (env : MstcpEnv)
    (value : Bytes) : Prop :=
  ∃ list, mstcpGetdnsaddrs env = some (false, list) ∧
    IsList (serverTokens value) list

/-
  The list is right if there is a token and all memory is
  granted, or no token and no memory for the array.
-/
theorem mstcpRight_iff
    {env : MstcpEnv}
    {value : Bytes}
    (hReads : env.Reads value) :
    MstcpRight env value ↔
      (serverTokens value ≠ [] ∧ env.list = true ∧
        ∀ k, k < (serverTokens value).length →
          env.copy k = true) ∨
      (serverTokens value = [] ∧ env.list = false) := by
  rcases hReads with ⟨hEnabled, hKey, buffer, hValue, hRead⟩
  have hHolds := CString.holdsAt_of_read? hRead
  have hTokens := @Strtok.strtokRest_eq (· == comma) _ _ 0
    hHolds (by decide)
  have hRun : mstcpGetdnsaddrs env =
      mstcpList env (List.ofFn buffer) value := by
    unfold mstcpGetdnsaddrs
    rw [if_neg (by simp [hEnabled, hKey]), hValue]
    dsimp only
    rw [hRead]
    rfl
  unfold MstcpRight
  rw [hRun]
  unfold mstcpList
  cases hList : env.list with
  | false =>
      simp only [Bool.false_eq_true, false_and, and_false,
        false_or, and_true, if_true]
      constructor
      · rintro ⟨list, hSame, hIs⟩
        cases hSame
        exact hIs
      · exact fun hNone => ⟨none, rfl, hNone⟩
  | true =>
      simp only [true_and, Bool.true_eq_false, and_false,
        or_false, if_false]
      cases hToken : (Strtok.strtok (· == comma)
          (List.ofFn buffer) (some 0)).token with
      | none =>
          have hNone : serverTokens value = [] := by
            rw [serverTokens, ← hTokens,
              Strtok.strtokRest_eq_nil hToken]
          simp only [hNone, ne_eq, not_true, false_and,
            iff_false]
          rintro ⟨list, hSame, -⟩
          rcases Option.bind_eq_some_iff.mp hSame with
            ⟨first, -, hSame⟩
          rcases Option.bind_eq_some_iff.mp hSame with
            ⟨all, -, hSame⟩
          cases hSame
      | some t =>
          -- the first token is stored apart from the others
          have hParts := Strtok.strtokRest_eq_cons hToken
          rw [hTokens] at hParts
          change serverTokens value = _ at hParts
          have hRoom : (serverTokens value).length ≤
              value.count comma + 1 :=
            Strtok.length_tokens_le value
          obtain ⟨more, hMore⟩ := Nat.exists_eq_add_of_le hRoom
          have hAll := storeCopies_eq env.copy []
            (serverTokens value) (more + 1)
          rw [← Nat.add_assoc, ← hMore, hParts] at hAll
          simp only [List.length_nil, List.nil_append,
            storeCopies, Option.bind_eq_bind] at hAll
          have hSome : serverTokens value ≠ [] := by
            rw [hParts]
            exact List.cons_ne_nil _ _
          have hResult := isList_copied env.copy
            (serverTokens value) more
          simp only [Option.map_some, Option.isNone_some,
            Option.bind_eq_bind, Option.pure_def, ne_eq, hSome,
            not_false_eq_true, true_and]
          rw [← Option.bind_assoc, hAll, ← hParts, ← hResult]
          simp

------------------------------------------------------------
-- The Configuration File
------------------------------------------------------------

/- The value of the key, or nothing. -/
def dnsValue (file : Option Bytes) : Bytes :=
  (valueIn file (bytes "DNS") (bytes "DNSServers")).getD []

/-
  What an entry of the list is once the function is back: an
  entry that is not NULL points into the function's buffer,
  and there is no string any more.
-/
def entryAfter : Option Nat → Option (Option Bytes)
| none => some none
| some _ => none

/- The list of the value's tokens, as strings that stay. -/
def SysteminiRight (env : SysiniEnv) : Prop :=
  ∃ list strings, Win3x.getdnsaddrs env = some list ∧
    (list.map fun entries => (entries ++ [none]).mapM
      entryAfter) = strings.map some ∧
    IsList (serverTokens (dnsValue env.file)) strings

theorem mapM_entryAfter
    {entries : List (Option Nat)}
    {strings : List (Option Bytes)}
    (hAfter : entries.mapM entryAfter = some strings) :
    ∀ p, p ∈ strings → p = none := by
  induction entries generalizing strings with
  | nil =>
      cases hAfter
      simp
  | cons e entries ih =>
      rw [List.mapM_cons] at hAfter
      rcases Option.bind_eq_some_iff.mp hAfter with
        ⟨p, hFirst, hRest⟩
      rcases Option.bind_eq_some_iff.mp hRest with
        ⟨ps, hTail, hSame⟩
      cases hSame
      intro p' hMem
      rcases List.mem_cons.mp hMem with rfl | hMem
      · cases e with
        | none =>
            cases hFirst
            rfl
        | some t => cases hFirst
      · exact ih hTail p' hMem

theorem mapM_replicate (n : Nat) :
    (List.replicate n none).mapM entryAfter =
      some (List.replicate n none) := by
  induction n with
  | zero => rfl
  | succ n ih =>
      rw [List.replicate_succ, List.mapM_cons, ih]
      rfl

/- Calls after one that found nothing find nothing. -/
theorem addrs_none
    (buf : Bytes)
    (n : Nat) :
    Win3x.getdnsaddrs.addrs buf none n =
      List.replicate n none := by
  induction n with
  | zero => rfl
  | succ n ih =>
      rw [Win3x.getdnsaddrs.addrs, List.replicate_succ]
      exact congrArg _ ih

/- In a string of commas there is nothing to be found. -/
theorem addrs_commas
    {buf text : Bytes}
    (hHolds : CString.HoldsAt buf 0 text)
    (hNone : serverTokens text = [])
    (n : Nat) :
    Win3x.getdnsaddrs.addrs buf (some 0) n =
      List.replicate n none := by
  have hAll := (Strtok.tokens_eq_nil_iff text).mp hNone
  have hCall : Strtok.strtok (· == comma) buf (some 0) =
      ⟨none, buf, none⟩ := by
    rw [Strtok.strtok_eq hHolds (by decide)]
    dsimp only
    rw [if_pos (List.dropWhile_eq_nil_iff.mpr hAll)]
  cases n with
  | zero => rfl
  | succ n =>
      rw [Win3x.getdnsaddrs.addrs, hCall, addrs_none,
        List.replicate_succ]

/- No entry stays a string. -/
theorem systeminiRight_iff (env : SysiniEnv) :
    SysteminiRight env ↔
      serverTokens (dnsValue env.file) = [] := by
  constructor
  · rintro ⟨list, strings, -, hAfter, hIs⟩
    cases list with
    | none =>
        cases strings with
        | none => exact hIs
        | some strings => cases hAfter
    | some entries =>
        cases strings with
        | none => cases hAfter
        | some strings =>
            have hNone := mapM_entryAfter
              (Option.some.inj hAfter)
            rcases hIs with ⟨rest, hShape⟩
            cases hTokens :
                serverTokens (dnsValue env.file) with
            | nil => rfl
            | cons w ws =>
                rw [hTokens] at hShape
                have hMem : some w ∈ strings := by
                  rw [hShape]
                  exact List.mem_cons_self
                cases hNone _ hMem
  · intro hNone
    obtain ⟨buf, n, hRun, hReads, hCount⟩ :=
      Win3x.systemini_eq env (bytes "DNS")
        (bytes "DNSServers")
    change CString.read? buf = some (dnsValue env.file)
      at hReads
    have hGet : Win3x.getdnsaddrs env =
        if n = 0 then
          some none
        else if dnsValue env.file = [] then
          some none
        else if ¬ env.dnsList then
          some none
        else
          some (some (List.replicate
            ((dnsValue env.file).count comma + 1) none)) := by
      unfold Win3x.getdnsaddrs
      simp only [hRun, hReads, Option.bind_eq_bind,
        Option.bind_some, Option.pure_def]
      rw [addrs_commas (CString.holdsAt_of_read? hReads) hNone]
    have hNull (hIs : Win3x.getdnsaddrs env = some none) :
        SysteminiRight env :=
      ⟨none, none, hIs, rfl, hNone⟩
    by_cases hZero : n = 0
    · exact hNull (by rw [hGet, if_pos hZero])
    rw [if_neg hZero] at hGet
    by_cases hEmpty : dnsValue env.file = []
    · exact hNull (by rw [hGet, if_pos hEmpty])
    rw [if_neg hEmpty] at hGet
    by_cases hMemory : ¬ env.dnsList = true
    · exact hNull (by rw [hGet, if_pos hMemory])
    rw [if_neg hMemory] at hGet
    refine ⟨_, some (List.replicate
      ((dnsValue env.file).count comma + 2) none), hGet, ?_,
      ?_⟩
    · have hOneMore : List.replicate
          ((dnsValue env.file).count comma + 1) none ++ [none] =
            List.replicate ((dnsValue env.file).count comma + 2)
              (none : Option Nat) :=
        List.replicate_succ'.symm
      simp only [Option.map_some, hOneMore, mapM_replicate]
    · rw [hNone]
      exact ⟨_, List.replicate_succ⟩

------------------------------------------------------------
-- The Phone Book
------------------------------------------------------------

/-
  Whether a connection is active, the default phone book, the
  answers for the key and its values, and which requests for
  memory are granted.
-/
structure RasEnv where
  active : Bool
  phonebook : Option Bytes
  key : Bool
  value : Bytes → Option (Fin 50 → UInt8)
  list : Bool
  copy : Nat → Bool

/- `RAS_DATA` -/
structure RasData where
  ipFixed : Bool
  ipMachine : InAddr
  ipDnsSpecified : Bool
  ipDnsCount : Nat
  ipDns : List InAddr
deriving DecidableEq, Repr

/- Four bytes of a record, as they lie there. -/
def wordAt (buffer : Bytes) (i : Nat) : InAddr :=
  ⟨buffer.getD i 0, buffer.getD (i + 1) 0,
    buffer.getD (i + 2) 0, buffer.getD (i + 3) 0⟩

/-
  `htons` of a long: its lower 16 bits with their bytes turned
  around, and zeros.
-/
def htonsOfLong (convaddr : InAddr) : InAddr :=
  ⟨convaddr.b₁, convaddr.b₀, 0, 0⟩

/- Store an address, and count it if it is not zero. -/
def rasStore (rd : RasData) (addr : InAddr) : RasData :=
  { rd with
    ipDns := rd.ipDns.set rd.ipDnsCount addr
    ipDnsCount :=
      if addr = .any then rd.ipDnsCount else rd.ipDnsCount + 1 }

/- The data of a record. -/
def rasParse (buffer : Bytes) : RasData :=
  let flags := buffer.getD 4 0
  let rd : RasData := ⟨false, .any, false, 0, [.any, .any]⟩
  let rd :=
    if flags &&& 1 ≠ 0 then
      { rd with
        ipFixed := true
        ipMachine := htonsOfLong (wordAt buffer 8) }
    else
      rd
  if flags &&& 2 ≠ 0 then
    rasStore
      (rasStore { rd with ipDnsSpecified := true }
        (htonsOfLong (wordAt buffer 12)))
      (htonsOfLong (wordAt buffer 16))
  else
    rd

/- `__win9x_ras_getdata` -/
def rasGetdata (env : RasEnv) : Option RasData :=
  if env.active = false then
    none
  else
    match env.phonebook with
    | none => none
    | some name =>
        if env.key = false then
          none
        else
          (env.value name).map fun buffer =>
            rasParse (List.ofFn buffer)

/-
  `__win9x_ras_getdnsaddrs`. The last store lies behind the
  array.
-/
def rasGetdnsaddrs
    (env : RasEnv) :
    Option (Option (List (Option Bytes))) :=
  match rasGetdata env with
  | none => some none
  | some rd =>
      if env.list = false then
        some none
      else do
        let list ← storeCopies env.copy 0
          ((rd.ipDns.take rd.ipDnsCount).map inetNtoa)
          (List.replicate (rd.ipDnsCount + 1) none)
        let list ← storeAt list (rd.ipDnsCount + 1) none
        return some list

/- There is a record, and it is this one. -/
structure RasEnv.Reads
    (env : RasEnv)
    (buffer : Fin 50 → UInt8) : Prop where
  active : env.active = true
  key : env.key = true
  value : ∃ name, env.phonebook = some name ∧
    env.value name = some buffer

/-
  The dotted forms of the addresses of a record that are not
  zero, if the record has any.
-/
def rasServers (buffer : Bytes) : List Bytes :=
  if buffer.getD 4 0 &&& 2 ≠ 0 then
    (([12, 16].map fun i =>
      let a := wordAt buffer i
      (⟨a.b₃, a.b₂, a.b₁, a.b₀⟩ : InAddr)).filter
        fun a => a ≠ .any).map inetNtoa
  else
    []

/- A list of these addresses is returned. -/
def RasRight
    (env : RasEnv)
    (buffer : Fin 50 → UInt8) : Prop :=
  ∃ list, rasGetdnsaddrs env = some (some list) ∧
    IsList (rasServers (List.ofFn buffer)) (some list)

theorem length_storeCopies
    {copy : Nat → Bool}
    {i : Nat}
    {qs : List Bytes}
    {list list' : List (Option Bytes)}
    (hStore : storeCopies copy i qs list = some list') :
    list'.length = list.length := by
  induction qs generalizing i list with
  | nil =>
      cases hStore
      rfl
  | cons q qs ih =>
      rcases Option.bind_eq_some_iff.mp hStore with
        ⟨list₁, hFirst, hRest⟩
      unfold storeAt at hFirst
      split at hFirst
      · cases hFirst
        rw [ih hRest, List.length_set]
      · cases hFirst

/- Whatever the record, a store lies outside of the array. -/
theorem rasGetdnsaddrs_overruns
    {env : RasEnv}
    {buffer : Fin 50 → UInt8}
    (hReads : env.Reads buffer)
    (hList : env.list = true) :
    rasGetdnsaddrs env = none := by
  rcases hReads with ⟨hActive, hKey, name, hBook, hValue⟩
  have hData : rasGetdata env =
      some (rasParse (List.ofFn buffer)) := by
    unfold rasGetdata
    simp [hActive, hKey, hBook, hValue]
  unfold rasGetdnsaddrs
  rw [hData]
  dsimp only
  rw [if_neg (by simp [hList])]
  by_contra hSome
  rcases Option.ne_none_iff_exists'.mp hSome with ⟨r, hRun⟩
  rcases Option.bind_eq_some_iff.mp hRun with
    ⟨list, hCopies, hRest⟩
  rcases Option.bind_eq_some_iff.mp hRest with
    ⟨list', hLast, -⟩
  have hLength := length_storeCopies hCopies
  rw [List.length_replicate] at hLength
  unfold storeAt at hLast
  rw [if_neg (by omega)] at hLast
  cases hLast

theorem not_rasRight
    {env : RasEnv}
    {buffer : Fin 50 → UInt8}
    (hReads : env.Reads buffer) :
    ¬ RasRight env buffer := by
  rintro ⟨list, hRun, -⟩
  cases hList : env.list with
  | true =>
      rw [rasGetdnsaddrs_overruns hReads hList] at hRun
      cases hRun
  | false =>
      rcases hReads with ⟨hActive, hKey, name, hBook, hValue⟩
      simp [rasGetdnsaddrs, rasGetdata, hActive, hKey, hBook,
        hValue, hList] at hRun

------------------------------------------------------------
-- The Three Lists
------------------------------------------------------------

/-
  The list from the registry is right if its value has a
  token and memory is granted, or neither; that of Windows
  3.x if its value has no token; that of the phone book never.
-/
theorem nameserverLists_iff
    (mstcp : MstcpEnv)
    (sysini : SysiniEnv)
    (ras : RasEnv) :
    (∀ value, mstcp.Reads value →
      (MstcpRight mstcp value ↔
        (serverTokens value ≠ [] ∧ mstcp.list = true ∧
          ∀ k, k < (serverTokens value).length →
            mstcp.copy k = true) ∨
        (serverTokens value = [] ∧ mstcp.list = false))) ∧
    (SysteminiRight sysini ↔
      serverTokens (dnsValue sysini.file) = []) ∧
    ∀ buffer, ras.Reads buffer → ¬ RasRight ras buffer :=
  ⟨fun _ hReads => mstcpRight_iff hReads,
    systeminiRight_iff sysini,
    fun _ hReads => not_rasRight hReads⟩

/- An empty value of the registry. -/
def MstcpEnv.empty : MstcpEnv :=
  ⟨none, true, some fun _ => 0, true, fun _ => true⟩

/- With an empty value a NULL is copied. -/
theorem null_copied :
    ¬ ((∀ env value, MstcpEnv.Reads env value →
        MstcpRight env value) ∧
      (∀ env, SysteminiRight env) ∧
      ∀ env buffer, RasEnv.Reads env buffer →
        RasRight env buffer) := by
  rintro ⟨hAlways, -, -⟩
  have hReads : MstcpEnv.empty.Reads [] :=
    ⟨rfl, rfl, _, rfl, by decide +kernel⟩
  rcases (mstcpRight_iff hReads).mp (hAlways _ _ hReads) with
    ⟨hSome, -⟩ | ⟨-, hList⟩
  · exact hSome rfl
  · cases hList

end Libsocket

import Libsocket.HostName
import Libsocket.Inet.AnswerOwners
import Libsocket.Inet.ReadBack
import Libsocket.Library.Least
import Libsocket.Library.Sifting

/-
  The addresses of a host: their order by networks, and the
  names of the hosts file, which may stand for many of them.

  Main declarations:
    * `addrsort`, `addrsort_stable`
    * `gethtbyname`, `gethtbyname_addresses`
-/

namespace Libsocket

instance (a b : Bytes) : Decidable (SameName a b) :=
  inferInstanceAs (Decidable (_ = _))

/- `s_addr & mask` -/
def InAddr.masked (a mask : InAddr) : InAddr where
  b₀ := a.b₀ &&& mask.b₀
  b₁ := a.b₁ &&& mask.b₁
  b₂ := a.b₂ &&& mask.b₂
  b₃ := a.b₃ &&& mask.b₃

------------------------------------------------------------
-- The Order Of Addresses
------------------------------------------------------------

/- One of the networks of `_res.sort_list`. -/
structure SortNet where
  addr : InAddr
  mask : InAddr

/- The first network with the address, or how many they are. -/
def aval (sortList : List SortNet) (a : InAddr) : Nat :=
  sortList.findIdx fun net => net.addr = a.masked net.mask

/- `addrsort` -/
def addrsort
    (sortList : List SortNet)
    (ap : List InAddr) : List InAddr :=
  Sifting.sort (aval sortList) ap

/- `struct hostent`, with all its addresses. -/
structure HostEntry where
  name : Bytes
  aliases : List Bytes
  addrtype : Int
  length : Nat
  addrs : List Bytes
deriving DecidableEq

def HostEntry.ofFile (p : Hostent) : HostEntry where
  name := p.name
  aliases := p.aliases
  addrtype := p.addrtype
  length := p.length
  addrs := [p.addr.bytes]

/- The name of the entry, or one of its aliases. -/
def Hostent.IsNamed (p : Hostent) (name : Bytes) : Prop :=
  SameName p.name name ∨ ∃ a ∈ p.aliases, SameName a name

instance (p : Hostent) (name : Bytes) :
    Decidable (p.IsNamed name) :=
  inferInstanceAs (Decidable (_ ∨ _))

/- The name is an alias of the entry only. -/
def Hostent.HasAlias (p : Hostent) (name : Bytes) : Prop :=
  ¬ SameName p.name name ∧ p.IsNamed name

instance (p : Hostent) (name : Bytes) :
    Decidable (p.HasAlias name) :=
  inferInstanceAs (Decidable (_ ∧ _))

/- What `namebuf` has room for. -/
def cutName (name : Bytes) : Bytes := name.take 63

/- What `_gethtbyname` collects. -/
structure HtState where
  namebuf : Bytes
  aliases : List Bytes
  addrs : List InAddr
  locals : List InAddr

/- One entry of the file. -/
def HtState.turn
    (name localname : Bytes)
    (s : HtState)
    (p : Hostent) : HtState where
  namebuf :=
    if p.HasAlias name then cutName p.name else s.namebuf
  aliases :=
    if p.IsNamed name ∧ s.aliases = [] then
      p.aliases.take (maxAliases - 1)
    else
      s.aliases
  addrs :=
    s.addrs ++ if p.IsNamed name then [p.addr] else []
  locals :=
    s.locals ++ if p.IsNamed localname then [p.addr] else []

/-
  How far an address is from one of this host: `l ^ h`, where
  only `l` is in the order of the host.
-/
def hostDistance (l h : InAddr) : Nat :=
  (l.b₀.toNat * 16777216 + l.b₁.toNat * 65536 +
      l.b₂.toNat * 256 + l.b₃.toNat) ^^^
    (h.b₃.toNat * 16777216 + h.b₂.toNat * 65536 +
      h.b₁.toNat * 256 + h.b₀.toNat)

/- `(u_long) ~0` -/
def farthest : Nat := 4294967295

/- The pairs of addresses that are compared, in order. -/
def comparisons
    (locals addrs : List InAddr) :
    List (InAddr × InAddr × Nat) :=
  locals.flatMap fun l => addrs.zipIdx.map fun h => (l, h)

/- The place of the best address. -/
def bestAddr (locals addrs : List InAddr) : Nat :=
  (Least.scan (fun c => hostDistance c.1 c.2.1)
    ((.any, .any, 0), farthest)
    (comparisons locals addrs)).1.2.2

/- The first address and the best one change places. -/
def bestFirst (locals addrs : List InAddr) : List InAddr :=
  match addrs[0]?, addrs[bestAddr locals addrs]? with
  | some a, some b =>
      (addrs.set 0 b).set (bestAddr locals addrs) a
  | _, _ => addrs

/-
  What is made of all entries of the file; nothing where more
  addresses are stored than `ht_addr_ptrs` or `loc_addr_ptrs`
  has room for.
-/
def htAnswer
    (name localname : Bytes)
    (es : List Hostent) : Option (Option HostEntry) :=
  let s := es.foldl (HtState.turn name localname)
    ⟨cutName name, [], [], []⟩
  if maxAddrs < s.addrs.length ∨ maxAddrs < s.locals.length then
    none
  else if s.addrs = [] then
    some none
  else
    some (some {
      name := s.namebuf
      aliases := s.aliases
      addrtype := afInet
      length := 4
      addrs := (bestFirst s.locals s.addrs).map InAddr.bytes })

/- `_gethtbyname` -/
def gethtbyname
    (multi : Bool)
    (localname : Bytes)
    (hosts name : Bytes) : Option (Option HostEntry) :=
  if multi then
    htAnswer name localname (allEntries parseHost hosts)
  else
    some (((allEntries parseHost hosts).find?
      fun p => p.IsNamed name).map HostEntry.ofFile)

------------------------------------------------------------
-- The Addresses Of A Name
------------------------------------------------------------

variable (name localname : Bytes)

/- What the turns collect, over all entries. -/
theorem collected
    (es : List Hostent)
    (s : HtState) :
    (es.foldl (HtState.turn name localname) s).addrs =
        s.addrs ++
          (es.filter fun p => p.IsNamed name).map
            Hostent.addr ∧
      (es.foldl (HtState.turn name localname) s).locals =
        s.locals ++
          (es.filter fun p => p.IsNamed localname).map
            Hostent.addr := by
  induction es generalizing s with
  | nil => simp
  | cons p es ih =>
      have hRest := ih (s.turn name localname p)
      rw [List.foldl_cons, hRest.1, hRest.2]
      unfold HtState.turn
      dsimp only
      constructor
      · by_cases hNamed : p.IsNamed name
        · simp [hNamed]
        · simp [hNamed]
      · by_cases hLocal : p.IsNamed localname
        · simp [hLocal]
        · simp [hLocal]

/- The name is that of the last entry it is an alias of. -/
theorem collected_name
    (es : List Hostent)
    (s : HtState) :
    (es.foldl (HtState.turn name localname) s).namebuf =
      ((es.filter fun p => p.HasAlias name).getLast?.map
        fun p => cutName p.name).getD s.namebuf := by
  induction es generalizing s with
  | nil => rfl
  | cons p es ih =>
      rw [List.foldl_cons, ih]
      unfold HtState.turn
      dsimp only
      by_cases hAlias : p.HasAlias name
      · simp only [hAlias, decide_true, List.filter_cons_of_pos,
          List.getLast?_cons, if_true]
        cases (es.filter fun p =>
          decide (p.HasAlias name)).getLast? with
        | none => rfl
        | some q => rfl
      · simp [hAlias]

/- The aliases are those of the first entry that has some. -/
theorem collected_aliases
    (es : List Hostent)
    (s : HtState) :
    (es.foldl (HtState.turn name localname) s).aliases =
      if s.aliases = [] then
        ((es.find? fun p => p.IsNamed name ∧
          p.aliases ≠ []).map fun p =>
            p.aliases.take (maxAliases - 1)).getD []
      else
        s.aliases := by
  induction es generalizing s with
  | nil =>
      by_cases hNone : s.aliases = []
      · simp [hNone]
      · simp [hNone]
  | cons p es ih =>
      rw [List.foldl_cons, ih]
      unfold HtState.turn
      dsimp only
      by_cases hNone : s.aliases = []
      · by_cases hNamed : p.IsNamed name
        · by_cases hSome : p.aliases = []
          · simp [hNone, hNamed, hSome]
          · have hTake :
                p.aliases.take (maxAliases - 1) ≠ [] := by
              simp [hSome, maxAliases]
            simp [hNone, hNamed, hSome, hTake]
        · simp [hNone, hNamed]
      · simp [hNone]

/-
  The first address is as near as any to one of this host;
  without one that is nearer than the farthest, the order is
  that of the file.
-/
def NearestFirst (locals addrs l : List InAddr) : Prop :=
  (∃ a ∈ l.head?, ∃ o ∈ locals,
      hostDistance o a < farthest ∧
      ∀ o' ∈ locals, ∀ b ∈ addrs,
        hostDistance o a ≤ hostDistance o' b) ∨
    (∀ o ∈ locals, ∀ b ∈ addrs,
      farthest ≤ hostDistance o b) ∧ l = addrs

theorem mem_comparisons
    {locals addrs : List InAddr}
    {c : InAddr × InAddr × Nat} :
    c ∈ comparisons locals addrs ↔
      c.1 ∈ locals ∧ addrs[c.2.2]? = some c.2.1 := by
  rcases c with ⟨l, a, j⟩
  unfold comparisons
  rw [List.mem_flatMap]
  constructor
  · rintro ⟨l', hL, hMem⟩
    rcases List.mem_map.mp hMem with ⟨⟨a', j'⟩, hA, hSame⟩
    cases hSame
    exact ⟨hL, List.mem_zipIdx_iff_getElem?.mp hA⟩
  · rintro ⟨hL, hA⟩
    exact ⟨l, hL, List.mem_map.mpr
      ⟨(a, j), List.mem_zipIdx_iff_getElem?.mpr hA, rfl⟩⟩

theorem bestFirst_nearest (locals addrs : List InAddr) :
    NearestFirst locals addrs (bestFirst locals addrs) := by
  have hPairs : ∀ o ∈ locals, ∀ b ∈ addrs,
      ∃ j, (o, b, j) ∈ comparisons locals addrs := by
    intro o hO b hB
    rcases List.mem_iff_getElem?.mp hB with ⟨j, hJ⟩
    exact ⟨j, mem_comparisons.mpr ⟨hO, hJ⟩⟩
  rcases Least.scan_cases
      (fun c : InAddr × InAddr × Nat =>
        hostDistance c.1 c.2.1)
      ((.any, .any, 0), farthest)
      (comparisons locals addrs) with
    ⟨hSame, hAll⟩ | ⟨c, hC, hSame, hLess, hAll⟩
  · right
    refine ⟨?_, ?_⟩
    · intro o hO b hB
      rcases hPairs o hO b hB with ⟨j, hJ⟩
      exact hAll (o, b, j) hJ
    · have hZero : bestAddr locals addrs = 0 := by
        unfold bestAddr
        rw [hSame]
      unfold bestFirst
      rw [hZero]
      cases addrs with
      | nil => rfl
      | cons a addrs => rfl
  · left
    rcases mem_comparisons.mp hC with ⟨hO, hPlace⟩
    have hBest : bestAddr locals addrs = c.2.2 := by
      unfold bestAddr
      rw [hSame]
    have hHead : (bestFirst locals addrs).head? =
        some c.2.1 := by
      unfold bestFirst
      rw [hBest, hPlace]
      cases addrs with
      | nil => cases hPlace
      | cons a addrs =>
          cases hIndex : c.2.2 with
          | zero =>
              rw [hIndex] at hPlace
              exact hPlace
          | succ k => rfl
    refine ⟨c.2.1, hHead, c.1, hO, hLess, ?_⟩
    intro o' hO' b hB
    rcases hPairs o' hO' b hB with ⟨j, hJ⟩
    exact hAll (o', b, j) hJ

theorem bestFirst_perm (locals addrs : List InAddr) :
    (bestFirst locals addrs).Perm addrs := by
  unfold bestFirst
  split
  next a b hA hB =>
      rcases List.getElem?_eq_some_iff.mp hA with ⟨hZero, rfl⟩
      rcases List.getElem?_eq_some_iff.mp hB with ⟨hPlace, rfl⟩
      exact List.set_set_perm hZero hPlace
  next => exact List.Perm.refl addrs

/- The lines of a hosts file, as the library reads them. -/
def fileHosts (lines : List (FileLine HostLine)) :
    List Hostent :=
  lines.filterMap (FileLine.value hostFormat)

theorem allEntries_fileHosts
    {ended : Bool}
    {lines : List (FileLine HostLine)}
    (hClean : FileClean hostFormat (fun _ => False) ended
      lines) :
    allEntries parseHost (fileText hostFormat ended lines) =
      fileHosts lines := by
  have hOdd : ∀ l, hostFormat.reading l = hostFormat.entry l ↔
      ¬ (fun _ => False) l :=
    fun l => ⟨fun _ hFalse => hFalse, fun _ => rfl⟩
  exact entries_of_turnsBack
    ((turnsBack_iff hOdd ended lines).mpr hClean)

/- The host that is made of all entries with a name. -/
structure AllOf
    (name localname : Bytes)
    (es : List Hostent)
    (h : HostEntry) : Prop where
  called : h.name =
    ((es.filter fun p => p.HasAlias name).getLast?.map
      fun p => cutName p.name).getD (cutName name)
  others : h.aliases =
    ((es.find? fun p => p.IsNamed name ∧
      p.aliases ≠ []).map fun p =>
        p.aliases.take (maxAliases - 1)).getD []
  reached : ∃ l : List InAddr, h.addrs = l.map InAddr.bytes ∧
    l.Perm ((es.filter fun p => p.IsNamed name).map
      Hostent.addr) ∧
    NearestFirst
      ((es.filter fun p => p.IsNamed localname).map
        Hostent.addr)
      ((es.filter fun p => p.IsNamed name).map Hostent.addr) l

/- The addresses fit into the arrays. -/
def FewAddrs (es : List Hostent) : Prop :=
  (es.filter fun p => p.IsNamed name).length ≤ maxAddrs ∧
    (es.filter fun p => p.IsNamed localname).length ≤ maxAddrs

end Libsocket

import Libsocket.Inet.Databases
import Libsocket.Library.Session

/-
  `res_search` asks for a name as it is and in the domains of
  the search list, until there is an answer or a reason to
  give up. A run is given by what comes of its queries.

  Main declarations:
    * `hostalias`, `resQuery`, `resQuerydomain`
    * `SearchCall`, `resSearch`, `resSearchSession`
    * `resSearchRun_names`, `resSearchRun_result`
-/

namespace Libsocket

------------------------------------------------------------
-- Aliases Of The User
------------------------------------------------------------

/- `MAXDNAME` -/
def maxdname : Nat := 1025

/- The loop of `__hostalias` over the lines of the file. -/
def hostaliasIn (name : Bytes) : List Bytes → Option Bytes
| [] => none
| line :: lines =>
    let buf := line.takeWhile (· != 0)
    match buf.dropWhile fun c => !isSpace c with
    | [] => none
    | _ :: rest =>
        let word := buf.takeWhile fun c => !isSpace c
        if word.map tolower = name.map tolower then
          let cp := rest.dropWhile isSpace
          if cp = [] then
            none
          else
            some ((cp.takeWhile fun c => !isSpace c).take
              (maxdname - 1))
        else
          hostaliasIn name lines

/-
  `__hostalias`, with the file that `HOSTALIASES` names, if
  it can be opened.
-/
def hostalias
    (noaliases : Bool)
    (file : Option Bytes)
    (name : Bytes) : Option Bytes :=
  if noaliases then
    none
  else
    match file with
    | none => none
    | some file => hostaliasIn name (fgetsAll bufsiz file)

------------------------------------------------------------
-- One Query
------------------------------------------------------------

/- `h_errno` -/
inductive HErrno where
| HOST_NOT_FOUND
| TRY_AGAIN
| NO_RECOVERY
| NO_DATA
deriving DecidableEq

/-
  What `res_mkquery` and `res_send` returned, `errno` behind
  them, and two fields of the header that is in the buffer of
  the answer then.
-/
structure QueryReply where
  made : Int
  sent : Int
  errno : Errno
  rcode : Nat
  ancount : Nat

/- `SERVFAIL` -/
def servfail : Nat := 2

/- `res_query`; it may leave `h_errno` as it is. -/
def resQuery (r : QueryReply) : Int × Option HErrno :=
  if r.made ≤ 0 then
    (r.made, some .NO_RECOVERY)
  else if r.sent < 0 then
    (r.sent, some .TRY_AGAIN)
  else if r.rcode ≠ 0 ∨ r.ancount = 0 then
    (-1, some (match r.rcode with
      | 3 => .HOST_NOT_FOUND
      | 2 => .TRY_AGAIN
      | 0 => .NO_DATA
      | _ => .NO_RECOVERY))
  else
    (r.sent, none)

/- The name that `res_querydomain` asks for. -/
def resQuerydomain
    (name : Bytes)
    (domain : Option Bytes) : Bytes :=
  match domain with
  | none =>
      if name.getLast? = some dot ∧
          name.length - 1 < 2 * maxdname + 1 then
        name.dropLast
      else
        name
  | some domain =>
      name.take maxdname ++ dot :: domain.take maxdname

------------------------------------------------------------
-- The Search
------------------------------------------------------------

/-
  The name, the alias that `__hostalias` has for it, and the
  part of `_res` that the search reads.
-/
structure SearchCall where
  name : Bytes
  hostAlias : Option Bytes
  ndots : Nat
  defnames : Bool
  dnsrchSet : Bool
  dnsrch : List Bytes

namespace SearchCall

variable (c : SearchCall)

def dots : Nat := c.name.count dot

def trailingDot : Bool := c.name.getLast? = some dot

/- The name is searched for in the domains. -/
def searches : Bool :=
  (decide (c.dots = 0) && c.defnames) ||
    (decide (c.dots ≠ 0) && !c.trailingDot && c.dnsrchSet)

end SearchCall

/- A query, what came of it, and `h_errno` behind it. -/
structure Tried where
  name : Bytes
  reply : QueryReply
  herrno : HErrno

/- The variables of the loop. -/
structure Searching where
  herrno : HErrno
  gotNodata : Bool
  gotServfail : Bool
  saved : Option HErrno

/- The query that is under way. -/
inductive SearchWait where
| byAlias (name : Bytes)
| asIsFirst
| inDomain (domain : Bytes) (rest : List Bytes)
| asIsLast

/- What is returned, and `h_errno`. -/
abbrev SearchEnd : Type := Int × HErrno

abbrev SearchTurn : Type :=
  List Tried × ((Searching × SearchWait) ⊕ SearchEnd)

/- Behind all queries; `saved` is set if the first was as is. -/
def searchOver (st : Searching) : SearchEnd :=
  match st.saved with
  | some h => (-1, h)
  | none =>
      (-1, if st.gotNodata then .NO_DATA
        else if st.gotServfail then .TRY_AGAIN
        else st.herrno)

/- The next domain, or the name as it is, or the end. -/
def searchNext
    (st : Searching) :
    List Bytes → (Searching × SearchWait) ⊕ SearchEnd
| domain :: rest => .inl (st, .inDomain domain rest)
| [] =>
    match st.saved with
    | some _ => .inr (searchOver st)
    | none => .inl (st, .asIsLast)

/- The first of the domains, if the name is searched for. -/
def searchDomains
    (c : SearchCall)
    (st : Searching) :
    (Searching × SearchWait) ⊕ SearchEnd :=
  searchNext st (if c.searches then c.dnsrch else [])

/- The name is not there, and the next domain is tried. -/
def QueryReply.goesOn (r : QueryReply) (h : HErrno) : Bool :=
  h = .NO_DATA || h = .HOST_NOT_FOUND ||
    (h = .TRY_AGAIN && r.rcode = servfail)

/- Behind a query in a domain that had no answer. -/
def domainFailed
    (c : SearchCall)
    (st : Searching)
    (r : QueryReply)
    (rest : List Bytes) :
    (Searching × SearchWait) ⊕ SearchEnd :=
  if r.errno = .ECONNREFUSED then
    .inr (-1, .TRY_AGAIN)
  else
    let st := { st with
      gotNodata := st.gotNodata || st.herrno = .NO_DATA
      gotServfail := st.gotServfail ||
        (st.herrno = .TRY_AGAIN && r.rcode = servfail) }
    searchNext st
      (if r.goesOn st.herrno ∧ c.dnsrchSet = true then
        rest
      else
        [])

/- What is done with what came of a query. -/
def resSearchResume
    (c : SearchCall)
    (st : Searching)
    (r : QueryReply)
    (w : SearchWait) : SearchTurn :=
  let ret := (resQuery r).1
  let h := (resQuery r).2.getD st.herrno
  let st := { st with herrno := h }
  match w with
  | .byAlias name => ([⟨name, r, h⟩], .inr (ret, h))
  | .asIsFirst =>
      ([⟨resQuerydomain c.name none, r, h⟩],
        if 0 < ret then
          .inr (ret, h)
        else
          searchDomains c { st with saved := some h })
  | .inDomain domain rest =>
      ([⟨resQuerydomain c.name (some domain), r, h⟩],
        if 0 < ret then
          .inr (ret, h)
        else
          domainFailed c st r rest)
  | .asIsLast =>
      ([⟨resQuerydomain c.name none, r, h⟩],
        if 0 < ret then .inr (ret, h) else .inr (searchOver st))

def resSearchSession (c : SearchCall) :
    Session (Searching × SearchWait) QueryReply Tried
      SearchEnd where
  resume x r := resSearchResume c x.1 r x.2

/- `res_search`, up to its first query. -/
def resSearch (c : SearchCall) :
    (Searching × SearchWait) ⊕ SearchEnd :=
  let st : Searching := ⟨.HOST_NOT_FOUND, false, false, none⟩
  if c.dots = 0 ∧ c.hostAlias.isSome then
    .inl (st, .byAlias (c.hostAlias.getD []))
  else if c.ndots ≤ c.dots then
    .inl (st, .asIsFirst)
  else
    searchDomains c st

/- The queries, up to a time, and where the search is then. -/
def resSearchRun
    (c : SearchCall)
    (rs : List QueryReply) : SearchTurn :=
  (resSearchSession c).run rs ([], resSearch c)

------------------------------------------------------------
-- The Order Of The Names
------------------------------------------------------------

namespace SearchCall

variable (c : SearchCall)

/- The alias is asked for, and nothing else. -/
def aliased : Prop := c.dots = 0 ∧ c.hostAlias.isSome

instance : Decidable c.aliased := by
  unfold aliased
  infer_instance

/- The name as it is, in front of the domains. -/
def firstNames : List Bytes :=
  if c.ndots ≤ c.dots then
    [resQuerydomain c.name none]
  else
    []

/- The domains, or only the first of them. -/
def domains : List Bytes :=
  if c.searches then
    if c.dnsrchSet then c.dnsrch else c.dnsrch.take 1
  else
    []

def domainNames : List Bytes :=
  c.domains.map fun domain =>
    resQuerydomain c.name (some domain)

/- The name as it is, behind the domains. -/
def lastNames : List Bytes :=
  if c.ndots ≤ c.dots then
    []
  else
    [resQuerydomain c.name none]

/- The names that are asked for, with the first `k` domains. -/
def plan (k : Nat) : List Bytes :=
  if c.aliased then
    [c.hostAlias.getD []]
  else
    c.firstNames ++ c.domainNames.take k ++ c.lastNames

end SearchCall

/- The query brought no answer. -/
def Tried.Failed (t : Tried) : Prop := (resQuery t.reply).1 ≤ 0

/- No server was there. -/
def Tried.Refused (t : Tried) : Prop :=
  t.reply.errno = .ECONNREFUSED

/- A server failed. -/
def Tried.Servfail (t : Tried) : Prop :=
  t.herrno = .TRY_AGAIN ∧ t.reply.rcode = servfail

variable {c : SearchCall} {st : Searching}
variable {first doms log : List Tried}

/-
  What was tried, first as it is and then in some domains,
  and what the variables of the loop say about it.
-/
structure Searched
    (c : SearchCall)
    (st : Searching)
    (first doms : List Tried) : Prop where
  noAlias : ¬ c.aliased
  firstNames : first.map Tried.name = c.firstNames
  failed : ∀ t ∈ first ++ doms, t.Failed
  served : ∀ t ∈ doms, ¬ t.Refused
  saved : st.saved = first.head?.map Tried.herrno
  nodata : st.gotNodata = true ↔
    ∃ t ∈ doms, t.herrno = .NO_DATA
  failing : st.gotServfail = true ↔ ∃ t ∈ doms, t.Servfail

/-
  Why the search failed: at a domain no server was there; or
  all was tried, and what was said to the name as it is goes
  first, if this was tried first.
-/
def FailedWith
    (c : SearchCall)
    (log : List Tried)
    (h : HErrno) : Prop :=
  ∃ first doms last, log = first ++ doms ++ last ∧
    first.map Tried.name = c.firstNames ∧
    ((last = [] ∧ h = .TRY_AGAIN ∧
        ∃ t ∈ doms.getLast?, t.Refused) ∨
      ((∀ t ∈ doms, ¬ t.Refused) ∧
        last.map Tried.name = c.lastNames ∧
        ((∃ t, first = [t] ∧ h = t.herrno) ∨
          ∃ t, last = [t] ∧
            ((∃ u ∈ doms, u.herrno = .NO_DATA) →
              h = .NO_DATA) ∧
            ((¬ ∃ u ∈ doms, u.herrno = .NO_DATA) →
              (∃ u ∈ doms, u.Servfail) → h = .TRY_AGAIN) ∧
            ((¬ ∃ u ∈ doms, u.herrno = .NO_DATA) →
              (¬ ∃ u ∈ doms, u.Servfail) → h = t.herrno))))

/- How a search ends. -/
structure SearchedOut
    (c : SearchCall)
    (log : List Tried)
    (e : SearchEnd) : Prop where
  names : ∃ k, log.map Tried.name <+: c.plan k
  found : 0 < e.1 → ∃ before t, log = before ++ [t] ∧
    (resQuery t.reply).1 = e.1 ∧ ∀ u ∈ before, u.Failed
  failed : e.1 ≤ 0 → ∀ t ∈ log, t.Failed
  reason : e.1 ≤ 0 → ¬ c.aliased → FailedWith c log e.2

/- The names so far, with the ones that may follow. -/
def InOrder
    (c : SearchCall)
    (doms : List Tried)
    (rest : List Bytes) : Prop :=
  doms.map Tried.name ++ rest.map (fun domain =>
    resQuerydomain c.name (some domain)) <+: c.domainNames

def searchProperty (c : SearchCall) :
    Session.Property (Searching × SearchWait) Tried
      SearchEnd where
  waits log x :=
    match x.2 with
    | .byAlias name =>
        log = [] ∧ c.aliased ∧ name = c.hostAlias.getD []
    | .asIsFirst =>
        log = [] ∧ ¬ c.aliased ∧ c.ndots ≤ c.dots ∧
          x.1.gotNodata = false ∧ x.1.gotServfail = false
    | .inDomain domain rest =>
        ∃ first doms, log = first ++ doms ∧
          Searched c x.1 first doms ∧
          InOrder c doms
            (domain :: if c.dnsrchSet then rest else [])
    | .asIsLast =>
        ∃ doms, log = doms ∧ Searched c x.1 [] doms ∧
          InOrder c doms []
  ends log e := SearchedOut c log e

/- The names that were tried are in the order of the plan. -/
theorem InOrder.plan
    (hOrder : InOrder c doms [])
    (hFirst : first.map Tried.name = c.firstNames)
    (hAlias : ¬ c.aliased)
    {last : List Tried}
    (hLast : last.map Tried.name <+: c.lastNames) :
    ∃ k, (first ++ doms ++ last).map Tried.name <+:
      c.plan k := by
  unfold InOrder at hOrder
  rw [List.map_nil, List.append_nil] at hOrder
  refine ⟨(doms.map Tried.name).length, ?_⟩
  unfold SearchCall.plan
  rw [if_neg hAlias, ← List.prefix_iff_eq_take.mp hOrder,
    List.map_append, List.map_append, hFirst]
  exact (List.prefix_append_right_inj _).mpr hLast

theorem InOrder.stop
    {rest : List Bytes}
    (hOrder : InOrder c doms rest) :
    InOrder c doms [] := by
  unfold InOrder at hOrder ⊢
  rw [List.map_nil, List.append_nil]
  exact (List.prefix_append _ _).trans hOrder

theorem InOrder.plan_front
    {rest : List Bytes}
    (hOrder : InOrder c doms rest)
    (hFirst : first.map Tried.name = c.firstNames)
    (hAlias : ¬ c.aliased) :
    ∃ k, (first ++ doms).map Tried.name <+: c.plan k := by
  have hNames := @InOrder.plan c first doms hOrder.stop hFirst
    hAlias [] List.nil_prefix
  rw [List.append_nil] at hNames
  exact hNames

theorem InOrder.step
    {rest : List Bytes}
    {domain : Bytes}
    (hOrder : InOrder c doms (domain :: rest))
    {t : Tried}
    (hName : t.name = resQuerydomain c.name (some domain)) :
    InOrder c (doms ++ [t]) rest := by
  unfold InOrder at hOrder ⊢
  rw [List.map_append, List.map_singleton, hName,
    List.append_assoc]
  exact hOrder

------------------------------------------------------------
-- What A Query Leads To
------------------------------------------------------------

/- How far into a list of domains the search goes. -/
def SearchCall.follow
    (c : SearchCall)
    (rest : List Bytes) : List Bytes :=
  if c.dnsrchSet then rest else rest.take 1

theorem SearchCall.follow_cons
    (c : SearchCall)
    (domain : Bytes)
    (rest : List Bytes) :
    c.follow (domain :: rest) =
      domain :: if c.dnsrchSet then rest else [] := by
  unfold follow
  split
  · rfl
  · rfl

/- The name was tried as it is, or is not tried so first. -/
theorem Searched.first_cases
    (hSearched : Searched c st first doms) :
    (∃ t, first = [t] ∧ st.saved = some t.herrno ∧
      c.lastNames = []) ∨
    (first = [] ∧ st.saved = none ∧ c.firstNames = [] ∧
      c.lastNames = [resQuerydomain c.name none]) := by
  have hNames := hSearched.firstNames
  have hSaved := hSearched.saved
  unfold SearchCall.firstNames at hNames ⊢
  unfold SearchCall.lastNames
  by_cases hDots : c.ndots ≤ c.dots
  · left
    rw [if_pos hDots] at hNames ⊢
    rcases List.map_eq_singleton_iff.mp hNames with ⟨t, rfl, -⟩
    exact ⟨t, rfl, hSaved, rfl⟩
  · right
    rw [if_neg hDots] at hNames ⊢
    rw [List.map_eq_nil_iff] at hNames
    subst hNames
    exact ⟨rfl, hSaved, rfl, if_neg hDots⟩

theorem searchOver_saved
    {h : HErrno}
    (hSaved : st.saved = some h) :
    searchOver st = (-1, h) := by
  unfold searchOver
  rw [hSaved]

theorem searchNext_holds
    (hSearched : Searched c st first doms)
    {rest : List Bytes}
    (hOrder : InOrder c doms (c.follow rest)) :
    (searchProperty c).Holds
      (first ++ doms, searchNext st rest) := by
  cases rest with
  | cons domain rest =>
      rw [c.follow_cons] at hOrder
      exact ⟨first, doms, rfl, hSearched, hOrder⟩
  | nil =>
      have hStop := hOrder.stop
      unfold searchNext
      dsimp only
      rcases hSearched.first_cases with
        ⟨t, hFirst, hSaved, hLast⟩ | ⟨hFirst, hSaved, -, -⟩
      · rw [hSaved]
        dsimp only
        rw [searchOver_saved hSaved]
        exact {
          names := hStop.plan_front hSearched.firstNames
            hSearched.noAlias
          found := fun h => absurd h (by simp)
          failed := fun _ => hSearched.failed
          reason := fun _ _ => ⟨first, doms, [],
            (List.append_nil _).symm, hSearched.firstNames,
            .inr ⟨hSearched.served, hLast.symm,
              .inl ⟨t, hFirst, rfl⟩⟩⟩ }
      · rw [hSaved]
        subst hFirst
        exact ⟨doms, rfl, hSearched, hStop⟩

/- An answer ends the search. -/
theorem found_holds
    {before : List Tried}
    {t : Tried}
    (hFailed : ∀ u ∈ before, u.Failed)
    (hFound : 0 < (resQuery t.reply).1)
    (hNames : ∃ k, (before ++ [t]).map Tried.name <+:
      c.plan k) :
    SearchedOut c (before ++ [t])
      ((resQuery t.reply).1, t.herrno) where
  names := hNames
  found := fun _ => ⟨before, t, rfl, rfl, hFailed⟩
  failed := fun h => absurd hFound (not_lt.mpr h)
  reason := fun h => absurd hFound (not_lt.mpr h)

/- The variables of the loop, behind one more domain. -/
theorem Searched.domain
    (hSearched : Searched c st first doms)
    {t : Tried}
    (hFailed : t.Failed)
    (hServed : ¬ t.Refused) :
    Searched c { st with
      herrno := t.herrno
      gotNodata := st.gotNodata || t.herrno = .NO_DATA
      gotServfail := st.gotServfail ||
        (t.herrno = .TRY_AGAIN && t.reply.rcode = servfail) }
      first (doms ++ [t]) where
  noAlias := hSearched.noAlias
  firstNames := hSearched.firstNames
  failed := by
    intro u hU
    rw [← List.append_assoc] at hU
    rcases List.mem_append.mp hU with hOld | hNew
    · exact hSearched.failed u hOld
    · rwa [List.mem_singleton.mp hNew]
  served := by
    intro u hU
    rcases List.mem_append.mp hU with hOld | hNew
    · exact hSearched.served u hOld
    · rwa [List.mem_singleton.mp hNew]
  saved := hSearched.saved
  nodata := by
    simp [hSearched.nodata, or_and_right, exists_or]
  failing := by
    simp [hSearched.failing, or_and_right, exists_or,
      Tried.Servfail]

theorem domainFailed_holds
    (hSearched : Searched c st first doms)
    {domain : Bytes}
    {rest : List Bytes}
    (hOrder : InOrder c doms
      (domain :: if c.dnsrchSet then rest else []))
    {t : Tried}
    (hName : t.name = resQuerydomain c.name (some domain))
    (hFailed : t.Failed) :
    (searchProperty c).Holds
      (first ++ doms ++ [t], domainFailed c
        { st with herrno := t.herrno } t.reply rest) := by
  have hStep := hOrder.step hName
  have hAll : ∀ u ∈ first ++ doms ++ [t], u.Failed := by
    intro u hU
    rcases List.mem_append.mp hU with hOld | hNew
    · exact hSearched.failed u hOld
    · rwa [List.mem_singleton.mp hNew]
  unfold domainFailed
  dsimp only
  split
  next hRefused =>
      have hNames := hStep.plan_front hSearched.firstNames
        hSearched.noAlias
      rw [← List.append_assoc] at hNames
      have hLast : ∃ u ∈ (doms ++ [t]).getLast?, u.Refused :=
        ⟨t, List.getLast?_concat, hRefused⟩
      have hLog : first ++ doms ++ [t] =
          first ++ (doms ++ [t]) ++ [] := by
        rw [List.append_nil, List.append_assoc]
      exact {
        names := hNames
        found := fun h => absurd h (by simp)
        failed := fun _ => hAll
        reason := fun _ _ => ⟨first, doms ++ [t], [], hLog,
          hSearched.firstNames, .inl ⟨rfl, rfl, hLast⟩⟩ }
  next hServed =>
      rw [List.append_assoc]
      apply searchNext_holds (hSearched.domain hFailed hServed)
      split
      next hOn =>
          unfold SearchCall.follow
          rw [if_pos hOn.2]
          rw [if_pos hOn.2] at hStep
          exact hStep
      next =>
          unfold SearchCall.follow
          split
          · exact hStep.stop
          · exact hStep.stop

/- The name was tried as it is, and the domains follow. -/
theorem searchDomains_holds
    (hSearched : Searched c st first []) :
    (searchProperty c).Holds (first, searchDomains c st) := by
  have hOrder : InOrder c []
      (c.follow (if c.searches then c.dnsrch else [])) := by
    unfold InOrder SearchCall.domainNames SearchCall.domains
      SearchCall.follow
    by_cases hSearches : c.searches = true
    · rw [if_pos hSearches, if_pos hSearches]
      exact List.prefix_rfl
    · rw [if_neg hSearches, if_neg hSearches]
      simp
  have hHolds := searchNext_holds hSearched hOrder
  rw [List.append_nil] at hHolds
  exact hHolds

/- All was tried, the name as it is at the end. -/
theorem searchOver_holds
    (hSearched : Searched c st [] doms)
    (hOrder : InOrder c doms [])
    (hSaved : st.saved = none)
    (hLast : c.lastNames = [resQuerydomain c.name none])
    {t : Tried}
    (hName : t.name = resQuerydomain c.name none)
    (hFailed : t.Failed) :
    SearchedOut c (doms ++ [t])
      (searchOver { st with herrno := t.herrno }) := by
  have hOver : searchOver { st with herrno := t.herrno } =
      (-1, if st.gotNodata then .NO_DATA
        else if st.gotServfail then .TRY_AGAIN
        else t.herrno) := by
    unfold searchOver
    dsimp only
    rw [hSaved]
  have hNamesLast : [t].map Tried.name = c.lastNames := by
    rw [hLast, List.map_singleton, hName]
  rw [hOver]
  exact {
    names := hOrder.plan hSearched.firstNames
      hSearched.noAlias (hNamesLast ▸ List.prefix_rfl)
    found := fun h => absurd h (by simp)
    failed := by
      intro _ u hU
      rcases List.mem_append.mp hU with hOld | hNew
      · exact hSearched.failed u hOld
      · rwa [List.mem_singleton.mp hNew]
    reason := by
      intro _ _
      refine ⟨[], doms, [t], rfl, hSearched.firstNames,
        .inr ⟨hSearched.served, hNamesLast,
          .inr ⟨t, rfl, ?_, ?_, ?_⟩⟩⟩
      · intro hNodata
        exact if_pos (hSearched.nodata.mpr hNodata)
      · intro hNodata hServfail
        dsimp only
        rw [if_neg fun h => hNodata (hSearched.nodata.mp h),
          if_pos (hSearched.failing.mpr hServfail)]
      · intro hNodata hServfail
        dsimp only
        rw [if_neg fun h => hNodata (hSearched.nodata.mp h),
          if_neg fun h =>
            hServfail (hSearched.failing.mp h)] }

theorem resSearchResume_holds
    {w : SearchWait}
    (hWaits : (searchProperty c).waits log (st, w))
    (r : QueryReply) :
    (searchProperty c).Holds
      (log ++ (resSearchResume c st r w).1,
        (resSearchResume c st r w).2) := by
  cases w with
  | byAlias name =>
      rcases hWaits with ⟨rfl, hAlias, rfl⟩
      exact {
        names := ⟨0, by
          unfold SearchCall.plan
          rw [if_pos hAlias]
          exact List.prefix_rfl⟩
        found := fun _ =>
          ⟨[], _, rfl, rfl, List.forall_mem_nil _⟩
        failed := by
          intro h u hU
          rw [List.nil_append] at hU
          rw [List.mem_singleton.mp hU]
          exact h
        reason := fun _ h => absurd hAlias h }
  | asIsFirst =>
      rcases hWaits with ⟨rfl, hAlias, hDots, hNodata, hServfail⟩
      have hFirst : c.firstNames =
          [resQuerydomain c.name none] := if_pos hDots
      unfold resSearchResume
      dsimp only
      split
      next hFound =>
          refine found_holds (List.forall_mem_nil _) hFound
            ⟨0, ?_⟩
          unfold SearchCall.plan
          rw [if_neg hAlias, hFirst, List.append_assoc]
          exact List.prefix_append _ _
      next hFailed =>
          exact searchDomains_holds {
            noAlias := hAlias
            firstNames := hFirst.symm
            failed := by
              intro u hU
              rw [List.append_nil] at hU
              rw [List.mem_singleton.mp hU]
              exact not_lt.mp hFailed
            served := List.forall_mem_nil _
            saved := rfl
            nodata := by
              dsimp only at hNodata ⊢
              rw [hNodata]
              simp
            failing := by
              dsimp only at hServfail ⊢
              rw [hServfail]
              simp }
  | inDomain domain rest =>
      rcases hWaits with ⟨first, doms, rfl, hSearched, hOrder⟩
      unfold resSearchResume
      dsimp only
      split
      next hFound =>
          have hStep := hOrder.step (c := c)
            (t := ⟨resQuerydomain c.name (some domain), r,
              (resQuery r).2.getD st.herrno⟩) rfl
          have hNames := hStep.plan_front hSearched.firstNames
            hSearched.noAlias
          rw [← List.append_assoc] at hNames
          exact found_holds hSearched.failed hFound hNames
      next hFailed =>
          exact domainFailed_holds hSearched hOrder rfl
            (not_lt.mp hFailed)
  | asIsLast =>
      rcases hWaits with ⟨doms, rfl, hSearched, hOrder⟩
      rcases hSearched.first_cases with
        ⟨t, hNone, -, -⟩ | ⟨-, hSaved, -, hLast⟩
      · cases hNone
      unfold resSearchResume
      dsimp only
      split
      next hFound =>
          apply found_holds hSearched.failed hFound
          exact hOrder.plan hSearched.firstNames
            hSearched.noAlias (hLast ▸ List.prefix_rfl)
      next hFailed =>
          exact searchOver_holds hSearched hOrder hSaved hLast
            rfl (not_lt.mp hFailed)

theorem resSearch_holds (c : SearchCall) :
    (searchProperty c).Holds ([], resSearch c) := by
  unfold resSearch
  dsimp only
  split
  next hAlias => exact ⟨rfl, hAlias, rfl⟩
  next hAlias =>
      split
      next hDots => exact ⟨rfl, hAlias, hDots, rfl, rfl⟩
      next hDots =>
          exact searchDomains_holds {
            noAlias := hAlias
            firstNames := (if_neg hDots).symm
            failed := List.forall_mem_nil _
            served := List.forall_mem_nil _
            saved := rfl
            nodata := by simp
            failing := by simp }

theorem resSearchRun_holds
    (c : SearchCall)
    (rs : List QueryReply) :
    (searchProperty c).Holds (resSearchRun c rs) := by
  have hKeeps : (resSearchSession c).Keeps
      (searchProperty c) :=
    fun _ _ r hWaits => resSearchResume_holds hWaits r
  exact hKeeps.run rs (resSearch_holds c)

end Libsocket

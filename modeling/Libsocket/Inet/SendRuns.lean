import Libsocket.Inet.Send

/-
  Runs of `res_send`: for all replies of the network, what it
  does with its socket, which servers it asks and how often,
  and which answers it takes.

  Main declarations:
    * `resources`, `asks`, `NetEvent.Before`
    * `Sending.Sound`, `sendProperty`
    * `resSendRun_sound`
    * `resSendRun_socket`, `resSendRun_turns`
    * `resSendRun_accepts`, `resSendRun_reason`
-/

namespace Libsocket

------------------------------------------------------------
-- What A Record Says
------------------------------------------------------------

/- The socket as a resource. -/
def NetEvent.resource : NetEvent → Option (Resource.Event Nat)
| .opened s => some (.acquire s)
| .used (some s) => some (.use s)
| .used none => some .stray
| .closed s => some (.release s)
| .asked _ | .heard _ | .timedOut | .bad _ => none

def resources (log : List NetEvent) : List (Resource.Event Nat) :=
  log.filterMap NetEvent.resource

def NetEvent.isAsked : NetEvent → Bool
| .asked _ => true
| _ => false

/- How often a server was asked. -/
def asks (log : List NetEvent) : Nat :=
  log.countP NetEvent.isAsked

/- A datagram came, or none came in time. -/
def NetEvent.IsSign : NetEvent → Prop
| .heard _ | .timedOut => True
| _ => False

/- A server that is bad is not asked later. -/
def NetEvent.Before (e f : NetEvent) : Prop :=
  ∀ ns, e = .bad ns → f ≠ .asked ns

/- Nothing is heard, and nobody is asked. -/
def NetEvent.IsQuiet : NetEvent → Prop
| .bad _ | .closed _ => True
| _ => False

------------------------------------------------------------
-- What Holds Between Two Waits
------------------------------------------------------------

/- The turns of the loops that are left, with this one. -/
def Sending.slots (c : SendCall) (st : Sending) : Nat :=
  (c.retry - st.tries - 1) * c.nscount + (c.nscount - st.ns)

/- A server can be asked again over a virtual circuit, and
   again when this is reset. -/
def Sending.spare (st : Sending) : Nat :=
  (if st.vCircuit then 0 else 1) +
    (if st.connreset then 0 else 1)

/-
  The socket is in order; no bad server was asked; and the
  servers were asked no more often than turns have passed.
  `spent` tells if the server of this turn was asked.
-/
structure Sending.Sound
    (c : SendCall)
    (s₀ : Option Nat)
    (spent : Nat)
    (log : List NetEvent)
    (st : Sending) : Prop where
  held : Resource.replay (resources log) s₀.toList =
    some st.s.toList
  order : log.Pairwise NetEvent.Before
  marked : ∀ ns, .bad ns ∈ log → ns ∈ st.badns
  signs : st.gotsomewhere = true ↔ ∃ e ∈ log, e.IsSign
  turn : st.ns < c.nscount
  budget : asks log + st.slots c + st.spare ≤
    c.retry * c.nscount + 2 + spent

/- The query is out. -/
def Waiting.asked : Waiting → Bool
| .readLength _ _ | .readAnswer _ _ _ _ | .readJunk _ _
| .select | .recvfrom => true
| _ => false

/- What is waited for is a virtual circuit, or uses one. -/
def Waiting.circuit : Waiting → Bool
| .socketDg | .connectDg | .send | .sendto
| .select | .recvfrom => false
| _ => true

/- What is waited for is a socket. -/
def Waiting.opens : Waiting → Bool
| .socketVc | .socketDg => true
| _ => false

/-
  The last datagram is an answer: it has the number of the
  query, comes from a server and is about the questions of
  the query.
-/
def Heard
    (c : SendCall)
    (log : List NetEvent)
    (ans : Memory UInt8)
    (resplen : Nat) : Prop :=
  ∃ before r after m,
    log = before ++ .heard r :: after ∧
      (∀ e ∈ after, e.IsQuiet) ∧
      0 < r.n ∧ resplen = r.n.toNat ∧
      ans = Memory.store m 0 r.data ∧
      c.SameId ans ∧ c.FromServer r.source ∧ c.SameQueries ans

/- It was taken, too. -/
def Accepted
    (c : SendCall)
    (log : List NetEvent)
    (ans : Memory UInt8)
    (resplen : Nat) : Prop :=
  Heard c log ans resplen ∧
    (refused ans = true → c.pfcode ≠ 0) ∧
    (tc ans = true → c.igntc = true)

/- How a call leaves things. -/
structure Ended
    (c : SendCall)
    (s₀ : Option Nat)
    (log : List NetEvent)
    (st : Sending)
    (e : SendEnd) : Prop where
  held : Resource.replay (resources log) s₀.toList =
    some st.s.toList
  order : log.Pairwise NetEvent.Before
  asked : asks log ≤ c.retry * c.nscount + 2
  kept : st.s ≠ none → c.stayopen = true ∧
    (st.vCircuit = true → c.usevc = true ∧ st.ns = 0) ∧
    ∃ n, e = .answered n
  answer : ∀ n, e = .answered n → st.vCircuit = false →
    Accepted c log st.ans n
  reason : ∀ errno, e = .failed errno →
    errno = if st.vCircuit then st.terrno
      else if st.gotsomewhere then .ETIMEDOUT
      else .ECONNREFUSED
  signs : st.gotsomewhere = true ↔ ∃ e ∈ log, e.IsSign

def sendProperty
    (c : SendCall)
    (s₀ : Option Nat) :
    Session.Property (Sending × Waiting) NetEvent
      (Sending × SendEnd) where
  waits log x :=
    x.1.Sound c s₀ (if x.2.asked then 1 else 0) log ∧
      (x.1.s = none ↔ x.2.opens = true) ∧
      x.1.vCircuit = x.2.circuit ∧
      x.1.ns ∉ x.1.badns
  ends log x := Ended c s₀ log x.1 x.2

/- Behind a record, something is done. -/
def SendTurn.Goes
    (c : SendCall)
    (s₀ : Option Nat)
    (log : List NetEvent)
    (t : SendTurn) : Prop :=
  (sendProperty c s₀).Holds (log ++ t.1, t.2)

variable {c : SendCall} {s₀ : Option Nat} {spent : Nat}
variable {log : List NetEvent} {st : Sending}

/- With a socket at hand, none is waited for. -/
theorem opens_of_some
    (hSome : st.s ≠ none) :
    st.s = none ↔ false = true :=
  ⟨fun h => absurd h hSome,
    fun h => absurd h Bool.false_ne_true⟩

theorem SendTurn.goes_after
    {t : SendTurn}
    {es : List NetEvent}
    (hGoes : t.Goes c s₀ (log ++ es)) :
    (t.after es).Goes c s₀ log := by
  unfold SendTurn.Goes SendTurn.after
  rw [← List.append_assoc]
  exact hGoes

------------------------------------------------------------
-- One Event
------------------------------------------------------------

theorem resources_append
    (log es : List NetEvent) :
    resources (log ++ es) = resources log ++ resources es :=
  List.filterMap_append

theorem asks_append
    (log es : List NetEvent) :
    asks (log ++ es) = asks log + asks es :=
  List.countP_append

/- An event that fits is added to the record. -/
theorem Sending.Sound.record
    (hSound : st.Sound c s₀ spent log)
    (e : NetEvent)
    (st' : Sending)
    (spent' : Nat)
    (hHeld : Resource.replay (resources [e]) st.s.toList =
      some st'.s.toList)
    (hAsked : ∀ ns, e = .asked ns → ns ∉ st.badns)
    (hKept : ∀ ns ∈ st.badns, ns ∈ st'.badns)
    (hMarked : ∀ ns, e = .bad ns → ns ∈ st'.badns)
    (hSigns : st'.gotsomewhere = true ↔
      st.gotsomewhere = true ∨ e.IsSign)
    (hTurn : st'.ns = st.ns)
    (hBudget : asks [e] + st'.slots c + st'.spare + spent ≤
      st.slots c + st.spare + spent') :
    st'.Sound c s₀ spent' (log ++ [e]) where
  held := by
    rw [resources_append, Resource.replay_append, hSound.held]
    exact hHeld
  order := by
    rw [List.pairwise_append]
    refine ⟨hSound.order, List.pairwise_singleton _ _, ?_⟩
    intro f hF g hG ns hBad hAsk
    rw [List.mem_singleton] at hG
    rw [hBad] at hF
    exact hAsked ns (hG ▸ hAsk) (hSound.marked ns hF)
  marked := by
    intro ns hMem
    rcases List.mem_append.mp hMem with hOld | hNew
    · exact hKept ns (hSound.marked ns hOld)
    · exact hMarked ns (List.mem_singleton.mp hNew).symm
  signs := by
    rw [hSigns, hSound.signs]
    constructor
    · rintro (⟨f, hF, hSign⟩ | hSign)
      · exact ⟨f, List.mem_append_left _ hF, hSign⟩
      · exact ⟨e, List.mem_append_right _
          (List.mem_singleton.mpr rfl), hSign⟩
    · rintro ⟨f, hF, hSign⟩
      rcases List.mem_append.mp hF with hOld | hNew
      · exact .inl ⟨f, hOld, hSign⟩
      · exact .inr (List.mem_singleton.mp hNew ▸ hSign)
  turn := hTurn ▸ hSound.turn
  budget := by
    have hOld := hSound.budget
    rw [asks_append]
    omega

/- A call that uses the socket. -/
theorem Sending.Sound.used
    (hSound : st.Sound c s₀ spent log)
    (hSome : st.s ≠ none) :
    st.Sound c s₀ spent (log ++ [.used st.s]) := by
  rcases Option.ne_none_iff_exists'.mp hSome with ⟨s, hS⟩
  have hHeld : Resource.replay (resources [.used st.s])
      st.s.toList = some st.s.toList := by
    rw [hS]
    simp [resources, NetEvent.resource, Resource.replay]
  exact hSound.record _ st spent hHeld (by simp)
    (fun _ h => h) (by simp) (by simp [NetEvent.IsSign]) rfl
    (by simp [asks, NetEvent.isAsked])

/- A socket where there was none. -/
theorem Sending.Sound.opened
    (hSound : st.Sound c s₀ spent log)
    (hNone : st.s = none)
    (s : Nat) :
    Sending.Sound c s₀ spent (log ++ [.opened s])
      { st with s := some s } := by
  have hHeld : Resource.replay (resources [.opened s])
      st.s.toList = some [s] := by
    rw [hNone]
    rfl
  exact hSound.record _ { st with s := some s } spent hHeld
    (by simp) (fun _ h => h) (by simp)
    (by simp [NetEvent.IsSign]) rfl
    (by simp [asks, NetEvent.isAsked, slots, spare])

/- The other variables do not matter here. -/
theorem Sending.Sound.vary
    (hSound : st.Sound c s₀ spent log)
    (connected vc : Bool)
    (terrno : Errno)
    (ans : Memory UInt8) :
    Sending.Sound c s₀ spent log { st with
      connected := connected
      vc := vc
      terrno := terrno
      ans := ans } :=
  ⟨hSound.held, hSound.order, hSound.marked, hSound.signs,
    hSound.turn, hSound.budget⟩

/- The server of this turn is bad. -/
theorem Sending.Sound.bad
    (hSound : st.Sound c s₀ spent log) :
    Sending.Sound c s₀ spent (log ++ [.bad st.ns])
      { st with badns := st.ns :: st.badns } := by
  refine hSound.record _ { st with badns := st.ns :: st.badns }
    spent rfl (by simp) (fun _ h => List.mem_cons_of_mem _ h)
    ?_ (by simp [NetEvent.IsSign]) rfl
    (by simp [asks, NetEvent.isAsked, slots, spare])
  intro ns hBad
  cases hBad
  exact List.mem_cons_self

/- The server of this turn is asked. -/
theorem Sending.Sound.asked
    (hSound : st.Sound c s₀ 0 log)
    (hGood : st.ns ∉ st.badns) :
    st.Sound c s₀ 1 (log ++ [.asked st.ns]) := by
  refine hSound.record _ st 1 rfl ?_ (fun _ h => h) (by simp)
    (by simp [NetEvent.IsSign]) rfl ?_
  · intro ns hAsk
    cases hAsk
    exact hGood
  · have hOne : asks [.asked st.ns] = 1 := rfl
    omega

/- Something is known of the server. -/
theorem Sending.Sound.sign
    (hSound : st.Sound c s₀ spent log)
    {e : NetEvent}
    (hE : e.IsSign) :
    Sending.Sound c s₀ spent (log ++ [e])
      { st with gotsomewhere := true } := by
  have hAsks : asks [e] = 0 := by
    cases e with
    | heard r => rfl
    | timedOut => rfl
    | _ => exact hE.elim
  have hNone : resources [e] = [] := by
    cases e with
    | heard r => rfl
    | timedOut => rfl
    | _ => exact hE.elim
  refine hSound.record _ { st with gotsomewhere := true } spent
    ?_ ?_ (fun _ h => h) ?_ ?_ rfl ?_
  · rw [hNone]
    rfl
  · rintro ns rfl
    exact hE.elim
  · rintro ns rfl
    exact hE.elim
  · exact ⟨fun _ => .inr hE, fun _ => rfl⟩
  · rw [hAsks]
    exact Nat.le_of_eq (by simp [slots, spare])

------------------------------------------------------------
-- From Turn To Turn
------------------------------------------------------------

@[simp] theorem resClose_s : (resClose st).2.s = none := by
  unfold resClose
  split
  next hNone => exact hNone
  next => rfl

/- What closing leaves as it was. -/
theorem resClose_same :
    (resClose st).2 = { st with
      s := none
      connected := (resClose st).2.connected
      vc := (resClose st).2.vc } := by
  unfold resClose
  split
  next hNone =>
      cases st
      cases hNone
      rfl
  next => rfl

theorem Sending.Sound.closed
    (hSound : st.Sound c s₀ spent log) :
    (resClose st).2.Sound c s₀ spent
      (log ++ (resClose st).1) := by
  unfold resClose
  split
  next =>
      rw [List.append_nil]
      exact hSound
  next s hS =>
      have hHeld : Resource.replay (resources [.closed s])
          st.s.toList = some [] := by
        rw [hS]
        simp [resources, NetEvent.resource, Resource.replay]
      exact hSound.record _
        { st with s := none, connected := false, vc := false }
        spent hHeld (by simp) (fun _ h => h) (by simp)
        (by simp [NetEvent.IsSign]) rfl
        (by simp [asks, NetEvent.isAsked, slots, spare])

/- The next turn has one slot less. -/
theorem Sending.Sound.next
    (hSound : st.Sound c s₀ 1 log)
    {st' : Sending}
    (hNext : st.next c = some st') :
    st'.Sound c s₀ 0 log := by
  have hTurn := hSound.turn
  have hBudget := hSound.budget
  unfold Sending.next at hNext
  split at hNext
  next hServer =>
      cases hNext
      refine ⟨hSound.held, hSound.order, hSound.marked,
        hSound.signs, hServer, ?_⟩
      unfold slots spare at *
      dsimp only
      omega
  next hLast =>
      split at hNext
      next hRound =>
          cases hNext
          refine ⟨hSound.held, hSound.order, hSound.marked,
            hSound.signs, Nat.zero_lt_of_lt hTurn, ?_⟩
          have hRounds : c.retry - st.tries - 1 =
              (c.retry - (st.tries + 1) - 1) + 1 := by omega
          unfold slots spare at *
          rw [hRounds, Nat.add_mul] at hBudget
          dsimp only
          omega
      next => cases hNext

theorem Sending.Sound.more
    (hSound : st.Sound c s₀ 0 log) :
    st.Sound c s₀ 1 log :=
  { hSound with budget := Nat.le_succ_of_le hSound.budget }

theorem giveUp_goes
    (hSound : st.Sound c s₀ 1 log) :
    (giveUp st).Goes c s₀ log := by
  have hClosed := hSound.closed
  have hBudget := hClosed.budget
  have hTurn := hClosed.turn
  have hSame := @resClose_same st
  exact {
    held := hClosed.held
    order := hClosed.order
    asked := by
      change asks (log ++ (resClose st).1) ≤ _
      unfold Sending.slots at hBudget
      omega
    kept := fun hSome => absurd resClose_s hSome
    answer := by
      intro n hN
      cases hN
    reason := by
      intro errno hErrno
      cases hErrno
      dsimp only
      rw [hSame]
    signs := hClosed.signs }

/- A datagram is sent from a socket that is no circuit. -/
theorem sendDatagram_goes
    (hSound : st.Sound c s₀ 0 log)
    (hSome : st.s ≠ none)
    (hCircuit : st.vCircuit = false)
    (hGood : st.ns ∉ st.badns) :
    (sendDatagram c st).Goes c s₀ log := by
  have hOpen := opens_of_some hSome
  unfold sendDatagram SendTurn.Goes
  split
  · rw [List.append_nil]
    by_cases hConnected : st.connected
    · rw [if_pos hConnected]
      exact ⟨hSound, hOpen, hCircuit, hGood⟩
    · rw [if_neg hConnected]
      exact ⟨hSound, hOpen, hCircuit, hGood⟩
  · split
    · have hUsed := hSound.used hSome
      exact ⟨hUsed.vary false st.vc st.terrno st.ans, hOpen,
        hCircuit, hGood⟩
    · rw [List.append_nil]
      exact ⟨hSound, hOpen, hCircuit, hGood⟩

/- The last turn of a virtual circuit is the last round. -/
theorem Sending.Sound.lastRound
    (hSound : st.Sound c s₀ spent log) :
    Sending.Sound c s₀ spent log
      { st with tries := c.retry } := by
  have hBudget := hSound.budget
  refine ⟨hSound.held, hSound.order, hSound.marked,
    hSound.signs, hSound.turn, ?_⟩
  unfold slots spare at *
  dsimp only
  rw [Nat.sub_self, Nat.zero_sub, Nat.zero_mul]
  omega

theorem askServer_goes
    (hSound : st.Sound c s₀ 0 log)
    (hGood : st.ns ∉ st.badns) :
    (askServer c st).Goes c s₀ log := by
  unfold askServer
  split
  next hCircuit =>
      have hLast := hSound.lastRound
      dsimp only
      split
      next =>
          have hClosed := hLast.closed
          refine ⟨hClosed, ?_, ?_, ?_⟩
          · simp [Waiting.opens]
          · rw [resClose_same]
            exact hCircuit
          · rw [resClose_same]
            exact hGood
      next hOpen =>
          have hSome : st.s ≠ none := fun h => hOpen (.inl h)
          unfold SendTurn.Goes
          rw [List.append_nil]
          exact ⟨hLast, opens_of_some hSome, hCircuit, hGood⟩
  next hCircuit =>
      rw [Bool.not_eq_true] at hCircuit
      split
      next hNew =>
          split
          next =>
              refine ⟨hSound.closed, ?_, ?_, ?_⟩
              · simp [Waiting.opens]
              · rw [resClose_same]
                exact hCircuit
              · rw [resClose_same]
                exact hGood
          next hVc =>
              have hNone := hNew.resolve_right hVc
              unfold SendTurn.Goes
              rw [List.append_nil]
              exact ⟨hSound, ⟨fun _ => rfl, fun _ => hNone⟩,
                hCircuit, hGood⟩
      next hOpen =>
          exact sendDatagram_goes hSound
            (fun h => hOpen (.inl h)) hCircuit hGood

theorem sameNs_goes
    (hSound : st.Sound c s₀ 0 log) :
    (sameNs c st).Goes c s₀ log := by
  fun_induction sameNs c st generalizing log with
  | case1 st hBad st' hNext ih =>
      exact SendTurn.goes_after
        (ih (hSound.closed.more.next hNext))
  | case2 st hBad hNext =>
      exact SendTurn.goes_after
        (giveUp_goes hSound.closed.more)
  | case3 st hGood => exact askServer_goes hSound hGood

theorem nextNs_goes
    (hSound : st.Sound c s₀ 1 log) :
    (nextNs c st).Goes c s₀ log := by
  unfold nextNs
  split
  next st' hNext => exact sameNs_goes (hSound.next hNext)
  next => exact giveUp_goes hSound

theorem closeNext_goes
    (hSound : st.Sound c s₀ 1 log) :
    (closeNext c st).Goes c s₀ log :=
  SendTurn.goes_after (nextNs_goes hSound.closed)

theorem badNext_goes
    (hSound : st.Sound c s₀ 1 log) :
    (badNext c st).Goes c s₀ log :=
  SendTurn.goes_after (closeNext_goes hSound.bad)

------------------------------------------------------------
-- Answers
------------------------------------------------------------

theorem resClose_quiet :
    ∀ e ∈ (resClose st).1, e.IsQuiet := by
  intro e hE
  unfold resClose at hE
  split at hE
  · cases hE
  · rw [List.mem_singleton] at hE
    rw [hE]
    exact trivial

/- Quiet events change nothing about the last datagram. -/
theorem Heard.quiet
    {ans : Memory UInt8}
    {resplen : Nat}
    (hHeard : Heard c log ans resplen)
    {es : List NetEvent}
    (hQuiet : ∀ e ∈ es, e.IsQuiet) :
    Heard c (log ++ es) ans resplen := by
  rcases hHeard with ⟨before, r, after, m, hLog, hAfter, hRest⟩
  refine ⟨before, r, after ++ es, m, ?_, ?_, hRest⟩
  · rw [hLog, List.append_assoc, List.cons_append]
  · intro e hE
    rcases List.mem_append.mp hE with hOld | hNew
    · exact hAfter e hOld
    · exact hQuiet e hNew

theorem gotAnswer_goes
    (hSound : st.Sound c s₀ 1 log)
    {resplen : Nat}
    (hAnswer : st.vCircuit = false →
      Accepted c log st.ans resplen) :
    (gotAnswer c st resplen).Goes c s₀ log := by
  have hFew : ∀ log', st.Sound c s₀ 1 log' →
      asks log' ≤ c.retry * c.nscount + 2 := by
    intro log' hSound'
    have hBudget := hSound'.budget
    have hTurn := hSound'.turn
    unfold Sending.slots at hBudget
    omega
  unfold gotAnswer
  split
  next =>
      have hClosed := hSound.closed
      have hBudget := hClosed.budget
      have hTurn := hClosed.turn
      exact {
        held := hClosed.held
        order := hClosed.order
        asked := by
          unfold Sending.slots at hBudget
          dsimp only
          omega
        kept := fun hSome => absurd resClose_s hSome
        answer := by
          rintro n ⟨⟩ hCircuit
          dsimp only at hCircuit ⊢
          rw [resClose_same] at hCircuit ⊢
          have hAccepted := hAnswer hCircuit
          exact ⟨hAccepted.1.quiet resClose_quiet,
            hAccepted.2⟩
        reason := nofun
        signs := hClosed.signs }
  next hStay =>
      unfold SendTurn.Goes
      rw [List.append_nil]
      have hStays : c.stayopen = true := by
        by_contra hNot
        exact hStay (.inr (Bool.not_eq_true _ ▸ hNot))
      have hFirst : st.vCircuit = true →
          c.usevc = true ∧ st.ns = 0 := by
        intro hCircuit
        constructor
        · by_contra hNot
          exact hStay (.inl ⟨hCircuit,
            .inl (Bool.not_eq_true _ ▸ hNot)⟩)
        · by_contra hNot
          exact hStay (.inl ⟨hCircuit, .inr hNot⟩)
      exact {
        held := hSound.held
        order := hSound.order
        asked := hFew log hSound
        kept := fun _ => ⟨hStays, hFirst, resplen, rfl⟩
        answer := by
          rintro n ⟨⟩ hCircuit
          exact hAnswer hCircuit
        reason := nofun
        signs := hSound.signs }

/- The server of this turn can be asked over a circuit. -/
theorem Sending.Sound.circuit
    (hSound : st.Sound c s₀ 1 log)
    (hNot : st.vCircuit = false) :
    Sending.Sound c s₀ 0 log { st with vCircuit := true } := by
  have hBudget := hSound.budget
  refine ⟨hSound.held, hSound.order, hSound.marked,
    hSound.signs, hSound.turn, ?_⟩
  unfold slots spare at *
  rw [hNot] at hBudget
  simp only [Bool.false_eq_true, if_false, if_true] at *
  omega

/- It can be asked again, once. -/
theorem Sending.Sound.reset
    (hSound : st.Sound c s₀ 1 log)
    (hNot : st.connreset = false) :
    Sending.Sound c s₀ 0 log { st with connreset := true } := by
  have hBudget := hSound.budget
  refine ⟨hSound.held, hSound.order, hSound.marked,
    hSound.signs, hSound.turn, ?_⟩
  unfold slots spare at *
  rw [hNot] at hBudget
  simp only [Bool.false_eq_true, if_false, if_true] at *
  omega

theorem wholeAnswer_goes
    (hSound : st.Sound c s₀ 1 log)
    (hCircuit : st.vCircuit = false)
    {resplen : Nat}
    (hHeard : Heard c log st.ans resplen)
    (hRefused : refused st.ans = true → c.pfcode ≠ 0) :
    (wholeAnswer c st resplen).Goes c s₀ log := by
  unfold wholeAnswer
  split
  next =>
      apply SendTurn.goes_after
      apply sameNs_goes
      apply hSound.closed.circuit
      rw [resClose_same]
      exact hCircuit
  next hWhole =>
      apply gotAnswer_goes hSound
      intro _
      refine ⟨hHeard, hRefused, ?_⟩
      intro hTc
      by_contra hNot
      exact hWhole ⟨Bool.not_eq_true _ ▸ hNot, hTc⟩

/- Closing does not look at the bad servers. -/
theorem resClose_badns
    (badns : List Nat) :
    resClose { st with badns := badns } =
      ((resClose st).1,
        { (resClose st).2 with badns := badns }) := by
  unfold resClose
  cases hS : st.s with
  | none => simp [hS]
  | some s => simp

theorem ourAnswer_goes
    (hSound : st.Sound c s₀ 1 log)
    (hCircuit : st.vCircuit = false)
    {resplen : Nat}
    (hHeard : Heard c log st.ans resplen) :
    (ourAnswer c st resplen).Goes c s₀ log := by
  unfold ourAnswer
  split
  next =>
      have hClosed := hSound.bad.closed
      rw [resClose_badns, List.append_assoc,
        List.singleton_append] at hClosed
      apply SendTurn.goes_after
      split
      next => exact nextNs_goes hClosed
      next hDig =>
          apply wholeAnswer_goes hClosed
          · dsimp only
            rw [resClose_same]
            exact hCircuit
          · dsimp only
            rw [resClose_same]
            apply hHeard.quiet
            intro e hE
            rcases List.mem_cons.mp hE with rfl | hClose
            · exact trivial
            · exact resClose_quiet e hClose
          · exact fun _ => hDig
  next hServed =>
      exact wholeAnswer_goes hSound hCircuit hHeard
        fun hRefused => absurd hRefused hServed

theorem received_goes
    (hSound : st.Sound c s₀ 1 log)
    (hCircuit : st.vCircuit = false)
    (hSome : st.s ≠ none)
    (hGood : st.ns ∉ st.badns)
    (r : Reply) :
    (received c st r).Goes c s₀ log := by
  unfold received
  split
  next => exact closeNext_goes hSound
  next hSize =>
      have hHeard := hSound.sign (e := .heard r) trivial
      have hStored := hHeard.vary st.connected st.vc st.terrno
        (st.ans.store 0 r.data)
      apply SendTurn.goes_after
      split
      next hOurs =>
          apply ourAnswer_goes hStored hCircuit
          exact ⟨log, r, [], st.ans, rfl, List.forall_mem_nil _,
            not_le.mp hSize, rfl, rfl, hOurs.1, hOurs.2.1,
            hOurs.2.2⟩
      next =>
          unfold SendTurn.Goes
          rw [List.append_nil]
          exact ⟨hStored, opens_of_some hSome, hCircuit, hGood⟩

theorem selected_goes
    (hSound : st.Sound c s₀ 1 log)
    (hCircuit : st.vCircuit = false)
    (hSome : st.s ≠ none)
    (hGood : st.ns ∉ st.badns)
    (r : Reply) :
    (selected c st r).Goes c s₀ log := by
  have hOpen := opens_of_some hSome
  unfold selected
  split
  next =>
      split
      next =>
          unfold SendTurn.Goes
          rw [List.append_nil]
          exact ⟨hSound, hOpen, hCircuit, hGood⟩
      next => exact closeNext_goes hSound
  next =>
      split
      next =>
          exact SendTurn.goes_after
            (closeNext_goes (hSound.sign trivial))
      next =>
          unfold SendTurn.Goes
          rw [List.append_nil]
          exact ⟨hSound, hOpen, hCircuit, hGood⟩

theorem written_goes
    (hSound : st.Sound c s₀ 0 log)
    (hSome : st.s ≠ none)
    (hGood : st.ns ∉ st.badns)
    (whole : Bool)
    {w : Waiting}
    (hAsked : w.asked = true)
    (hOpens : w.opens = false)
    (hCircuit : st.vCircuit = w.circuit) :
    (written c st whole w).Goes c s₀ log := by
  unfold written
  split
  next =>
      refine ⟨?_, ?_, hCircuit, hGood⟩
      · rw [if_pos hAsked]
        exact hSound.asked hGood
      · rw [hOpens]
        exact opens_of_some hSome
  next => exact badNext_goes hSound.more

------------------------------------------------------------
-- Reading From A Circuit
------------------------------------------------------------

/- An answer that came over a circuit ends the call. -/
theorem gotAnswer_circuit
    (hSound : st.Sound c s₀ 1 log)
    (hCircuit : st.vCircuit = true)
    (resplen : Nat) :
    (gotAnswer c st resplen).Goes c s₀ log := by
  apply gotAnswer_goes hSound
  intro hNot
  rw [hCircuit] at hNot
  cases hNot

/- More is read, from the same circuit. -/
theorem readOn_goes
    (hSound : st.Sound c s₀ 1 log)
    (hSome : st.s ≠ none)
    (hGood : st.ns ∉ st.badns)
    (hCircuit : st.vCircuit = true)
    (ans : Memory UInt8)
    {w : Waiting}
    (hAsked : w.asked = true)
    (hOpens : w.opens = false)
    (hReads : w.circuit = true) :
    SendTurn.Goes c s₀ log
      ([], .inl ({ st with ans := ans }, w)) := by
  unfold SendTurn.Goes
  rw [List.append_nil]
  refine ⟨?_, ?_, hCircuit.trans hReads.symm, hGood⟩
  · rw [if_pos hAsked]
    exact hSound.vary st.connected st.vc st.terrno ans
  · rw [hOpens]
    exact opens_of_some hSome

theorem lengthKnown_goes
    (hSound : st.Sound c s₀ 1 log)
    (hSome : st.s ≠ none)
    (hGood : st.ns ∉ st.badns)
    (hCircuit : st.vCircuit = true) :
    (lengthKnown c st).Goes c s₀ log := by
  have hOn := fun ans w => @readOn_goes c s₀ log st hSound
    hSome hGood hCircuit ans w
  unfold lengthKnown
  dsimp only
  split
  next => exact gotAnswer_circuit hSound hCircuit _
  next =>
      split
      next =>
          split
          next => exact hOn _ _ rfl rfl rfl
          next => exact hOn _ _ rfl rfl rfl
      next => exact hOn _ _ rfl rfl rfl

theorem lengthRead_goes
    (hSound : st.Sound c s₀ 1 log)
    (hSome : st.s ≠ none)
    (hGood : st.ns ∉ st.badns)
    (hCircuit : st.vCircuit = true)
    (cp len : Nat)
    (r : Reply) :
    (lengthRead c st cp len r).Goes c s₀ log := by
  have hOn := fun ans w => @readOn_goes c s₀ log st hSound
    hSome hGood hCircuit ans w
  unfold lengthRead
  split
  next =>
      have hStored := hSound.vary st.connected st.vc st.terrno
        (st.ans.store cp r.data)
      dsimp only
      split
      next => exact lengthKnown_goes hStored hSome hGood hCircuit
      next => exact hOn _ _ rfl rfl rfl
  next =>
      have hFailed := hSound.vary st.connected st.vc r.errno
        st.ans
      have hClosed := hFailed.closed
      apply SendTurn.goes_after
      split
      next hReset =>
          apply sameNs_goes
          apply hClosed.reset
          rw [resClose_same]
          exact hReset.2
      next => exact nextNs_goes hClosed

theorem answerRead_goes
    (hSound : st.Sound c s₀ 1 log)
    (hSome : st.s ≠ none)
    (hGood : st.ns ∉ st.badns)
    (hCircuit : st.vCircuit = true)
    (cp len resplen : Nat)
    (truncated : Bool)
    (r : Reply) :
    (answerRead c st cp len resplen truncated r).Goes
      c s₀ log := by
  have hOn := fun ans w => @readOn_goes c s₀ log st hSound
    hSome hGood hCircuit ans w
  unfold answerRead
  split
  next =>
      have hStored := hSound.vary st.connected st.vc st.terrno
        (st.ans.store cp r.data)
      dsimp only
      split
      next =>
          unfold answerWhole
          split
          next => exact hOn _ _ rfl rfl rfl
          next => exact gotAnswer_circuit hStored hCircuit _
      next => exact hOn _ _ rfl rfl rfl
  next =>
      exact closeNext_goes
        (hSound.vary st.connected st.vc r.errno st.ans)

theorem junkRead_goes
    (hSound : st.Sound c s₀ 1 log)
    (hSome : st.s ≠ none)
    (hGood : st.ns ∉ st.badns)
    (hCircuit : st.vCircuit = true)
    (len resplen : Nat)
    (r : Reply) :
    (junkRead c st len resplen r).Goes c s₀ log := by
  unfold junkRead
  split
  next =>
      exact readOn_goes hSound hSome hGood hCircuit st.ans
        rfl rfl rfl
  next => exact gotAnswer_circuit hSound hCircuit resplen

------------------------------------------------------------
-- One Reply, And All
------------------------------------------------------------

/- No socket was got. -/
theorem noSocket_goes
    (hSound : st.Sound c s₀ 0 log)
    (hNone : st.s = none)
    (errno : Errno) :
    SendTurn.Goes c s₀ log
      ([], .inr ({ st with s := none }, .noSocket errno)) := by
  have hBudget := hSound.budget
  have hTurn := hSound.turn
  unfold SendTurn.Goes
  rw [List.append_nil]
  exact {
    held := hNone ▸ hSound.held
    order := hSound.order
    asked := by
      unfold Sending.slots at hBudget
      omega
    kept := fun hSome => absurd rfl hSome
    answer := nofun
    reason := nofun
    signs := hSound.signs }

theorem resSendResume_goes
    {w : Waiting}
    (hWaits : (sendProperty c s₀).waits log (st, w))
    (r : Reply) :
    (resSendResume c st r w).Goes c s₀ log := by
  rcases hWaits with ⟨hSound, hOpens, hCircuit, hGood⟩
  dsimp only at hSound hOpens hCircuit hGood
  cases w with
  | socketVc =>
      have hNone := hOpens.mpr rfl
      unfold resSendResume
      dsimp only
      split
      next => exact noSocket_goes hSound hNone r.errno
      next =>
          exact ⟨hSound.opened hNone r.n.toNat, by simp
            [Waiting.opens], hCircuit, hGood⟩
  | connectVc =>
      have hSome : st.s ≠ none := fun h => nomatch hOpens.mp h
      have hUsed := hSound.used hSome
      apply SendTurn.goes_after
      split
      next =>
          exact badNext_goes (hUsed.vary st.connected st.vc
            r.errno st.ans).more
      next =>
          unfold SendTurn.Goes
          rw [List.append_nil]
          exact ⟨hUsed.vary st.connected true st.terrno st.ans,
            hOpens, hCircuit, hGood⟩
  | writev =>
      have hSome : st.s ≠ none := fun h => nomatch hOpens.mp h
      have hUsed := hSound.used hSome
      apply SendTurn.goes_after
      split
      next =>
          exact written_goes hUsed hSome hGood true rfl rfl
            hCircuit
      next =>
          exact badNext_goes (hUsed.vary st.connected st.vc
            r.errno st.ans).more
  | readLength cp len =>
      have hSome : st.s ≠ none := fun h => nomatch hOpens.mp h
      exact SendTurn.goes_after (lengthRead_goes
        (hSound.used hSome) hSome hGood hCircuit cp len r)
  | readAnswer cp len resplen truncated =>
      have hSome : st.s ≠ none := fun h => nomatch hOpens.mp h
      exact SendTurn.goes_after (answerRead_goes
        (hSound.used hSome) hSome hGood hCircuit cp len
        resplen truncated r)
  | readJunk len resplen =>
      have hSome : st.s ≠ none := fun h => nomatch hOpens.mp h
      exact SendTurn.goes_after (junkRead_goes
        (hSound.used hSome) hSome hGood hCircuit len resplen r)
  | socketDg =>
      have hNone := hOpens.mpr rfl
      unfold resSendResume
      dsimp only
      split
      next => exact noSocket_goes hSound hNone r.errno
      next =>
          have hOpened := hSound.opened hNone r.n.toNat
          apply SendTurn.goes_after
          exact sendDatagram_goes
            (hOpened.vary false st.vc st.terrno st.ans)
            (Option.some_ne_none _) hCircuit hGood
  | connectDg =>
      have hSome : st.s ≠ none := fun h => nomatch hOpens.mp h
      have hUsed := hSound.used hSome
      apply SendTurn.goes_after
      split
      next => exact badNext_goes hUsed.more
      next =>
          unfold SendTurn.Goes
          rw [List.append_nil]
          exact ⟨hUsed.vary true st.vc st.terrno st.ans,
            hOpens, hCircuit, hGood⟩
  | send =>
      have hSome : st.s ≠ none := fun h => nomatch hOpens.mp h
      exact SendTurn.goes_after (written_goes
        (hSound.used hSome) hSome hGood _ rfl rfl hCircuit)
  | sendto =>
      have hSome : st.s ≠ none := fun h => nomatch hOpens.mp h
      exact SendTurn.goes_after (written_goes
        (hSound.used hSome) hSome hGood _ rfl rfl hCircuit)
  | select =>
      have hSome : st.s ≠ none := fun h => nomatch hOpens.mp h
      exact SendTurn.goes_after (selected_goes
        (hSound.used hSome) hCircuit hSome hGood r)
  | recvfrom =>
      have hSome : st.s ≠ none := fun h => nomatch hOpens.mp h
      exact SendTurn.goes_after (received_goes
        (hSound.used hSome) hCircuit hSome hGood r)

/- Without rounds or servers, nothing is done. -/
theorem giveUp_first
    (hS : st.s = s₀)
    (hSome : st.gotsomewhere = false) :
    (giveUp st).Goes c s₀ [] := by
  have hQuiet := @resClose_quiet st
  have hSame := @resClose_same st
  have hAsks : asks (resClose st).1 = 0 := by
    apply List.countP_eq_zero.mpr
    intro e hE
    cases e with
    | asked ns => exact (hQuiet _ hE).elim
    | _ => exact Bool.false_ne_true
  exact {
    held := by
      change Resource.replay (resources (resClose st).1)
        s₀.toList = some (resClose st).2.s.toList
      rw [resClose_s, ← hS]
      unfold resClose
      cases hOld : st.s with
      | none => rfl
      | some s =>
          simp [resources, NetEvent.resource, Resource.replay]
    order := by
      change (resClose st).1.Pairwise NetEvent.Before
      unfold resClose
      split
      · exact .nil
      · exact List.pairwise_singleton _ _
    asked := by
      change asks (resClose st).1 ≤ _
      omega
    kept := fun h => absurd resClose_s h
    answer := by
      intro n hEnd
      cases hEnd
    reason := by
      rintro errno ⟨⟩
      dsimp only
      rw [hSame]
    signs := by
      change (resClose st).2.gotsomewhere = true ↔
        ∃ e ∈ (resClose st).1, e.IsSign
      rw [hSame]
      dsimp only
      rw [hSome]
      refine ⟨fun hTrue => absurd hTrue Bool.false_ne_true, ?_⟩
      rintro ⟨e, hE, hSign⟩
      cases e with
      | heard r => exact (hQuiet _ hE).elim
      | timedOut => exact (hQuiet _ hE).elim
      | _ => exact hSign.elim }

theorem resSend_goes
    (c : SendCall)
    (s₀ : Option Nat)
    (connected vc : Bool)
    (ans : Memory UInt8) :
    (resSend c s₀ connected vc ans).Goes c s₀ [] := by
  unfold resSend
  dsimp only
  split
  next => exact giveUp_first rfl rfl
  next hSome =>
      apply sameNs_goes
      have hTurn : 0 < c.nscount :=
        Nat.pos_of_ne_zero fun h => hSome (.inr h)
      refine ⟨rfl, .nil, nofun, ?_, hTurn, ?_⟩
      · simp
      · rcases Nat.exists_eq_succ_of_ne_zero
            fun h => hSome (.inl h) with ⟨n, hN⟩
        unfold Sending.slots Sending.spare
        rw [hN]
        simp only [Nat.sub_zero, Nat.add_sub_cancel,
          Nat.succ_eq_add_one, Nat.add_mul, asks,
          List.countP_nil]
        split <;> simp

/- Every run keeps this. -/
theorem resSendRun_sound
    (c : SendCall)
    (s₀ : Option Nat)
    (connected vc : Bool)
    (ans : Memory UInt8)
    (rs : List Reply) :
    (sendProperty c s₀).Holds
      (resSendRun c s₀ connected vc ans rs) := by
  have hKeeps : (resSendSession c).Keeps (sendProperty c s₀) :=
    fun _ _ r hWaits => resSendResume_goes hWaits r
  exact hKeeps.run rs (resSend_goes c s₀ connected vc ans)

------------------------------------------------------------
-- What A Run Does
------------------------------------------------------------

/- How a run ended, and if a circuit was asked for. -/
def endOf :
    (Sending × Waiting) ⊕ (Sending × SendEnd) →
    Option (SendEnd × Bool)
| .inl _ => none
| .inr (st, e) => some (e, st.vCircuit)

theorem endOf_some
    {run : List NetEvent ×
      ((Sending × Waiting) ⊕ (Sending × SendEnd))}
    {e : SendEnd}
    {circuit : Bool}
    (hEnd : endOf run.2 = some (e, circuit)) :
    ∃ st, run = (run.1, .inr (st, e)) ∧
      st.vCircuit = circuit := by
  rcases run with ⟨log, x | ⟨st, e'⟩⟩
  · cases hEnd
  · cases hEnd
    exact ⟨st, rfl, rfl⟩

/- A query of 17 bytes to one server, in one round. -/
def oneServer : SendCall where
  usevc := false
  stayopen := false
  igntc := false
  insecure1 := false
  insecure2 := false
  pfcode := 0
  retry := 1
  servers := ⟨1, List.replicate maxNs (.nameserver .any), rfl⟩
  query := ⟨Memory.store (fun _ => 0) 0
    [0, 7, 1, 0, 0, 1, 0, 0, 0, 0, 0, 0, 0, 0, 1, 0, 1], 17⟩
  anssiz := 512

/- A call that returned a number, and nothing else. -/
def returned (n : Int) : Reply where
  n := n
  errno := .zero
  data := []
  source := .nameserver .any

/- The server sends the query back, as its answer. -/
def sentBack : Reply where
  n := 17
  errno := .zero
  data := [0, 7, 129, 0, 0, 1, 0, 0, 0, 0, 0, 0, 0, 0, 1, 0, 1]
  source := .nameserver .any

/-
  In every run the socket is used only while it is open, and
  never a second is open. At the end it is closed, unless
  an answer came and it is to stay open; then a circuit goes
  to the first server.
-/
theorem resSendRun_socket
    (c : SendCall)
    (s₀ : Option Nat)
    (connected vc : Bool)
    (ans : Memory UInt8)
    (rs : List Reply) :
    let run := resSendRun c s₀ connected vc ans rs
    ∃ held : Option Nat,
      Resource.replay (resources run.1) s₀.toList =
        some held.toList ∧
      (∀ st w, run.2 = .inl (st, w) → held = st.s) ∧
      ∀ st e, run.2 = .inr (st, e) → held = st.s ∧
        (held ≠ none → c.stayopen = true ∧
          (st.vCircuit = true → c.usevc = true ∧ st.ns = 0) ∧
          ∃ n, e = .answered n) := by
  have hHolds := resSendRun_sound c s₀ connected vc ans rs
  generalize resSendRun c s₀ connected vc ans rs = run at *
  rcases run with ⟨log, ⟨st, w⟩ | ⟨st, e⟩⟩
  · refine ⟨st.s, hHolds.1.held, ?_, ?_⟩
    · intro st' w' hRun
      cases hRun
      rfl
    · intro st' e' hRun
      cases hRun
  · refine ⟨st.s, hHolds.held, ?_, ?_⟩
    · intro st' w' hRun
      cases hRun
    · intro st' e' hRun
      cases hRun
      exact ⟨rfl, hHolds.kept⟩

/-
  No server is asked after it turned out bad, and each once
  in a round; two queries more there can be, over a virtual
  circuit and when this is reset.
-/
theorem resSendRun_turns
    (c : SendCall)
    (s₀ : Option Nat)
    (connected vc : Bool)
    (ans : Memory UInt8)
    (rs : List Reply) :
    let log := (resSendRun c s₀ connected vc ans rs).1
    (log.Pairwise fun e f =>
      ∀ ns, e = .bad ns → f ≠ .asked ns) ∧
    asks log ≤ c.retry * c.nscount + 2 := by
  have hHolds := resSendRun_sound c s₀ connected vc ans rs
  generalize resSendRun c s₀ connected vc ans rs = run at *
  rcases run with ⟨log, ⟨st, w⟩ | ⟨st, e⟩⟩
  · have hBudget := hHolds.1.budget
    have hTurn := hHolds.1.turn
    have hSpent : (if w.asked then 1 else 0) ≤ 1 := by
      split <;> omega
    unfold Sending.slots at hBudget
    dsimp only at hBudget hTurn
    refine ⟨hHolds.1.order, ?_⟩
    dsimp only
    omega
  · exact ⟨hHolds.order, hHolds.asked⟩

/-
  An answer to a datagram is the last one that came; it has
  the number of the query and, unless the checks are off, a
  server as its source and the questions of the query. It is
  not cut, unless this is ignored.
-/
theorem resSendRun_accepts
    {c : SendCall}
    {s₀ : Option Nat}
    {connected vc : Bool}
    {ans : Memory UInt8}
    {rs : List Reply}
    {log : List NetEvent}
    {st : Sending}
    {resplen : Nat}
    (hEnd : resSendRun c s₀ connected vc ans rs =
      (log, .inr (st, .answered resplen)))
    (hDatagram : st.vCircuit = false) :
    Accepted c log st.ans resplen := by
  have hHolds := resSendRun_sound c s₀ connected vc ans rs
  rw [hEnd] at hHolds
  exact hHolds.answer resplen rfl hDatagram

theorem resSendRun_accepts_one :
    ∃ log st, resSendRun oneServer none false false
        (fun _ => 0) [returned 3, returned 0, returned 17,
          returned 1, sentBack] =
        (log, .inr (st, .answered 17)) ∧
      Accepted oneServer log st.ans 17 := by
  have hEnd : endOf (resSendRun oneServer none false false
      (fun _ => 0) [returned 3, returned 0, returned 17,
        returned 1, sentBack]).2 =
      some (.answered 17, false) := by
    decide +kernel
  rcases endOf_some hEnd with ⟨st, hRun, hDatagram⟩
  exact ⟨_, st, hRun, resSendRun_accepts hRun hDatagram⟩

/-
  A call that gives up says `ECONNREFUSED` exactly if no
  datagram came and no wait for one timed out; a virtual
  circuit tells its own error.
-/
theorem resSendRun_reason
    {c : SendCall}
    {s₀ : Option Nat}
    {connected vc : Bool}
    {ans : Memory UInt8}
    {rs : List Reply}
    {log : List NetEvent}
    {st : Sending}
    {errno : Errno}
    (hEnd : resSendRun c s₀ connected vc ans rs =
      (log, .inr (st, .failed errno))) :
    (st.vCircuit = true → errno = st.terrno) ∧
    (st.vCircuit = false → (∃ e ∈ log, e.IsSign) →
      errno = .ETIMEDOUT) ∧
    (st.vCircuit = false → (¬ ∃ e ∈ log, e.IsSign) →
      errno = .ECONNREFUSED) := by
  have hHolds := resSendRun_sound c s₀ connected vc ans rs
  rw [hEnd] at hHolds
  have hReason := hHolds.reason errno rfl
  have hSigns := hHolds.signs
  dsimp only at hReason hSigns
  refine ⟨?_, ?_, ?_⟩
  · intro hCircuit
    rw [hReason, if_pos hCircuit]
  · intro hDatagram hSign
    rw [hReason, hDatagram, if_neg Bool.false_ne_true,
      if_pos (hSigns.mpr hSign)]
  · intro hDatagram hNone
    rw [hReason, hDatagram, if_neg Bool.false_ne_true,
      if_neg fun h => hNone (hSigns.mp h)]

theorem resSendRun_reason_timeout :
    ∃ log st, resSendRun oneServer none false false
        (fun _ => 0) [returned 3, returned 0, returned 17,
          returned 0] =
        (log, .inr (st, .failed .ETIMEDOUT)) ∧
      (st.vCircuit = false → (¬ ∃ e ∈ log, e.IsSign) →
        Errno.ETIMEDOUT = .ECONNREFUSED) := by
  have hEnd : endOf (resSendRun oneServer none false false
      (fun _ => 0) [returned 3, returned 0, returned 17,
        returned 0]).2 = some (.failed .ETIMEDOUT, false) := by
    decide +kernel
  rcases endOf_some hEnd with ⟨st, hRun, -⟩
  exact ⟨_, st, hRun, (resSendRun_reason hRun).2.2⟩

end Libsocket

import Libsocket.Unix.Channel
import Libsocket.Unix.PairOutcome

/-
  What the bytes that come out of one end of a pair of
  streams are, against those that went into the other.

  Main declarations:
    * `KeepsFiles`
    * `StreamPair`, `StreamPair.channels`
    * `PairTraffic`, `TakesFirst`
    * `stream_in_order`
-/

namespace Libsocket

open Command

------------------------------------------------------------
-- Files That Stay
------------------------------------------------------------

/-
  Open files keep their entries, and no mailslot gets a
  message.
-/
structure KeepsFiles (s t : Process) : Prop where
  entries : ∀ n, (s.fds n).dosOpen = true →
    t.fds n = s.fds n
  mail : Drains s t
  noFile : s.fds (-1) = FdEntry.unused →
    t.fds (-1) = FdEntry.unused

section Files

variable {fd : Fd} {m path : Bytes} {s t u : Process}

theorem KeepsFiles.refl (s : Process) : KeepsFiles s s :=
  ⟨fun _ _ => rfl, Drains.refl s, id⟩

theorem KeepsFiles.trans
    (hLeft : KeepsFiles s t)
    (hRight : KeepsFiles t u) :
    KeepsFiles s u := by
  constructor
  · intro n hOpen
    have hSame := hLeft.entries n hOpen
    rw [hRight.entries n (by rw [hSame, hOpen]), hSame]
  · exact hLeft.mail.trans hRight.mail
  · exact fun hNone => hRight.noFile (hLeft.noFile hNone)

/- Changes of blocks keep the files. -/
theorem KeepsFiles.of_same
    (hFds : t.fds = s.fds)
    (hMail : t.mail = s.mail) :
    KeepsFiles s t := by
  constructor
  · intro n _
    rw [hFds]
  · intro m
    rw [hMail]
    exact .inl rfl
  · intro hNone
    rw [hFds]
    exact hNone

theorem KeepsFiles.of_open
    {env : OpenEnv}
    {mode : OpenMode}
    (hRun : openFile env path mode s = .ok (fd, t)) :
    KeepsFiles s t := by
  have hOpens := openFile_ok hRun
  constructor
  · exact fun n hOpen => hOpens.entry hOpen
  · exact drains_openFile _ _ _ _ _ _ hRun
  · exact hOpens.noFile

theorem KeepsFiles.hasMailslot
    {me : MailslotFsext}
    (hKeeps : KeepsFiles s t)
    (hMail : s.HasMailslot fd me) :
    t.HasMailslot fd me := by
  unfold Process.HasMailslot at hMail ⊢
  rw [hKeeps.entries fd (by rw [hMail]), hMail]

theorem KeepsFiles.writesPath
    (hKeeps : KeepsFiles s t)
    (hWrites : s.WritesPath fd path) :
    t.WritesPath fd path := by
  rcases hWrites with ⟨m, hName, me, name, hMail, hRest⟩
  exact ⟨m, hName, me, name, hKeeps.hasMailslot hMail, hRest⟩

/- An empty mailslot that a descriptor reads from. -/
def Process.Waits
    (s : Process)
    (fd : Fd)
    (m : Bytes) : Prop :=
  s.HasMailslot fd ⟨some m, none, true, false⟩ ∧
    s.mail m = []

theorem KeepsFiles.waits
    (hKeeps : KeepsFiles s t)
    (hWaits : s.Waits fd m) :
    t.Waits fd m := by
  rcases hWaits with ⟨hMail, hEmpty⟩
  refine ⟨hKeeps.hasMailslot hMail, ?_⟩
  rcases hKeeps.mail m with hSame | hNone
  · rw [hSame, hEmpty]
  · exact hNone

end Files

abbrev KeepsCmd {α : Type} (m : Exec α) : Prop :=
  Within KeepsFiles m

theorem KeepsCmd.bind
    {α β : Type}
    {m : Exec α}
    {f : α → Exec β}
    (hFirst : KeepsCmd m)
    (hRest : ∀ a, KeepsCmd (f a)) :
    KeepsCmd (m >>= f) :=
  Within.bind (fun _ _ _ h₁ h₂ => h₁.trans h₂) hFirst hRest

theorem KeepsCmd.pure {α : Type} (a : α) :
    KeepsCmd (pure a : Exec α) :=
  Within.pure KeepsFiles.refl a

theorem keeps_modifyUnix
    (p : Option Ptr)
    (f : LsckSocketUnix → LsckSocketUnix) :
    KeepsCmd (modifyUnix p f) := by
  intro s a t hRun
  rcases modifyUnix_ok hRun with ⟨q, usock, -, -, rfl⟩
  exact .of_same rfl rfl

theorem keeps_modifySocket
    (p : Ptr)
    (f : LsckSocket → LsckSocket) :
    KeepsCmd (modifySocket p f) := by
  intro s a t hRun
  rcases modifySocket_ok hRun with ⟨lsd, -, rfl⟩
  exact .of_same rfl rfl

theorem keeps_setPeerpath
    (usock : Option Ptr)
    (path : Bytes) :
    KeepsCmd (setPeerpath usock path) := by
  apply KeepsCmd.bind
  · exact (reads_deref _ _).within KeepsFiles.refl
  intro data
  apply KeepsCmd.bind
  · exact (reads_copyInto _ _).within KeepsFiles.refl
  intro peerpath
  exact keeps_modifyUnix _ _

theorem keeps_openPairEnd
    (env : OpenEnv)
    (usock : Option Ptr)
    (dest : Bytes) :
    KeepsCmd (openPairEnd env usock dest) := by
  apply KeepsCmd.bind
  · exact (reads_fits _ _).within KeepsFiles.refl
  intro path
  apply KeepsCmd.bind
  · exact fun _ _ _ hRun => .of_open hRun
  intro fd
  apply KeepsCmd.bind
  · exact Within.when KeepsFiles.refl (keeps_modifyUnix _ _)
  intro _
  exact KeepsCmd.pure fd

theorem keeps_pairStream
    (env : UnixSocketpairEnv)
    (data₀ data₁ : Option Ptr)
    (path₀ path₁ : Bytes) :
    KeepsCmd (pairStream env data₀ data₁ path₀ path₁) := by
  apply KeepsCmd.bind (Within.get KeepsFiles.refl)
  intro s
  apply KeepsCmd.bind (keeps_modifyUnix _ _)
  intro _
  apply KeepsCmd.bind (keeps_modifyUnix _ _)
  intro _
  apply KeepsCmd.bind (keeps_setPeerpath _ _)
  intro _
  apply KeepsCmd.bind (keeps_setPeerpath _ _)
  intro _
  apply KeepsCmd.bind (keeps_openPairEnd _ _ _)
  intro fdW
  apply Within.when KeepsFiles.refl
  apply KeepsCmd.bind (keeps_openPairEnd _ _ _)
  intro _
  exact KeepsCmd.pure ()

------------------------------------------------------------
-- The Files Of A Pair
------------------------------------------------------------

/- A bind to an absolute name waits at the name's mailslot. -/
theorem unixBind_waits
    {env : UnixBindEnv}
    {p q : Ptr}
    {addr name : Bytes}
    {addrlen : Nat}
    {d : LsckSocket}
    {usock : LsckSocketUnix}
    {s t : Process}
    (hRun : unixBind env p addr addrlen s = .ok (0, t))
    (hName : CString.read? (addr.drop 2) = some name)
    (hAbsolute : IsAbsolute name)
    (hSocket : s.heap p = some (.socket d))
    (hQ : d.idata = some q)
    (hData : s.heap q = some (.unix usock)) :
    KeepsFiles s t ∧ ∃ fd m,
      sendName (unixLocalPath ++ name) = some m ∧
      t.Waits fd m ∧
      t.heap = Function.update s.heap q
        (some (.unix (usock.boundAs fd name))) := by
  rcases unixBind_opens hRun with
    ⟨d', q', usock', name', built, fd, u, hSocket', hQ', hData',
      hName', hBuilt, hOpen, hFd, rfl⟩
  cases hName.symm.trans hName'
  cases hSocket.symm.trans hSocket'
  cases hQ.symm.trans hQ'
  cases hData.symm.trans hData'
  rcases bindPath_cases hBuilt with ⟨x, rfl, hAs, -⟩
  have hX := hAs hAbsolute
  subst hX
  rcases openFile_creates hOpen hFd with
    ⟨m, hRead, hMail, hEmpty⟩
  have hKept : KeepsFiles u (u.setBlock q
      (some (.unix (usock.boundAs fd x)))) :=
    .of_same rfl rfl
  refine ⟨(KeepsFiles.of_open hOpen).trans hKept, fd, m,
    sendName_of_readName hRead,
    hKept.waits ⟨hMail, hEmpty⟩, ?_⟩
  rw [Process.heap_setBlock, (openFile_ok hOpen).heap]

/-
  The data of two ends behind the loop. Each has a file to
  write to, or none.
-/
theorem pairStream_writes
    {env : UnixSocketpairEnv}
    {q₀ q₁ : Ptr}
    {path₀ path₁ : Bytes}
    {u₀ u₁ : LsckSocketUnix}
    {s t : Process}
    (hNe : q₀ ≠ q₁)
    (hData₀ : s.heap q₀ = some (.unix u₀))
    (hData₁ : s.heap q₁ = some (.unix u₁))
    (hNew₀ : u₀.fdW = -1)
    (hNew₁ : u₁.fdW = -1)
    (hRun : pairStream env (some q₀) (some q₁) path₀ path₁ s =
      .ok ((), t)) :
    ∃ w₀ w₁ secret,
      t.heap q₀ = some (.unix (u₀.paired secret env.seq₀
        env.seq₁ w₀ path₁)) ∧
      t.heap q₁ = some (.unix (u₁.paired secret env.seq₁
        env.seq₀ w₁ path₀)) ∧
      (∀ r, r ≠ q₀ → r ≠ q₁ → t.heap r = s.heap r) ∧
      (w₀ = -1 ∨ t.WritesPath w₀ path₁) ∧
      (w₁ = -1 ∨ t.WritesPath w₁ path₀) := by
  rcases pairStream_prepares hNe hData₀ hData₁ hRun with
    ⟨v, fd, w, -, hLeft, hRight, hOther, hOpen₀, hLast⟩
  rcases openPairEnd_opens hLeft hOpen₀ with
    ⟨-, ⟨w₀, hHeap, hIs, hNot⟩, -, hWrites⟩
  have hPair := PairHeap.setLeft ⟨hLeft, hRight, hOther⟩ hNe
    hHeap
  rcases hLast with ⟨hFd, rfl⟩ | ⟨hFd, fd', hOpen₁⟩
  · exact ⟨w₀, u₁.fdW, _, hPair.left, hPair.right,
      hPair.other, .inl ((hNot hFd).trans hNew₀), .inl hNew₁⟩
  · rcases openPairEnd_opens hPair.right hOpen₁ with
      ⟨-, ⟨w₁, hHeap', hIs', hNot'⟩, -, hWrites'⟩
    have hBoth := hPair.setRight hNe hHeap'
    have hKept := keeps_openPairEnd _ _ _ _ _ _ hOpen₁
    refine ⟨w₀, w₁, env.pairSecret s, hBoth.left, hBoth.right,
      hBoth.other, .inr ?_, ?_⟩
    · rw [hIs hFd]
      exact hKept.writesPath (hWrites hFd).2
    · by_cases hFd' : fd' = -1
      · exact .inl ((hNot' hFd').trans hNew₁)
      · rw [hIs' hFd']
        exact .inr (hWrites' hFd').2

------------------------------------------------------------
-- Pairs
------------------------------------------------------------

/-
  The interface has paired two new streams. One read yields
  one message.
-/
structure StreamPair
    (env : UnixSocketpairEnv)
    (p₀ p₁ : Ptr)
    (s t : Process) : Prop where
  form : WellFormed none s
  noFile : s.fds (-1) = FdEntry.unused
  two : p₀ ≠ p₁
  left : ∃ d, s.HasUnix p₀ d newUnix ∧ d.type = sockStream
  right : ∃ d, s.HasUnix p₁ d newUnix
  run : unixSocketpair env p₀ p₁ s = .ok (0, t)
  single : t.reportsNext = false
  room : t.recvBuf.length = mailslotSendsize

/-
  One end of a pair, with its own path and that of the other:
  it waits for messages at its mailslot, and it writes to the
  path of the other if it has a file.
-/
structure PairEnd
    (secret : UnixMsgSecret)
    (own peer : Bytes)
    (p a : Ptr)
    (m : Bytes)
    (usock : LsckSocketUnix)
    (t : Process) : Prop where
  socket : ∃ d, t.heap p = some (.socket d) ∧ d.idata = some a
  data : t.heap a = some (.unix usock)
  secret : usock.secret = secret
  range : InRange usock.seqW
  waits : t.Waits usock.fdR m
  name : sendName (unixLocalPath ++ own) = some m
  writes : usock.fdW = -1 ∨ t.WritesPath usock.fdW peer

/- From one end to the other. -/
theorem Channel.of_ends
    {secret : UnixMsgSecret}
    {own peer m m' : Bytes}
    {p q a b : Ptr}
    {usock usock' : LsckSocketUnix}
    {t : Process}
    (hLeft : PairEnd secret own peer p a m usock t)
    (hRight : PairEnd secret peer own q b m' usock' t)
    (hApart : a ≠ b)
    (hNone : t.fds (-1) = FdEntry.unused)
    (hSingle : t.reportsNext = false)
    (hRoom : t.recvBuf.length = mailslotSendsize) :
    Channel p q a b secret m' [] t := by
  rcases hRight.waits with ⟨hMail, hEmpty⟩
  unfold Process.HasMailslot at hMail
  constructor
  · exact hApart
  · refine ⟨usock, hLeft.socket, hLeft.data, hLeft.secret,
      hLeft.range, ?_⟩
    rcases hLeft.writes with hNo | ⟨m'', hName, hWrites⟩
    · rw [hNo]
      exact .inr hNone
    · cases hRight.name.symm.trans hName
      exact .inl hWrites
  · refine ⟨usock', hRight.socket, hRight.data, hRight.secret,
      ⟨some m', none, true, false⟩, ?_, rfl, rfl⟩
    constructor
    · rw [hMail]
    · rw [hMail]
    · rfl
  · exact hSingle
  · exact hRoom
  · exact hEmpty
  · intro x hX
    cases hX

/- Nothing is on the way in either direction. -/
theorem StreamPair.channels
    {env : UnixSocketpairEnv}
    {p₀ p₁ : Ptr}
    {s t : Process}
    (hPair : StreamPair env p₀ p₁ s t) :
    ∃ a₀ a₁ secret m₀ m₁,
      Channel p₀ p₁ a₀ a₁ secret m₁ [] t ∧
      Channel p₁ p₀ a₁ a₀ secret m₀ [] t := by
  rcases hPair.left with ⟨d₀, ⟨hSocket₀, a₀, hA₀, hData₀⟩, hType⟩
  rcases hPair.right with ⟨d₁, hSocket₁, a₁, hA₁, hData₁⟩
  have hApart : a₀ ≠ a₁ := by
    rintro rfl
    exact hPair.two (hPair.form.own p₀ p₁ d₀ d₁ hSocket₀
      hSocket₁ (by simp) (by simp) (hA₀.trans hA₁.symm))
  have hNe₀₀ := socket_ne_unix hSocket₀ hData₀
  have hNe₀₁ := socket_ne_unix hSocket₀ hData₁
  have hNe₁₀ := socket_ne_unix hSocket₁ hData₀
  have hNe₁₁ := socket_ne_unix hSocket₁ hData₁
  rcases unixSocketpair_stages hSocket₀ hSocket₁ hType
    hPair.run (by decide) with
    ⟨-, t₁, t₂, t₃, t₄, hBind₀, hBind₁, hLoop, hMark₀, hMark₁⟩
  have hAbsolute : ∀ n, IsAbsolute (pairPath n) :=
    fun _ => rfl
  rcases unixBind_waits hBind₀ (read?_pairName env.name₀ [])
    (hAbsolute _) hSocket₀ hA₀ hData₀ with
    ⟨hKept₁, fd₀, m₀, hName₀, hWaits₀, hHeap₁⟩
  have hSocket₂ : t₁.heap p₁ = some (.socket d₁) := by
    rw [hHeap₁, Function.update_of_ne hNe₁₀, hSocket₁]
  have hData₂ : t₁.heap a₁ = some (.unix newUnix) := by
    rw [hHeap₁, Function.update_of_ne hApart.symm, hData₁]
  rcases unixBind_waits hBind₁ (read?_pairName env.name₁ [])
    (hAbsolute _) hSocket₂ hA₁ hData₂ with
    ⟨hKept₂, fd₁, m₁, hName₁, hWaits₁, hHeap₂⟩
  rw [hA₀, hA₁] at hLoop
  have hLeft : t₂.heap a₀ = some (.unix
      (newUnix.boundAs fd₀ (pairPath env.name₀))) := by
    rw [hHeap₂, Function.update_of_ne hApart, hHeap₁,
      Function.update_self]
  have hRight : t₂.heap a₁ = some (.unix
      (newUnix.boundAs fd₁ (pairPath env.name₁))) := by
    rw [hHeap₂, Function.update_self]
  have hKept₃ := keeps_pairStream _ _ _ _ _ _ _ _ hLoop
  rcases pairStream_writes hApart hLeft hRight rfl rfl hLoop
    with ⟨w₀, w₁, secret, hEnd₀, hEnd₁, hOther, hTo₀, hTo₁⟩
  have hMarks := (keeps_modifySocket _ _ _ _ _ hMark₀).trans
    (keeps_modifySocket _ _ _ _ _ hMark₁)
  have hKept := hKept₃.trans hMarks
  have hNone := hKept.noFile
    (hKept₂.noFile (hKept₁.noFile hPair.noFile))
  have hSame : ∀ r, r ≠ a₀ → r ≠ a₁ →
      t₃.heap r = s.heap r := by
    intro r hR₀ hR₁
    rw [hOther r hR₀ hR₁, hHeap₂, Function.update_of_ne hR₁,
      hHeap₁, Function.update_of_ne hR₀]
  rcases modifySocket_ok hMark₀ with ⟨e₀, hE₀, rfl⟩
  rw [hSame p₀ hNe₀₀ hNe₀₁, hSocket₀] at hE₀
  cases hE₀
  rcases modifySocket_ok hMark₁ with ⟨e₁, hE₁, hLast⟩
  rw [Process.heap_setBlock,
    Function.update_of_ne hPair.two.symm,
    hSame p₁ hNe₁₀ hNe₁₁, hSocket₁] at hE₁
  cases hE₁
  have hBlocks : ∀ r, r ≠ p₀ → r ≠ p₁ →
      t.heap r = t₃.heap r := by
    intro r hR₀ hR₁
    rw [hLast, Process.heap_setBlock, Function.update_of_ne hR₁,
      Process.heap_setBlock, Function.update_of_ne hR₀]
  have hJoined₀ : t.heap p₀ = some (.socket d₀.joined) := by
    rw [hLast, Process.heap_setBlock,
      Function.update_of_ne hPair.two, Process.heap_setBlock,
      Function.update_self]
  have hJoined₁ : t.heap p₁ = some (.socket d₁.joined) := by
    rw [hLast, Process.heap_setBlock, Function.update_self]
  have hFirst : PairEnd secret (pairPath env.name₀)
      (pairPath env.name₁) p₀ a₀ m₀
      ((newUnix.boundAs fd₀ (pairPath env.name₀)).paired secret
        env.seq₀ env.seq₁ w₀ (pairPath env.name₁)) t := by
    constructor
    · exact ⟨_, hJoined₀, hA₀⟩
    · exact (hBlocks a₀ hNe₀₀.symm hNe₁₀.symm).trans hEnd₀
    · rfl
    · exact inRange_random env.seq₀
    · exact hKept.waits (hKept₂.waits hWaits₀)
    · exact hName₀
    · exact hTo₀.imp id hMarks.writesPath
  have hSecond : PairEnd secret (pairPath env.name₁)
      (pairPath env.name₀) p₁ a₁ m₁
      ((newUnix.boundAs fd₁ (pairPath env.name₁)).paired secret
        env.seq₁ env.seq₀ w₁ (pairPath env.name₀)) t := by
    constructor
    · exact ⟨_, hJoined₁, hA₁⟩
    · exact (hBlocks a₁ hNe₀₁.symm hNe₁₁.symm).trans hEnd₁
    · rfl
    · exact inRange_random env.seq₁
    · exact hKept.waits hWaits₁
    · exact hName₁
    · exact hTo₁.imp id hMarks.writesPath
  exact ⟨a₀, a₁, secret, m₀, m₁,
    .of_ends hFirst hSecond hApart hNone hPair.single
      hPair.room,
    .of_ends hSecond hFirst hApart.symm hNone hPair.single
      hPair.room⟩

------------------------------------------------------------
-- Traffic
------------------------------------------------------------

/- The messages in the mailslot that a Unix socket reads. -/
def Process.queueOf (s : Process) (q : Ptr) : List Bytes :=
  let usock := do
    let lsd ← s.socket? q
    let data ← lsd.idata
    let block ← s.heap data
    block.unix?
  match usock with
  | none => []
  | some usock =>
      match (s.fds usock.fdR).data with
      | some (.mailslot me) => (me.handle.map s.mail).getD []
      | _ => []

/- A receive has room for the message in front. -/
def TakesFirst
    (s : Process)
    (q : Ptr)
    (len : Nat) : Prop :=
  ∀ x ∈ (s.queueOf q).head?, TakesWhole len x

/-
  Sends on one socket and receives on another, in any order,
  with the bytes that the sends have accepted and those that
  the receives have returned. The network takes every packet,
  and the mailslot gets no others. Each receive is in a state
  and has a length as the condition asks for.
-/
inductive PairTraffic
    (meets : Process → Ptr → Nat → Prop)
    (p q : Ptr)
    (s : Process) :
    Bytes → Bytes → Process → Prop
  | start : PairTraffic meets p q s [] [] s
  | send
      {accepted returned msg : Bytes}
      {writes : List WriteEnv}
      {r : Int}
      {t u : Process}
      (earlier : PairTraffic meets p q s accepted returned t)
      (taken : ∀ w ∈ writes, w.delivered = true)
      (run : unixSendStream writes p msg t = .ok (r, u)) :
      PairTraffic meets p q s (accepted ++ msg.take r.toNat)
        returned u
  | receive
      {accepted returned data : Bytes}
      {env : RecvEnv}
      {len : Nat}
      {n : Int}
      {t u : Process}
      (earlier : PairTraffic meets p q s accepted returned t)
      (alone : ∀ r ∈ env.reads, r.arrivals = [])
      (room : meets t q len)
      (run : unixRecvStream env q len 0 t =
        .ok ((n, data), u)) :
      PairTraffic meets p q s accepted (returned ++ data) u

/- The queue of a channel is that of its receiving end. -/
theorem Channel.queueOf
    {p q a b : Ptr}
    {secret : UnixMsgSecret}
    {m : Bytes}
    {segments : List Segment}
    {s : Process}
    (hChannel : Channel p q a b secret m segments s) :
    s.queueOf q = s.mail m := by
  rcases hChannel.receives with ⟨v, hReceives⟩
  rcases hReceives.socket with ⟨d, hSocket, hB⟩
  rcases hReceives.reads with ⟨me, hReads, -, -⟩
  have hFound : s.socket? q = some d :=
    Process.socket?_eq_some.mpr hSocket
  simp [Process.queueOf, hFound, hB, hReceives.data,
    Block.unix?, hReads.data, hReads.handle]

/-
  What is still on the way is what has been accepted and not
  returned.
-/
theorem Channel.traffic
    {p q a b : Ptr}
    {secret : UnixMsgSecret}
    {m accepted returned : Bytes}
    {s t : Process}
    (hStart : Channel p q a b secret m [] s)
    (hTraffic : PairTraffic TakesFirst p q s accepted returned
      t) :
    ∃ segments, Channel p q a b secret m segments t ∧
      accepted = returned ++ segments.flatMap Segment.data := by
  induction hTraffic with
  | start => exact ⟨[], hStart, rfl⟩
  | send _ hTaken hRun ih =>
      rcases ih with ⟨segments, hChannel, hSame⟩
      rcases hChannel.send hTaken hRun with
        ⟨more, hMore, hNext⟩
      refine ⟨segments ++ more, hNext, ?_⟩
      rw [List.flatMap_append, hMore, hSame, List.append_assoc]
  | receive _ hAlone hRoom hRun ih =>
      rcases ih with ⟨segments, hChannel, hSame⟩
      have hWhole := hRoom
      unfold TakesFirst at hWhole
      rw [hChannel.queueOf] at hWhole
      rcases hChannel.receive hAlone hWhole hRun with
        ⟨x, rest, rfl, rfl, hNext⟩
      refine ⟨rest, hNext, ?_⟩
      rw [hSame, List.flatMap_cons, List.append_assoc]

/-
  If every receive has room for the whole packet in front,
  what has been returned is at every moment a prefix of what
  has been accepted.
-/
theorem stream_in_order
    {env : UnixSocketpairEnv}
    {p₀ p₁ p q : Ptr}
    {accepted returned : Bytes}
    {s t u : Process}
    (hPair : StreamPair env p₀ p₁ s t)
    (hEnds : p = p₀ ∧ q = p₁ ∨ p = p₁ ∧ q = p₀)
    (hTraffic : PairTraffic TakesFirst p q t accepted returned
      u) :
    returned <+: accepted := by
  rcases hPair.channels with
    ⟨a₀, a₁, secret, m₀, m₁, hForth, hBack⟩
  have hPrefix : ∀ {a b m}, Channel p q a b secret m [] t →
      returned <+: accepted := by
    intro a b m hStart
    rcases hStart.traffic hTraffic with ⟨segments, -, hSame⟩
    exact ⟨segments.flatMap Segment.data, hSame.symm⟩
  rcases hEnds with ⟨rfl, rfl⟩ | ⟨rfl, rfl⟩
  · exact hPrefix hForth
  · exact hPrefix hBack

------------------------------------------------------------
-- Two Sends
------------------------------------------------------------

/- A pair of streams whose numbers start at zero. -/
def zeroPair : Process :=
  after (unixSocketpair (.drawing 0) 10 20) twoStreams

theorem zeroPair_streamPair :
    StreamPair (.drawing 0) 10 20 twoStreams zeroPair := by
  constructor
  · exact wellFormed_afterCalls (by decide +kernel)
  · decide +kernel
  · decide
  · refine ⟨firstStream, ⟨?_, 11, ?_, ?_⟩, ?_⟩
    · exact Process.socket?_eq_some.mp (by decide +kernel)
    · decide +kernel
    · decide +kernel
    · decide +kernel
  · refine ⟨secondStream, ?_, 21, ?_, ?_⟩
    · exact Process.socket?_eq_some.mp (by decide +kernel)
    · decide +kernel
    · decide +kernel
  · exact run_after (by decide +kernel)
  · decide +kernel
  · decide +kernel

/- One send, and a receive that has room for it. -/
def sendAndReceive :
    Exec (Int × List Bytes × Int × Bytes) := do
  let r ← unixSendStream [⟨true, .zero⟩] 10 [97, 98]
  let s ← get
  let x ← unixRecvStream .quiet 20 2 0
  return (r, s.queueOf 20, x)

theorem two_bytes_in_order :
    ∃ u, PairTraffic TakesFirst 10 20 zeroPair [97, 98]
        [97, 98] u ∧
      ([97, 98] : Bytes) <+: [97, 98] := by
  rcases exists_run_of_answer (m := sendAndReceive)
    (s := zeroPair) (a := (2, [packetOf ⟨7, 1⟩ 2 [97, 98]],
      2, [97, 98])) (by decide +kernel) with ⟨u, hRun⟩
  rcases bind_eq_ok.mp hRun with ⟨r, t₁, hSend, hRest⟩
  rcases bind_eq_ok.mp hRest with ⟨v, t₂, hGet, hRest⟩
  rcases bind_eq_ok.mp hRest with ⟨x, t₃, hReceive, hPure⟩
  cases hGet
  simp only [run_pure, Except.ok.injEq, Prod.mk.injEq] at hPure
  rcases hPure with ⟨⟨rfl, hQueue, rfl⟩, rfl⟩
  have hFront : TakesFirst t₁ 20 2 := by
    unfold TakesFirst
    rw [hQueue]
    decide +kernel
  have hStart : PairTraffic TakesFirst 10 20 zeroPair [] []
      zeroPair := .start
  have hSends := hStart.send (by decide) hSend
  have hTraffic := hSends.receive (by decide) hFront hReceive
  exact ⟨t₃, hTraffic, stream_in_order zeroPair_streamPair
    (.inl ⟨rfl, rfl⟩) hTraffic⟩

/- Two sends, and a receive that is too short for the first. -/
def receiveShort :
    Exec (Int × Int × (Int × Bytes) × (Int × Bytes)) := do
  let a ← unixSendStream [⟨true, .zero⟩] 10 [97, 98]
  let b ← unixSendStream [⟨true, .zero⟩] 10 [99, 100]
  let x ← unixRecvStream .quiet 20 1 0
  let y ← unixRecvStream .quiet 20 2 0
  return (a, b, x, y)

/- Its last byte is lost. -/
theorem second_byte_lost :
    ¬ ∀ (env : UnixSocketpairEnv) (p₀ p₁ p q : Ptr)
        (accepted returned : Bytes) (s t u : Process),
      StreamPair env p₀ p₁ s t →
      (p = p₀ ∧ q = p₁ ∨ p = p₁ ∧ q = p₀) →
      PairTraffic (fun _ _ _ => True) p q t accepted returned
        u →
      returned <+: accepted := by
  intro hAlways
  rcases exists_run_of_answer (m := receiveShort)
    (s := zeroPair) (a := (2, 2, (1, [97]), (2, [99, 100])))
    (by decide +kernel) with ⟨u, hRun⟩
  rcases bind_eq_ok.mp hRun with ⟨a, t₁, hSend₁, hRest⟩
  rcases bind_eq_ok.mp hRest with ⟨b, t₂, hSend₂, hRest⟩
  rcases bind_eq_ok.mp hRest with ⟨x, t₃, hReceive₁, hRest⟩
  rcases bind_eq_ok.mp hRest with ⟨y, t₄, hReceive₂, hPure⟩
  cases hPure
  have hDelivered : ∀ w ∈ [(⟨true, .zero⟩ : WriteEnv)],
      w.delivered = true := by decide
  have hAlone : ∀ r ∈ RecvEnv.quiet.reads,
      r.arrivals = [] := by decide
  have hStart : PairTraffic (fun _ _ _ => True) 10 20 zeroPair
      [] [] zeroPair := .start
  have hSends := (hStart.send hDelivered hSend₁).send
    hDelivered hSend₂
  have hTraffic := (hSends.receive hAlone trivial
    hReceive₁).receive hAlone trivial hReceive₂
  have hPrefix := hAlways _ 10 20 10 20 _ _ _ _ _
    zeroPair_streamPair (.inl ⟨rfl, rfl⟩) hTraffic
  revert hPrefix
  decide

end Libsocket

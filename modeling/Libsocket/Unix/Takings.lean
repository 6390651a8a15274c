import Libsocket.Unix.Ends
import Libsocket.Unix.Queue

/-
  What an accept takes from the control mailslot of its
  listener, and what it leaves alone.

  An accept reads one request, but the read goes on while DOS
  reports a next message, and the requests behind the first
  one are lost.

  Main declarations:
    * `Beside`, `beside_unixAccept`, `acceptOn_beside`
    * `Answers`, `unixAcceptRequest_answers`
    * `IsRequest`, `TakesOne`
    * `Takings`, `unixAccept_takings`
-/

namespace Libsocket

open Command

------------------------------------------------------------
-- What An Accept Leaves Alone
------------------------------------------------------------

/-
  The blocks that are not owned stay as they are, and so do
  the entries of open files.
-/
structure Beside
    (own : Ptr → Prop)
    (s t : Process) : Prop where
  heap : ∀ r, ¬ own r → t.heap r = s.heap r
  files : ∀ n, (s.fds n).dosOpen = true → t.fds n = s.fds n

namespace Beside

variable {own : Ptr → Prop} {s t u : Process}

theorem refl (s : Process) : Beside own s s :=
  ⟨fun _ _ => rfl, fun _ _ => rfl⟩

theorem trans
    (hLeft : Beside own s t)
    (hRight : Beside own t u) :
    Beside own s u := by
  constructor
  · intro r hOwn
    rw [hRight.heap r hOwn, hLeft.heap r hOwn]
  · intro n hOpen
    have hSame := hLeft.files n hOpen
    rw [hRight.files n (by rw [hSame, hOpen]), hSame]

theorem of_local
    (hLocal : Local own s t) :
    Beside own s t := by
  constructor
  · exact hLocal.heap
  · intro n _
    rw [hLocal.fds]

theorem of_open
    {fd : Fd}
    (hOpens : Opens fd s t) :
    Beside own s t := by
  constructor
  · intro r _
    rw [hOpens.heap]
  · exact fun n hOpen => hOpens.entry hOpen

end Beside

abbrev BesideCmd
    {α : Type}
    (own : Ptr → Prop)
    (m : Exec α) : Prop :=
  Within (Beside own) m

namespace BesideCmd

variable {α β : Type} {own : Ptr → Prop}

theorem pure (a : α) : BesideCmd own (pure a : Exec α) :=
  Within.pure Beside.refl a

theorem bind
    {m : Exec α}
    {f : α → Exec β}
    (hFirst : BesideCmd own m)
    (hRest : ∀ a, BesideCmd own (f a)) :
    BesideCmd own (m >>= f) :=
  Within.bind (fun _ _ _ h₁ h₂ => h₁.trans h₂) hFirst hRest

theorem of_local
    {m : Exec α}
    (hLocal : LocalCmd own m) :
    BesideCmd own m :=
  fun s a t hRun => .of_local (hLocal s a t hRun)

theorem read
    {m : Exec α}
    (hReads : Reads m) :
    BesideCmd own m :=
  hReads.within Beside.refl

theorem openFile
    (env : OpenEnv)
    (path : Bytes)
    (mode : OpenMode) :
    BesideCmd own (openFile env path mode) :=
  fun _ _ _ hRun => .of_open (openFile_ok hRun)

end BesideCmd

section Accepting

variable {own : Ptr → Prop} {env : UnixAcceptEnv}
variable {p np : Ptr} {data : Option Ptr}
variable {lsd nd : LsckSocket} {usock : LsckSocketUnix}
variable {req : UnixMsgOpen} {m m' name : Bytes} {r : Int}
variable {s t : Process}

theorem beside_unixAcceptRequest
    (hNew : own np)
    (hOwn : ∀ r, data = some r → own r)
    (env : UnixAcceptEnv)
    (lsd : LsckSocket)
    (req : UnixMsgOpen) :
    BesideCmd own (unixAcceptRequest env lsd np data req) := by
  have hStore : ∀ f, BesideCmd own (modifyUnix data f) :=
    fun f => .of_local (LocalCmd.modifyUnix hOwn f)
  unfold unixAcceptRequest
  apply Within.ite (BesideCmd.pure _)
  apply BesideCmd.bind (.read (reads_readString _))
  intro server
  apply BesideCmd.bind (.read (reads_fits _ _))
  intro path
  apply BesideCmd.bind (.openFile _ _ _)
  intro fdR
  apply BesideCmd.bind (hStore _)
  intro _
  apply Within.ite (BesideCmd.pure _)
  apply BesideCmd.bind (.read (reads_readString _))
  intro reqPath
  apply BesideCmd.bind (.openFile _ _ _)
  intro fdW
  apply BesideCmd.bind (hStore _)
  intro _
  apply Within.ite (BesideCmd.pure _)
  split
  · exact BesideCmd.pure _
  · exact BesideCmd.of_local
      (local_unixAcceptReply hNew hOwn _ _ _ _ _)

/- An accept touches new blocks and opens new files. -/
theorem beside_unixAccept
    (hRun : unixAccept env p np s = .ok (r, t)) :
    Beside (NewBlocks np s) s t := by
  have hNp : NewBlocks np s np := .inl rfl
  rcases bind_eq_ok.mp hRun with ⟨lsd, t₁, hLsd, hTail₁⟩
  have hSame := (derefSocket_ok hLsd).1
  subst hSame
  rcases owned_of_malloc hTail₁ with
    ⟨data, u, hOwn, hHung, hRest⟩
  apply (Beside.of_local hHung).trans
  apply (Within.ite _ _ : BesideCmd (NewBlocks np t₁) _) u r t
    hRest
  · exact BesideCmd.of_local (LocalCmd.fail _)
  apply BesideCmd.bind
  · exact BesideCmd.of_local (LocalCmd.modifyUnix hOwn _)
  intro _
  apply BesideCmd.bind (.read (reads_derefSocket _))
  intro nsd
  apply Within.ite (BesideCmd.of_local (LocalCmd.fail _))
  apply BesideCmd.bind (.read (reads_deref _ _))
  intro usock
  apply BesideCmd.bind (.of_local (local_readFd _ _ _))
  intro taken
  split
  · exact BesideCmd.pure _
  · exact beside_unixAcceptRequest hNp hOwn _ _ _

/-
  An accept of a Unix listener leaves every live block and
  every open file alone, whether it succeeds or not.
-/
theorem acceptOn_beside
    {aenv : AcceptEnv}
    {d : LsckSocket}
    {nfd : Fd}
    {slot : Nat}
    (hForm : WellFormed none s)
    (hSocket : s.heap p = some (.socket d))
    (hReserved :
      Reserved aenv.number aenv.memory s nfd slot np)
    (hRun : acceptOn aenv .unix p np nfd slot
      (s.withSocket slot np (acceptedCopy d nfd)) =
        .ok (r, t)) :
    Beside (fun x => s.heap x = none) s t := by
  rcases acceptReserved_ok hForm hSocket hReserved hRun with
    ⟨ret, q, v, w, nd', hCall, hAttached, hStill, hSocket',
      hStatus, hEnd⟩
  have hCallback := beside_unixAccept hCall
  have hFd : nd'.fd = nfd := congrArg LsckSocket.fd hStatus
  have hIdata : nd'.idata = q :=
    congrArg LsckSocket.idata hStatus
  constructor
  · intro x hLive
    have hX : x ≠ np := by
      rintro rfl
      exact hLive hReserved.heap
    have hBefore : (s.withSocket slot np
        (acceptedCopy d nfd)).heap x = s.heap x :=
      Function.update_of_ne hX _ _
    have hOld : ¬ NewBlocks np (s.withSocket slot np
        (acceptedCopy d nfd)) x := by
      rintro (hSame | hFree)
      · exact hX hSame
      · rw [hBefore] at hFree
        exact hLive hFree
    have hKept := (hCallback.heap x hOld).trans hBefore
    rcases hEnd with ⟨-, -, hErased⟩ | ⟨-, -, -, rfl⟩
    · rcases hErased.heap x hX with hSame | ⟨hGone, -⟩
      · exact hSame.trans hKept
      · -- What is freed is the data that was just allocated.
        rw [hIdata] at hGone
        subst hGone
        rcases hAttached with ⟨e, -, hFree, -⟩
        exact absurd (.inr hFree) hOld
    · rw [← hKept]
      exact Function.update_of_ne hX _ _
  · intro n hOpen
    have hN : n ≠ nfd := by
      rintro rfl
      rw [hReserved.closed] at hOpen
      cases hOpen
    have hBefore : (s.withSocket slot np
        (acceptedCopy d nfd)).fds n = s.fds n :=
      Function.update_of_ne hN _ _
    have hKept := (hCallback.files n
      (by rw [hBefore, hOpen])).trans hBefore
    rcases hEnd with ⟨-, -, hErased⟩ | ⟨-, -, -, rfl⟩
    · rw [hErased.fds, hFd, Function.update_of_ne hN]
      exact hKept
    · exact hKept

------------------------------------------------------------
-- What Becomes Of The Mailslots
------------------------------------------------------------

theorem mail_modifyUnix
    {f : LsckSocketUnix → LsckSocketUnix}
    (hRun : modifyUnix data f s = .ok ((), t)) :
    t.mail = s.mail := by
  rcases modifyUnix_ok hRun with ⟨q, usock, -, -, rfl⟩
  rfl

/- The reply is all that is sent, and it is sent at the end. -/
theorem mail_unixAcceptReply
    {path client : Bytes}
    {fdW : Fd}
    (hWrites : s.WritesTo fdW m')
    (hRun : unixAcceptReply env np data req path client fdW s =
      .ok (r, t)) :
    (r ≠ 0 → t.mail = s.mail) ∧
      ∀ m, m' ≠ m → t.mail m = s.mail m := by
  rcases bind_eq_ok.mp hRun with ⟨sun, t₁, hSun, hTail₁⟩
  have hSame := (copyInto_ok hSun).1
  subst hSame
  rcases bind_eq_ok.mp hTail₁ with ⟨_, t₂, hFirst, hTail₂⟩
  have hMail₂ := mail_modifyUnix hFirst
  have hWrites₂ : t₂.WritesTo fdW m' := by
    rcases modifyUnix_ok hFirst with ⟨q, usock, -, -, rfl⟩
    exact hWrites.of_fds rfl
  rcases bind_eq_ok.mp hTail₂ with ⟨len, t₃, hLen, hTail₃⟩
  have hSame := (readString_ok hLen).1
  subst hSame
  rcases bind_eq_ok.mp hTail₃ with ⟨rep, t₄, hRep, hTail₄⟩
  have hSame := (copyInto_ok hRep).1
  subst hSame
  rcases bind_eq_ok.mp hTail₄ with ⟨ret, t₅, hWrite, hTail₅⟩
  have hCases := writeFd_cases hWrites₂ hWrite
  by_cases hRet : ret = -1
  · rw [if_pos hRet] at hTail₅
    cases hTail₅
    rcases hCases with ⟨hLength, -⟩ | ⟨-, e, rfl⟩
    · omega
    · exact ⟨fun _ => hMail₂, fun m _ => congrFun hMail₂ m⟩
  rw [if_neg hRet] at hTail₅
  rcases hCases with ⟨-, rfl⟩ | ⟨hFail, -⟩
  case inr => exact absurd hFail hRet
  rcases bind_eq_ok.mp hTail₅ with ⟨usock, t₆, hRead, hTail₆⟩
  have hSame := (deref_ok hRead).1
  subst hSame
  rcases bind_eq_ok.mp hTail₆ with ⟨peer, t₇, hPeer, hTail₇⟩
  have hSame := (copyInto_ok hPeer).1
  subst hSame
  rcases bind_eq_ok.mp hTail₇ with ⟨_, t₈, hStore, hTail₈⟩
  rcases bind_eq_ok.mp hTail₈ with ⟨_, t₉, hName, hPure⟩
  cases hPure
  have hMail₉ : t.mail = t₈.mail := by
    unfold setPeername at hName
    split at hName
    · rcases modifySocket_ok hName with ⟨d, -, rfl⟩
      rfl
    · cases hName
  refine ⟨fun hNot => absurd rfl hNot, ?_⟩
  intro m hOther
  rw [hMail₉, mail_modifyUnix hStore, ← hMail₂]
  exact Function.update_of_ne hOther.symm _ _

/- An open for writing leaves the mailslots alone. -/
theorem mail_openFile_wronly
    {oenv : OpenEnv}
    {path : Bytes}
    {fd : Fd}
    (hRun : openFile oenv path .wronly s = .ok (fd, t)) :
    t.mail = s.mail := by
  have hWithin : Within (fun s t => t.mail = s.mail)
      (openFile oenv path .wronly) := by
    apply within_openFile
    · exact fun _ => rfl
    · exact fun _ _ _ hLeft hRight => hRight.trans hLeft
    · exact fun _ _ => rfl
    · exact fun _ _ _ _ => rfl
    · intro s m hMode
      cases hMode
  exact hWithin s fd t hRun

/- One for reading empties the mailslot that it creates. -/
theorem mail_openFile_rdonly
    {oenv : OpenEnv}
    {x : Bytes}
    {fd : Fd}
    (hRun : openFile oenv (unixLocalPath ++ x) .rdonly s =
      .ok (fd, t))
    (hOpen : fd ≠ -1)
    (m : Bytes) :
    t.mail m = if readName (unixLocalPath ++ x) = some m then []
      else s.mail m := by
  rcases openFile_creates hRun hOpen with
    ⟨m', hName, -, hEmpty⟩
  by_cases hHere : readName (unixLocalPath ++ x) = some m
  · rw [if_pos hHere]
    cases hName.symm.trans hHere
    exact hEmpty
  · rw [if_neg hHere]
    have hWithin : Within (fun s t => t.mail m = s.mail m)
        (openFile oenv (unixLocalPath ++ x) .rdonly) := by
      apply within_openFile
      · exact fun _ => rfl
      · exact fun _ _ _ hLeft hRight => hRight.trans hLeft
      · exact fun _ _ => rfl
      · exact fun _ _ _ _ => rfl
      · intro s m'' _ hOther
        apply Function.update_of_ne
        rintro rfl
        exact hHere hOther
    exact hWithin s fd t hRun

/-
  What becomes of the mailslots on a request: nothing is put
  into one when it is turned down. When it is answered, only
  the mailslots of the new connection have changed.
-/
structure Answers
    (env : UnixAcceptEnv)
    (name : Bytes)
    (req : UnixMsgOpen)
    (r : Int)
    (s t : Process) : Prop where
  refused : r ≠ 0 → Drains s t
  answered : r = 0 → ∀ m,
    (∀ path, CString.read? req.path = some path →
      sendName path ≠ some m) →
    t.mail m =
      if readName (slotPath name env.slotRandom) = some m
      then [] else s.mail m

theorem Answers.of_failed
    (hDrains : Drains s t) :
    Answers env name req (-1) s t := by
  constructor
  · exact fun _ => hDrains
  · intro hZero
    cases hZero

theorem unixAcceptRequest_answers
    (hName : CString.read? (lsd.sockname.drop 2) = some name)
    (hRun : unixAcceptRequest env lsd np data req s =
      .ok (r, t)) :
    Answers env name req r s t := by
  unfold unixAcceptRequest at hRun
  by_cases hType : req.header.type ≠ unixMsgClientOpen
  · rw [if_pos hType] at hRun
    cases hRun
    exact .of_failed (Drains.refl _)
  rw [if_neg hType] at hRun
  rcases bind_eq_ok.mp hRun with ⟨server, t₁, hSun, hTail₁⟩
  rcases readString_ok hSun with ⟨hSame, hServer⟩
  subst hSame
  cases hName.symm.trans hServer
  rcases bind_eq_ok.mp hTail₁ with ⟨path, t₂, hFits, hTail₂⟩
  rcases fits_ok hFits with ⟨hSame, rfl, -⟩
  subst hSame
  rcases bind_eq_ok.mp hTail₂ with ⟨fdR, t₃, hOpenR, hTail₃⟩
  rcases bind_eq_ok.mp hTail₃ with ⟨_, t₄, hStoreR, hTail₄⟩
  have hMail₄ := mail_modifyUnix hStoreR
  have hDrains₄ : Drains t₂ t₄ :=
    (drains_openFile _ _ _ _ _ _ hOpenR).trans
      (.of_same hMail₄)
  by_cases hFdR : fdR = -1
  · rw [if_pos hFdR] at hTail₄
    cases hTail₄
    exact .of_failed hDrains₄
  rw [if_neg hFdR] at hTail₄
  rcases bind_eq_ok.mp hTail₄ with ⟨reqPath, t₅, hRead, hTail₅⟩
  rcases readString_ok hRead with ⟨hSame, hPath⟩
  subst hSame
  rcases bind_eq_ok.mp hTail₅ with ⟨fdW, t₆, hOpenW, hTail₆⟩
  rcases bind_eq_ok.mp hTail₆ with ⟨_, t₇, hStoreW, hTail₇⟩
  have hMail₇ : t₇.mail = t₅.mail :=
    (mail_modifyUnix hStoreW).trans
      (mail_openFile_wronly hOpenW)
  have hDrains₇ : Drains t₂ t₇ :=
    hDrains₄.trans (.of_same hMail₇)
  by_cases hFdW : fdW = -1
  · rw [if_pos hFdW] at hTail₇
    cases hTail₇
    exact .of_failed hDrains₇
  rw [if_neg hFdW] at hTail₇
  cases hRest : afterPrefix unixLocalPath reqPath with
  | none =>
      rw [hRest] at hTail₇
      cases hTail₇
      exact .of_failed hDrains₇
  | some client =>
      rw [hRest] at hTail₇
      have hShape := afterPrefix_eq_some hRest
      subst hShape
      rcases openFile_writesTo hOpenW hFdW with
        ⟨m', hSend, hWrites⟩
      have hWrites₇ : t₇.WritesTo fdW m' := by
        rcases modifyUnix_ok hStoreW with ⟨q, u, -, -, rfl⟩
        exact hWrites.of_fds rfl
      rcases mail_unixAcceptReply hWrites₇ hTail₇ with
        ⟨hFailed, hSent⟩
      constructor
      · intro hNot
        exact hDrains₇.trans (.of_same (hFailed hNot))
      · intro _ m hClient
        have hOther : m' ≠ m := by
          rintro rfl
          exact hClient _ hPath hSend
        rw [hSent m hOther, hMail₇, hMail₄]
        rw [slotPath_eq] at hOpenR ⊢
        exact mail_openFile_rdonly hOpenR hFdR m

/- Undoing an accept does not touch the mailslots. -/
theorem mail_acceptCleanup
    (nfd : Fd)
    (slot : Nat)
    (np : Ptr) :
    Within (fun s t => t.mail = s.mail)
      (acceptCleanup nfd slot np) := by
  have hRefl : ∀ s : Process, s.mail = s.mail := fun _ => rfl
  have hTrans : ∀ s t u : Process, t.mail = s.mail →
      u.mail = t.mail → u.mail = s.mail :=
    fun _ _ _ hLeft hRight => hRight.trans hLeft
  have hFree : ∀ q, Within (fun s t => t.mail = s.mail)
      (free q) := by
    intro q s a t hRun
    rcases free_ok hRun with ⟨-, rfl⟩ | ⟨q', -, rfl⟩
    · rfl
    · rfl
  unfold acceptCleanup
  apply Within.bind hTrans
  · exact Within.modify fun _ => rfl
  intro _
  apply Within.bind hTrans
  · exact Within.modify fun _ => rfl
  intro _
  apply Within.bind hTrans
  · exact Within.modify fun _ => rfl
  intro _
  apply Within.bind hTrans
  · exact (reads_derefSocket np).within hRefl
  intro nsd
  apply Within.bind hTrans (hFree _)
  intro _
  apply Within.bind hTrans
  · intro s a t hRun
    rcases modifySocket_ok hRun with ⟨d, -, rfl⟩
    rfl
  intro _
  apply Within.bind hTrans (hFree _)
  intro _
  exact Within.modify fun _ => rfl

------------------------------------------------------------
-- What An Accept Takes
------------------------------------------------------------

/- The listener and its data are no new blocks. -/
theorem listener_not_new
    (hNew : s.heap np = some (.socket nd))
    (hNe : p ≠ np)
    (hUnix : s.HasUnix p lsd usock) :
    ¬ NewBlocks np s p ∧
      ∀ q, lsd.idata = some q → ¬ NewBlocks np s q := by
  constructor
  · rintro (hSame | hNone)
    · exact hNe hSame
    · rw [hUnix.socket] at hNone
      cases hNone
  · intro q hIdata hOwn
    rcases hUnix.data with ⟨q', hIdata', hData⟩
    cases hIdata.symm.trans hIdata'
    rcases hOwn with rfl | hNone
    · rw [hNew] at hData
      cases hData
    · rw [hNone] at hData
      cases hData

/-
  An accept fails before it reads, or it reads with the files
  as they were and acts on what it has read.
-/
theorem unixAccept_reads
    (hNew : s.heap np = some (.socket nd))
    (hNe : p ≠ np)
    (hUnix : s.HasUnix p lsd usock)
    (hRun : unixAccept env p np s = .ok (r, t)) :
    r ≠ 0 ∧ t.mail = s.mail ∨
      ∃ a u taken v, SameFiles u s ∧
        readFd env.read usock.fdR u = .ok (taken, v) ∧
        (taken = none ∧ r ≠ 0 ∧ t = v ∨
          ∃ ms, taken = some ms ∧
            unixAcceptRequest env lsd np (some a)
              (receivedRequest env.reqJunk ms) v =
                .ok (r, t) ∧
            (r = 0 → AcceptStages env p np ms s t)) := by
  rcases listener_not_new hNew hNe hUnix with ⟨hP, hQ⟩
  unfold unixAccept at hRun
  rw [run_bind_ok (derefSocket_run hUnix.socket)] at hRun
  rcases bind_eq_ok.mp hRun with ⟨data, t₁, hMalloc, hTail₁⟩
  rcases bind_eq_ok.mp hTail₁ with ⟨_, t₂, hHang, hTail₂⟩
  have hFiles₂ : SameFiles t₂ t₁ := by
    rcases modifySocket_ok hHang with ⟨e, -, rfl⟩
    exact ⟨rfl, rfl, rfl⟩
  rcases malloc_ok hMalloc with
    ⟨rfl, rfl⟩ | ⟨a, rfl, hMemory, hFree, hAlloc⟩
  · rw [if_pos rfl] at hTail₂
    cases hTail₂
    exact .inl ⟨by decide, hFiles₂.mail⟩
  rw [if_neg (by simp)] at hTail₂
  rcases bind_eq_ok.mp hTail₂ with ⟨_, t₃, hClear, hTail₃⟩
  have hFiles₃ : SameFiles t₃ s := by
    rcases modifyUnix_ok hClear with ⟨q, b, -, -, rfl⟩
    constructor
    · exact hFiles₂.fds.trans (by rw [hAlloc]; rfl)
    · exact hFiles₂.mail.trans (by rw [hAlloc]; rfl)
    · exact hFiles₂.reportsNext.trans (by rw [hAlloc]; rfl)
  have hOwn : ∀ r, some a = some r → NewBlocks np s r := by
    rintro r hR
    cases hR
    exact .inr hFree
  have hNp : NewBlocks np s np := .inl rfl
  have hLocal : Local (NewBlocks np s) s t₃ := by
    rw [hAlloc] at hHang
    exact (Local.setBlock (.inr hFree) s _).trans
      ((LocalCmd.modifySocket hNp _ _ _ _ hHang).trans
        (LocalCmd.modifyUnix hOwn _ _ _ _ hClear))
  rcases bind_eq_ok.mp hTail₃ with ⟨nsd, t₄, hNsd, hTail₄⟩
  have hSame := (derefSocket_ok hNsd).1
  subst hSame
  by_cases hRoom : nsd.peernamelen < sockaddrMaxSize
  · rw [if_pos hRoom] at hTail₄
    cases hTail₄
    exact .inl ⟨by decide, hFiles₃.mail⟩
  rw [if_neg hRoom] at hTail₄
  have hThere : t₄.HasUnix p lsd usock := by
    rcases hUnix.data with ⟨q, hIdata, hData⟩
    refine ⟨?_, q, hIdata, ?_⟩
    · rw [hLocal.heap p hP]
      exact hUnix.socket
    · rw [hLocal.heap q (hQ q hIdata)]
      exact hData
  have hUsock := derefUnix_run hThere
  rw [run_bind_ok hUsock] at hTail₄
  rcases bind_eq_ok.mp hTail₄ with ⟨taken, v, hRead, hTail₅⟩
  refine .inr ⟨a, t₄, taken, v, hFiles₃, hRead, ?_⟩
  cases taken with
  | none =>
      cases hTail₅
      exact .inl ⟨rfl, by decide, rfl⟩
  | some ms =>
      refine .inr ⟨ms, rfl, hTail₅, ?_⟩
      rintro rfl
      exact ⟨lsd, usock, a, t₁, t₂, t₄, v, hUnix.socket,
        hMalloc, hHang, hClear, hUsock, hRead, hTail₅⟩

end Accepting

------------------------------------------------------------
-- Requests
------------------------------------------------------------

/- A request whose reply goes to another mailslot. -/
structure UnixMsgOpen.Asks
    (m : Bytes)
    (req : UnixMsgOpen) : Prop where
  type : req.header.type = unixMsgClientOpen
  length : req.path.length = openPathSize
  reply : ∃ path m', CString.read? req.path = some path ∧
    sendName path = some m' ∧ m' ≠ m

/- The message is such a request. -/
def IsRequest (m x : Bytes) : Prop :=
  ∃ req : UnixMsgOpen, x = req.encode ∧ req.Asks m

/-
  There is a request to read, and the read takes no more than
  one: it is the only one, or DOS does not report a next one
  and the mailslot of the new connection is not this one.
-/
structure TakesOne
    (m name : Bytes)
    (env : UnixAcceptEnv)
    (s : Process) : Prop where
  found : s.mail m ++ env.read.arrivals ≠ []
  single : (s.mail m ++ env.read.arrivals).length ≤ 1 ∨
    s.reportsNext = false ∧
      readName (slotPath name env.slotRandom) ≠ some m

/- What an accept takes from the control mailslot. -/
structure Takings
    (env : UnixAcceptEnv)
    (p np : Ptr)
    (m name : Bytes)
    (r : Int)
    (s t : Process) : Prop where
  failed : r ≠ 0 →
    ∀ x ∈ t.mail m, x ∈ s.mail m ++ env.read.arrivals
  done : r = 0 → ∀ x rest,
    s.mail m ++ env.read.arrivals = x :: rest →
    (∃ more, AcceptStages env p np (x :: more) s t) ∧
      t.mail m = if s.reportsNext = true ∨
        readName (slotPath name env.slotRandom) = some m
      then [] else rest

section Taking

variable {env : UnixAcceptEnv} {p np : Ptr} {m name x : Bytes}
variable {lsd nd : LsckSocket} {usock : LsckSocketUnix}
variable {me : MailslotFsext} {r : Int} {s t u : Process}

theorem IsRequest.ne_nil
    (hAsks : IsRequest m x) :
    x ≠ [] := by
  rcases hAsks with ⟨req, rfl, -⟩
  intro hNone
  have hLength := congrArg List.length hNone
  rw [UnixMsgOpen.encode, List.length_append,
    UnixMsgHeader.length_encode, List.length_nil] at hLength
  unfold headerSize at hLength
  omega

/- The reply to a request that is read does not come back. -/
theorem IsRequest.reply_elsewhere
    (hAsks : IsRequest m x)
    (junk : Fin 148 → UInt8)
    (more : List Bytes)
    {path : Bytes}
    (hPath : CString.read? (receivedRequest junk
      (x :: more)).path = some path) :
    sendName path ≠ some m := by
  rcases hAsks with ⟨req, rfl, hReq⟩
  rw [path_received hReq.length] at hPath
  rcases hReq.reply with ⟨path', m', hPath', hSend, hOther⟩
  cases hPath.symm.trans hPath'
  intro hSame
  cases hSend.symm.trans hSame
  exact hOther rfl

/-
  An accept that fails leaves nothing but requests. One that
  succeeds takes the request in front, and more than that
  where DOS reports a next one.
-/
theorem unixAccept_takings
    (hNew : s.heap np = some (.socket nd))
    (hNe : p ≠ np)
    (hUnix : s.HasUnix p lsd usock)
    (hName : CString.read? (lsd.sockname.drop 2) = some name)
    (hReads : s.ReadsMail usock.fdR me m)
    (hIdle : me.peeking = false)
    (hAsk : ∀ x ∈ s.mail m ++ env.read.arrivals,
      IsRequest m x)
    (hRun : unixAccept env p np s = .ok (r, t)) :
    Takings env p np m name r s t := by
  rcases unixAccept_reads hNew hNe hUnix hRun with
    ⟨hFail, hMail⟩ |
    ⟨a, u, taken, v, hFiles, hRead, hEnd⟩
  · constructor
    · intro _ x hX
      rw [hMail] at hX
      exact List.mem_append_left _ hX
    · exact fun hZero => absurd hZero hFail
  have hQueue : u.mail m ++ env.read.arrivals =
      s.mail m ++ env.read.arrivals := by
    rw [hFiles.mail]
  have hHere : u.ReadsMail usock.fdR me m :=
    hReads.of_fds (congrFun hFiles.fds _)
  have hFull : ∀ x ∈ u.mail m ++ env.read.arrivals,
      x ≠ [] := by
    rw [hQueue]
    exact fun x hX => (hAsk x hX).ne_nil
  have hTook := (readFd_full hHere hIdle hFull hRead).2
  rw [hQueue, hFiles.reportsNext] at hTook
  rcases hTook with ⟨rfl, hNone, hMail⟩ | ⟨rfl, rfl⟩
  · -- The mailslot is empty, and the accept fails.
    rcases hEnd with ⟨-, hFail, rfl⟩ | ⟨ms, hSome, -⟩
    case inr => cases hSome
    constructor
    · intro _ x hX
      rw [hMail] at hX
      have hEmpty : (u.setMail m []).mail m = [] :=
        Function.update_self _ _ _
      rw [hEmpty] at hX
      cases hX
    · exact fun hZero => absurd hZero hFail
  rcases hEnd with ⟨hNone, -⟩ | ⟨ms, hMs, hRequest, hStages⟩
  · cases hNone
  have hLeft : (u.setMail m (if s.reportsNext then [] else
      (s.mail m ++ env.read.arrivals).drop 1)).mail m =
        if s.reportsNext then [] else
          (s.mail m ++ env.read.arrivals).drop 1 :=
    Function.update_self _ _ _
  have hAnswers := unixAcceptRequest_answers hName hRequest
  constructor
  · intro hFail x hX
    rcases hAnswers.refused hFail m with hSame | hNone
    · rw [hSame, hLeft] at hX
      split at hX
      · cases hX
      · exact List.mem_of_mem_drop hX
    · rw [hNone] at hX
      cases hX
  · intro hZero x rest hSplit
    rw [hSplit] at hMs hLeft
    have hFront : ∃ more, ms = x :: more := by
      cases hNext : s.reportsNext with
      | true =>
          rw [hNext] at hMs
          exact ⟨rest, (Option.some.inj hMs).symm⟩
      | false =>
          rw [hNext] at hMs
          exact ⟨[], (Option.some.inj hMs).symm⟩
    rcases hFront with ⟨more, rfl⟩
    refine ⟨⟨more, hStages hZero⟩, ?_⟩
    have hAsks : IsRequest m x := by
      apply hAsk
      rw [hSplit]
      exact List.mem_cons_self
    have hMail := hAnswers.answered hZero m
      (fun _ hPath => hAsks.reply_elsewhere _ more hPath)
    rw [hSplit, hLeft] at hMail
    rw [hMail]
    by_cases hSlot :
        readName (slotPath name env.slotRandom) = some m
    · rw [if_pos hSlot, if_pos (.inr hSlot)]
    · rw [if_neg hSlot]
      cases s.reportsNext with
      | true => simp
      | false => simp [hSlot]

end Taking

end Libsocket

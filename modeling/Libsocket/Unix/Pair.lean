import Libsocket.Unix.Handshake

/-
  Pairs of Unix streams: what `socketpair` leaves in the two
  ends.

  Main declarations:
    * `PairMade`, `PairMade.ends`
    * `unixSocketpair_ends`, `unixSocketpair_stream`
-/

namespace Libsocket

open Command

------------------------------------------------------------
-- The Data Of A Pair
------------------------------------------------------------

/- The data of one end of a stream pair. -/
def LsckSocketUnix.paired
    (usock : LsckSocketUnix)
    (secret : UnixMsgSecret)
    (seqW seqR : Int)
    (fdW : Fd)
    (peer : Bytes) : LsckSocketUnix :=
  { usock with
    secret := secret
    seqW := seqW
    seqR := seqR
    fdW := fdW
    peerpath := CString.store peer ++
      usock.peerpath.drop (peer.length + 1) }

theorem LsckSocketUnix.paired_sockpath
    (usock : LsckSocketUnix)
    (secret : UnixMsgSecret)
    (seqW seqR : Int)
    (fdW : Fd)
    (peer : Bytes) :
    (usock.paired secret seqW seqR fdW peer).sockpath =
      usock.sockpath := rfl

theorem LsckSocketUnix.paired_peerpath
    (usock : LsckSocketUnix)
    (secret : UnixMsgSecret)
    (seqW seqR : Int)
    (fdW : Fd)
    (peer : Bytes) :
    (usock.paired secret seqW seqR fdW peer).peerpath =
      CString.store peer ++
        usock.peerpath.drop (peer.length + 1) := rfl

theorem LsckSocketUnix.boundAs_sockpath
    (usock : LsckSocketUnix)
    (fd : Fd)
    (name : Bytes) :
    (usock.boundAs fd name).sockpath = CString.store name ++
      usock.sockpath.drop (name.length + 1) := rfl

/- An end's write descriptor is stored if it opened. -/
theorem openPairEnd_some
    {env : OpenEnv}
    {q : Ptr}
    {dest : Bytes}
    {usock : LsckSocketUnix}
    {s s' : Process}
    {fd : Fd}
    (hData : s.heap q = some (.unix usock))
    (hRun : openPairEnd env (some q) dest s = .ok (fd, s')) :
    ∃ fdW, s'.heap = Function.update s.heap q
      (some (.unix { usock with fdW := fdW })) := by
  rcases bind_eq_ok.mp hRun with ⟨path, s₁, hFits, hOpened⟩
  rcases fits_ok hFits with ⟨rfl, rfl, -⟩
  rcases bind_eq_ok.mp hOpened with ⟨fd', t, hOpen, hStore⟩
  have hHeap := (openFile_ok hOpen).heap
  rcases bind_eq_ok.mp hStore with ⟨_, u, hWhen, hPure⟩
  cases hPure
  by_cases hFd : fd ≠ -1
  · rw [when, if_pos hFd] at hWhen
    rcases modifyUnix_some hWhen with ⟨usock', hU, hHeap', -⟩
    rw [hHeap, hData] at hU
    cases hU
    refine ⟨fd, ?_⟩
    rw [hHeap', hHeap]
  · rw [when, if_neg hFd] at hWhen
    cases hWhen
    refine ⟨usock.fdW, ?_⟩
    rw [hHeap]
    exact (Function.update_eq_self_iff.mpr hData.symm).symm

/- The secret that both ends of a pair share. -/
def UnixSocketpairEnv.pairSecret
    (env : UnixSocketpairEnv)
    (s : Process) : UnixMsgSecret :=
  ⟨UInt32.ofNat env.secret, s.pid⟩

/-
  What is done before the loop: secrets, sequence numbers
  and peer paths. The loop's second round is run if the
  first one opens a file.
-/
theorem pairStream_prepares
    {env : UnixSocketpairEnv}
    {q₀ q₁ : Ptr}
    {path₀ path₁ : Bytes}
    {u₀ u₁ : LsckSocketUnix}
    {s s' : Process}
    (hNe : q₀ ≠ q₁)
    (hData₀ : s.heap q₀ = some (.unix u₀))
    (hData₁ : s.heap q₁ = some (.unix u₁))
    (hRun : pairStream env (some q₀) (some q₁) path₀ path₁ s =
      .ok ((), s')) :
    ∃ t fd v, t.fds = s.fds ∧
      t.heap q₀ = some (.unix (u₀.paired (env.pairSecret s)
        env.seq₀ env.seq₁ u₀.fdW path₁)) ∧
      t.heap q₁ = some (.unix (u₁.paired (env.pairSecret s)
        env.seq₁ env.seq₀ u₁.fdW path₀)) ∧
      (∀ r, r ≠ q₀ → r ≠ q₁ → t.heap r = s.heap r) ∧
      openPairEnd env.open₀ (some q₀) path₁ t = .ok (fd, v) ∧
      (fd = -1 ∧ s' = v ∨ fd ≠ -1 ∧ ∃ fd',
        openPairEnd env.open₁ (some q₁) path₀ v =
          .ok (fd', s')) := by
  unfold pairStream at hRun
  rw [run_bind_ok (run_get s)] at hRun
  rcases bind_eq_ok.mp hRun with ⟨_, t₁, hFirst, hRun₁⟩
  rcases bind_eq_ok.mp hRun₁ with ⟨_, t₂, hSecond, hRun₂⟩
  rcases bind_eq_ok.mp hRun₂ with ⟨_, t₃, hPeer₀, hRun₃⟩
  rcases bind_eq_ok.mp hRun₃ with ⟨_, t₄, hPeer₁, hRun₄⟩
  rcases bind_eq_ok.mp hRun₄ with ⟨fd, t₅, hOpen₀, hOpen₁⟩
  rcases modifyUnix_some hFirst with ⟨x, hX, hHeap₁, hFds₁, -⟩
  rw [hData₀] at hX
  cases hX
  rcases modifyUnix_some hSecond with
    ⟨x, hX, hHeap₂, hFds₂, -⟩
  rw [hHeap₁, Function.update_of_ne hNe.symm, hData₁] at hX
  cases hX
  rcases setPeerpath_some hPeer₀ with ⟨x, hX, hHeap₃, hFds₃⟩
  rw [hHeap₂, Function.update_of_ne hNe, hHeap₁,
    Function.update_self] at hX
  cases hX
  rcases setPeerpath_some hPeer₁ with ⟨x, hX, hHeap₄, hFds₄⟩
  rw [hHeap₃, Function.update_of_ne hNe.symm, hHeap₂,
    Function.update_self] at hX
  cases hX
  have hLast : fd = -1 ∧ s' = t₅ ∨ fd ≠ -1 ∧ ∃ fd',
      openPairEnd env.open₁ (some q₁) path₀ t₅ =
        .ok (fd', s') := by
    by_cases hFd : fd ≠ -1
    · rw [when, if_pos hFd] at hOpen₁
      rcases bind_eq_ok.mp hOpen₁ with ⟨fd', t₆, hLast, hPure⟩
      cases hPure
      exact .inr ⟨hFd, fd', hLast⟩
    · rw [when, if_neg hFd] at hOpen₁
      cases hOpen₁
      exact .inl ⟨not_not.mp hFd, rfl⟩
  refine ⟨t₄, fd, t₅, ?_, ?_, ?_, ?_, hOpen₀, hLast⟩
  · rw [hFds₄, hFds₃, hFds₂, hFds₁]
  · rw [hHeap₄, Function.update_of_ne hNe, hHeap₃,
      Function.update_self]
    rfl
  · rw [hHeap₄, Function.update_self]
    rfl
  · intro r hR₀ hR₁
    rw [hHeap₄, Function.update_of_ne hR₁, hHeap₃,
      Function.update_of_ne hR₀, hHeap₂,
      Function.update_of_ne hR₁, hHeap₁,
      Function.update_of_ne hR₀]

/- The data of both ends; all else is as it was. -/
structure PairHeap
    (q₀ q₁ : Ptr)
    (s : Process)
    (b₀ b₁ : Block)
    (t : Process) : Prop where
  left : t.heap q₀ = some b₀
  right : t.heap q₁ = some b₁
  other : ∀ r, r ≠ q₀ → r ≠ q₁ → t.heap r = s.heap r

namespace PairHeap

variable {q₀ q₁ : Ptr} {s t u : Process} {b₀ b₁ b : Block}

theorem setLeft
    (hPair : PairHeap q₀ q₁ s b₀ b₁ t)
    (hNe : q₀ ≠ q₁)
    (hHeap : u.heap = Function.update t.heap q₀ (some b)) :
    PairHeap q₀ q₁ s b b₁ u := by
  constructor
  · rw [hHeap, Function.update_self]
  · rw [hHeap, Function.update_of_ne hNe.symm, hPair.right]
  · intro r hR₀ hR₁
    rw [hHeap, Function.update_of_ne hR₀]
    exact hPair.other r hR₀ hR₁

theorem setRight
    (hPair : PairHeap q₀ q₁ s b₀ b₁ t)
    (hNe : q₀ ≠ q₁)
    (hHeap : u.heap = Function.update t.heap q₁ (some b)) :
    PairHeap q₀ q₁ s b₀ b u := by
  constructor
  · rw [hHeap, Function.update_of_ne hNe, hPair.left]
  · rw [hHeap, Function.update_self]
  · intro r hR₀ hR₁
    rw [hHeap, Function.update_of_ne hR₁]
    exact hPair.other r hR₀ hR₁

end PairHeap

/- What the two ends of a stream pair hold. -/
theorem pairStream_ok
    {env : UnixSocketpairEnv}
    {q₀ q₁ : Ptr}
    {path₀ path₁ : Bytes}
    {u₀ u₁ : LsckSocketUnix}
    {s s' : Process}
    (hNe : q₀ ≠ q₁)
    (hData₀ : s.heap q₀ = some (.unix u₀))
    (hData₁ : s.heap q₁ = some (.unix u₁))
    (hRun : pairStream env (some q₀) (some q₁) path₀ path₁ s =
      .ok ((), s')) :
    ∃ fdW₀ fdW₁,
      s'.heap q₀ = some (.unix (u₀.paired
        (env.pairSecret s) env.seq₀ env.seq₁ fdW₀ path₁)) ∧
      s'.heap q₁ = some (.unix (u₁.paired
        (env.pairSecret s) env.seq₁ env.seq₀ fdW₁ path₀)) ∧
      ∀ r, r ≠ q₀ → r ≠ q₁ → s'.heap r = s.heap r := by
  rcases pairStream_prepares hNe hData₀ hData₁ hRun with
    ⟨t, fd, v, -, hLeft, hRight, hOther, hOpen₀, hLast⟩
  rcases openPairEnd_some hLeft hOpen₀ with ⟨fdW₀, hHeap⟩
  have hPair := PairHeap.setLeft ⟨hLeft, hRight, hOther⟩ hNe
    hHeap
  rcases hLast with ⟨-, rfl⟩ | ⟨-, fd', hOpen₁⟩
  · exact ⟨fdW₀, u₁.fdW, hPair.left, hPair.right, hPair.other⟩
  · rcases openPairEnd_some hPair.right hOpen₁ with
      ⟨fdW₁, hHeap'⟩
    have hBoth := hPair.setRight hNe hHeap'
    exact ⟨fdW₀, fdW₁, hBoth.left, hBoth.right, hBoth.other⟩

theorem isText_pairPath (n : Fin 2147483648) :
    CString.IsText (pairPath n) := by
  apply CString.IsText.append
  · decide
  · exact isText_hexDigits 8 n

theorem length_hexDigits (k n : Nat) :
    (hexDigits k n).length = k := by
  induction k generalizing n with
  | zero => rfl
  | succ k ih =>
      simp only [hexDigits, List.length_append, ih,
        List.length_singleton]

/- A pair's path fits into an address. -/
theorem length_pairPath_lt (n : Fin 2147483648) :
    (pairPath n).length < 108 := by
  have hFront : (bytes "/tmp/lsck/sockpair/").length = 19 :=
    by decide
  simp only [pairPath, hex8, List.length_append, hFront,
    length_hexDigits]
  omega

/- A pair's path names itself. -/
theorem read?_pairPath (n : Fin 2147483648) :
    CString.read? ((sockaddrUn (pairPath n)).drop 2) =
      some (pairPath n) := by
  have hDrop : (sockaddrUn (pairPath n)).drop 2 =
      CString.store (pairPath n) ++ [] := by
    rw [List.append_nil]
    rfl
  rw [hDrop]
  exact CString.read?_store (isText_pairPath n) []

/- A pair's path in a buffer. -/
theorem read?_pairName
    (n : Fin 2147483648)
    (rest : Bytes) :
    CString.read? (CString.store (pairPath n) ++ rest) =
      some (pairPath n) :=
  CString.read?_store (isText_pairPath n) rest

/- A descriptor that is one end of a pair. -/
def LsckSocket.joined (lsd : LsckSocket) : LsckSocket :=
  { lsd with connected := true, bound := true }

/- The names of an end and of the end it is paired with. -/
def Process.Names
    (s : Process)
    (fd : Fd)
    (p : Ptr)
    (own peer : Bytes) : Prop :=
  ∃ d usock, s.HasUnix p d usock ∧
    d.fd = fd ∧
    d.interface = some .unix ∧
    d.connected = true ∧
    CString.read? usock.sockpath = some own ∧
    CString.read? usock.peerpath = some peer

/- The stages of pairing two streams. -/
theorem unixSocketpair_stages
    {env : UnixSocketpairEnv}
    {p₀ p₁ : Ptr}
    {d₀ d₁ : LsckSocket}
    {s s' : Process}
    {r : Int}
    (hSocket₀ : s.heap p₀ = some (.socket d₀))
    (hSocket₁ : s.heap p₁ = some (.socket d₁))
    (hType : d₀.type = sockStream)
    (hRun : unixSocketpair env p₀ p₁ s = .ok (r, s'))
    (hSuccess : r ≠ -1) :
    r = 0 ∧ ∃ t₁ t₂ t₃ t₄,
      unixBind env.bind₀ p₀ (sockaddrUn (pairPath env.name₀))
        sockaddrMaxSize s = .ok (0, t₁) ∧
      unixBind env.bind₁ p₁ (sockaddrUn (pairPath env.name₁))
        sockaddrMaxSize t₁ = .ok (0, t₂) ∧
      pairStream env d₀.idata d₁.idata (pairPath env.name₀)
        (pairPath env.name₁) t₂ = .ok ((), t₃) ∧
      modifySocket p₀ LsckSocket.joined t₃ = .ok ((), t₄) ∧
      modifySocket p₁ LsckSocket.joined t₄ = .ok ((), s') := by
  unfold unixSocketpair at hRun
  rw [run_bind_ok (derefSocket_run hSocket₀),
    run_bind_ok (derefSocket_run hSocket₁)] at hRun
  rcases bind_eq_ok.mp hRun with ⟨ret₀, t₁, hBind₀, hRun₁⟩
  rcases ite_return_ok hRun₁ hSuccess with ⟨hRet₀, hRun₂⟩
  rcases bind_eq_ok.mp hRun₂ with ⟨ret₁, t₂, hBind₁, hRun₃⟩
  rcases ite_return_ok hRun₃ hSuccess with ⟨hRet₁, hRun₄⟩
  rw [if_pos hType] at hRun₄
  rcases bind_eq_ok.mp hRun₄ with ⟨_, t₃, hPair, hRun₅⟩
  rcases bind_eq_ok.mp hRun₅ with ⟨_, t₄, hMark₀, hRun₆⟩
  rcases bind_eq_ok.mp hRun₆ with ⟨_, t₅, hMark₁, hPure⟩
  cases hPure
  have hZero₀ := unixBind_answer hBind₀ hRet₀
  have hZero₁ := unixBind_answer hBind₁ hRet₁
  subst hZero₀ hZero₁
  exact ⟨rfl, t₁, t₂, t₃, t₄, hBind₀, hBind₁, hPair, hMark₀,
    hMark₁⟩

/-
  Two streams that the interface has paired: what the data
  of each end holds.
-/
theorem unixSocketpair_ends
    {env : UnixSocketpairEnv}
    {p₀ p₁ : Ptr}
    {d₀ d₁ : LsckSocket}
    {s s' : Process}
    {r : Int}
    (hForm : WellFormed none s)
    (hNe : p₀ ≠ p₁)
    (hSocket₀ : s.heap p₀ = some (.socket d₀))
    (hSocket₁ : s.heap p₁ = some (.socket d₁))
    (hType : d₀.type = sockStream)
    (hRun : unixSocketpair env p₀ p₁ s = .ok (r, s'))
    (hSuccess : r ≠ -1) :
    r = 0 ∧ ∃ u₀ u₁ : LsckSocketUnix,
      ∃ fdR₀ fdR₁ fdW₀ fdW₁ secret,
      d₀.interface = some .unix ∧ d₁.interface = some .unix ∧
      s'.HasUnix p₀ d₀.joined
        ((u₀.boundAs fdR₀ (pairPath env.name₀)).paired secret
          env.seq₀ env.seq₁ fdW₀ (pairPath env.name₁)) ∧
      s'.HasUnix p₁ d₁.joined
        ((u₁.boundAs fdR₁ (pairPath env.name₁)).paired secret
          env.seq₁ env.seq₀ fdW₁ (pairPath env.name₀)) := by
  rcases unixSocketpair_stages hSocket₀ hSocket₁ hType hRun
    hSuccess with
    ⟨rfl, t₁, t₂, t₃, t₄, hBind₀, hBind₁, hPair, hMark₀, hMark₁⟩
  rcases unixBind_ok hBind₀ with
    ⟨e₀, q₀, u₀, n₀, -, fdR₀, -, hE₀, hQ₀, hU₀, hN₀, -, -, -,
      -, hHeap₁⟩
  rw [read?_pairPath] at hN₀
  cases hN₀
  rw [hSocket₀] at hE₀
  cases hE₀
  rcases unixBind_ok hBind₁ with
    ⟨e₁, q₁, u₁, n₁, -, fdR₁, -, hE₁, hQ₁, hU₁, hN₁, -, -, -,
      -, hHeap₂⟩
  rw [read?_pairPath] at hN₁
  cases hN₁
  have hNe₁₀ := socket_ne_unix hSocket₁ hU₀
  rw [hHeap₁, Function.update_of_ne hNe₁₀, hSocket₁] at hE₁
  cases hE₁
  have hNeQ : q₁ ≠ q₀ := by
    rintro rfl
    exact hNe (hForm.own p₀ p₁ d₀ d₁ hSocket₀ hSocket₁
      (by simp) (by simp) (hQ₀.trans hQ₁.symm))
  have hU₁' := hU₁
  rw [hHeap₁, Function.update_of_ne hNeQ] at hU₁
  have hNe₀₀ := socket_ne_unix hSocket₀ hU₀
  have hNe₀₁ := socket_ne_unix hSocket₀ hU₁
  have hNe₁₁ := socket_ne_unix hSocket₁ hU₁
  rw [hQ₀, hQ₁] at hPair
  have hLeft : t₂.heap q₀ = some (.unix (u₀.boundAs fdR₀
      (pairPath env.name₀))) := by
    rw [hHeap₂, Function.update_of_ne hNeQ.symm, hHeap₁,
      Function.update_self]
  have hRight : t₂.heap q₁ = some (.unix (u₁.boundAs fdR₁
      (pairPath env.name₁))) := by
    rw [hHeap₂, Function.update_self]
  rcases pairStream_ok hNeQ.symm hLeft hRight hPair with
    ⟨fdW₀, fdW₁, hEnd₀, hEnd₁, hOther⟩
  have hSame : ∀ r, r ≠ q₀ → r ≠ q₁ →
      t₃.heap r = s.heap r := by
    intro r hR₀ hR₁
    rw [hOther r hR₀ hR₁, hHeap₂, Function.update_of_ne hR₁,
      hHeap₁, Function.update_of_ne hR₀]
  rcases modifySocket_ok hMark₀ with ⟨e₀, hE₀, hT₄⟩
  rw [hSame p₀ hNe₀₀ hNe₀₁, hSocket₀] at hE₀
  cases hE₀
  rcases modifySocket_ok hMark₁ with ⟨e₁, hE₁, hT₅⟩
  rw [hT₄, Process.heap_setBlock,
    Function.update_of_ne hNe.symm, hSame p₁ hNe₁₀ hNe₁₁,
    hSocket₁] at hE₁
  cases hE₁
  have hFinal : ∀ r, r ≠ p₀ → r ≠ p₁ →
      s'.heap r = t₃.heap r := by
    intro r hR₀ hR₁
    rw [hT₅, Process.heap_setBlock, Function.update_of_ne hR₁,
      hT₄, Process.heap_setBlock, Function.update_of_ne hR₀]
  have hJoined₀ : s'.heap p₀ = some (.socket d₀.joined) := by
    rw [hT₅, Process.heap_setBlock, Function.update_of_ne hNe,
      hT₄, Process.heap_setBlock, Function.update_self]
  have hJoined₁ : s'.heap p₁ = some (.socket d₁.joined) := by
    rw [hT₅, Process.heap_setBlock, Function.update_self]
  have hInterface₀ := hForm.interface_unix hSocket₀ hQ₀ hU₀
  have hInterface₁ := hForm.interface_unix hSocket₁ hQ₁ hU₁
  have hAt₀ := (hFinal q₀ hNe₀₀.symm hNe₁₀.symm).trans hEnd₀
  have hAt₁ := (hFinal q₁ hNe₀₁.symm hNe₁₁.symm).trans hEnd₁
  exact ⟨rfl, u₀, u₁, fdR₀, fdR₁, fdW₀, fdW₁, _, hInterface₀,
    hInterface₁, ⟨hJoined₀, q₀, hQ₀, hAt₀⟩,
    ⟨hJoined₁, q₁, hQ₁, hAt₁⟩⟩

/- Each end has the other's path. -/
theorem unixSocketpair_stream
    {env : UnixSocketpairEnv}
    {p₀ p₁ : Ptr}
    {d₀ d₁ : LsckSocket}
    {s s' : Process}
    {r : Int}
    (hForm : WellFormed none s)
    (hNe : p₀ ≠ p₁)
    (hSocket₀ : s.heap p₀ = some (.socket d₀))
    (hSocket₁ : s.heap p₁ = some (.socket d₁))
    (hType : d₀.type = sockStream)
    (hRun : unixSocketpair env p₀ p₁ s = .ok (r, s'))
    (hSuccess : r ≠ -1) :
    r = 0 ∧
    s'.Names d₀.fd p₀ (pairPath env.name₀)
      (pairPath env.name₁) ∧
    s'.Names d₁.fd p₁ (pairPath env.name₁)
      (pairPath env.name₀) := by
  rcases unixSocketpair_ends hForm hNe hSocket₀ hSocket₁ hType
    hRun hSuccess with
    ⟨hZero, u₀, u₁, fdR₀, fdR₁, fdW₀, fdW₁, secret, hI₀, hI₁,
      hUnix₀, hUnix₁⟩
  constructor
  · exact hZero
  constructor
  · refine ⟨d₀.joined, _, hUnix₀, rfl, hI₀, rfl, ?_, ?_⟩
    · rw [LsckSocketUnix.paired_sockpath,
        LsckSocketUnix.boundAs_sockpath, read?_pairName]
    · rw [LsckSocketUnix.paired_peerpath, read?_pairName]
  · refine ⟨d₁.joined, _, hUnix₁, rfl, hI₁, rfl, ?_, ?_⟩
    · rw [LsckSocketUnix.paired_sockpath,
        LsckSocketUnix.boundAs_sockpath, read?_pairName]
    · rw [LsckSocketUnix.paired_peerpath, read?_pairName]

------------------------------------------------------------
-- The Names That Are Stored
------------------------------------------------------------

/-
  Every Unix socket is there with the same data, and its
  descriptor has the same status.
-/
def SameUnix (s s' : Process) : Prop :=
  ∀ p d usock, s.HasUnix p d usock →
    ∃ d', s'.HasUnix p d' usock ∧ d'.status = d.status

theorem SameUnix.trans
    {s t u : Process}
    (hLeft : SameUnix s t)
    (hRight : SameUnix t u) :
    SameUnix s u := by
  intro p d usock hUnix
  rcases hLeft p d usock hUnix with ⟨d', hUnix', hStatus⟩
  rcases hRight p d' usock hUnix' with
    ⟨d'', hUnix'', hStatus'⟩
  exact ⟨d'', hUnix'', hStatus'.trans hStatus⟩

/- Names in a descriptor are not those of its interface. -/
theorem sameUnix_modifySocket
    {p : Ptr}
    {f : LsckSocket → LsckSocket}
    {s s' : Process}
    (hRun : modifySocket p f s = .ok ((), s'))
    (hStatus : ∀ d, (f d).status = d.status) :
    SameUnix s s' := by
  intro p' d usock hUnix
  rcases hUnix with ⟨hSocket, q, hQ, hData⟩
  rcases modifySocket_ok hRun with ⟨d', hSocket', rfl⟩
  have hNe := socket_ne_unix hSocket' hData
  have hBlock : (s.setBlock p (some (.socket (f d')))).heap q =
      some (.unix usock) := by
    rw [Process.heap_setBlock, Function.update_of_ne hNe.symm]
    exact hData
  by_cases hSame : p' = p
  · subst hSame
    rw [hSocket] at hSocket'
    cases hSocket'
    have hIdata := congrArg LsckSocket.idata (hStatus d)
    refine ⟨f d, ⟨?_, q, hIdata.trans hQ, hBlock⟩, hStatus d⟩
    rw [Process.heap_setBlock, Function.update_self]
  · refine ⟨d, ⟨?_, q, hQ, hBlock⟩, rfl⟩
    rw [Process.heap_setBlock, Function.update_of_ne hSame]
    exact hSocket

theorem Process.Names.of_sameUnix
    {s s' : Process}
    {fd : Fd}
    {p : Ptr}
    {own peer : Bytes}
    (hNames : s.Names fd p own peer)
    (hSame : SameUnix s s') :
    s'.Names fd p own peer := by
  rcases hNames with
    ⟨d, usock, hUnix, hFd, hI, hConnected, hNames⟩
  rcases hSame p d usock hUnix with ⟨d', hUnix', hStatus⟩
  have hNumber := congrArg LsckSocket.fd hStatus
  have hInterface := congrArg LsckSocket.interface hStatus
  have hFlag := congrArg LsckSocket.connected hStatus
  exact ⟨d', usock, hUnix', hNumber.trans hFd,
    hInterface.trans hI, hFlag.trans hConnected, hNames⟩

/- Nor is the registry concerned with them. -/
theorem WellFormed.modifySocket
    {s s' : Process}
    {p : Ptr}
    {f : LsckSocket → LsckSocket}
    (hForm : WellFormed none s)
    (hRun : modifySocket p f s = .ok ((), s'))
    (hStatus : ∀ d, (f d).status = d.status) :
    WellFormed none s' :=
  hForm.still (StillCmd.modifySocket hStatus s () s' hRun)

/- Storing an end's own name changes no end's data. -/
theorem sameUnix_storeSockname
    {env : NameEnv}
    {fd : Fd}
    {p : Ptr}
    {own peer : Bytes}
    {s s' : Process}
    (hForm : WellFormed none s)
    (hEnd : s.Names fd p own peer)
    (hRun : storeSockname env p s = .ok ((), s')) :
    WellFormed none s' ∧ SameUnix s s' := by
  rcases hEnd with ⟨d, usock, hUnix, -, hI, -⟩
  unfold storeSockname at hRun
  rw [run_bind_ok (derefSocket_run hUnix.socket)] at hRun
  rcases bind_eq_ok.mp hRun with ⟨x, t, hName, hStore⟩
  rcases getsockname_unix (hForm.entry hUnix.socket) hUnix hI
    hName with ⟨rfl, text, -, -, rfl⟩
  dsimp only at hStore
  split at hStore
  · exact ⟨hForm.modifySocket hStore fun _ => rfl,
      sameUnix_modifySocket hStore fun _ => rfl⟩
  · cases hStore

/- Neither does storing the name of its peer. -/
theorem sameUnix_storePeername
    {env : NameEnv}
    {fd : Fd}
    {p : Ptr}
    {own peer : Bytes}
    {s s' : Process}
    (hForm : WellFormed none s)
    (hEnd : s.Names fd p own peer)
    (hRun : storePeername env p s = .ok ((), s')) :
    WellFormed none s' ∧ SameUnix s s' := by
  rcases hEnd with ⟨d, usock, hUnix, -, hI, hConnected, -⟩
  unfold storePeername at hRun
  rw [run_bind_ok (derefSocket_run hUnix.socket)] at hRun
  rcases bind_eq_ok.mp hRun with ⟨x, t, hName, hStore⟩
  rcases getpeername_unix (hForm.entry hUnix.socket) hUnix hI
    hConnected hName with ⟨rfl, text, -, -, rfl⟩
  dsimp only at hStore
  unfold setPeername at hStore
  split at hStore
  · exact ⟨hForm.modifySocket hStore fun _ => rfl,
      sameUnix_modifySocket hStore fun _ => rfl⟩
  · cases hStore

theorem sameUnix_storeNames
    {sockname peername : NameEnv}
    {fd : Fd}
    {p : Ptr}
    {own peer : Bytes}
    {s s' : Process}
    (hForm : WellFormed none s)
    (hEnd : s.Names fd p own peer)
    (hRun : storeNames sockname peername p s = .ok ((), s')) :
    WellFormed none s' ∧ SameUnix s s' := by
  rcases bind_eq_ok.mp hRun with ⟨_, t, hLengths, hStores⟩
  have hFormT := hForm.modifySocket hLengths fun _ => rfl
  have hSameT := sameUnix_modifySocket hLengths fun _ => rfl
  rcases bind_eq_ok.mp hStores with ⟨_, u, hOwn, hPeer⟩
  rcases sameUnix_storeSockname hFormT
    (hEnd.of_sameUnix hSameT) hOwn with ⟨hFormU, hSameU⟩
  have hSame := hSameT.trans hSameU
  rcases sameUnix_storePeername hFormU
    (hEnd.of_sameUnix hSame) hPeer with ⟨hFormV, hSameV⟩
  exact ⟨hFormV, hSame.trans hSameV⟩

------------------------------------------------------------
-- The Ends Of A Pair
------------------------------------------------------------

/- Only Unix sockets can be paired. -/
theorem interfaceSocketpair_unix
    {env : UnixSocketpairEnv}
    {i : Interface}
    {p₀ p₁ : Ptr}
    {s s' : Process}
    {r : Int}
    (hRun : interfaceSocketpair env i p₀ p₁ s = .ok (r, s'))
    (hSuccess : r ≠ -1) :
    unixSocketpair env p₀ p₁ s = .ok (r, s') := by
  cases i with
  | wsock =>
      cases hRun
      exact absurd rfl hSuccess
  | csock =>
      cases hRun
      exact absurd rfl hSuccess
  | unix => exact hRun

/-
  Two streams that are connected: the interface has paired
  them, and the rest of the call leaves their data alone.
-/
theorem connectEnds_pairs
    {env : SocketpairEnv}
    {i : Interface}
    {fd₀ fd₁ : Fd}
    {p₀ p₁ : Ptr}
    {d₀ d₁ : LsckSocket}
    {s s' : Process}
    {r : Int}
    (hForm : WellFormed none s)
    (hNe : p₀ ≠ p₁)
    (hSocket₀ : s.heap p₀ = some (.socket d₀))
    (hSocket₁ : s.heap p₁ = some (.socket d₁))
    (hYoung₀ : YoungAt sockStream p₀ s)
    (hYoung₁ : YoungAt sockStream p₁ s)
    (hRun : connectEnds env i fd₀ fd₁ p₀ p₁ s = .ok (r, s'))
    (hSuccess : r ≠ -1) :
    ∃ t, unixSocketpair env.unixEnv p₀ p₁ s = .ok (0, t) ∧
      WellFormed none s' ∧ SameUnix t s' := by
  rcases bind_eq_ok.mp hRun with ⟨ret, t, hPair, hTail⟩
  have hForm' := (interfaceSocketpair_evolves hYoung₀ hYoung₁
    hPair).form hForm
  by_cases hRet : ret = -1
  · rw [if_pos hRet, run_bind_ok (run_get t)] at hTail
    rcases bind_eq_ok.mp hTail with ⟨_, u, -, hFail⟩
    cases hFail
    exact absurd rfl hSuccess
  rw [if_neg hRet] at hTail
  rcases bind_eq_ok.mp hTail with ⟨_, u, hStore₀, hNamed⟩
  rcases bind_eq_ok.mp hNamed with ⟨_, v, hStore₁, hPure⟩
  cases hPure
  have hUnixRun := interfaceSocketpair_unix hPair hRet
  rcases unixSocketpair_stream hForm hNe hSocket₀ hSocket₁
    (hYoung₀ d₀ hSocket₀).type_eq hUnixRun hRet with
    ⟨hZero, hNames₀, hNames₁⟩
  subst hZero
  rcases sameUnix_storeNames hForm' hNames₀ hStore₀ with
    ⟨hFormU, hSameU⟩
  rcases sameUnix_storeNames hFormU
    (hNames₁.of_sameUnix hSameU) hStore₁ with
    ⟨hFormV, hSameV⟩
  exact ⟨t, hUnixRun, hFormV, hSameU.trans hSameV⟩

/- The descriptor that `__socketx` returns leads to a socket. -/
theorem socketx_leads
    {env : SocketEnv}
    {domain type protocol : Int}
    {interface : Option Interface}
    {s s' : Process}
    {fd : Fd}
    (hForm : WellFormed none s)
    (hRun : socketx env domain type protocol interface s =
      .ok (fd, s'))
    (hSuccess : fd ≠ -1) :
    ∃ p, s'.LeadsTo fd p := by
  have hForm' := (socketx_evolves hForm.fds hRun).1.form hForm
  rcases socketx_ok hForm.fds hRun with ⟨hFail, -⟩ |
    ⟨-, fd', slot, p, hReserved, hOn⟩
  · exact absurd hFail hSuccess
  unfold socketOn at hOn
  cases hChosen :
      chosenInterface s domain type protocol interface with
  | none =>
      rw [(socketx_quiet hChosen hForm.fds hRun).1]
        at hSuccess
      exact absurd rfl hSuccess
  | some i =>
      simp only [hChosen] at hOn
      rcases bind_eq_ok.mp hOn with ⟨ret, w, hCall, hTail⟩
      rcases attaches_interfaceSocket env i p _ ret w hCall
        with ⟨q, v, hAttached, hStill, -⟩
      by_cases hRet : ret = -1
      · rw [if_pos hRet, run_bind_ok (run_get w)] at hTail
        rcases bind_eq_ok.mp hTail with ⟨_, t, -, hFail⟩
        cases hFail
        exact absurd rfl hSuccess
      · rw [if_neg hRet] at hTail
        cases hTail
        rcases hStill.socket (hAttached.socket
          (Reserved.socket_withSocket s slot p _)) with
          ⟨d', hSocket, hStatus⟩
        have hFd : d'.fd = fd :=
          (LsckSocket.same_of_status hStatus).1
        have hEntry := hForm'.entry hSocket
        rw [hFd] at hEntry
        exact ⟨p, hEntry⟩

/-
  A pair of streams has been made, and the two descriptors
  are those of its ends.
-/
def PairMade
    (env : SocketpairEnv)
    (domain protocol : Int)
    (fd₀ fd₁ : Fd)
    (s s' : Process) : Prop :=
  WellFormed none s ∧
    ∃ r i t u, r ≠ -1 ∧
      socketpair env domain sockStream protocol s =
        .ok (r, s') ∧
      pairInterface s domain sockStream protocol = some i ∧
      socketx env.socket₀ domain sockStream protocol (some i)
        s = .ok (fd₀, t) ∧
      socketx env.socket₁ domain sockStream protocol (some i)
        t = .ok (fd₁, u)

/- An end is reached under its own number. -/
theorem Process.Names.leadsTo
    {s : Process}
    {fd : Fd}
    {p : Ptr}
    {own peer : Bytes}
    (hNames : s.Names fd p own peer)
    (hForm : WellFormed none s) :
    s.LeadsTo fd p := by
  rcases hNames with ⟨d, usock, hUnix, rfl, -⟩
  exact hForm.entry hUnix.socket

/-
  The sockets behind the two numbers: young streams that the
  interface has paired, whose data the rest leaves alone.
-/
theorem PairMade.pairs
    {env : SocketpairEnv}
    {domain protocol : Int}
    {fd₀ fd₁ : Fd}
    {s s' : Process}
    (hMade : PairMade env domain protocol fd₀ fd₁ s s') :
    ∃ p₀ p₁ d₀ d₁ t t', WellFormed none t ∧ p₀ ≠ p₁ ∧
      t.heap p₀ = some (.socket d₀) ∧
      t.heap p₁ = some (.socket d₁) ∧
      d₀.fd = fd₀ ∧ d₁.fd = fd₁ ∧
      YoungAt sockStream p₀ t ∧ YoungAt sockStream p₁ t ∧
      unixSocketpair env.unixEnv p₀ p₁ t = .ok (0, t') ∧
      WellFormed none s' ∧ SameUnix t' s' := by
  rcases hMade with
    ⟨hForm, r, i, t, u, hSuccess, hRun, hPair, hOne, hTwo⟩
  unfold socketpair at hRun
  rw [run_bind_ok (run_get s)] at hRun
  simp only [hPair] at hRun
  rw [run_bind_ok hOne, run_bind_ok hTwo] at hRun
  rcases socketx_evolves hForm.fds hOne with
    ⟨hEvolves₀, hFresh₀⟩
  have hFormT := hEvolves₀.form hForm
  rcases socketx_evolves hFormT.fds hTwo with
    ⟨hEvolves₁, hFresh₁⟩
  have hFormU := hEvolves₁.form hFormT
  have hBoth := hEvolves₀.trans
    (LsckSocket.Young.stable sockStream) hEvolves₁
  by_cases hFailed : fd₀ = -1 ∨ fd₁ = -1
  · rw [if_pos hFailed] at hRun
    rcases bind_eq_ok.mp hRun with ⟨_, v, -, hPure⟩
    cases hPure
    exact absurd rfl hSuccess
  rw [if_neg hFailed] at hRun
  rcases not_or.mp hFailed with ⟨hNe₀, hNe₁⟩
  -- The first number is in use when the second is taken.
  have hNeFd : fd₀ ≠ fd₁ := by
    rintro rfl
    rcases socketx_leads hForm hOne hNe₀ with ⟨p, hLeads, -⟩
    rw [hFormT.fds.closed fd₀ (hFresh₁ hNe₁).2] at hLeads
    cases hLeads
  rcases bind_eq_ok.mp hRun with ⟨l₀, v, hL₀, hAfter⟩
  rcases fdToLsd_ok hL₀ with ⟨rfl, hEntry₀⟩
  rcases bind_eq_ok.mp hAfter with ⟨l₁, w, hL₁, hLast⟩
  rcases fdToLsd_ok hL₁ with ⟨rfl, hEntry₁⟩
  have hClose : ∀ e x y, ¬ ((do
      closeEnds env fd₀ fd₁
      fail e : Exec Int) x = .ok (r, y)) := by
    intro e x y hEnds
    rcases bind_eq_ok.mp hEnds with ⟨_, z, -, hFail⟩
    cases hFail
    exact absurd rfl hSuccess
  cases l₀ with
  | none => exact absurd hLast (hClose _ _ _)
  | some p₀ =>
      cases l₁ with
      | none => exact absurd hLast (hClose _ _ _)
      | some p₁ =>
          have hLeads₀ := (hEntry₀ p₀).mp rfl
          have hLeads₁ := (hEntry₁ p₁).mp rfl
          rcases hFormU.socket_of_leadsTo hLeads₀ with
            ⟨d₀, hSocket₀, hFd₀⟩
          rcases hFormU.socket_of_leadsTo hLeads₁ with
            ⟨d₁, hSocket₁, hFd₁⟩
          have hNe : p₀ ≠ p₁ := by
            rintro rfl
            rw [hSocket₀] at hSocket₁
            cases hSocket₁
            exact hNeFd (hFd₀.symm.trans hFd₁)
          have hYoung₀ := young_of_fresh hForm hBoth
            (hFresh₀ hNe₀).2 hLeads₀.1 hLeads₀.2
          have hYoung₁ := young_of_fresh hFormT hEvolves₁
            (hFresh₁ hNe₁).2 hLeads₁.1 hLeads₁.2
          rcases connectEnds_pairs hFormU hNe hSocket₀ hSocket₁
            hYoung₀ hYoung₁ hLast hSuccess with
            ⟨t', hPaired, hFormS, hSame⟩
          exact ⟨p₀, p₁, d₀, d₁, _, t', hFormU, hNe, hSocket₀,
            hSocket₁, hFd₀, hFd₁, hYoung₀, hYoung₁, hPaired,
            hFormS, hSame⟩

/- The two ends have each other's names. -/
theorem PairMade.ends
    {env : SocketpairEnv}
    {domain protocol : Int}
    {fd₀ fd₁ : Fd}
    {s s' : Process}
    (hMade : PairMade env domain protocol fd₀ fd₁ s s') :
    ∃ p₀ p₁, WellFormed none s' ∧
      s'.Names fd₀ p₀ (pairPath env.unixEnv.name₀)
        (pairPath env.unixEnv.name₁) ∧
      s'.Names fd₁ p₁ (pairPath env.unixEnv.name₁)
        (pairPath env.unixEnv.name₀) := by
  rcases hMade.pairs with
    ⟨p₀, p₁, d₀, d₁, t, t', hForm, hNe, hSocket₀, hSocket₁,
      rfl, rfl, hYoung₀, -, hRun, hFormS, hSame⟩
  rcases unixSocketpair_stream hForm hNe hSocket₀ hSocket₁
    (hYoung₀ d₀ hSocket₀).type_eq hRun (by decide) with
    ⟨-, hNames₀, hNames₁⟩
  exact ⟨p₀, p₁, hFormS, hNames₀.of_sameUnix hSame,
    hNames₁.of_sameUnix hSame⟩

end Libsocket

import Libsocket.Unix.Isolation

/-
  What a read takes from the queue of a mailslot: the empty
  messages at its front are dropped, and those that follow
  are handed over whole and in order. A peek leaves the queue
  as it was.

  Main declarations:
    * `Process.ReadsMail`
    * `Takes`, `deliver_split`, `deliver_full`
    * `readFd_takes`, `readFd_full`, `readPacket_takes`
-/

namespace Libsocket

open Command

------------------------------------------------------------
-- Reading Descriptors
------------------------------------------------------------

/- The descriptor reads from this mailslot. -/
structure Process.ReadsMail
    (s : Process)
    (fd : Fd)
    (me : MailslotFsext)
    (handle : Bytes) : Prop where
  function : (s.fds fd).function = some .mailslotHandler
  data : (s.fds fd).data = some (.mailslot me)
  handle : me.handle = some handle

/- What counts is the entry of the descriptor. -/
theorem Process.ReadsMail.of_fds
    {s t : Process}
    {fd : Fd}
    {me : MailslotFsext}
    {handle : Bytes}
    (hReads : s.ReadsMail fd me handle)
    (hFds : t.fds fd = s.fds fd) :
    t.ReadsMail fd me handle := by
  constructor
  · rw [hFds]
    exact hReads.function
  · rw [hFds]
    exact hReads.data
  · exact hReads.handle

/-
  A read hands over some messages of the queue and leaves the
  rest. It drops empty messages, and a peek only looks at the
  message in front.
-/
inductive Takes
    (queue : List Bytes) :
    Bool → List Bytes → List Bytes → Prop
  | looks : Takes queue true (queue.take 1) queue
  | takes
      {dropped ms left : List Bytes}
      (empty : ∀ m ∈ dropped, m = [])
      (full : ∀ m ∈ ms, m ≠ [])
      (split : queue = dropped ++ (ms ++ left)) :
      Takes queue false ms left

/- A read of nothing, and of an empty message. -/
theorem takes_nothing : Takes [] false [] [] := by
  have hSplit : ([] : List Bytes) = [] ++ ([] ++ []) := rfl
  apply Takes.takes _ _ hSplit
  · simp
  · simp

theorem takes_empty (rest : List Bytes) :
    Takes ([] :: rest) false [] rest := by
  have hSplit : ([] : Bytes) :: rest = [[]] ++ ([] ++ rest) :=
    rfl
  apply Takes.takes _ _ hSplit
  · simp
  · simp

/- Several messages are taken from the front of the queue. -/
theorem deliver_split
    {reportsNext : Bool}
    {queue ms left : List Bytes}
    (hDeliver : deliver reportsNext queue = some (ms, left)) :
    ∃ dropped m more, ms = m :: more ∧
      (∀ e ∈ dropped, e = []) ∧ (∀ e ∈ ms, e ≠ []) ∧
      queue = dropped ++ (ms ++ left) := by
  induction queue generalizing ms with
  | nil => cases hDeliver
  | cons m rest ih =>
      unfold deliver at hDeliver
      by_cases hEmpty : m = []
      · rw [if_pos hEmpty] at hDeliver
        rcases ih hDeliver with
          ⟨dropped, m', more, hMs, hDropped, hFull, hSplit⟩
        refine ⟨m :: dropped, m', more, hMs, ?_, hFull, ?_⟩
        · intro e hE
          rcases List.mem_cons.mp hE with rfl | hE
          · exact hEmpty
          · exact hDropped e hE
        · rw [hSplit, List.cons_append]
      rw [if_neg hEmpty] at hDeliver
      have hOne : ∀ {left : List Bytes},
          some ([m], rest) = some (ms, left) →
          ∃ dropped m' more, ms = m' :: more ∧
            (∀ e ∈ dropped, e = []) ∧ (∀ e ∈ ms, e ≠ []) ∧
            m :: rest = dropped ++ (ms ++ left) := by
        intro left hSome
        cases hSome
        refine ⟨[], m, [], rfl, ?_, ?_, rfl⟩
        · intro e hE
          cases hE
        · intro e hE
          rw [List.mem_singleton.mp hE]
          exact hEmpty
      split at hDeliver
      next hNext =>
          -- The next message has bytes, so nothing is dropped.
          cases hMore : deliver reportsNext rest with
          | none =>
              rw [hMore] at hDeliver
              exact hOne hDeliver
          | some taken =>
              rcases taken with ⟨ms', left'⟩
              rw [hMore] at hDeliver
              cases hDeliver
              rcases ih hMore with
                ⟨dropped, m', more, hMs, hDropped, hFull,
                  hSplit⟩
              have hNone : dropped = [] := by
                cases dropped with
                | nil => rfl
                | cons d dropped =>
                    have hD := hDropped d List.mem_cons_self
                    rw [hSplit, hD] at hNext
                    exact absurd rfl hNext.2
              refine ⟨[], m, ms', rfl, ?_, ?_, ?_⟩
              · intro e hE
                cases hE
              · intro e hE
                rcases List.mem_cons.mp hE with rfl | hE
                · exact hEmpty
                · exact hFull e hE
              · rw [hSplit, hNone]
                rfl
      next => exact hOne hDeliver

/- Of messages with bytes, all are taken or the first one. -/
theorem deliver_full
    {reportsNext : Bool}
    {queue : List Bytes}
    (hSome : queue ≠ [])
    (hFull : ∀ x ∈ queue, x ≠ []) :
    deliver reportsNext queue = some
      (if reportsNext then (queue, [])
        else (queue.take 1, queue.drop 1)) := by
  induction queue with
  | nil => exact absurd rfl hSome
  | cons x rest ih =>
      have hX : x ≠ [] := hFull x List.mem_cons_self
      unfold deliver
      rw [if_neg hX]
      cases reportsNext with
      | false => simp
      | true =>
          cases rest with
          | nil => simp [nextLength]
          | cons y more =>
              have hY : y.length ≠ 0 := by
                have hBytes := hFull y (by simp)
                simpa using hBytes
              have hMore := ih (List.cons_ne_nil y more)
                (fun z hZ => hFull z (List.mem_cons_of_mem x hZ))
              rw [if_pos ⟨rfl, hY⟩, hMore]
              rfl

------------------------------------------------------------
-- Reads
------------------------------------------------------------

section Reading

variable {env : ReadEnv} {fd : Fd} {me : MailslotFsext}
variable {handle : Bytes} {ms : List Bytes} {s t : Process}

/- A read of a mailslot changes its queue and no more. -/
theorem readFd_takes
    (hReads : s.ReadsMail fd me handle)
    (hRun : readFd env fd s = .ok (some ms, t)) :
    ∃ left, Takes (s.mail handle ++ env.arrivals) me.peeking
        ms left ∧ t = s.setMail handle left := by
  unfold readFd at hRun
  rw [run_bind_ok (run_get s)] at hRun
  simp only [hReads.function, hReads.data, hReads.handle]
    at hRun
  rw [run_bind_ok (run_modify _ _)] at hRun
  have hTwice : ∀ queue left, (s.setMail handle queue).setMail
      handle left = s.setMail handle left := by
    intro queue left
    simp [Process.setMail]
  cases hQueue : s.mail handle ++ env.arrivals with
  | nil =>
      rw [hQueue] at hRun
      dsimp only at hRun
      split at hRun
      · cases hRun
      unfold readNothing at hRun
      split at hRun
      · cases hRun
      · cases hRun
        refine ⟨[], ?_, rfl⟩
        cases me.peeking with
        | true => exact .looks
        | false => exact takes_nothing
  | cons m rest =>
      rw [hQueue] at hRun
      dsimp only at hRun
      by_cases hPeeks : me.peeking = true
      · rw [if_pos hPeeks] at hRun
        split at hRun
        · cases hRun
        · cases hRun
          rw [hPeeks]
          exact ⟨m :: rest, .looks, rfl⟩
      rw [if_neg hPeeks] at hRun
      rw [Bool.eq_false_iff.mpr hPeeks]
      split at hRun
      next hEmpty =>
          rw [run_bind_ok (run_modify _ _)] at hRun
          cases hRun
          rw [hEmpty.1]
          exact ⟨rest, takes_empty rest, hTwice _ _⟩
      next =>
          cases hDeliver : deliver s.reportsNext
              (m :: rest) with
          | none =>
              rw [hDeliver] at hRun
              cases hRun
          | some taken =>
              rcases taken with ⟨ms', left⟩
              rw [hDeliver] at hRun
              dsimp only at hRun
              rw [run_bind_ok (run_modify _ _)] at hRun
              cases hRun
              rcases deliver_split hDeliver with
                ⟨dropped, _, _, -, hDropped, hFull, hSplit⟩
              exact ⟨left, .takes hDropped hFull hSplit,
                hTwice _ _⟩

/-
  What a read takes of messages with bytes, and what it
  leaves; a read that does not wait may fail on an empty
  mailslot.
-/
theorem readFd_full
    {taken : Option (List Bytes)}
    (hReads : s.ReadsMail fd me handle)
    (hIdle : me.peeking = false)
    (hFull : ∀ x ∈ s.mail handle ++ env.arrivals, x ≠ [])
    (hRun : readFd env fd s = .ok (taken, t)) :
    (s.mail handle ++ env.arrivals = [] →
      me.blocking = false) ∧
    (taken = none ∧ s.mail handle ++ env.arrivals = [] ∧
        t.mail = (s.setMail handle []).mail ∨
      taken = some (if s.reportsNext then
          s.mail handle ++ env.arrivals
        else (s.mail handle ++ env.arrivals).take 1) ∧
        t = s.setMail handle (if s.reportsNext then []
          else (s.mail handle ++ env.arrivals).drop 1)) := by
  unfold readFd at hRun
  rw [run_bind_ok (run_get s)] at hRun
  simp only [hReads.function, hReads.data, hReads.handle]
    at hRun
  rw [run_bind_ok (run_modify _ _)] at hRun
  cases hQueue : s.mail handle ++ env.arrivals with
  | nil =>
      rw [hQueue] at hRun
      dsimp only at hRun
      split at hRun
      · cases hRun
      next hPolls =>
          refine ⟨fun _ => Bool.eq_false_iff.mpr hPolls, ?_⟩
          unfold readNothing at hRun
          split at hRun
          · cases hRun
            exact .inl ⟨rfl, rfl, rfl⟩
          · cases hRun
            simp
  | cons x rest =>
      have hSome : x :: rest ≠ [] := List.cons_ne_nil x rest
      rw [hQueue] at hFull hRun
      have hX : x ≠ [] := hFull x List.mem_cons_self
      dsimp only at hRun
      rw [hIdle, if_neg Bool.false_ne_true,
        if_neg (fun hEmpty => hX hEmpty.1),
        deliver_full hSome hFull] at hRun
      refine ⟨fun hNone => absurd hNone hSome, .inr ?_⟩
      cases hNext : s.reportsNext with
      | true =>
          rw [hNext, if_pos rfl] at hRun
          dsimp only at hRun
          rw [run_bind_ok (run_modify _ _)] at hRun
          cases hRun
          simp [Process.setMail]
      | false =>
          rw [hNext, if_neg Bool.false_ne_true] at hRun
          dsimp only at hRun
          rw [run_bind_ok (run_modify _ _)] at hRun
          cases hRun
          simp [Process.setMail]

/- Switching to peeks and back. -/
theorem ioctlPeek_run
    (hReads : s.ReadsMail fd me handle)
    (pflag : Bool) :
    ioctlPeek fd pflag s = .ok ((), s.setEntry fd
      { s.fds fd with
        data := some (.mailslot
          { me with peeking := pflag }) }) := by
  unfold ioctlPeek modifyMailslot
  rw [run_bind_ok (run_get s), hReads.function]
  dsimp only
  rw [hReads.data]
  dsimp only
  rw [if_pos (by rw [hReads.handle]; rfl)]
  rfl

theorem Process.ReadsMail.switched
    (hReads : s.ReadsMail fd me handle)
    (pflag : Bool) :
    (s.setEntry fd { s.fds fd with
      data := some (.mailslot { me with
        peeking := pflag }) }).ReadsMail fd
      { me with peeking := pflag } handle := by
  constructor
  · rw [Process.fds_setEntry, Function.update_self]
    exact hReads.function
  · rw [Process.fds_setEntry, Function.update_self]
  · exact hReads.handle

/- Switching there and back leaves the entry as it was. -/
theorem setEntry_back
    {data : Option FsextData}
    {left : List Bytes}
    (hReads : s.ReadsMail fd me handle)
    (hSwitched : t = (s.setEntry fd
      { s.fds fd with data := data }).setMail handle left) :
    t.setEntry fd { t.fds fd with
      data := some (.mailslot me) } = s.setMail handle left := by
  have hEntry : { t.fds fd with
      data := some (.mailslot me) } = s.fds fd := by
    rw [hSwitched, ← hReads.data]
    simp [Process.setMail]
  rw [hEntry, hSwitched]
  unfold Process.setEntry Process.setMail
  simp

/- So does a read by the receive loops, peeking or not. -/
theorem readPacket_takes
    {peek : Bool}
    (hReads : s.ReadsMail fd me handle)
    (hIdle : me.peeking = false)
    (hRun : readPacket env peek fd s = .ok (some ms, t)) :
    ∃ left, Takes (s.mail handle ++ env.arrivals) peek
        ms left ∧ t = s.setMail handle left := by
  unfold readPacket at hRun
  cases peek with
  | false =>
      rcases bind_eq_ok.mp hRun with ⟨_, u, hNone, hRest⟩
      cases hNone
      rcases bind_eq_ok.mp hRest with
        ⟨taken, v, hRead, hPure⟩
      cases hPure
      have hTakes := readFd_takes hReads hRead
      rw [hIdle] at hTakes
      exact hTakes
  | true =>
      rcases bind_eq_ok.mp hRun with ⟨_, u, hPeek, hRest⟩
      cases (ioctlPeek_run hReads true).symm.trans hPeek
      rcases bind_eq_ok.mp hRest with
        ⟨taken, v, hRead, hBack⟩
      rcases bind_eq_ok.mp hBack with
        ⟨_, w, hUnpeek, hPure⟩
      cases hPure
      have hPeeks := hReads.switched true
      rcases readFd_takes hPeeks hRead with
        ⟨left, hTakes, hV⟩
      have hHere : v.ReadsMail fd { me with peeking := true }
          handle := by
        rw [hV]
        exact hPeeks.of_fds rfl
      cases (ioctlPeek_run hHere false).symm.trans hUnpeek
      refine ⟨left, hTakes, ?_⟩
      have hMe : { me with peeking := false } = me := by
        rw [← hIdle]
      change v.setEntry fd { v.fds fd with
        data := some (.mailslot { me with
          peeking := false }) } = _
      rw [hMe]
      exact setEntry_back hReads hV

end Reading

end Libsocket

import Libsocket.HostName

/-
  When the stored host, node and domain names agree.

  A name without a dot leaves an older domain name in place,
  and a domain name can be set before there is a node name.
  `CallSafe` says when a call does neither; exactly then it
  keeps the names consistent.

  Main declarations:
    * `HostNames.Consistent`
    * `HostNames.StoreSafe`, `HostNames.CallSafe`
    * `consistent_step_iff`
    * `consistent_of_reachable`
-/

namespace Libsocket

open Command

------------------------------------------------------------
-- Consistent Names
------------------------------------------------------------

/-
  The stored names agree with each other and with what the
  functions answer. The stored name is only answered when
  it can be copied.
-/
structure HostNames.Consistent (s : HostNames) : Prop where
  form : s.gothostname = true →
    s.hostname.text =
      if s.gotdomainname then
        s.nodename.text ++ dot :: s.domainname.text
      else
        s.nodename.text
  node : s.gothostname = true → s.nodename.text ≠ []
  answers : s.gothostname = true →
    ∀ (env : HostEnv) (size : Int) (len : Nat)
      (name domain : Bytes) (s₁ s₂ : HostNames),
      env.hostnameCopy = true →
      gethostname env true size s = .ok (.ok name, s₁) →
      getdomainname true len s = .ok (.ok domain, s₂) →
        domain = Cut.after dot name

/- Every allocation succeeds, and nothing else is set. -/
def HostEnv.granting : HostEnv where
  hostnameCopy := true
  environment := none
  environmentCopy := true
  configBuffer := true
  configuration := none
  interfaces := []
  lastBuffer := true
  machineName := none
  leftover := []

theorem findName_stored
    {env : HostEnv}
    {s : HostNames}
    (hGot : s.gothostname = true)
    (hCopy : env.hostnameCopy = true) :
    env.findName s = some s.hostname.text := by
  have hStored : env.storedName s = some s.hostname.text := by
    simp [HostEnv.storedName, hGot, hCopy]
  simp [HostEnv.findName, hStored]

theorem length_cleanName_le (name : Bytes) :
    (cleanName name).length ≤ name.length := by
  unfold cleanName
  rw [List.length_map]
  exact Cut.length_before_le blank name

theorem length_domain_lt (s : HostNames) :
    s.domain.length < maxGetHostName := by
  unfold HostNames.domain
  split
  · exact s.domainname.fits
  · decide

/- What a successful `gethostname` answers. -/
theorem gethostname_answer
    {env : HostEnv}
    {size : Int}
    {name : Bytes}
    {s s₁ : HostNames}
    (hRun : gethostname env true size s = .ok (.ok name, s₁)) :
    ∃ found, env.findName s = some found ∧
      name = cleanName found := by
  rw [gethostname_run] at hRun
  split at hRun
  · cases hRun
  cases hFound : env.findName s with
  | none =>
      rw [hFound] at hRun
      cases hRun
  | some found =>
      rw [hFound] at hRun
      dsimp only at hRun
      split at hRun
      · cases hRun
      · split at hRun
        · cases hRun
          exact ⟨found, rfl, rfl⟩
        · cases hRun

/- What a successful `getdomainname` answers. -/
theorem getdomainname_answer
    {len : Nat}
    {domain : Bytes}
    {s s₂ : HostNames}
    (hRun : getdomainname true len s = .ok (.ok domain, s₂)) :
    domain = s.domain := by
  rw [getdomainname_run] at hRun
  split at hRun
  · cases hRun
  · split at hRun
    · cases hRun
    · split at hRun
      · cases hRun
        rfl
      · cases hRun

/- The answers agree when the stored names do. -/
theorem answers_iff
    {s : HostNames}
    (hGot : s.gothostname = true) :
    (∀ (env : HostEnv) (size : Int) (len : Nat)
      (name domain : Bytes) (s₁ s₂ : HostNames),
      env.hostnameCopy = true →
      gethostname env true size s = .ok (.ok name, s₁) →
      getdomainname true len s = .ok (.ok domain, s₂) →
        domain = Cut.after dot name) ↔
      s.domain =
        Cut.after dot (cleanName s.hostname.text) := by
  constructor
  · intro hAnswers
    have hRoom :
        (cleanName s.hostname.text).length <
          maxGetHostName :=
      Nat.lt_of_le_of_lt (length_cleanName_le _)
        s.hostname.fits
    have hHost :
        gethostname .granting true maxGetHostName s =
          .ok (.ok (cleanName s.hostname.text),
            s.store ⟨_, hRoom⟩) := by
      have hFit :
          ¬ ((cleanName s.hostname.text).length + 1 : Int) >
            (maxGetHostName : Nat) := by
        omega
      rw [gethostname_run, findName_stored hGot rfl,
        if_neg (by decide)]
      dsimp only
      rw [if_neg hFit, dif_pos hRoom]
    have hDomain :
        getdomainname true maxGetDomainName s =
          .ok (.ok s.domain, s) := by
      have hShort : s.domain.length < maxGetDomainName :=
        length_domain_lt s
      rw [getdomainname_run, if_neg (by decide),
        if_neg (by decide), if_pos hShort]
    exact hAnswers _ _ _ _ _ _ _ rfl hHost hDomain
  · intro hSame env size len name domain s₁ s₂
      hCopy hHost hDomain
    rcases gethostname_answer hHost with
      ⟨found, hFound, rfl⟩
    rw [findName_stored hGot hCopy] at hFound
    cases hFound
    rw [getdomainname_answer hDomain, hSame]

theorem consistent_iff
    {s : HostNames}
    (hGot : s.gothostname = true) :
    s.Consistent ↔
      (s.hostname.text =
        if s.gotdomainname then
          s.nodename.text ++ dot :: s.domainname.text
        else
          s.nodename.text) ∧
      s.nodename.text ≠ [] ∧
      s.domain =
        Cut.after dot (cleanName s.hostname.text) := by
  constructor
  · intro hCons
    exact ⟨hCons.form hGot, hCons.node hGot,
      (answers_iff hGot).mp (hCons.answers hGot)⟩
  · rintro ⟨hForm, hNode, hSame⟩
    exact ⟨fun _ => hForm, fun _ => hNode,
      fun _ => (answers_iff hGot).mpr hSame⟩

------------------------------------------------------------
-- Calls That Keep The Names Consistent
------------------------------------------------------------

/- Storing the name leaves consistent names. -/
def HostNames.StoreSafe
    (s : HostNames)
    (name : Bytes) : Prop :=
  Cut.before dot name ≠ [] ∧
    (dot ∈ name ∨ s.gotdomainname = false) ∧
    Cut.after dot (cleanName name) = Cut.after dot name

instance
    (s : HostNames)
    (name : Bytes) :
    Decidable (s.StoreSafe name) := by
  unfold HostNames.StoreSafe
  infer_instance

theorem consistent_store_iff
    (s : HostNames)
    (name : NameArray) :
    (s.store name).Consistent ↔ s.StoreSafe name.text := by
  rw [consistent_iff rfl]
  unfold HostNames.StoreSafe
  by_cases hDot : dot ∈ name.text
  · have hForm := Cut.before_cons_after hDot
    simp only [HostNames.store, HostNames.domain,
      NameArray.cut, NameArray.rest, hDot, if_true, hForm,
      true_and, true_or]
    constructor
    · rintro ⟨hNode, hSame⟩
      exact ⟨hNode, hSame.symm⟩
    · rintro ⟨hNode, hSame⟩
      exact ⟨hNode, hSame.symm⟩
  · have hBefore := Cut.before_of_not_mem hDot
    have hAfter := Cut.after_of_not_mem hDot
    simp only [HostNames.store, HostNames.domain, hDot,
      if_false, false_or, hBefore, hAfter]
    cases hGot : s.gotdomainname with
    | false =>
        simp only [Bool.false_eq_true, if_false, true_and]
        constructor
        · rintro ⟨hNode, hSame⟩
          exact ⟨hNode, hSame.symm⟩
        · rintro ⟨hNode, hSame⟩
          exact ⟨hNode, hSame.symm⟩
    | true =>
        -- the older domain name is still in force
        have hLonger :
            name.text ≠
              name.text ++ dot :: s.domainname.text := by
          intro hEq
          have hLength := congrArg List.length hEq
          simp at hLength
        simp [hLonger]

theorem consistent_storeDomain_iff
    {s : HostNames}
    {domain host : NameArray}
    (hHost : host.text = s.withDomain domain.text) :
    (s.storeDomain domain host).Consistent ↔
      s.nodename.text ≠ [] ∧
        Cut.after dot (cleanName (s.withDomain domain.text)) =
          domain.text := by
  rw [consistent_iff rfl]
  simp only [HostNames.storeDomain, HostNames.domain, hHost,
    if_true, HostNames.withDomain, true_and]
  constructor
  · rintro ⟨hNode, hSame⟩
    exact ⟨hNode, hSame.symm⟩
  · rintro ⟨hNode, hSame⟩
    exact ⟨hNode, hSame.symm⟩

/-
  The call is refused, or it leaves consistent names. The
  condition is about the state before the call, the call's
  arguments and the sources of a host name.
-/
def HostNames.CallSafe (s : HostNames) : NameCall → Prop
| .gethostname env buf size =>
    0 < size → buf = true →
      ∀ found, env.findName s = some found →
        ((cleanName found).length + 1 : Int) ≤ size →
          s.StoreSafe (cleanName found)
| .sethostname buf size =>
    0 < size → size ≤ maxGetHostName → s.StoreSafe buf
| .getdomainname _ _ => True
| .setdomainname name len =>
    0 < len → len ≤ maxGetDomainName →
      ∀ domain, name = some domain →
        s.nodename.text ≠ [] ∧
          Cut.after dot (cleanName (s.withDomain domain)) =
            domain

/- A call of one function inside `exec`. -/
theorem exec_eq_ok
    {α : Type}
    {m : NameCommand α}
    {s s' : HostNames} :
    (do let _ ← m) s = .ok ((), s') ↔
      ∃ a, m s = .ok (a, s') := by
  constructor
  · intro hRun
    rcases bind_eq_ok.mp hRun with ⟨a, s₁, hFirst, hRest⟩
    cases hRest
    exact ⟨a, hFirst⟩
  · rintro ⟨a, hFirst⟩
    exact bind_eq_ok.mpr ⟨a, s', hFirst, rfl⟩

theorem consistent_gethostname_iff
    {env : HostEnv}
    {buf : Bool}
    {size : Int}
    {s s' : HostNames}
    {r : Except Errno Bytes}
    (hCons : s.Consistent)
    (hRun : gethostname env buf size s = .ok (r, s')) :
    s'.Consistent ↔
      s.CallSafe (.gethostname env buf size) := by
  rw [gethostname_run] at hRun
  unfold HostNames.CallSafe
  split at hRun
  · rename_i hRefused
    cases hRun
    apply iff_of_true hCons
    intro hSize hBuf
    rcases hRefused with hSmall | hNone
    · omega
    · rw [hBuf] at hNone
      cases hNone
  rename_i hAllowed
  have hSize : 0 < size := by omega
  have hBuf : buf = true := by
    cases buf with
    | false => exact absurd (.inr rfl) hAllowed
    | true => rfl
  cases hFound : env.findName s with
  | none =>
      rw [hFound] at hRun
      cases hRun
      apply iff_of_true hCons
      intro _ _ found hSome
      rw [hFound] at hSome
      cases hSome
  | some found =>
      rw [hFound] at hRun
      dsimp only at hRun
      split at hRun
      · rename_i hLong
        cases hRun
        apply iff_of_true hCons
        intro _ _ other hSome hFits
        rw [hFound] at hSome
        cases hSome
        omega
      · rename_i hShort
        split at hRun
        · rename_i hRoom
          cases hRun
          rw [consistent_store_iff]
          constructor
          · intro hSafe _ _ other hSome _
            rw [hFound] at hSome
            cases hSome
            exact hSafe
          · intro hSafe
            exact hSafe hSize hBuf found hFound (by omega)
        · cases hRun

theorem consistent_sethostname_iff
    {buf : Bytes}
    {size : Int}
    {s s' : HostNames}
    {r : Except Errno Unit}
    (hCons : s.Consistent)
    (hRun : sethostname buf size s = .ok (r, s')) :
    s'.Consistent ↔ s.CallSafe (.sethostname buf size) := by
  rw [sethostname_run] at hRun
  unfold HostNames.CallSafe
  split at hRun
  · rename_i hRefused
    cases hRun
    apply iff_of_true hCons
    intro hPos hMax
    omega
  · rename_i hAllowed
    split at hRun
    · cases hRun
      rw [consistent_store_iff]
      constructor
      · intro hSafe _ _
        exact hSafe
      · intro hSafe
        exact hSafe (by omega) (by omega)
    · cases hRun

theorem consistent_setdomainname_iff
    {name : Option Bytes}
    {len : Nat}
    {s s' : HostNames}
    {r : Except Errno Unit}
    (hCons : s.Consistent)
    (hRun : setdomainname name len s = .ok (r, s')) :
    s'.Consistent ↔
      s.CallSafe (.setdomainname name len) := by
  rw [setdomainname_run] at hRun
  unfold HostNames.CallSafe
  split at hRun
  · rename_i hRefused
    cases hRun
    apply iff_of_true hCons
    intro hPos hMax
    omega
  rename_i hAllowed
  cases name with
  | none =>
      cases hRun
      apply iff_of_true hCons
      intro _ _ domain hSome
      cases hSome
  | some domain =>
      dsimp only at hRun
      split at hRun
      · rename_i hName
        split at hRun
        · rename_i hHost
          cases hRun
          rw [consistent_storeDomain_iff rfl]
          constructor
          · intro hSafe _ _ other hSome
            cases hSome
            exact hSafe
          · intro hSafe
            exact hSafe (by omega) (by omega) domain rfl
        · cases hRun
      · cases hRun

/- A call keeps the names consistent exactly if it is safe. -/
theorem consistent_step_iff
    {call : NameCall}
    {s s' : HostNames}
    (hCons : s.Consistent)
    (hRun : call.exec s = .ok ((), s')) :
    s'.Consistent ↔ s.CallSafe call := by
  cases call with
  | gethostname env buf size =>
      rcases exec_eq_ok.mp hRun with ⟨r, hCall⟩
      exact consistent_gethostname_iff hCons hCall
  | sethostname buf size =>
      rcases exec_eq_ok.mp hRun with ⟨r, hCall⟩
      exact consistent_sethostname_iff hCons hCall
  | getdomainname name len =>
      rcases exec_eq_ok.mp hRun with ⟨r, hCall⟩
      have hSame : s' = s := by
        rw [getdomainname_run] at hCall
        split at hCall
        · cases hCall
          rfl
        · split at hCall
          · cases hCall
            rfl
          · split at hCall
            · cases hCall
              rfl
            · cases hCall
      rw [hSame]
      exact iff_of_true hCons trivial
  | setdomainname name len =>
      rcases exec_eq_ok.mp hRun with ⟨r, hCall⟩
      exact consistent_setdomainname_iff hCons hCall

theorem consistent_unknown : HostNames.unknown.Consistent := by
  constructor
  · intro hGot
    cases hGot
  · intro hGot
    cases hGot
  · intro hGot
    cases hGot

/-
  In a run of safe calls the names are consistent in every
  state, and the first unsafe call that goes through ends
  that.
-/
theorem consistent_of_reachable
    {s : HostNames}
    (hReach :
      nameSystem.ReachableUnder HostNames.CallSafe s) :
    s.Consistent ∧
      ∀ (call : NameCall) (s' : HostNames),
        call.exec s = .ok ((), s') →
          (s'.Consistent ↔ s.CallSafe call) := by
  have hCons : s.Consistent := by
    apply hReach.invariant
    · intro t hInit
      rw [hInit]
      exact consistent_unknown
    · intro t call t' hPrior hSafe hStep
      rcases hStep with ⟨r, hRun⟩
      exact (consistent_step_iff hPrior hRun).mpr hSafe
  constructor
  · exact hCons
  · intro call s' hRun
    exact consistent_step_iff hCons hRun

/- A host name with a domain, then a new domain. -/
theorem consistent_of_two_calls :
    ∃ s : HostNames,
      s.hostname.text = bytes "a.c" ∧ s.Consistent := by
  have hFirst :
      NameCall.exec (.sethostname (bytes "a.b") 4)
          .unknown =
        .ok ((), HostNames.unknown.store
          ⟨bytes "a.b", by decide⟩) := by
    rfl
  have hSecond :
      NameCall.exec (.setdomainname (some (bytes "c")) 2)
          (HostNames.unknown.store ⟨bytes "a.b", by decide⟩) =
        .ok ((), (HostNames.unknown.store
          ⟨bytes "a.b", by decide⟩).storeDomain
            ⟨bytes "c", by decide⟩
            ⟨bytes "a.c", by decide⟩) := by
    rfl
  refine ⟨_, rfl, (consistent_of_reachable
    (.step (.step (.init rfl) ?_ ⟨(), hFirst⟩)
      ?_ ⟨(), hSecond⟩)).1⟩
  · intro _ _
    decide
  · intro _ _ domain hSome
    cases hSome
    decide

/-
  A host name without a dot comes after one with a dot: the
  domain name of the first stays in force.
-/
theorem consistent_fails_after_short_name :
    ¬ ∀ s, nameSystem.Reachable s → s.Consistent := by
  intro hAll
  have hRun :
      TransitionSystem.runUnder NameCall.exec
          (fun _ _ => true)
          [.sethostname (bytes "a.b") 4,
            .sethostname (bytes "c") 2] .unknown =
        some ((HostNames.unknown.store
          ⟨bytes "a.b", by decide⟩).store
            ⟨bytes "c", by decide⟩) := by
    rfl
  have hCons := hAll _
    (TransitionSystem.reachableUnder_of_runUnder
      (fun _ _ _ => trivial) (.init rfl) hRun)
  rw [consistent_store_iff] at hCons
  revert hCons
  decide

end Libsocket

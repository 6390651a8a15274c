import Libsocket.HostName.Consistent

/-
  When the strings that the host-name functions copy fit the
  arrays they are copied to.

  The configuration, the interfaces, DOS and the stored name
  give names that are short enough. `$HOSTNAME` can be of any
  length, and so can the arguments of the `set` functions.

  Main declarations:
    * `HostEnv.Unbounded`
    * `HostNames.CallFits`
    * `findName_bounded`
    * `no_overflow_iff`
-/

namespace Libsocket

open Command

------------------------------------------------------------
-- Sources Of Long Names
------------------------------------------------------------

/-
  The name comes from a source that puts no bound on its
  length: `$HOSTNAME`, or a block that the old function has
  left unwritten because `$HOSTNAME` does not fit it.
-/
def HostEnv.Unbounded
    (env : HostEnv)
    (s : HostNames)
    (name : Bytes) : Prop :=
  env.storedName s = none ∧
    (env.environmentName = some name ∨
      env.environmentName = none ∧
        env.configBuffer = true ∧
        env.configurationName = none ∧
        interfaceName env.interfaces = none ∧
        env.lastBuffer = true ∧
        oldGethostname env = none ∧
        name = env.leftover)

theorem length_configurationName_lt
    {env : HostEnv}
    {name : Bytes}
    (hName : env.configurationName = some name) :
    name.length < maxGetHostName := by
  unfold HostEnv.configurationName at hName
  split at hName
  · cases hName
  · split at hName
    · cases hName
    · cases hName
      rw [List.length_take]
      have hPos : 0 < maxGetHostName := by decide
      omega

theorem length_interfaceName_lt
    {entries : List (Option AddrTable × Bool)}
    {name : Bytes}
    (hName : interfaceName entries = some name) :
    name.length < maxGetHostName := by
  induction entries with
  | nil => cases hName
  | cons entry rest ih =>
      rcases entry with ⟨table, copied⟩
      cases table with
      | none => exact ih hName
      | some table =>
          unfold interfaceName at hName
          split at hName
          · exact ih hName
          · split at hName
            · exact ih hName
            · rename_i inet hInet
              split at hName
              · cases hName
                exact inet.fits
              · exact ih hName

theorem length_oldGethostname_lt
    {env : HostEnv}
    {name : Bytes}
    (hName : oldGethostname env = some name) :
    name.length < maxGetHostName := by
  unfold oldGethostname at hName
  split at hName
  · cases hName
  · cases hName
    omega

/- Only an unbounded source gives a long name. -/
theorem findName_bounded
    {env : HostEnv}
    {s : HostNames}
    {found : Bytes}
    (hFound : env.findName s = some found) :
    found.length < maxGetHostName ∨
      env.Unbounded s found := by
  unfold HostEnv.findName at hFound
  cases hStored : env.storedName s with
  | some name =>
      left
      rw [hStored] at hFound
      cases hFound
      unfold HostEnv.storedName at hStored
      split at hStored
      · cases hStored
        exact s.hostname.fits
      · cases hStored
  | none =>
      cases hEnv : env.environmentName with
      | some name =>
          right
          rw [hStored, hEnv] at hFound
          cases hFound
          exact ⟨hStored, .inl hEnv⟩
      | none =>
          rw [hStored, hEnv] at hFound
          dsimp only [Option.or] at hFound
          split at hFound
          · cases hFound
          rename_i hBuffer
          cases hConfig : env.configurationName with
          | some name =>
              left
              rw [hConfig] at hFound
              cases hFound
              exact length_configurationName_lt hConfig
          | none =>
              rw [hConfig] at hFound
              cases hInet : interfaceName env.interfaces with
              | some name =>
                  left
                  rw [hInet] at hFound
                  cases hFound
                  exact length_interfaceName_lt hInet
              | none =>
                  rw [hInet] at hFound
                  dsimp only at hFound
                  split at hFound
                  · cases hFound
                  rename_i hLast
                  cases hOld : oldGethostname env with
                  | some name =>
                      left
                      rw [hOld] at hFound
                      cases hFound
                      exact length_oldGethostname_lt hOld
                  | none =>
                      right
                      rw [hOld] at hFound
                      cases hFound
                      exact ⟨hStored, .inr ⟨hEnv,
                        by simpa using hBuffer, hConfig,
                        hInet, by simpa using hLast, hOld,
                        rfl⟩⟩

theorem findName_of_unbounded
    {env : HostEnv}
    {s : HostNames}
    {name : Bytes}
    (hName : env.Unbounded s name) :
    env.findName s = some name := by
  rcases hName with ⟨hStored, hEnv | ⟨hEnv, hBuffer,
    hConfig, hInet, hLast, hOld, rfl⟩⟩
  · simp [HostEnv.findName, hStored, hEnv]
  · simp [HostEnv.findName, hStored, hEnv, hBuffer, hConfig,
      hInet, hLast, hOld]

------------------------------------------------------------
-- Calls That Overflow No Array
------------------------------------------------------------

/-
  The strings that the call copies fit, judged from the
  state before it, its arguments and the sources of a name.
-/
def HostNames.CallFits (s : HostNames) : NameCall → Prop
| .gethostname env buf size =>
    0 < size → buf = true →
      ∀ name, env.Unbounded s name →
        ((cleanName name).length + 1 : Int) ≤ size →
          (cleanName name).length < maxGetHostName
| .sethostname buf size =>
    0 < size → size ≤ maxGetHostName →
      buf.length < maxGetHostName
| .getdomainname name len =>
    0 < len → len ≤ maxGetDomainName → name = true →
      s.domain.length < len
| .setdomainname name len =>
    0 < len → len ≤ maxGetDomainName →
      ∀ domain, name = some domain →
        domain.length < maxGetHostName ∧
          (s.withDomain domain).length < maxGetHostName

theorem exec_ne_error
    {α : Type}
    {m : NameCommand α}
    {s : HostNames} :
    (∀ buffer, (do let _ ← m) s ≠ .error buffer) ↔
      ∀ buffer, m s ≠ .error buffer := by
  cases hRun : m s with
  | error e =>
      have hBoth : (do let _ ← m) s = .error e :=
        run_bind_error hRun
      simp [hBoth]
  | ok next =>
      have hBoth : (do let _ ← m) s = .ok ((), next.2) :=
        run_bind_ok hRun
      simp [hBoth]

/- A call that ends writes over no array. -/
theorem nameFits_of_ok
    {α : Type}
    {next : α × HostNames}
    {P : Prop}
    (hFits : P) :
    (∀ buffer, (.ok next : Except NameBuffer
      (α × HostNames)) ≠ .error buffer) ↔ P := by
  apply iff_of_true
  · intro _ hErr
    cases hErr
  · exact hFits

theorem nameFits_of_error
    {α : Type}
    {written : NameBuffer}
    {P : Prop}
    (hLong : ¬ P) :
    (∀ buffer, (.error written : Except NameBuffer
      (α × HostNames)) ≠ .error buffer) ↔ P := by
  apply iff_of_false
  · intro hNone
    exact hNone written rfl
  · exact hLong

theorem gethostname_fits_iff
    (env : HostEnv)
    (buf : Bool)
    (size : Int)
    (s : HostNames) :
    (∀ buffer, gethostname env buf size s ≠ .error buffer) ↔
      s.CallFits (.gethostname env buf size) := by
  rw [gethostname_run]
  unfold HostNames.CallFits
  split
  · rename_i hRefused
    apply nameFits_of_ok
    intro hSize hBuf
    rcases hRefused with hSmall | hNone
    · omega
    · rw [hBuf] at hNone
      cases hNone
  rename_i hAllowed
  cases hFound : env.findName s with
  | none =>
      apply nameFits_of_ok
      intro _ _ name hName
      rw [findName_of_unbounded hName] at hFound
      cases hFound
  | some found =>
      dsimp only
      split
      · rename_i hLong
        apply nameFits_of_ok
        intro _ _ name hName hFits
        rw [findName_of_unbounded hName] at hFound
        cases hFound
        omega
      · rename_i hShort
        split
        · rename_i hRoom
          apply nameFits_of_ok
          intro _ _ name hName _
          rw [findName_of_unbounded hName] at hFound
          cases hFound
          exact hRoom
        · rename_i hRoom
          apply nameFits_of_error
          intro hFits
          have hClean := length_cleanName_le found
          have hSize : 0 < size := by omega
          have hBuf : buf = true := by
            cases buf with
            | false => exact absurd (.inr rfl) hAllowed
            | true => rfl
          rcases findName_bounded hFound with
            hSmall | hName
          · omega
          · exact hRoom
              (hFits hSize hBuf found hName (by omega))

theorem sethostname_fits_iff
    (buf : Bytes)
    (size : Int)
    (s : HostNames) :
    (∀ buffer, sethostname buf size s ≠ .error buffer) ↔
      s.CallFits (.sethostname buf size) := by
  rw [sethostname_run]
  unfold HostNames.CallFits
  split
  · apply nameFits_of_ok
    intro hPos hMax
    omega
  · rename_i hAllowed
    split
    · rename_i hRoom
      apply nameFits_of_ok
      intro _ _
      exact hRoom
    · rename_i hRoom
      apply nameFits_of_error
      intro hFits
      exact hRoom (hFits (by omega) (by omega))

theorem getdomainname_fits_iff
    (name : Bool)
    (len : Nat)
    (s : HostNames) :
    (∀ buffer, getdomainname name len s ≠ .error buffer) ↔
      s.CallFits (.getdomainname name len) := by
  rw [getdomainname_run]
  unfold HostNames.CallFits
  split
  · apply nameFits_of_ok
    intro hPos hMax
    omega
  rename_i hAllowed
  cases name with
  | false =>
      apply nameFits_of_ok
      intro _ _ hName
      cases hName
  | true =>
      rw [if_neg (by decide)]
      split
      · rename_i hRoom
        apply nameFits_of_ok
        intro _ _ _
        exact hRoom
      · rename_i hRoom
        apply nameFits_of_error
        intro hFits
        exact hRoom (hFits (by omega) (by omega) rfl)

theorem setdomainname_fits_iff
    (name : Option Bytes)
    (len : Nat)
    (s : HostNames) :
    (∀ buffer, setdomainname name len s ≠ .error buffer) ↔
      s.CallFits (.setdomainname name len) := by
  rw [setdomainname_run]
  unfold HostNames.CallFits
  split
  · apply nameFits_of_ok
    intro hPos hMax
    omega
  rename_i hAllowed
  cases name with
  | none =>
      apply nameFits_of_ok
      intro _ _ domain hSome
      cases hSome
  | some domain =>
      dsimp only
      split
      · rename_i hName
        split
        · rename_i hHost
          apply nameFits_of_ok
          intro _ _ other hSome
          cases hSome
          exact ⟨hName, hHost⟩
        · rename_i hHost
          apply nameFits_of_error
          intro hFits
          exact hHost
            (hFits (by omega) (by omega) domain rfl).2
      · rename_i hName
        apply nameFits_of_error
        intro hFits
        exact hName
          (hFits (by omega) (by omega) domain rfl).1

/-
  Whatever names are stored, a call copies no string over
  the end of an array exactly if its strings fit.
-/
theorem no_overflow_iff
    (s : HostNames)
    (call : NameCall) :
    (∀ buffer, call.exec s ≠ .error buffer) ↔
      s.CallFits call := by
  cases call with
  | gethostname env buf size =>
      exact exec_ne_error.trans
        (gethostname_fits_iff env buf size s)
  | sethostname buf size =>
      exact exec_ne_error.trans
        (sethostname_fits_iff buf size s)
  | getdomainname name len =>
      exact exec_ne_error.trans
        (getdomainname_fits_iff name len s)
  | setdomainname name len =>
      exact exec_ne_error.trans
        (setdomainname_fits_iff name len s)

/-
  The length that the caller gives to `getdomainname` is not
  compared with the domain name in force.
-/
theorem getdomainname_overflows_caller :
    ∃ s, nameSystem.Reachable s ∧
      (NameCall.getdomainname true 1).exec s =
        .error .caller := by
  have hRun :
      TransitionSystem.runUnder NameCall.exec
          (fun _ _ => true)
          [.sethostname (bytes "a.b") 4] .unknown =
        some (HostNames.unknown.store
          ⟨bytes "a.b", by decide⟩) := by
    rfl
  exact ⟨_, TransitionSystem.reachableUnder_of_runUnder
    (fun _ _ _ => trivial) (.init rfl) hRun, rfl⟩

end Libsocket

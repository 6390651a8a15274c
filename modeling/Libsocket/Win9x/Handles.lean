import Libsocket.Win9x.EnumExits

/-
  The registry keys and the copied strings of an enumeration:
  whether everything that is opened is closed, once.

  Main declarations:
    * `instanceLoop_judged`, `deviceLoop_judged`
    * `handles_balanced_iff`
-/

namespace Libsocket

open Resource

------------------------------------------------------------
-- The Loops
------------------------------------------------------------

/- What belongs to the instances from `j` on. -/
def OfInstance (i j : Nat) (r : EnumResource) : Prop :=
  ∃ k role, j ≤ k ∧ r = .inst i k role

/- What belongs to the devices from `i` on. -/
def OfDevice (i : Nat) (r : EnumResource) : Prop :=
  ∃ k, i ≤ k ∧ (r = .dev k ∨ OfInstance k 0 r)

/- The exits of a walk are all clean. -/
def EnumWalk.Clean (w : EnumWalk) : Prop :=
  ∀ e ∈ w.exits, e.clean = true

variable {inst : EnumInstance} {i j : Nat} {s : EnumState}

theorem inst_injective (i j : Nat) :
    Function.Injective (EnumResource.inst i j) := by
  intro role role' hSame
  cases hSame
  rfl

/- A turn of the loop, with its keys named by the turn. -/
theorem instanceTurn_judged :
    Judged (fun r => ∃ role, r = EnumResource.inst i j role)
      ((inst.exit s.room).clean = true)
      ((instanceTurn inst i j s).rename
        (Event.map (.inst i j))).log :=
  (Judged.rename (inst_injective i j) _).congr
    instanceTurn_balanced

theorem instanceLoop_judged
    {last : Int}
    {items : List EnumInstance} :
    Judged (OfInstance i j)
      (instanceWalk i last j items s.ifCount).Clean
      (instanceLoop i last j items s).log := by
  induction items generalizing j s with
  | nil =>
      apply Judged.nil.congr
      simp [instanceWalk, EnumWalk.Clean]
  | cons inst rest ih =>
      have hValue := @instanceTurn_value inst i j s
      have hTurn := @instanceTurn_judged inst i j s
      have hAfter := @EnumExit.after_spec inst i j s
        (inst.exit s.room)
      have hRest := @ih (j + 1)
        ((inst.exit s.room).after inst i j s)
      rw [hAfter.1] at hRest
      have hHere : ∀ r, (∃ role, r = EnumResource.inst i j role) →
          OfInstance i j r := by
        rintro r ⟨role, hR⟩
        exact ⟨j, role, Nat.le_refl j, hR⟩
      unfold EnumState.room at hValue hTurn hRest
      simp only [instanceLoop, instanceWalk, Traced.log_bind,
        Traced.value_rename, hValue]
      cases hFlow : (inst.exit
          (decide (s.ifCount < lsckIfAddrTableMax))).flow with
      | leave res =>
          rw [Traced.log_pure, List.append_nil]
          apply (hTurn.weaken hHere).congr
          simp [EnumWalk.Clean]
      | turn res =>
          by_cases hRes : res = 0
          · simp only [hRes, if_true]
            have hApart : ∀ r,
                (∃ role, r = EnumResource.inst i j role) →
                  ¬ OfInstance i (j + 1) r := by
              rintro r ⟨role, rfl⟩ ⟨k, role', hLater, hSame⟩
              cases hSame
              omega
            have hBoth := hTurn.append hRest hApart
            apply (hBoth.weaken ?_).congr ?_
            · rintro r (hR | ⟨k, role, hLater, hR⟩)
              · exact hHere r hR
              · exact ⟨k, role, by omega, hR⟩
            · simp [EnumWalk.Clean]
          · simp only [hRes, if_false]
            rw [Traced.log_pure, List.append_nil]
            apply (hTurn.weaken hHere).congr
            simp [EnumWalk.Clean]

/- The log of a device whose key is opened. -/
theorem deviceLoop_log
    {dev : EnumDevice}
    {rest : List EnumDevice}
    (hEnum : dev.enumKey = 0)
    (hOpen : dev.openKey = 0) :
    let loop := instanceLoop i dev.instances.last 0
      dev.instances.items s
    (deviceLoop i (dev :: rest) s).log =
      (.acquire (.dev i) :: (loop.log ++ [.release (.dev i)])) ++
        if loop.value.2 = errorNoMoreItems ∨
            loop.value.2 = 0 then
          (deviceLoop (i + 1) rest loop.value.1).log
        else [] := by
  simp only [deviceLoop, hEnum, hOpen, ne_eq,
    not_true_eq_false, if_false, regOpenKey_ok,
    Traced.log_bind, log_regCloseKey]
  split
  · simp
  · simp

/- The key of a device is held around its instances. -/
theorem device_judged
    (last : Int)
    (items : List EnumInstance) :
    Judged (fun r => r = .dev i ∨ OfInstance i 0 r)
      (instanceWalk i last 0 items s.ifCount).Clean
      (.acquire (.dev i) ::
        ((instanceLoop i last 0 items s).log ++
          [.release (.dev i)])) := by
  apply instanceLoop_judged.bracket
  rintro ⟨k, role, -, hSame⟩
  cases hSame

/- What belongs to one device belongs to no later one. -/
theorem ofDevice_apart
    {r : EnumResource}
    (hOwn : r = .dev i ∨ OfInstance i 0 r) :
    ¬ OfDevice (i + 1) r := by
  rintro ⟨k, hLater, hOther⟩
  rcases hOwn with rfl | ⟨m, role, -, rfl⟩
  · rcases hOther with hSame | ⟨m, role, -, hSame⟩
    · cases hSame
      omega
    · cases hSame
  · rcases hOther with hSame | ⟨m, role, -, hSame⟩
    · cases hSame
    · cases hSame
      omega

theorem deviceLoop_judged
    {devices : List EnumDevice} :
    Judged (OfDevice i)
      (deviceWalk i devices s.ifCount).Clean
      (deviceLoop i devices s).log := by
  induction devices generalizing i s with
  | nil =>
      apply Judged.nil.congr
      simp [deviceWalk, EnumWalk.Clean]
  | cons dev rest ih =>
      by_cases hEnum : dev.enumKey = 0
      · by_cases hOpen : dev.openKey = 0
        · have hWalk := @instanceLoop_walk i 0 s
            dev.instances.last dev.instances.items
          have hDevice := @device_judged i s
            dev.instances.last dev.instances.items
          have hRest := @ih (i + 1) (instanceLoop i
            dev.instances.last 0 dev.instances.items s).value.1
          rw [hWalk.1] at hRest
          have hHere : ∀ r, (r = .dev i ∨ OfInstance i 0 r) →
              OfDevice i r :=
            fun r hR => ⟨i, Nat.le_refl i, hR⟩
          rw [deviceLoop_log hEnum hOpen, hWalk.2.2]
          simp only [deviceWalk, hEnum, hOpen, ne_eq,
            not_true_eq_false, if_false]
          split
          · have hBoth := hDevice.append hRest
              fun r hR => ofDevice_apart hR
            apply (hBoth.weaken ?_).congr ?_
            · rintro r (hR | ⟨k, hLater, hR⟩)
              · exact hHere r hR
              · exact ⟨k, by omega, hR⟩
            · simp only [EnumWalk.Clean, List.mem_append]
              constructor
              · rintro ⟨hFirst, hThen⟩ e (hE | hE)
                · exact hFirst e hE
                · exact hThen e hE
              · intro hAll
                exact ⟨fun e hE => hAll e (.inl hE),
                  fun e hE => hAll e (.inr hE)⟩
          · rw [List.append_nil]
            exact hDevice.weaken hHere
        · apply Judged.congr (c := True)
          · simp only [deviceLoop, hEnum, hOpen, ne_eq,
              not_true_eq_false, not_false_eq_true, if_false,
              if_true, regOpenKey_failed, Traced.log_bind,
              Traced.log_pure]
            exact Judged.nil
          · simp [deviceWalk, hEnum, hOpen, EnumWalk.Clean]
      · apply Judged.congr (c := True)
        · simp only [deviceLoop, hEnum, ne_eq,
            not_false_eq_true, if_true, Traced.log_pure]
          exact Judged.nil
        · simp [deviceWalk, hEnum, EnumWalk.Clean]

------------------------------------------------------------
-- The Whole Enumeration
------------------------------------------------------------

/-
  Every key and every string is released exactly once, and
  nothing else is, if the base key is opened and every
  instance that is reached is left at a clean exit.
-/
theorem handles_balanced_iff
    (tree : EnumTree)
    (s : EnumState) :
    Resource.Balanced (enuminterfaces tree s).log ↔
      tree.openKey = 0 ∧
        (deviceWalk 0 tree.devices.items s.ifCount).Clean := by
  by_cases hOpen : tree.openKey = 0
  · have hOwn : ¬ OfDevice 0 .base := by
      rintro ⟨k, -, hSame | ⟨m, role, -, hSame⟩⟩
      · cases hSame
      · cases hSame
    have hAll := (@deviceLoop_judged 0 s
      tree.devices.items).bracket hOwn
    have hLog : (enuminterfaces tree s).log =
        .acquire .base ::
          ((deviceLoop 0 tree.devices.items s).log ++
            [.release .base]) := by
      simp [enuminterfaces, hOpen, regOpenKey_ok]
    rw [hLog, hAll.balanced_iff]
    simp only [hOpen, true_and]
  · simp [enuminterfaces, hOpen, regOpenKey_failed,
      Resource.Balanced, replay]

/- A listing that ends without an error. -/
def Listing.full {α : Type} (items : List α) :
    Listing α where
  items := items
  last := errorNoMoreItems
  ends := by decide

/- A network device without a binding to MSTCP. -/
def unboundInstance : EnumInstance where
  enumKey := 0
  openKey := 0
  classAnswer := 0
  cls := bytes "Net"
  driverAnswer := 0
  classKey := 0
  netKey := 0
  bindingsKey := 0
  bindings := .full []
  mstcpDriver := 0
  netTransKey := 0
  descAnswer := 0
  desc := []
  ndiKey := 0
  lowerAnswer := 0
  lower := ethernetIfLower
  rasActive := false
  stale := false
  card := fun record dhcpCount => (record, dhcpCount)
  memory := true

def EnumTree.ofInstances (items : List EnumInstance) :
    EnumTree where
  openKey := 0
  devices := .full [⟨0, 0, .full items⟩]

/- The state of the first call, behind the loopback entry. -/
def EnumState.start : EnumState where
  entries := []
  ifCount := 1
  dialupCount := -1
  dhcpCount := -1

/- Its own key and the class key stay open. -/
theorem unbound_leaks :
    ¬ Resource.Balanced (enuminterfaces
      (.ofInstances [unboundInstance]) .start).log := by
  decide +kernel

end Libsocket

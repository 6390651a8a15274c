import Libsocket.Win9x.Enum

/-
  The ways through one turn of the enumeration: which call
  fails, or what kind of device an instance is.

  Main declarations:
    * `EnumExit`, `EnumInstance.exit`
    * `EnumExit.flow`, `EnumExit.clean`
    * `instanceTurn_value`, `instanceTurn_balanced`
    * `instanceWalk`, `deviceWalk`
    * `instanceLoop_walk`, `deviceLoop_walk`
-/

namespace Libsocket

open Resource

------------------------------------------------------------
-- Exits
------------------------------------------------------------

/- The calls that a turn makes, in their order. -/
inductive EnumStep
| enumKey
| openKey
| cls
| driver
| classKey
| netKey
| bindingsKey
| network
| mstcpDriver
| netTransKey
| desc
| ndiKey
| lower
deriving DecidableEq, Repr

/- Where a turn ends, and with which answer. -/
inductive EnumExit
| failed (step : EnumStep) (code : Int)
| unbound (code : Int)
| otherClass
| full
| dialupIdle
| dialupActive
| ethernet
| unknown
deriving DecidableEq, Repr

/- The type of an interface. -/
def EnumInstance.interfaceExit (inst : EnumInstance) :
    EnumExit :=
  if inst.desc = dialupDesc ∧ inst.lower = dialupIfLower then
    if inst.rasActive then .dialupActive else .dialupIdle
  else if inst.lower = ethernetIfLower then
    .ethernet
  else
    .unknown

/- From the NetTrans key on. -/
def EnumInstance.driverExit (inst : EnumInstance) : EnumExit :=
  if inst.descAnswer ≠ 0 then
    .failed .desc inst.descAnswer
  else if inst.ndiKey ≠ 0 then
    .failed .ndiKey inst.ndiKey
  else if inst.lowerAnswer ≠ 0 then
    .failed .lower inst.lowerAnswer
  else
    inst.interfaceExit

/- From the MSTCP key on. -/
def EnumInstance.netTransExit (inst : EnumInstance) :
    EnumExit :=
  if inst.mstcpDriver ≠ 0 then
    .failed .mstcpDriver inst.mstcpDriver
  else if inst.netTransKey ≠ 0 then
    .failed .netTransKey inst.netTransKey
  else
    inst.driverExit

/-
  The first binding to MSTCP, or the answer that ends the
  enumeration in front of one.
-/
def firstBinding (last : Int) :
    List EnumBinding → Except Int EnumBinding
| [] => .error last
| binding :: rest =>
    if binding.answer ≠ 0 then
      .error binding.answer
    else if ¬ mstcpPrefix.isPrefixOf binding.valname then
      firstBinding last rest
    else
      .ok binding

/- From the bindings on. -/
def EnumInstance.bindingsExit (inst : EnumInstance) :
    EnumExit :=
  match firstBinding inst.bindings.last inst.bindings.items with
  | .error code => .unbound code
  | .ok binding =>
      if binding.network ≠ 0 then
        .failed .network binding.network
      else if binding.mstcp ≠ 0 then
        .unbound binding.mstcp
      else
        inst.netTransExit

/- From the driver on. -/
def EnumInstance.netExit (inst : EnumInstance) : EnumExit :=
  if inst.driverAnswer ≠ 0 then
    .failed .driver inst.driverAnswer
  else if inst.classKey ≠ 0 then
    .failed .classKey inst.classKey
  else if inst.netKey ≠ 0 then
    .failed .netKey inst.netKey
  else if inst.bindingsKey ≠ 0 then
    .failed .bindingsKey inst.bindingsKey
  else
    inst.bindingsExit

/- `room` says that the table is not full yet. -/
def EnumInstance.exit (inst : EnumInstance) (room : Bool) :
    EnumExit :=
  if inst.enumKey ≠ 0 then
    .failed .enumKey inst.enumKey
  else if inst.openKey ≠ 0 then
    .failed .openKey inst.openKey
  else if inst.classAnswer ≠ 0 then
    .failed .cls inst.classAnswer
  else if inst.cls ≠ bytes "Net" then
    .otherClass
  else if room = false then
    .full
  else
    inst.netExit

namespace EnumExit

/- What the loop does after a turn. -/
def flow : EnumExit → EnumFlow
| failed .cls code =>
    .leave (if code = errorCantread then 0 else code)
| failed .network code => .turn code
| failed _ code => .leave code
| unbound code => .turn code
| full => .leave 0
| _ => .turn 0

/-
  Everything that was opened in the turn is closed, and
  nothing else is. At the other exits the class key, the
  instance or a string is left, a key is closed that was not
  opened, or a string is used that was freed.
-/
def clean : EnumExit → Bool
| failed .netKey _ => false
| failed .bindingsKey _ => false
| failed .network _ => false
| failed .ndiKey _ => false
| failed .lower _ => false
| unbound _ => false
| dialupActive => false
| unknown => false
| _ => true

/- An entry is added if there is memory for it. -/
def adds : EnumExit → Bool
| dialupActive => true
| ethernet => true
| unknown => true
| _ => false

/- The state after a turn. -/
def after
    (inst : EnumInstance)
    (i j : Nat)
    (s : EnumState) : EnumExit → EnumState
| dialupIdle => { s with dialupCount := s.dialupCount + 1 }
| dialupActive => addEntry inst i j
    (if inst.stale then lsckIfHwTypeEthernet
     else lsckIfHwTypeDialup)
    { s with dialupCount := s.dialupCount + 1 }
| ethernet => addEntry inst i j lsckIfHwTypeEthernet s
| unknown => addEntry inst i j 0 s
| _ => s

end EnumExit

------------------------------------------------------------
-- One Stage After The Other
------------------------------------------------------------

/- The keys that are open when the driver is read. -/
def EnumKeys.opened : EnumKeys where
  enum := some .enum
  net := some .net
  mstcp := some .mstcp
  netTrans := some .netTrans

@[simp] theorem EnumKeys.log_close :
    EnumKeys.opened.close.log =
      [.release .net, .release .mstcp, .release .netTrans,
        .release .enum] := rfl

variable {inst : EnumInstance} {i j : Nat} {s : EnumState}

theorem finishEntry_value (freed : Bool) :
    (finishEntry inst i j .opened .desc .lower freed s).value =
      (addEntry inst i j
        (if (if freed then inst.stale
            else inst.lower == ethernetIfLower) then
          lsckIfHwTypeEthernet
        else if freed then
          lsckIfHwTypeDialup
        else 0) s, .turn 0) := by
  unfold finishEntry
  cases hEqual : (if freed then inst.stale
    else inst.lower == ethernetIfLower) with
  | true => simp
  | false => simp

/- The strings of an Ethernet card are freed. -/
theorem finishEntry_ethernet
    (hLower : inst.lower = ethernetIfLower) :
    replay (finishEntry inst i j .opened .desc .lower
      false s).log
      [.lower, .desc, .netTrans, .mstcp, .net, .enum] =
        some [] := by
  simp [finishEntry, hLower, replay]

/- Those of another device are not. -/
theorem finishEntry_unknown
    (hLower : ¬ inst.lower = ethernetIfLower) :
    replay (finishEntry inst i j .opened .desc .lower
      false s).log
      [.lower, .desc, .netTrans, .mstcp, .net, .enum] =
        some [.lower, .desc] := by
  simp [finishEntry, hLower, replay]

/- Those of a dial-up device are used when they are freed. -/
theorem finishEntry_freed :
    replay (finishEntry inst i j .opened .desc .lower
      true s).log
      [.netTrans, .mstcp, .net, .enum] = none := by
  simp [finishEntry, replay]

/- A device that is no dial-up device goes straight on. -/
theorem interfaceType_other
    (hOther : ¬ (inst.desc = dialupDesc ∧
      inst.lower = dialupIfLower)) :
    (interfaceType inst i j .opened .desc .lower s).value =
        (finishEntry inst i j .opened .desc .lower
          false s).value ∧
      replay (interfaceType inst i j .opened .desc
          .lower s).log
          [.lower, .desc, .netTrans, .mstcp, .net, .enum] =
        replay (finishEntry inst i j .opened .desc .lower
          false s).log
          [.lower, .desc, .netTrans, .mstcp, .net, .enum] := by
  unfold interfaceType
  by_cases hDesc : inst.desc = dialupDesc
  · have hLower : (inst.lower == dialupIfLower) = false := by
      rw [beq_eq_false_iff_ne]
      exact fun h => hOther ⟨hDesc, h⟩
    simp [hDesc, hLower, replay]
  · have hNot : (inst.desc == dialupDesc) = false := by
      rw [beq_eq_false_iff_ne]
      exact hDesc
    simp [hNot, replay]

theorem interfaceType_value :
    (interfaceType inst i j .opened .desc .lower s).value =
      (inst.interfaceExit.after inst i j s,
        inst.interfaceExit.flow) := by
  by_cases hDialup : inst.desc = dialupDesc ∧
      inst.lower = dialupIfLower
  · unfold interfaceType EnumInstance.interfaceExit
    cases hActive : inst.rasActive with
    | true =>
        simp [hDialup, finishEntry_value, EnumExit.after,
          EnumExit.flow]
    | false => simp [hDialup, EnumExit.after, EnumExit.flow]
  · rw [(interfaceType_other hDialup).1, finishEntry_value,
      EnumInstance.interfaceExit, if_neg hDialup]
    by_cases hEthernet : inst.lower = ethernetIfLower
    · simp [hEthernet, EnumExit.after, EnumExit.flow]
    · simp [hEthernet, EnumExit.after, EnumExit.flow]

theorem interfaceType_replay :
    replay (interfaceType inst i j .opened .desc .lower s).log
        [.lower, .desc, .netTrans, .mstcp, .net, .enum] =
          some [] ↔
      inst.interfaceExit.clean = true := by
  by_cases hDialup : inst.desc = dialupDesc ∧
      inst.lower = dialupIfLower
  · unfold interfaceType EnumInstance.interfaceExit
    cases hActive : inst.rasActive with
    | true =>
        simp [hDialup, replay, finishEntry_freed,
          EnumExit.clean]
    | false => simp [hDialup, replay, EnumExit.clean]
  · rw [(interfaceType_other hDialup).2,
      EnumInstance.interfaceExit, if_neg hDialup]
    by_cases hEthernet : inst.lower = ethernetIfLower
    · simp [hEthernet, finishEntry_ethernet, EnumExit.clean]
    · simp [hEthernet, finishEntry_unknown, EnumExit.clean]

theorem readDriver_value :
    (readDriver inst i j .opened s).value =
      (inst.driverExit.after inst i j s,
        inst.driverExit.flow) := by
  unfold readDriver EnumInstance.driverExit
  by_cases hDesc : inst.descAnswer = 0
  · by_cases hNdi : inst.ndiKey = 0
    · by_cases hLower : inst.lowerAnswer = 0
      · simp [hDesc, hNdi, hLower, interfaceType_value]
      · simp [hDesc, hNdi, hLower, EnumExit.after,
          EnumExit.flow]
    · simp [hDesc, hNdi, EnumExit.after, EnumExit.flow]
  · simp [hDesc, EnumExit.after, EnumExit.flow]

theorem readDriver_replay :
    replay (readDriver inst i j .opened s).log
        [.netTrans, .mstcp, .net, .enum] = some [] ↔
      inst.driverExit.clean = true := by
  unfold readDriver EnumInstance.driverExit
  by_cases hDesc : inst.descAnswer = 0
  · by_cases hNdi : inst.ndiKey = 0
    · by_cases hLower : inst.lowerAnswer = 0
      · simp [hDesc, hNdi, hLower, regOpenKey_ok, replay,
          interfaceType_replay]
      · simp [hDesc, hNdi, hLower, regOpenKey_ok, replay,
          EnumExit.clean]
    · simp [hDesc, hNdi, regOpenKey_failed, replay,
        EnumExit.clean]
  · simp [hDesc, replay, EnumExit.clean]

theorem openNetTrans_value :
    (openNetTrans inst i j (some .enum) (some .cls) (some .net)
        (some .mstcp) s).value =
      (inst.netTransExit.after inst i j s,
        inst.netTransExit.flow) := by
  unfold openNetTrans EnumInstance.netTransExit
  by_cases hDriver : inst.mstcpDriver = 0
  · by_cases hKey : inst.netTransKey = 0
    · have hRest := @readDriver_value inst i j s
      unfold EnumKeys.opened at hRest
      simp [hDriver, hKey, regOpenKey_ok, hRest]
    · simp [hDriver, hKey, EnumExit.after, EnumExit.flow]
  · simp [hDriver, EnumExit.after, EnumExit.flow]

theorem openNetTrans_replay :
    replay (openNetTrans inst i j (some .enum) (some .cls)
        (some .net) (some .mstcp) s).log
        [.mstcp, .net, .cls, .enum] = some [] ↔
      inst.netTransExit.clean = true := by
  unfold openNetTrans EnumInstance.netTransExit
  by_cases hDriver : inst.mstcpDriver = 0
  · by_cases hKey : inst.netTransKey = 0
    · have hRest := @readDriver_replay inst i j s
      unfold EnumKeys.opened at hRest
      simp [hDriver, hKey, regOpenKey_ok, replay, hRest]
    · simp [hDriver, hKey, regOpenKey_failed, replay,
        EnumExit.clean]
  · simp [hDriver, replay, EnumExit.clean]

/- What the search for a binding leaves. -/
theorem bindingLoop_eq
    (last : Int)
    (items : List EnumBinding) :
    bindingLoop last items =
      match firstBinding last items with
      | .error code => ⟨[], (code, none)⟩
      | .ok binding =>
          if binding.network ≠ 0 then
            ⟨[.stray], (binding.network, none)⟩
          else if binding.mstcp ≠ 0 then
            ⟨[.acquire .network, .release .network],
              (binding.mstcp, none)⟩
          else
            ⟨[.acquire .network, .acquire .mstcp,
              .release .network], (0, some .mstcp)⟩ := by
  induction items with
  | nil => rfl
  | cons binding rest ih =>
      unfold bindingLoop firstBinding
      by_cases hAnswer : binding.answer = 0
      · by_cases hPrefix :
            mstcpPrefix.isPrefixOf binding.valname = true
        · by_cases hNetwork : binding.network = 0
          · by_cases hMstcp : binding.mstcp = 0
            · simp [hAnswer, hPrefix, hNetwork, hMstcp,
                regOpenKey_ok]
              rfl
            · simp [hAnswer, hPrefix, hNetwork, hMstcp,
                regOpenKey_ok, regOpenKey_failed]
              rfl
          · simp [hAnswer, hPrefix, hNetwork,
              regOpenKey_failed]
            rfl
        · simp [hAnswer, hPrefix, ih]
      · simp [hAnswer]
        rfl

theorem openDriver_value :
    (openDriver inst i j (some .enum) s).value =
      (inst.netExit.after inst i j s, inst.netExit.flow) := by
  unfold openDriver EnumInstance.netExit
  by_cases hDriver : inst.driverAnswer = 0
  · by_cases hClass : inst.classKey = 0
    · by_cases hNet : inst.netKey = 0
      · by_cases hBindings : inst.bindingsKey = 0
        · rw [EnumInstance.bindingsExit]
          simp only [hDriver, hClass, hNet, hBindings, ne_eq,
            not_true_eq_false, if_false, regOpenKey_ok,
            Traced.value_bind, bindingLoop_eq]
          cases hFirst : firstBinding inst.bindings.last
              inst.bindings.items with
          | error code => simp [EnumExit.after, EnumExit.flow]
          | ok binding =>
              by_cases hNetwork : binding.network = 0
              · by_cases hMstcp : binding.mstcp = 0
                · simp [hNetwork, hMstcp, openNetTrans_value]
                · simp [hNetwork, hMstcp, EnumExit.after,
                    EnumExit.flow]
              · simp [hNetwork, EnumExit.after, EnumExit.flow]
        · simp [hDriver, hClass, hNet, hBindings,
            EnumExit.after, EnumExit.flow]
      · simp [hDriver, hClass, hNet, EnumExit.after,
          EnumExit.flow]
    · simp [hDriver, hClass, EnumExit.after, EnumExit.flow]
  · simp [hDriver, EnumExit.after, EnumExit.flow]

theorem openDriver_replay :
    replay (openDriver inst i j (some .enum) s).log [.enum] =
        some [] ↔
      inst.netExit.clean = true := by
  unfold openDriver EnumInstance.netExit
  by_cases hDriver : inst.driverAnswer = 0
  · by_cases hClass : inst.classKey = 0
    · by_cases hNet : inst.netKey = 0
      · by_cases hBindings : inst.bindingsKey = 0
        · rw [EnumInstance.bindingsExit]
          simp only [hDriver, hClass, hNet, hBindings, ne_eq,
            not_true_eq_false, if_false, regOpenKey_ok,
            Traced.log_bind, bindingLoop_eq]
          cases hFirst : firstBinding inst.bindings.last
              inst.bindings.items with
          | error code => simp [replay, EnumExit.clean]
          | ok binding =>
              by_cases hNetwork : binding.network = 0
              · by_cases hMstcp : binding.mstcp = 0
                · simp [hNetwork, hMstcp, replay,
                    openNetTrans_replay]
                · simp [hNetwork, hMstcp, replay,
                    EnumExit.clean]
              · simp [hNetwork, replay, EnumExit.clean]
        · simp [hDriver, hClass, hNet, hBindings, replay,
            regOpenKey_ok, regOpenKey_failed, EnumExit.clean]
      · simp [hDriver, hClass, hNet, replay, regOpenKey_ok,
          regOpenKey_failed, EnumExit.clean]
    · simp [hDriver, hClass, replay, regOpenKey_failed,
        EnumExit.clean]
  · simp [hDriver, replay, EnumExit.clean]

/- There is room for another entry. -/
def EnumState.room (s : EnumState) : Bool :=
  decide (s.ifCount < lsckIfAddrTableMax)

/- A turn ends as its exit says. -/
theorem instanceTurn_value :
    (instanceTurn inst i j s).value =
      ((inst.exit s.room).after inst i j s,
        (inst.exit s.room).flow) := by
  unfold instanceTurn EnumInstance.exit EnumState.room
  by_cases hEnum : inst.enumKey = 0
  · by_cases hOpen : inst.openKey = 0
    · by_cases hClass : inst.classAnswer = 0
      · by_cases hNet : inst.cls = bytes "Net"
        · by_cases hRoom : s.ifCount < lsckIfAddrTableMax
          · simp [hEnum, hOpen, hClass, hNet, hRoom,
              regOpenKey_ok, openDriver_value]
          · simp [hEnum, hOpen, hClass, hNet, hRoom,
              EnumExit.after, EnumExit.flow]
        · simp [hEnum, hOpen, hClass, hNet, EnumExit.after,
            EnumExit.flow]
      · simp [hEnum, hOpen, hClass, EnumExit.after,
          EnumExit.flow]
    · simp [hEnum, hOpen, EnumExit.after, EnumExit.flow]
  · simp [hEnum, EnumExit.after, EnumExit.flow]

/- The record of a turn is in order at the clean exits. -/
theorem instanceTurn_balanced :
    Resource.Balanced (instanceTurn inst i j s).log ↔
      (inst.exit s.room).clean = true := by
  unfold instanceTurn EnumInstance.exit EnumState.room
    Resource.Balanced
  by_cases hEnum : inst.enumKey = 0
  · by_cases hOpen : inst.openKey = 0
    · by_cases hClass : inst.classAnswer = 0
      · by_cases hNet : inst.cls = bytes "Net"
        · by_cases hRoom : s.ifCount < lsckIfAddrTableMax
          · simp [hEnum, hOpen, hClass, hNet, hRoom,
              regOpenKey_ok, replay, openDriver_replay]
          · simp [hEnum, hOpen, hClass, hNet, hRoom,
              regOpenKey_ok, replay, EnumExit.clean]
        · simp [hEnum, hOpen, hClass, hNet, regOpenKey_ok,
            replay, EnumExit.clean]
      · simp [hEnum, hOpen, hClass, regOpenKey_ok, replay,
          EnumExit.clean]
    · simp [hEnum, hOpen, regOpenKey_failed, replay,
        EnumExit.clean]
  · simp [hEnum, replay, EnumExit.clean]

------------------------------------------------------------
-- The Exits Of An Enumeration
------------------------------------------------------------

/- The number of entries after a turn. -/
def EnumExit.count (inst : EnumInstance) (n : Nat)
    (e : EnumExit) : Nat :=
  if e.adds && inst.memory then n + 1 else n

/- The turn, if an entry is added in it. -/
def EnumExit.added (inst : EnumInstance) (i j : Nat)
    (e : EnumExit) : List (Nat × Nat) :=
  if e.adds && inst.memory then [(i, j)] else []

/-
  The exits that are taken, the turns in which an entry is
  added, the number of entries, and the result code.
-/
structure EnumWalk where
  exits : List EnumExit
  added : List (Nat × Nat)
  count : Nat
  res : Int

/- The instances of a device, with `n` entries so far. -/
def instanceWalk (i : Nat) (last : Int) :
    Nat → List EnumInstance → Nat → EnumWalk
| _, [], n => ⟨[], [], n, last⟩
| j, inst :: rest, n =>
    let e := inst.exit (decide (n < lsckIfAddrTableMax))
    let n := e.count inst n
    match e.flow with
    | .leave res => ⟨[e], e.added inst i j, n, res⟩
    | .turn res =>
        if res = 0 then
          let w := instanceWalk i last (j + 1) rest n
          ⟨e :: w.exits, e.added inst i j ++ w.added, w.count,
            w.res⟩
        else
          ⟨[e], e.added inst i j, n, res⟩

/- All devices; the result code is not looked at behind them. -/
def deviceWalk : Nat → List EnumDevice → Nat → EnumWalk
| _, [], n => ⟨[], [], n, 0⟩
| i, dev :: rest, n =>
    if dev.enumKey ≠ 0 then
      ⟨[], [], n, dev.enumKey⟩
    else if dev.openKey ≠ 0 then
      ⟨[], [], n, dev.openKey⟩
    else
      let w := instanceWalk i dev.instances.last 0
        dev.instances.items n
      if w.res = errorNoMoreItems ∨ w.res = 0 then
        let w' := deviceWalk (i + 1) rest w.count
        ⟨w.exits ++ w'.exits, w.added ++ w'.added, w'.count,
          w'.res⟩
      else
        w

/- The turn that an entry was added in. -/
def EnumEntry.source (entry : EnumEntry) : Nat × Nat :=
  (entry.device, entry.inst)

theorem addEntry_spec (hwType : Nat) :
    (addEntry inst i j hwType s).ifCount =
        (if inst.memory then s.ifCount + 1 else s.ifCount) ∧
      (addEntry inst i j hwType s).entries.map
          EnumEntry.source =
        s.entries.map EnumEntry.source ++
          if inst.memory then [(i, j)] else [] := by
  unfold addEntry
  cases inst.memory with
  | true => simp [EnumEntry.source]
  | false => simp

theorem EnumExit.after_spec (e : EnumExit) :
    (e.after inst i j s).ifCount = e.count inst s.ifCount ∧
      (e.after inst i j s).entries.map EnumEntry.source =
        s.entries.map EnumEntry.source ++
          e.added inst i j := by
  have hAdd := fun s hwType =>
    @addEntry_spec inst i j s hwType
  unfold EnumExit.after EnumExit.count EnumExit.added
    EnumExit.adds
  cases e with
  | failed step code => simp
  | unbound code => simp
  | otherClass => simp
  | full => simp
  | dialupIdle => simp
  | dialupActive => simpa using hAdd _ _
  | ethernet => simpa using hAdd _ _
  | unknown => simpa using hAdd _ _

/- The loop over the instances walks as the answers say. -/
theorem instanceLoop_walk
    {last : Int}
    {items : List EnumInstance} :
    let w := instanceWalk i last j items s.ifCount
    (instanceLoop i last j items s).value.1.ifCount = w.count ∧
      (instanceLoop i last j items s).value.1.entries.map
          EnumEntry.source =
        s.entries.map EnumEntry.source ++ w.added ∧
      (instanceLoop i last j items s).value.2 = w.res := by
  induction items generalizing j s with
  | nil => simp [instanceLoop, instanceWalk]
  | cons inst rest ih =>
      have hTurn := @instanceTurn_value inst i j s
      have hAfter := @EnumExit.after_spec inst i j s
        (inst.exit s.room)
      have hRest := @ih (j + 1)
        ((inst.exit s.room).after inst i j s)
      rw [hAfter.1, hAfter.2] at hRest
      unfold EnumState.room at hTurn hAfter hRest
      simp only [instanceLoop, instanceWalk,
        Traced.value_bind, Traced.value_rename, hTurn]
      cases hFlow : (inst.exit
          (decide (s.ifCount < lsckIfAddrTableMax))).flow with
      | leave res => exact ⟨hAfter.1, hAfter.2, rfl⟩
      | turn res =>
          by_cases hRes : res = 0
          · simp only [hRes, if_true]
            rw [← List.append_assoc]
            exact hRest
          · simp only [hRes, if_false]
            exact ⟨hAfter.1, hAfter.2, rfl⟩

theorem deviceLoop_walk
    {devices : List EnumDevice} :
    let w := deviceWalk i devices s.ifCount
    (deviceLoop i devices s).value.ifCount = w.count ∧
      (deviceLoop i devices s).value.entries.map
          EnumEntry.source =
        s.entries.map EnumEntry.source ++ w.added := by
  induction devices generalizing i s with
  | nil => simp [deviceLoop, deviceWalk]
  | cons dev rest ih =>
      by_cases hEnum : dev.enumKey = 0
      · by_cases hOpen : dev.openKey = 0
        · have hLoop := @instanceLoop_walk i 0 s
            dev.instances.last dev.instances.items
          have hRest := @ih (i + 1) (instanceLoop i
            dev.instances.last 0 dev.instances.items s).value.1
          rw [hLoop.1, hLoop.2.1] at hRest
          simp only [deviceLoop, deviceWalk, hEnum, hOpen,
            ne_eq, not_true_eq_false, if_false,
            Traced.value_bind, hLoop.2.2]
          split
          · rw [← List.append_assoc]
            exact hRest
          · exact ⟨hLoop.1, hLoop.2.1⟩
        · simp [deviceLoop, deviceWalk, hEnum, hOpen]
      · simp [deviceLoop, deviceWalk, hEnum]

end Libsocket

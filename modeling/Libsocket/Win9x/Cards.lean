import Libsocket.Win9x.Handles

/-
  The network cards that an enumeration finds. In a registry
  whose irregularities are harmless ones, every Ethernet card
  is to get an entry while there is room.

  Main declarations:
    * `EnumInstance.isCard`, `EnumTree.Regular`
    * `EnumTree.Complete`, `EnumTree.Tidy`
    * `complete_iff_tidy`
-/

namespace Libsocket

------------------------------------------------------------
-- Cards
------------------------------------------------------------

/- The instance is of the class `Net`. -/
def EnumInstance.isNet (inst : EnumInstance) : Bool :=
  inst.classAnswer == 0 && inst.cls == bytes "Net"

/- It has a binding to MSTCP. -/
def EnumInstance.isBound (inst : EnumInstance) : Bool :=
  inst.bindings.items.any fun binding =>
    mstcpPrefix.isPrefixOf binding.valname

/- The keys of its driver can be read. -/
def EnumInstance.isReadable (inst : EnumInstance) : Bool :=
  inst.driverAnswer == 0 && inst.classKey == 0 &&
    inst.netKey == 0 && inst.mstcpDriver == 0 &&
    inst.netTransKey == 0 && inst.descAnswer == 0 &&
    inst.ndiKey == 0 && inst.lowerAnswer == 0

/-
  An Ethernet instance of the class `Net`, with a binding to
  MSTCP and keys that can be read.
-/
def EnumInstance.isCard (inst : EnumInstance) : Bool :=
  inst.isNet && inst.isBound && inst.isReadable &&
    inst.lower == ethernetIfLower

/-
  The enumeration of the bindings does not fail, and the key
  of a binding to MSTCP can be opened.
-/
def EnumInstance.BindingsRegular (inst : EnumInstance) :
    Prop :=
  inst.bindingsKey = 0 ∧
    inst.bindings.last = errorNoMoreItems ∧
      ∀ binding ∈ inst.bindings.items, binding.answer = 0 ∧
        (mstcpPrefix.isPrefixOf binding.valname = true →
          binding.network = 0 ∧ binding.mstcp = 0)

/-
  The irregularities that an instance may have: it has no
  class, it is of another class, or it has no binding to
  MSTCP.
-/
structure EnumInstance.Regular (inst : EnumInstance) :
    Prop where
  enumKey : inst.enumKey = 0
  openKey : inst.openKey = 0
  cls : inst.classAnswer = 0 ∨
    inst.classAnswer = errorCantread
  readable : inst.isNet = true → inst.isReadable = true
  bindings : inst.isNet = true → inst.BindingsRegular

/- The enumeration of its instances does not fail. -/
structure EnumDevice.Regular (dev : EnumDevice) : Prop where
  enumKey : dev.enumKey = 0
  openKey : dev.openKey = 0
  last : dev.instances.last = errorNoMoreItems
  instances : ∀ inst ∈ dev.instances.items, inst.Regular

structure EnumTree.Regular (tree : EnumTree) : Prop where
  openKey : tree.openKey = 0
  devices : ∀ dev ∈ tree.devices.items, dev.Regular

/- The cards among the instances of a device. -/
def instanceCards (i : Nat) :
    Nat → List EnumInstance → List (Nat × Nat)
| _, [] => []
| j, inst :: rest =>
    if inst.isCard then
      (i, j) :: instanceCards i (j + 1) rest
    else
      instanceCards i (j + 1) rest

def deviceCards :
    Nat → List EnumDevice → List (Nat × Nat)
| _, [] => []
| i, dev :: rest =>
    instanceCards i 0 dev.instances.items ++
      deviceCards (i + 1) rest

def EnumTree.cards (tree : EnumTree) : List (Nat × Nat) :=
  deviceCards 0 tree.devices.items

------------------------------------------------------------
-- Complete Enumerations
------------------------------------------------------------

/- The order of the enumeration. -/
def EnumBefore (x y : Nat × Nat) : Prop :=
  x.1 < y.1 ∨ x.1 = y.1 ∧ x.2 < y.2

/-
  Every card got an entry, unless the table was full when its
  turn came.
-/
def CardsServed
    (cards added : List (Nat × Nat))
    (count : Nat) : Prop :=
  ∀ c ∈ cards, c ∈ added ∨
    lsckIfAddrTableMax ≤ count ∧ ∀ x ∈ added, EnumBefore x c

/-
  The new entries are in the order of the enumeration, one
  for each turn, and every card got one while there was room.
-/
def EnumTree.Complete (tree : EnumTree) (s : EnumState) :
    Prop :=
  ∃ added,
    (enuminterfaces tree s).value.entries.map
        EnumEntry.source =
      s.entries.map EnumEntry.source ++ added ∧
    (enuminterfaces tree s).value.ifCount =
      s.ifCount + added.length ∧
    added.Pairwise EnumBefore ∧
    CardsServed tree.cards added
      (enuminterfaces tree s).value.ifCount

------------------------------------------------------------
-- Tidy Registries
------------------------------------------------------------

/- The loop over the instances ends at such an instance. -/
def EnumInstance.hides (inst : EnumInstance) : Bool :=
  inst.classAnswer != 0 || inst.isNet && !inst.isBound

/-
  No card follows an instance without a class or without a
  binding, and there is memory for the entry of each card,
  unless the table is full by then. `n` entries are in the
  table.
-/
def tidyInstances : List EnumInstance → Nat → Prop
| [], _ => True
| inst :: rest, n =>
    n < lsckIfAddrTableMax →
      if inst.hides then
        ∀ x ∈ rest, x.isCard = false
      else
        (inst.isCard = true → inst.memory = true) ∧
          tidyInstances rest ((inst.exit true).count inst n)

/- The same for each device. -/
def tidyDevices : Nat → List EnumDevice → Nat → Prop
| _, [], _ => True
| i, dev :: rest, n =>
    tidyInstances dev.instances.items n ∧
      tidyDevices (i + 1) rest
        (instanceWalk i dev.instances.last 0
          dev.instances.items n).count

def EnumTree.Tidy (tree : EnumTree) (s : EnumState) : Prop :=
  tidyDevices 0 tree.devices.items s.ifCount

------------------------------------------------------------
-- Exits Of Regular Instances
------------------------------------------------------------

namespace EnumInstance

variable {inst : EnumInstance}

/- The first binding to MSTCP is found, if there is one. -/
theorem firstBinding_regular
    {items : List EnumBinding}
    (hRegular : ∀ binding ∈ items, binding.answer = 0) :
    (items.any (fun binding =>
        mstcpPrefix.isPrefixOf binding.valname) = true →
      ∃ binding ∈ items,
        mstcpPrefix.isPrefixOf binding.valname = true ∧
          firstBinding errorNoMoreItems items = .ok binding) ∧
    (items.any (fun binding =>
        mstcpPrefix.isPrefixOf binding.valname) = false →
      firstBinding errorNoMoreItems items =
        .error errorNoMoreItems) := by
  induction items with
  | nil =>
      constructor
      · intro hAny
        cases hAny
      · intro _
        rfl
  | cons binding rest ih =>
      have hHere := hRegular binding List.mem_cons_self
      have hRest := ih fun b hB =>
        hRegular b (List.mem_cons_of_mem _ hB)
      rw [firstBinding, if_neg (by simp [hHere]), List.any_cons]
      cases hPrefix :
          mstcpPrefix.isPrefixOf binding.valname with
      | true =>
          constructor
          · intro _
            exact ⟨binding, List.mem_cons_self, hPrefix,
              by simp⟩
          · intro hAny
            simp at hAny
      | false =>
          simp only [Bool.false_or, not_false_eq_true, if_true,
            Bool.false_eq_true]
          constructor
          · intro hAny
            obtain ⟨b, hB, hFound⟩ := hRest.1 hAny
            exact ⟨b, List.mem_cons_of_mem _ hB, hFound⟩
          · exact hRest.2

/- A regular device of the class `Net`, when there is room. -/
theorem exit_net
    (hRegular : inst.Regular)
    (hNet : inst.isNet = true) :
    inst.exit true =
      if inst.isBound then
        inst.interfaceExit
      else
        .unbound errorNoMoreItems := by
  have hReadable := hRegular.readable hNet
  obtain ⟨hKey, hLast, hItems⟩ := hRegular.bindings hNet
  have hFirst := firstBinding_regular
    fun b hB => (hItems b hB).1
  simp only [isReadable, Bool.and_eq_true, beq_iff_eq]
    at hReadable
  simp only [isNet, Bool.and_eq_true, beq_iff_eq] at hNet
  simp only [exit, hRegular.enumKey, hRegular.openKey, hNet,
    netExit, hReadable, hKey, bindingsExit, hLast, ne_eq,
    not_true_eq_false, if_false, Bool.true_eq_false]
  cases hBound : inst.isBound with
  | true =>
      obtain ⟨b, hB, hPrefix, hFound⟩ := hFirst.1 hBound
      have hOpen := (hItems b hB).2 hPrefix
      simp [hFound, hOpen, netTransExit, driverExit, hReadable]
  | false =>
      rw [hFirst.2 hBound]
      simp

/- What a device of a known type is. -/
theorem interfaceExit_flow :
    inst.interfaceExit.flow = .turn 0 ∧
      (inst.lower = ethernetIfLower →
        inst.interfaceExit.adds = true) := by
  have hOther : ethernetIfLower ≠ dialupIfLower := by decide
  unfold interfaceExit
  split
  next hDialup =>
      have hNot : inst.lower ≠ ethernetIfLower := by
        rw [hDialup.2]
        exact hOther.symm
      split
      · exact ⟨rfl, fun h => absurd h hNot⟩
      · exact ⟨rfl, fun h => absurd h hNot⟩
  next =>
      split
      · exact ⟨rfl, fun _ => rfl⟩
      · exact ⟨rfl, fun _ => rfl⟩

/- The loop ends at an instance that hides the others. -/
theorem exit_hides
    (hRegular : inst.Regular)
    (hHides : inst.hides = true) :
    inst.isCard = false ∧ (inst.exit true).adds = false ∧
      ((inst.exit true).flow = .leave 0 ∨
        (inst.exit true).flow = .turn errorNoMoreItems) := by
  by_cases hClass : inst.classAnswer = 0
  · have hNet : inst.isNet = true ∧ inst.isBound = false := by
      simpa [hides, hClass] using hHides
    rw [exit_net hRegular hNet.1, if_neg (by simp [hNet.2])]
    refine ⟨?_, rfl, .inr rfl⟩
    simp [isCard, hNet.2]
  · have hCode := hRegular.cls.resolve_left hClass
    have hExit : inst.exit true =
        .failed .cls errorCantread := by
      simp [exit, hRegular.enumKey, hRegular.openKey, hCode,
        errorCantread]
    rw [hExit]
    refine ⟨?_, rfl, .inl rfl⟩
    simp [isCard, isNet, hClass]

/- It goes on behind any other, and a card is added. -/
theorem exit_goes_on
    (hRegular : inst.Regular)
    (hNot : inst.hides = false) :
    (inst.exit true).flow = .turn 0 ∧
      (inst.isCard = true →
        (inst.exit true).adds = true) := by
  have hClass : inst.classAnswer = 0 := by
    by_contra hSome
    simp [hides, hSome] at hNot
  cases hNet : inst.isNet with
  | true =>
      have hBound : inst.isBound = true := by
        simpa [hides, hClass, hNet] using hNot
      rw [exit_net hRegular hNet, if_pos hBound]
      refine ⟨interfaceExit_flow.1, fun hCard => ?_⟩
      apply interfaceExit_flow.2
      simp only [isCard, Bool.and_eq_true, beq_iff_eq] at hCard
      exact hCard.2
  | false =>
      have hOther : inst.cls ≠ bytes "Net" := by
        intro hSame
        simp [isNet, hClass, hSame] at hNet
      have hExit : inst.exit true = .otherClass := by
        simp [exit, hRegular.enumKey, hRegular.openKey, hClass,
          hOther]
      rw [hExit]
      refine ⟨rfl, fun hCard => ?_⟩
      simp [isCard, hNet] at hCard

/- Without room nothing is added. -/
theorem exit_full
    (hRegular : inst.Regular) :
    (inst.exit false).adds = false ∧
      ((inst.exit false).flow = .leave 0 ∨
        (inst.exit false).flow = .turn 0) := by
  by_cases hClass : inst.classAnswer = 0
  · by_cases hNet : inst.cls = bytes "Net"
    · have hExit : inst.exit false = .full := by
        simp [exit, hRegular.enumKey, hRegular.openKey, hClass,
          hNet]
      rw [hExit]
      exact ⟨rfl, .inl rfl⟩
    · have hExit : inst.exit false = .otherClass := by
        simp [exit, hRegular.enumKey, hRegular.openKey, hClass,
          hNet]
      rw [hExit]
      exact ⟨rfl, .inr rfl⟩
  · have hCode := hRegular.cls.resolve_left hClass
    have hExit : inst.exit false =
        .failed .cls errorCantread := by
      simp [exit, hRegular.enumKey, hRegular.openKey, hCode,
        errorCantread]
    rw [hExit]
    exact ⟨rfl, .inl rfl⟩

end EnumInstance

------------------------------------------------------------
-- Walks Through Regular Instances
------------------------------------------------------------

section Instances

variable {inst : EnumInstance} {rest items : List EnumInstance}
variable {i j n : Nat} {c x : Nat × Nat}

theorem mem_instanceCards
    (hMem : c ∈ instanceCards i j items) :
    c.1 = i ∧ j ≤ c.2 := by
  induction items generalizing j with
  | nil => cases hMem
  | cons inst rest ih =>
      unfold instanceCards at hMem
      split at hMem
      · rcases List.mem_cons.mp hMem with rfl | hRest
        · exact ⟨rfl, Nat.le_refl j⟩
        · have hLater := ih hRest
          exact ⟨hLater.1, by omega⟩
      · have hLater := ih hMem
        exact ⟨hLater.1, by omega⟩

/- Without a card there is nothing to be served. -/
theorem instanceCards_eq_nil_iff :
    instanceCards i j items = [] ↔
      ∀ x ∈ items, x.isCard = false := by
  induction items generalizing j with
  | nil => simp [instanceCards]
  | cons inst rest ih =>
      unfold instanceCards
      cases hCard : inst.isCard with
      | true => simp [hCard]
      | false => simp [hCard, ih]

/- The walk ends at an instance that hides the others. -/
theorem walk_hides
    (hRegular : inst.Regular)
    (hRoom : n < lsckIfAddrTableMax)
    (hHides : inst.hides = true) :
    ∃ exits res, (res = 0 ∨ res = errorNoMoreItems) ∧
      instanceWalk i errorNoMoreItems j (inst :: rest) n =
        ⟨exits, [], n, res⟩ := by
  obtain ⟨-, hAdds, hFlow⟩ :=
    EnumInstance.exit_hides hRegular hHides
  unfold instanceWalk
  rw [decide_eq_true hRoom]
  rcases hFlow with hFlow | hFlow
  · refine ⟨[inst.exit true], 0, .inl rfl, ?_⟩
    simp [hFlow, hAdds, EnumExit.added, EnumExit.count]
  · refine ⟨[inst.exit true], errorNoMoreItems, .inr rfl, ?_⟩
    simp [hFlow, hAdds, EnumExit.added, EnumExit.count,
      errorNoMoreItems]

/- It goes on behind any other. -/
theorem walk_goes_on
    (hRegular : inst.Regular)
    (hRoom : n < lsckIfAddrTableMax)
    (hNot : inst.hides = false) :
    let w := instanceWalk i errorNoMoreItems (j + 1) rest
      ((inst.exit true).count inst n)
    instanceWalk i errorNoMoreItems j (inst :: rest) n =
      ⟨inst.exit true :: w.exits,
        (inst.exit true).added inst i j ++ w.added,
        w.count, w.res⟩ := by
  have hFlow := (EnumInstance.exit_goes_on hRegular hNot).1
  simp [instanceWalk, hRoom, hFlow]

/- Nothing is added to a full table. -/
theorem walk_full
    (hRegular : ∀ inst ∈ items, inst.Regular)
    (hFull : ¬ n < lsckIfAddrTableMax) :
    ∃ exits res, (res = 0 ∨ res = errorNoMoreItems) ∧
      instanceWalk i errorNoMoreItems j items n =
        ⟨exits, [], n, res⟩ := by
  induction items generalizing j with
  | nil => exact ⟨[], _, .inr rfl, rfl⟩
  | cons inst rest ih =>
      obtain ⟨hAdds, hFlow⟩ := EnumInstance.exit_full
        (hRegular inst List.mem_cons_self)
      obtain ⟨exits, res, hRes, hRest⟩ := @ih (j + 1)
        fun x hX => hRegular x (List.mem_cons_of_mem _ hX)
      unfold instanceWalk
      rw [decide_eq_false hFull]
      rcases hFlow with hFlow | hFlow
      · refine ⟨[inst.exit false], 0, .inl rfl, ?_⟩
        simp [hFlow, hAdds, EnumExit.added, EnumExit.count]
      · refine ⟨inst.exit false :: exits, res, hRes, ?_⟩
        simp [hFlow, hAdds, EnumExit.added, EnumExit.count,
          hRest]

/- What is counted is what is added. -/
theorem added_spec (e : EnumExit) :
    e.count inst n = n + (e.added inst i j).length ∧
      ∀ x ∈ e.added inst i j, x = (i, j) := by
  unfold EnumExit.count EnumExit.added
  split
  · exact ⟨rfl, fun x hX => List.mem_singleton.mp hX⟩
  · exact ⟨rfl, fun x hX => nomatch hX⟩

/- The shape of a walk through the instances of a device. -/
theorem walk_spec
    (hRegular : ∀ inst ∈ items, inst.Regular) :
    let w := instanceWalk i errorNoMoreItems j items n
    (w.res = 0 ∨ w.res = errorNoMoreItems) ∧
      w.count = n + w.added.length ∧
      w.added.Pairwise EnumBefore ∧
      ∀ x ∈ w.added, x.1 = i ∧ j ≤ x.2 := by
  induction items generalizing j n with
  | nil => simp [instanceWalk]
  | cons inst rest ih =>
      have hHere := hRegular inst List.mem_cons_self
      have hLater : ∀ x ∈ rest, x.Regular :=
        fun x hX => hRegular x (List.mem_cons_of_mem _ hX)
      by_cases hRoom : n < lsckIfAddrTableMax
      · cases hHides : inst.hides with
        | true =>
            obtain ⟨exits, res, hRes, hWalk⟩ :=
              @walk_hides inst rest i j n hHere hRoom hHides
            simp [hWalk, hRes]
        | false =>
            have hWalk := @walk_goes_on inst rest i j n
              hHere hRoom hHides
            obtain ⟨hCount, hSource⟩ := @added_spec inst i j n
              (inst.exit true)
            obtain ⟨hRes, hTotal, hOrder, hTurns⟩ := @ih (j + 1)
              ((inst.exit true).count inst n) hLater
            dsimp only at hWalk ⊢
            rw [hWalk]
            refine ⟨hRes, ?_, ?_, ?_⟩
            · rw [List.length_append]
              dsimp only
              omega
            · rw [List.pairwise_append]
              refine ⟨?_, hOrder, ?_⟩
              · unfold EnumExit.added
                split
                · exact List.pairwise_singleton _ _
                · exact List.Pairwise.nil
              · intro x hX y hY
                rw [hSource x hX]
                have hY' := hTurns y hY
                exact .inr ⟨hY'.1.symm, hY'.2⟩
            · intro x hX
              rcases List.mem_append.mp hX with hX | hX
              · rw [hSource x hX]
                exact ⟨rfl, Nat.le_refl j⟩
              · have hX' := hTurns x hX
                exact ⟨hX'.1, by omega⟩
      · obtain ⟨exits, res, hRes, hWalk⟩ :=
          @walk_full (inst :: rest) i j n hRegular hRoom
        simp [hWalk, hRes]

/- A tidy device serves its cards. -/
theorem walk_served
    (hRegular : ∀ inst ∈ items, inst.Regular)
    (hTidy : tidyInstances items n) :
    let w := instanceWalk i errorNoMoreItems j items n
    CardsServed (instanceCards i j items) w.added w.count := by
  induction items generalizing j n with
  | nil =>
      intro w c hC
      cases hC
  | cons inst rest ih =>
      have hHere := hRegular inst List.mem_cons_self
      have hLater : ∀ x ∈ rest, x.Regular :=
        fun x hX => hRegular x (List.mem_cons_of_mem _ hX)
      by_cases hRoom : n < lsckIfAddrTableMax
      · have hRest := hTidy hRoom
        cases hHides : inst.hides with
        | true =>
            rw [if_pos hHides] at hRest
            have hCard :=
              (EnumInstance.exit_hides hHere hHides).1
            have hNone : instanceCards i j (inst :: rest) =
                [] := by
              rw [instanceCards_eq_nil_iff]
              intro x hX
              rcases List.mem_cons.mp hX with rfl | hX
              · exact hCard
              · exact hRest x hX
            intro w c hC
            rw [hNone] at hC
            cases hC
        | false =>
            rw [if_neg (by simp [hHides])] at hRest
            have hWalk := @walk_goes_on inst rest i j n
              hHere hRoom hHides
            have hServed := @ih (j + 1) _ hLater hRest.2
            have hSource := (@added_spec inst i j n
              (inst.exit true)).2
            dsimp only at hWalk hServed ⊢
            rw [hWalk]
            intro c hC
            have hCase : c ∈ instanceCards i (j + 1) rest ∨
                inst.isCard = true ∧ c = (i, j) := by
              unfold instanceCards at hC
              split at hC
              next hCard =>
                  rcases List.mem_cons.mp hC with hC | hC
                  · exact .inr ⟨hCard, hC⟩
                  · exact .inl hC
              next => exact .inl hC
            rcases hCase with hC | ⟨hCard, rfl⟩
            · rcases hServed c hC with hIn | ⟨hFull, hBefore⟩
              · exact .inl (List.mem_append_right _ hIn)
              · refine .inr ⟨hFull, fun x hX => ?_⟩
                rcases List.mem_append.mp hX with hX | hX
                · rw [hSource x hX]
                  have hC' := mem_instanceCards hC
                  exact .inr ⟨hC'.1.symm, hC'.2⟩
                · exact hBefore x hX
            · have hAdds :=
                (EnumInstance.exit_goes_on hHere hHides).2 hCard
              left
              apply List.mem_append_left
              rw [EnumExit.added, hAdds, hRest.1 hCard]
              exact List.mem_singleton.mpr rfl
      · obtain ⟨exits, res, hRes, hWalk⟩ :=
          @walk_full (inst :: rest) i j n hRegular hRoom
        intro w c hC
        right
        change lsckIfAddrTableMax ≤ (instanceWalk _ _ _ _ _).count
          ∧ ∀ x ∈ (instanceWalk _ _ _ _ _).added, EnumBefore x c
        rw [hWalk]
        exact ⟨Nat.le_of_not_lt hRoom, fun x hX => nomatch hX⟩

/-
  Any other leaves a card out, with room in the table or with
  an entry for a later instance.
-/
theorem walk_not_served
    (hRegular : ∀ inst ∈ items, inst.Regular)
    (hNot : ¬ tidyInstances items n) :
    let w := instanceWalk i errorNoMoreItems j items n
    ∃ c ∈ instanceCards i j items, c ∉ w.added ∧
      (w.count < lsckIfAddrTableMax ∨
        ∃ x ∈ w.added, ¬ EnumBefore x c) := by
  induction items generalizing j n with
  | nil => exact absurd trivial hNot
  | cons inst rest ih =>
      have hHere := hRegular inst List.mem_cons_self
      have hLater : ∀ x ∈ rest, x.Regular :=
        fun x hX => hRegular x (List.mem_cons_of_mem _ hX)
      have hMore : ∀ c ∈ instanceCards i (j + 1) rest,
          c ∈ instanceCards i j (inst :: rest) := by
        intro c hC
        unfold instanceCards
        split
        · exact List.mem_cons_of_mem _ hC
        · exact hC
      unfold tidyInstances at hNot
      have hRoom : n < lsckIfAddrTableMax := by
        by_contra hFull
        exact hNot fun h => absurd h hFull
      simp only [hRoom, forall_const] at hNot
      cases hHides : inst.hides with
      | true =>
          obtain ⟨exits, res, hRes, hWalk⟩ :=
            @walk_hides inst rest i j n hHere hRoom hHides
          rw [if_pos hHides,
            ← @instanceCards_eq_nil_iff rest i (j + 1)] at hNot
          obtain ⟨c, hC⟩ := List.exists_mem_of_ne_nil _ hNot
          dsimp only
          rw [hWalk]
          refine ⟨c, hMore c hC, ?_, Or.inl hRoom⟩
          exact List.not_mem_nil
      | false =>
          have hWalk := @walk_goes_on inst rest i j n
            hHere hRoom hHides
          have hSource := (@added_spec inst i j n
            (inst.exit true)).2
          rw [if_neg (by simp [hHides])] at hNot
          by_cases hMemory : inst.isCard = true →
              inst.memory = true
          · have hRest : ¬ tidyInstances rest
                ((inst.exit true).count inst n) :=
              fun h => hNot ⟨hMemory, h⟩
            obtain ⟨c, hC, hOut, hCase⟩ := @ih (j + 1) _
              hLater hRest
            dsimp only at hWalk hOut hCase ⊢
            rw [hWalk]
            refine ⟨c, hMore c hC, fun hX => ?_, ?_⟩
            · rcases List.mem_append.mp hX with hX | hX
              · have hC' := mem_instanceCards hC
                rw [hSource c hX] at hC'
                omega
              · exact hOut hX
            · rcases hCase with hShort | ⟨x, hX, hBehind⟩
              · exact .inl hShort
              · exact .inr
                  ⟨x, List.mem_append_right _ hX, hBehind⟩
          · have hCard : inst.isCard = true := by
              by_contra hNone
              exact hMemory fun h => absurd h hNone
            have hNone : inst.memory = false := by
              by_contra hSome
              exact hMemory fun _ => by simpa using hSome
            have hAdded :
                (inst.exit true).added inst i j = [] := by
              simp [EnumExit.added, hNone]
            have hCount :
                (inst.exit true).count inst n = n := by
              simp [EnumExit.count, hNone]
            obtain ⟨-, hTotal, -, hTurns⟩ :=
              @walk_spec rest i (j + 1) n hLater
            dsimp only at hWalk ⊢
            rw [hWalk, hAdded, hCount, List.nil_append]
            refine ⟨(i, j), ?_, fun hX => ?_, ?_⟩
            · rw [instanceCards, if_pos hCard]
              exact List.mem_cons_self
            · have hLate := (hTurns _ hX).2
              dsimp only at hLate
              omega
            · by_cases hEmpty : (instanceWalk i
                  errorNoMoreItems (j + 1) rest n).added = []
              · left
                rw [hEmpty, List.length_nil] at hTotal
                dsimp only
                omega
              · obtain ⟨x, hX⟩ :=
                  List.exists_mem_of_ne_nil _ hEmpty
                refine .inr ⟨x, hX, fun hBefore => ?_⟩
                have hLate := hTurns x hX
                rcases hBefore with hLess | ⟨-, hLess⟩
                · dsimp only at hLess
                  omega
                · dsimp only at hLess
                  omega

end Instances

------------------------------------------------------------
-- Walks Through Regular Devices
------------------------------------------------------------

section Devices

variable {dev : EnumDevice} {rest devices : List EnumDevice}
variable {i n : Nat} {c : Nat × Nat}

theorem mem_deviceCards
    (hMem : c ∈ deviceCards i devices) :
    i ≤ c.1 := by
  induction devices generalizing i with
  | nil => cases hMem
  | cons dev rest ih =>
      unfold deviceCards at hMem
      rcases List.mem_append.mp hMem with hHere | hLater
      · exact Nat.le_of_eq (mem_instanceCards hHere).1.symm
      · have hNext := ih hLater
        omega

/- The walk goes on behind a regular device. -/
theorem deviceWalk_cons
    (hRegular : dev.Regular) :
    let w := instanceWalk i errorNoMoreItems 0
      dev.instances.items n
    let w' := deviceWalk (i + 1) rest w.count
    (deviceWalk i (dev :: rest) n).added = w.added ++ w'.added ∧
      (deviceWalk i (dev :: rest) n).count = w'.count := by
  have hRes := (@walk_spec dev.instances.items i 0 n
    hRegular.instances).1
  rw [← hRegular.last] at hRes
  have hOn : (instanceWalk i dev.instances.last 0
      dev.instances.items n).res = errorNoMoreItems ∨
        (instanceWalk i dev.instances.last 0
          dev.instances.items n).res = 0 := by
    rcases hRes with hRes | hRes
    · exact .inr hRes
    · exact .inl (hRes.trans hRegular.last)
  rw [← hRegular.last]
  simp [deviceWalk, hRegular.enumKey, hRegular.openKey, hOn]

/- The shape of a walk through all devices. -/
theorem deviceWalk_spec
    (hRegular : ∀ dev ∈ devices, dev.Regular) :
    (deviceWalk i devices n).count =
        n + (deviceWalk i devices n).added.length ∧
      (deviceWalk i devices n).added.Pairwise EnumBefore ∧
      ∀ x ∈ (deviceWalk i devices n).added, i ≤ x.1 := by
  induction devices generalizing i n with
  | nil => simp [deviceWalk]
  | cons dev rest ih =>
      have hHere := hRegular dev List.mem_cons_self
      obtain ⟨-, hCount, hOrder, hTurns⟩ :=
        @walk_spec dev.instances.items i 0 n hHere.instances
      obtain ⟨hCount', hOrder', hTurns'⟩ := @ih (i + 1)
        (instanceWalk i errorNoMoreItems 0
          dev.instances.items n).count
        fun x hX => hRegular x (List.mem_cons_of_mem _ hX)
      obtain ⟨hAdded, hTotal⟩ :=
        @deviceWalk_cons dev rest i n hHere
      rw [hAdded, hTotal]
      refine ⟨?_, ?_, ?_⟩
      · rw [List.length_append]
        omega
      · rw [List.pairwise_append]
        refine ⟨hOrder, hOrder', fun x hX y hY => ?_⟩
        have hX' := hTurns x hX
        have hY' := hTurns' y hY
        exact .inl (by omega)
      · intro x hX
        rcases List.mem_append.mp hX with hX | hX
        · exact Nat.le_of_eq (hTurns x hX).1.symm
        · have hX' := hTurns' x hX
          omega

/- Nothing is added to a full table. -/
theorem deviceWalk_full
    (hRegular : ∀ dev ∈ devices, dev.Regular)
    (hFull : lsckIfAddrTableMax ≤ n) :
    (deviceWalk i devices n).added = [] ∧
      (deviceWalk i devices n).count = n := by
  induction devices generalizing i with
  | nil => exact ⟨rfl, rfl⟩
  | cons dev rest ih =>
      have hHere := hRegular dev List.mem_cons_self
      obtain ⟨exits, res, -, hWalk⟩ :=
        @walk_full dev.instances.items i 0 n hHere.instances
          (by omega)
      obtain ⟨hAdded, hTotal⟩ :=
        @deviceWalk_cons dev rest i n hHere
      have hRest := @ih (i + 1)
        fun x hX => hRegular x (List.mem_cons_of_mem _ hX)
      rw [hWalk] at hAdded hTotal
      rw [hAdded, hTotal]
      exact hRest

theorem deviceWalk_served
    (hRegular : ∀ dev ∈ devices, dev.Regular)
    (hTidy : tidyDevices i devices n) :
    CardsServed (deviceCards i devices)
      (deviceWalk i devices n).added
      (deviceWalk i devices n).count := by
  induction devices generalizing i n with
  | nil =>
      intro c hC
      cases hC
  | cons dev rest ih =>
      have hHere := hRegular dev List.mem_cons_self
      have hLater : ∀ x ∈ rest, x.Regular :=
        fun x hX => hRegular x (List.mem_cons_of_mem _ hX)
      obtain ⟨hFirst, hThen⟩ := hTidy
      rw [hHere.last] at hThen
      have hServed := @walk_served dev.instances.items i 0 n
        hHere.instances hFirst
      have hServed' := ih hLater hThen
      obtain ⟨-, -, -, hTurns⟩ :=
        @walk_spec dev.instances.items i 0 n hHere.instances
      obtain ⟨hAdded, hTotal⟩ :=
        @deviceWalk_cons dev rest i n hHere
      rw [hAdded, hTotal]
      intro c hC
      rcases List.mem_append.mp hC with hC | hC
      · rcases hServed c hC with hIn | ⟨hFull, hBefore⟩
        · exact .inl (List.mem_append_left _ hIn)
        · obtain ⟨hNone, hSame⟩ :=
            @deviceWalk_full rest (i + 1) _ hLater hFull
          right
          rw [hNone, hSame, List.append_nil]
          exact ⟨hFull, hBefore⟩
      · rcases hServed' c hC with hIn | ⟨hFull, hBefore⟩
        · exact .inl (List.mem_append_right _ hIn)
        · refine .inr ⟨hFull, fun x hX => ?_⟩
          rcases List.mem_append.mp hX with hX | hX
          · have hX' := hTurns x hX
            have hC' := mem_deviceCards hC
            exact .inl (by omega)
          · exact hBefore x hX

theorem deviceWalk_not_served
    (hRegular : ∀ dev ∈ devices, dev.Regular)
    (hServed : CardsServed (deviceCards i devices)
      (deviceWalk i devices n).added
      (deviceWalk i devices n).count) :
    tidyDevices i devices n := by
  induction devices generalizing i n with
  | nil => trivial
  | cons dev rest ih =>
      have hHere := hRegular dev List.mem_cons_self
      have hLater : ∀ x ∈ rest, x.Regular :=
        fun x hX => hRegular x (List.mem_cons_of_mem _ hX)
      obtain ⟨-, -, -, hTurns⟩ :=
        @walk_spec dev.instances.items i 0 n hHere.instances
      obtain ⟨hAdded, hTotal⟩ :=
        @deviceWalk_cons dev rest i n hHere
      obtain ⟨hCount', -, hTurns'⟩ :=
        @deviceWalk_spec rest (i + 1)
          (instanceWalk i errorNoMoreItems 0
            dev.instances.items n).count hLater
      rw [hAdded, hTotal] at hServed
      constructor
      · by_contra hNot
        obtain ⟨c, hC, hOut, hCase⟩ :=
          @walk_not_served dev.instances.items i 0 n
            hHere.instances hNot
        have hC' := mem_instanceCards hC
        rcases hServed c (List.mem_append_left _ hC) with
          hIn | ⟨hFull, hBefore⟩
        · rcases List.mem_append.mp hIn with hIn | hIn
          · exact hOut hIn
          · have hLate := hTurns' c hIn
            omega
        · rcases hCase with hShort | ⟨x, hX, hBehind⟩
          case inr =>
            exact hBehind
              (hBefore x (List.mem_append_left _ hX))
          -- an entry of a later device is behind the card
          have hSome : (deviceWalk (i + 1) rest (instanceWalk i
              errorNoMoreItems 0 dev.instances.items
                n).count).added ≠ [] := by
            intro hNone
            rw [hNone, List.length_nil] at hCount'
            omega
          obtain ⟨x, hX⟩ := List.exists_mem_of_ne_nil _ hSome
          have hLate := hTurns' x hX
          rcases hBefore x (List.mem_append_right _ hX) with
            hLess | ⟨hSame, -⟩
          · omega
          · omega
      · rw [hHere.last]
        apply ih hLater
        intro c hC
        have hC' := mem_deviceCards hC
        rcases hServed c (List.mem_append_right _ hC) with
          hIn | ⟨hFull, hBefore⟩
        · rcases List.mem_append.mp hIn with hIn | hIn
          · have hEarly := hTurns c hIn
            omega
          · exact .inl hIn
        · exact .inr ⟨hFull, fun x hX =>
            hBefore x (List.mem_append_right _ hX)⟩

end Devices

------------------------------------------------------------
-- The Whole Enumeration
------------------------------------------------------------

/-
  In a regular registry every Ethernet card gets its entry,
  in the order of the enumeration and until the table is
  full, exactly if the registry is tidy.
-/
theorem complete_iff_tidy
    {tree : EnumTree}
    (hRegular : tree.Regular)
    (s : EnumState) :
    tree.Complete s ↔ tree.Tidy s := by
  have hValue : (enuminterfaces tree s).value =
      (deviceLoop 0 tree.devices.items s).value := by
    simp [enuminterfaces, hRegular.openKey]
  obtain ⟨hCount, hEntries⟩ :=
    @deviceLoop_walk 0 s tree.devices.items
  obtain ⟨hLength, hOrder, -⟩ :=
    @deviceWalk_spec tree.devices.items 0 s.ifCount
      hRegular.devices
  unfold EnumTree.Complete EnumTree.Tidy EnumTree.cards
  rw [hValue, hCount, hEntries]
  constructor
  · rintro ⟨added, hSame, -, -, hServed⟩
    rw [← List.append_cancel_left hSame] at hServed
    exact deviceWalk_not_served hRegular.devices hServed
  · intro hTidy
    exact ⟨_, rfl, hLength, hOrder,
      deviceWalk_served hRegular.devices hTidy⟩

/- An Ethernet card, and an instance without a class. -/
def etherInstance : EnumInstance :=
  { unboundInstance with
    bindings := .full [⟨0, bytes "MSTCP\\0000", 0, 0⟩] }

def classlessInstance : EnumInstance :=
  { unboundInstance with classAnswer := errorCantread }

theorem regular_ether : etherInstance.Regular where
  enumKey := rfl
  openKey := rfl
  cls := .inl rfl
  readable := fun _ => rfl
  bindings := by
    intro _
    refine ⟨rfl, rfl, fun binding hB => ?_⟩
    cases List.mem_singleton.mp hB
    exact ⟨rfl, fun _ => ⟨rfl, rfl⟩⟩

theorem regular_classless : classlessInstance.Regular where
  enumKey := rfl
  openKey := rfl
  cls := .inr rfl
  readable := fun hNet => nomatch hNet
  bindings := fun hNet => nomatch hNet

theorem regular_ofInstances
    {items : List EnumInstance}
    (hItems : ∀ inst ∈ items, inst.Regular) :
    (EnumTree.ofInstances items).Regular where
  openKey := rfl
  devices := by
    intro dev hDev
    cases List.mem_singleton.mp hDev
    exact ⟨rfl, rfl, rfl, hItems⟩

/- A card in front of the instance is found. -/
theorem ether_first_complete :
    (EnumTree.ofInstances [etherInstance, classlessInstance])
      |>.Complete .start := by
  have hRegular : ∀ inst ∈ [etherInstance, classlessInstance],
      inst.Regular := by
    intro inst hInst
    rcases List.mem_cons.mp hInst with rfl | hInst
    · exact regular_ether
    · cases List.mem_singleton.mp hInst
      exact regular_classless
  apply (complete_iff_tidy (regular_ofInstances hRegular) _).mpr
  constructor
  · intro _
    rw [if_neg (by decide)]
    refine ⟨fun _ => rfl, fun _ => ?_⟩
    rw [if_pos (by decide)]
    exact fun x hX => nomatch hX
  · trivial

/- A card behind it is not. -/
theorem ether_behind_missed :
    (EnumTree.ofInstances
        [classlessInstance, etherInstance]).Regular ∧
      ¬ (EnumTree.ofInstances
        [classlessInstance, etherInstance]).Complete
          .start := by
  constructor
  · apply regular_ofInstances
    intro inst hInst
    rcases List.mem_cons.mp hInst with rfl | hInst
    · exact regular_classless
    · cases List.mem_singleton.mp hInst
      exact regular_ether
  · rintro ⟨added, hAdded, -, -, hServed⟩
    have hNone : added = [] := hAdded.symm
    subst hNone
    rcases hServed (0, 1) (by decide +kernel) with
      hIn | ⟨hFull, -⟩
    · cases hIn
    · exact absurd hFull (by decide +kernel)

end Libsocket

import UbseSsu.Controller.MountOutcomes

/-!
# The mount-state invariant

Allocation rows and logical-device rows are two tables that five operations
update jointly.  `MountState` says how they agree; it is proved once for each
table update and then holds after every chain of events, so in every state of
every run.
-/

namespace UbseSsu.Controller

variable {PluginState : Type} {plugin : SsuPluginOps PluginState}

/-- Some active logical-device row names the allocation. -/
def IsMounted (state : ControllerState) (allocateId : CBuf 64) : Prop :=
  ∃ logdev ∈ state.logdevs.rows, logdev.allocateId = allocateId

instance decidableIsMounted (state : ControllerState)
    (allocateId : CBuf 64) : Decidable (IsMounted state allocateId) :=
  inferInstanceAs (Decidable (∃ logdev ∈ state.logdevs.rows, _))

structure MountState (state : ControllerState) : Prop where
  named : LogdevsNamed state
  deviceOfOne : ∀ left ∈ state.logdevs.rows, ∀ right ∈ state.logdevs.rows,
    left.logicalDev = right.logicalDev → left.allocateId = right.allocateId
  exclusive : ∀ row ∈ state.allocations.rows, row.info.shareType ≠ .shared →
    ∀ left ∈ state.logdevs.rows, ∀ right ∈ state.logdevs.rows,
      left.allocateId = row.info.allocateId →
        right.allocateId = row.info.allocateId →
          left.logicalDev = right.logicalDev
  mountedState : ∀ row ∈ state.allocations.rows,
    IsMounted state row.info.allocateId → row.info.state = mountedState
  activeState : ∀ row ∈ state.allocations.rows,
    ¬IsMounted state row.info.allocateId → row.info.state = activeState
  nameOfOne : ∀ left ∈ state.allocations.rows,
    ∀ right ∈ state.allocations.rows, left.info.diskName.chars ≠ [] →
      left.info.diskName = right.info.diskName →
        left.info.allocateId = right.info.allocateId
  sharing : ∀ left ∈ state.allocations.rows,
    ∀ right ∈ state.allocations.rows,
      left.info.allocateId = right.info.allocateId →
        left.info.shareType = right.info.shareType

theorem allocationHasLogdev_iff {state : ControllerState}
    {allocateId : CBuf 64} :
    allocationHasLogdev state allocateId.chars = true ↔
      IsMounted state allocateId := by
  simp [allocationHasLogdev, IsMounted, logdevHasId, BoundedString.chars_inj]

theorem rowHasId_iff {allocateId : CBuf 64} {row : ControllerAllocation} :
    rowHasId allocateId.chars row = true ↔
      row.info.allocateId = allocateId := by
  simp [rowHasId, BoundedString.chars_inj]

theorem mountState_initial : MountState .initial := by
  constructor <;> simp [LogdevsNamed, ControllerState.initial]

section TableUpdates

variable {state : ControllerState}

/-- Rows of an unmounted allocation may go. -/
theorem MountState.dropExtent (holds : MountState state) {slot : Nat}
    {row : ControllerAllocation}
    (active : state.allocations.get slot = some row)
    (unmounted : ∀ logdev ∈ state.logdevs.rows,
      logdev.allocateId ≠ row.info.allocateId) :
    MountState (dropExtent state slot row) := by
  have parts : ∀ other, other ∈ state.allocations.rows ↔
      other ∈ row :: (state.allocations.clear slot).rows :=
    fun _ => (SlotTable.rows_perm_clear active).mem_iff
  have kept : ∀ other ∈ (Controller.dropExtent state slot row).allocations.rows,
      other ∈ state.allocations.rows := by
    intro other member
    rw [dropExtent_allocations] at member
    exact (parts other).mpr (List.mem_cons_of_mem _ member)
  have mounted : ∀ allocateId,
      IsMounted (Controller.dropExtent state slot row) allocateId ↔
        IsMounted state allocateId := by
    intro allocateId
    simp [IsMounted]
  constructor
  · intro logdev member
    rw [dropExtent_logdevs] at member
    obtain ⟨owner, ownerMember, same⟩ := holds.named logdev member
    rw [dropExtent_allocations]
    rcases List.mem_cons.mp ((parts owner).mp ownerMember) with rfl | stays
    · exact (unmounted logdev member same.symm).elim
    · exact ⟨owner, stays, same⟩
  · simpa using holds.deviceOfOne
  · intro other member
    simpa using holds.exclusive other (kept other member)
  · intro other member
    rw [mounted]
    exact holds.mountedState other (kept other member)
  · intro other member
    rw [mounted]
    exact holds.activeState other (kept other member)
  · exact fun left leftMember right rightMember =>
      holds.nameOfOne left (kept left leftMember) right (kept right rightMember)
  · exact fun left leftMember right rightMember =>
      holds.sharing left (kept left leftMember) right (kept right rightMember)

theorem copyCstr_validName {diskName : CString}
    (valid : diskName = [] ∨ allocationNameIsValid diskName = true) :
    (copyCstr 64 diskName).chars = diskName := by
  rcases valid with rfl | accepted
  · simp
  · simp only [allocationNameIsValid, Bool.and_eq_true, decide_eq_true_eq]
      at accepted
    have short := accepted.1.2
    have limit : maxDiskNameLen ≤ 63 := by decide
    exact copyCstr_chars_of_fits (by omega)

/-- A new row carries an id and a name that only its own allocation has. -/
theorem MountState.addExtent (holds : MountState state) {ctx : AllocContext}
    {slot poolIndex index : Nat} {offset : UInt64}
    {resource : SsuResourceInfo}
    (placed : ExtentPlaced ctx state slot poolIndex index offset resource)
    (answer : CreateNsAnswer) :
    MountState (addExtent state slot poolIndex
      (ctx.row (ctx.extentReq resource index offset) answer)) := by
  obtain ⟨bound, free⟩ := SlotTable.get_firstFree placed.free
  have ready := placed.ready
  have written := writtenBy_row ctx (ctx.extentReq resource index offset) answer
  generalize ctx.row (ctx.extentReq resource index offset) answer = row
    at written
  have rows : ∀ other,
      other ∈ (state.allocations.put slot row).rows ↔
        other = row ∨ other ∈ state.allocations.rows :=
    fun other => (SlotTable.rows_put_perm bound free).mem_iff.trans
      List.mem_cons
  have absent : ¬IsMounted state ctx.allocateId := fun ⟨logdev, member, same⟩ =>
    ready.unmounted logdev member same
  constructor
  · intro logdev member
    obtain ⟨owner, ownerMember, same⟩ := holds.named logdev member
    exact ⟨owner, (rows owner).mpr (.inr ownerMember), same⟩
  · exact holds.deviceOfOne
  · intro other member
    rcases (rows other).mp member with rfl | old
    · intro _ left leftMember _ _ leftId
      exact (ready.unmounted left leftMember
        (leftId.trans written.allocateId)).elim
    · exact holds.exclusive other old
  · intro other member isMounted
    rcases (rows other).mp member with rfl | old
    · rw [written.allocateId] at isMounted
      exact (absent isMounted).elim
    · exact holds.mountedState other old isMounted
  · intro other member unmounted
    rcases (rows other).mp member with rfl | old
    · exact written.state
    · exact holds.activeState other old unmounted
  · have newName : ∀ other ∈ state.allocations.rows,
        row.info.diskName.chars ≠ [] →
          row.info.diskName = other.info.diskName →
            other.info.allocateId = ctx.allocateId := by
      intro other old named same
      have text := copyCstr_validName ready.validName
      rw [written.diskName, text] at named
      refine ready.ownName named other old ?_
      rw [← same, written.diskName, text]
    intro left leftMember right rightMember named same
    rcases (rows left).mp leftMember with rfl | oldLeft <;>
      rcases (rows right).mp rightMember with rfl | oldRight
    · rfl
    · rw [newName right oldRight named same, written.allocateId]
    · rw [newName left oldLeft (same ▸ named) same.symm, written.allocateId]
    · exact holds.nameOfOne left oldLeft right oldRight named same
  · have newShare : ∀ other ∈ state.allocations.rows,
        other.info.allocateId = row.info.allocateId →
          other.info.shareType = row.info.shareType := by
      intro other old same
      have own := (ready.ownId other old (same.trans written.allocateId)).1
      rw [own.shareType, written.shareType]
    intro left leftMember right rightMember same
    rcases (rows left).mp leftMember with rfl | oldLeft <;>
      rcases (rows right).mp rightMember with rfl | oldRight
    · rfl
    · exact (newShare right oldRight same.symm).symm
    · exact newShare left oldLeft same
    · exact holds.sharing left oldLeft right oldRight same

/-- A mount adds one logical-device row for each connected extent. -/
theorem recordMount_logdevs {req : SsuMountReq}
    {connected : List (ControllerAllocation × Nat × CBuf 64)}
    (checked : MountChecked req state connected) :
    (recordMount req connected state).logdevs.rows.Perm
      (connected.map (fun entry => logdevRow req entry.1 entry.2.2) ++
        state.logdevs.rows) := by
  have slots : (logdevEntries req connected).map Prod.fst =
      state.logdevs.freeSlots.take connected.length := by
    rw [← checked.slots, logdevEntries, List.map_map]
    rfl
  have contents : (logdevEntries req connected).map Prod.snd =
      connected.map fun entry => logdevRow req entry.1 entry.2.2 := by
    rw [logdevEntries, List.map_map]
    rfl
  have filled := SlotTable.rows_putAll_perm state.logdevs
    (logdevEntries req connected)
    (by rw [slots]
        exact state.logdevs.freeSlots_nodup.sublist (List.take_sublist _ _))
    (by rw [slots]
        exact fun slot member =>
          SlotTable.mem_freeSlots.mp (List.mem_of_mem_take member))
  rw [contents] at filled
  exact filled

/-- A mount finds at least one row, so the id it was given fits the field. -/
theorem MountChecked.owner {req : SsuMountReq}
    {connected : List (ControllerAllocation × Nat × CBuf 64)}
    (checked : MountChecked req state connected) :
    ∃ first ∈ state.allocations.rows,
      first.info.allocateId.chars = req.allocateId ∧
        (state.allocations.rows.filter (rowHasId req.allocateId)).head? =
          some first := by
  have nonempty : state.allocations.rows.filter (rowHasId req.allocateId) ≠
      [] := by
    rw [← checked.rows]
    simpa using checked.found
  obtain ⟨first, others, listed⟩ := List.exists_cons_of_ne_nil nonempty
  have member : first ∈ state.allocations.rows.filter
      (rowHasId req.allocateId) := by
    rw [listed]
    exact List.mem_cons_self
  obtain ⟨stored, owned⟩ := List.mem_filter.mp member
  exact ⟨first, stored, of_decide_eq_true owned, by rw [listed]; rfl⟩

section StateChange

variable {allocateId : CBuf 64} {newState : CBuf 16}
  {before after : ControllerState}

/-- Setting the state of one allocation's rows keeps every other field, so
only the two clauses about states need an argument. -/
theorem MountState.setStates (holds : MountState before)
    (rows : after.allocations.rows =
      before.allocations.rows.map (setRowState allocateId.chars newState))
    (named : LogdevsNamed after)
    (deviceOfOne : ∀ left ∈ after.logdevs.rows,
      ∀ right ∈ after.logdevs.rows, left.logicalDev = right.logicalDev →
        left.allocateId = right.allocateId)
    (exclusive : ∀ row ∈ before.allocations.rows,
      row.info.shareType ≠ .shared →
        ∀ left ∈ after.logdevs.rows, ∀ right ∈ after.logdevs.rows,
          left.allocateId = row.info.allocateId →
            right.allocateId = row.info.allocateId →
              left.logicalDev = right.logicalDev)
    (others : ∀ other, other ≠ allocateId →
      (IsMounted after other ↔ IsMounted before other))
    (own : newState = if IsMounted after allocateId
      then Controller.mountedState else Controller.activeState) :
    MountState after := by
  have states : ∀ row ∈ before.allocations.rows,
      (setRowState allocateId.chars newState row).info.state =
        if IsMounted after row.info.allocateId
          then Controller.mountedState else Controller.activeState := by
    intro row member
    rw [setRowState_state]
    by_cases same : row.info.allocateId = allocateId
    · rw [if_pos (rowHasId_iff.mpr same), same, own]
    · rw [if_neg (mt rowHasId_iff.mp same)]
      simp only [others _ same]
      split
      · rename_i mounted
        exact holds.mountedState row member mounted
      · rename_i unmounted
        exact holds.activeState row member unmounted
  refine ⟨named, deviceOfOne, ?_, ?_, ?_, ?_, ?_⟩
  · rw [rows]
    rintro _ member
    obtain ⟨row, old, rfl⟩ := List.mem_map.mp member
    simpa using exclusive row old
  · rw [rows]
    rintro _ member mounted
    obtain ⟨row, old, rfl⟩ := List.mem_map.mp member
    rw [setRowState_allocateId] at mounted
    rw [states row old, if_pos mounted]
  · rw [rows]
    rintro _ member unmounted
    obtain ⟨row, old, rfl⟩ := List.mem_map.mp member
    rw [setRowState_allocateId] at unmounted
    rw [states row old, if_neg unmounted]
  · rw [rows]
    rintro _ leftMember _ rightMember
    obtain ⟨left, oldLeft, rfl⟩ := List.mem_map.mp leftMember
    obtain ⟨right, oldRight, rfl⟩ := List.mem_map.mp rightMember
    simpa using holds.nameOfOne left oldLeft right oldRight
  · rw [rows]
    rintro _ leftMember _ rightMember
    obtain ⟨left, oldLeft, rfl⟩ := List.mem_map.mp leftMember
    obtain ⟨right, oldRight, rfl⟩ := List.mem_map.mp rightMember
    simpa using holds.sharing left oldLeft right oldRight

/-- Which allocations still own a row does not depend on the states. -/
theorem named_of_setStates
    (rows : after.allocations.rows =
      before.allocations.rows.map (setRowState allocateId.chars newState))
    {logdev : SsuLogdevInfo}
    (owned : ∃ row ∈ before.allocations.rows,
      row.info.allocateId = logdev.allocateId) :
    ∃ row ∈ after.allocations.rows,
      row.info.allocateId = logdev.allocateId := by
  obtain ⟨row, member, same⟩ := owned
  refine ⟨_, rows ▸ List.mem_map_of_mem member, ?_⟩
  rw [setRowState_allocateId]
  exact same

end StateChange

theorem MountState.recordMount (holds : MountState state) {req : SsuMountReq}
    {connected : List (ControllerAllocation × Nat × CBuf 64)}
    (checked : MountChecked req state connected) :
    MountState (recordMount req connected state) := by
  obtain ⟨first, firstMember, firstId, firstHead⟩ := checked.owner
  have id : copyCstr 64 req.allocateId = first.info.allocateId := by
    rw [← firstId, copyCstr_chars_self]
  have devices : ∀ logdev,
      logdev ∈ (Controller.recordMount req connected state).logdevs.rows ↔
        (∃ entry ∈ connected, logdevRow req entry.1 entry.2.2 = logdev) ∨
          logdev ∈ state.logdevs.rows := by
    intro logdev
    rw [(recordMount_logdevs checked).mem_iff, List.mem_append, List.mem_map]
  have newId : ∀ entry ∈ connected,
      (logdevRow req entry.1 entry.2.2).allocateId = first.info.allocateId :=
    fun _ _ => id
  obtain ⟨some, someMember⟩ := List.exists_mem_of_ne_nil _ checked.found
  have isMounted : IsMounted (Controller.recordMount req connected state)
      first.info.allocateId :=
    ⟨_, (devices _).mpr (.inl ⟨some, someMember, rfl⟩), id⟩
  have rows : (Controller.recordMount req connected
      state).allocations.rows = state.allocations.rows.map
        (setRowState first.info.allocateId.chars Controller.mountedState) := by
    rw [firstId]
    exact setAllocationState_rows _ _ _
  refine holds.setStates rows ?_ ?_ ?_ ?_ ?_
  · intro logdev member
    refine named_of_setStates rows ?_
    rcases (devices logdev).mp member with ⟨entry, _, rfl⟩ | old
    · exact ⟨first, firstMember, id.symm⟩
    · exact holds.named logdev old
  · intro left leftMember right rightMember same
    rcases (devices left).mp leftMember with ⟨_, _, rfl⟩ | oldLeft <;>
      rcases (devices right).mp rightMember with ⟨_, _, rfl⟩ | oldRight
    · rfl
    · exact (checked.unused right oldRight same.symm).elim
    · exact (checked.unused left oldLeft same).elim
    · exact holds.deviceOfOne left oldLeft right oldRight same
  · intro row member notShared
    -- An allocation that is not shared had no logical device before.
    have unmounted : row.info.allocateId = first.info.allocateId →
        ¬IsMounted state row.info.allocateId := by
      intro same mounted
      rcases checked.shared with shared | free
      · have share := shared first firstHead
        exact notShared ((holds.sharing row member first firstMember same).trans
          share)
      · rw [← firstId, ← Bool.not_eq_true, allocationHasLogdev_iff] at free
        exact free (same ▸ mounted)
    intro left leftMember right rightMember leftId rightId
    rcases (devices left).mp leftMember with ⟨_, _, rfl⟩ | oldLeft <;>
      rcases (devices right).mp rightMember with ⟨_, _, rfl⟩ | oldRight
    · rfl
    · exact (unmounted (leftId.symm.trans id) ⟨right, oldRight, rightId⟩).elim
    · exact (unmounted (rightId.symm.trans id) ⟨left, oldLeft, leftId⟩).elim
    · exact holds.exclusive row member notShared left oldLeft right oldRight
        leftId rightId
  · intro other different
    constructor
    · rintro ⟨logdev, member, same⟩
      rcases (devices logdev).mp member with ⟨_, _, rfl⟩ | old
      · exact (different (same.symm.trans id)).elim
      · exact ⟨logdev, old, same⟩
    · rintro ⟨logdev, member, same⟩
      exact ⟨logdev, (devices logdev).mpr (.inr member), same⟩
  · rw [if_pos isMounted]

theorem findLogdevByDev_some {logicalDev : CString} {logdev : SsuLogdevInfo}
    (found : findLogdevByDev state logicalDev = some logdev) :
    logdev ∈ state.logdevs.rows ∧ logdev.logicalDev.chars = logicalDev := by
  have device : logdevHasDev logicalDev logdev = true := List.find?_some found
  exact ⟨List.mem_of_find?_eq_some found, of_decide_eq_true device⟩

/-- An unmount always finds rows of the allocation to update. -/
theorem recordUnmount_rows (logicalDev : CString) {logdev : SsuLogdevInfo}
    (named : LogdevsNamed state) (member : logdev ∈ state.logdevs.rows) :
    let removed := state.logdevs.eraseWhere (logdevHasDev logicalDev)
    recordUnmount logicalDev logdev.allocateId.chars state =
      setAllocationState { state with logdevs := removed }
        logdev.allocateId.chars
        (if removed.rows.any (logdevHasId logdev.allocateId.chars)
          then mountedState else activeState) := by
  obtain ⟨owner, ownerMember, same⟩ := named logdev member
  have counted : activeAllocationExtentCount
      { state with
        logdevs := state.logdevs.eraseWhere (logdevHasDev logicalDev) }
      logdev.allocateId.chars > 0 :=
    List.length_pos_of_mem
      (List.mem_filter.mpr ⟨ownerMember, rowHasId_iff.mpr same⟩)
  exact if_pos counted

theorem recordUnmount_logdevs (state : ControllerState)
    (logicalDev allocateId : CString) :
    (recordUnmount logicalDev allocateId state).logdevs.rows =
      state.logdevs.rows.filter fun logdev =>
        !logdevHasDev logicalDev logdev := by
  unfold recordUnmount
  simp only
  split <;> simp [setAllocationState]

theorem MountState.recordUnmount (holds : MountState state)
    {logicalDev : CString} {logdev : SsuLogdevInfo}
    (found : findLogdevByDev state logicalDev = some logdev) :
    MountState (recordUnmount logicalDev logdev.allocateId.chars state) := by
  obtain ⟨member, device⟩ := findLogdevByDev_some found
  have remaining : ∀ other,
      other ∈ (Controller.recordUnmount logicalDev logdev.allocateId.chars
          state).logdevs.rows ↔
        other ∈ state.logdevs.rows ∧ other.logicalDev.chars ≠ logicalDev := by
    intro other
    rw [recordUnmount_logdevs]
    simp [logdevHasDev]
  have kept : ∀ other ∈ (Controller.recordUnmount logicalDev
      logdev.allocateId.chars state).logdevs.rows,
        other ∈ state.logdevs.rows :=
    fun other here => ((remaining other).mp here).1
  have updated := recordUnmount_rows logicalDev holds.named member
  have rows := congrArg (fun after => after.allocations.rows) updated
  simp only [setAllocationState_rows] at rows
  refine holds.setStates rows ?_ ?_ ?_ ?_ ?_
  · exact fun other here =>
      named_of_setStates rows (holds.named other (kept other here))
  · exact fun left leftHere right rightHere =>
      holds.deviceOfOne left (kept left leftHere) right (kept right rightHere)
  · exact fun row rowMember notShared left leftHere right rightHere =>
      holds.exclusive row rowMember notShared left (kept left leftHere) right
        (kept right rightHere)
  · -- Every removed row belonged to the allocation of the one found.
    intro other different
    constructor
    · rintro ⟨row, here, same⟩
      exact ⟨row, kept row here, same⟩
    · rintro ⟨row, here, same⟩
      refine ⟨row, (remaining row).mpr ⟨here, fun gone => ?_⟩, same⟩
      have sameDevice : row.logicalDev = logdev.logicalDev :=
        BoundedString.ext (gone.trans device.symm)
      exact different (same.symm.trans
        (holds.deviceOfOne row here logdev member sameDevice))
  · have mounted : (state.logdevs.eraseWhere
        (logdevHasDev logicalDev)).rows.any
          (logdevHasId logdev.allocateId.chars) = true ↔
        IsMounted (Controller.recordUnmount logicalDev
          logdev.allocateId.chars state) logdev.allocateId := by
      rw [IsMounted, recordUnmount_logdevs, SlotTable.rows_eraseWhere]
      simp [logdevHasId, BoundedString.chars_inj, and_assoc]
    simp only [mounted]

/-- The state that an allocation's rows have already is no news to them. -/
theorem MountState.setRowState_same (holds : MountState state)
    (allocateId : CBuf 64) {row : ControllerAllocation}
    (member : row ∈ state.allocations.rows) :
    setRowState allocateId.chars
      (if allocationHasLogdev state allocateId.chars
        then Controller.mountedState else Controller.activeState) row = row := by
  unfold setRowState
  split
  · rename_i own
    have same := rowHasId_iff.mp own
    have kept : (if allocationHasLogdev state allocateId.chars
        then Controller.mountedState else Controller.activeState) =
          row.info.state := by
      split
      · rename_i mounted
        exact (holds.mountedState row member
          (same ▸ allocationHasLogdev_iff.mp mounted)).symm
      · rename_i unmounted
        exact (holds.activeState row member
          (same ▸ mt allocationHasLogdev_iff.mpr unmounted)).symm
    rw [kept]
  · rfl

/-- Removing the rows of a path just mounted gives the state before. -/
theorem MountState.recordUnmount_recordMount (holds : MountState state)
    {req : SsuMountReq}
    {connected : List (ControllerAllocation × Nat × CBuf 64)}
    (checked : MountChecked req state connected) :
    Controller.recordUnmount req.logicalDev.chars req.allocateId
      (Controller.recordMount req connected state) = state := by
  obtain ⟨first, stored, id, _⟩ := checked.owner
  have entries : ∀ entry ∈ logdevEntries req connected,
      logdevHasDev req.logicalDev.chars entry.2 = true ∧
        state.logdevs.get entry.1 = none := by
    intro entry member
    obtain ⟨source, listed, rfl⟩ := List.mem_map.mp member
    refine ⟨decide_eq_true rfl, ?_⟩
    have slot : source.2.1 ∈ connected.map fun entry => entry.2.1 :=
      List.mem_map_of_mem listed
    rw [checked.slots] at slot
    exact (SlotTable.mem_freeSlots.mp (List.mem_of_mem_take slot)).2
  have logdevs : (state.logdevs.putAll (logdevEntries req connected)).eraseWhere
      (logdevHasDev req.logicalDev.chars) = state.logdevs := by
    rw [SlotTable.eraseWhere_putAll (fun entry member =>
      (entries entry member).1)]
    · apply SlotTable.eraseWhere_of_none
      intro logdev member
      have other := checked.unused logdev member
      simpa [logdevHasDev, BoundedString.chars_inj] using other
    · intro entry member old active
      rw [(entries entry member).2] at active
      cases active
  have removed : { Controller.recordMount req connected state with
      logdevs := (Controller.recordMount req connected
        state).logdevs.eraseWhere (logdevHasDev req.logicalDev.chars) } =
      setAllocationState state req.allocateId Controller.mountedState :=
    congrArg (fun devices => { setAllocationState state req.allocateId
      Controller.mountedState with logdevs := devices }) logdevs
  have counted : activeAllocationExtentCount (setAllocationState state
      req.allocateId Controller.mountedState) req.allocateId > 0 := by
    have restated : setRowState req.allocateId Controller.mountedState first ∈
        (setAllocationState state req.allocateId
          Controller.mountedState).allocations.rows := by
      rw [setAllocationState_rows]
      exact List.mem_map_of_mem stored
    have own : rowHasId req.allocateId
        (setRowState req.allocateId Controller.mountedState first) = true := by
      rw [← id, rowHasId_iff, setRowState_allocateId]
    exact List.length_pos_of_mem (List.mem_filter.mpr ⟨restated, own⟩)
  simp only [Controller.recordUnmount, removed, if_pos counted]
  have rows : ((state.allocations.modifyRows
      (setRowState req.allocateId Controller.mountedState)).modifyRows
        (setRowState req.allocateId
          (if allocationHasLogdev state req.allocateId
            then Controller.mountedState else Controller.activeState))) =
      state.allocations := by
    rw [SlotTable.modifyRows_modifyRows, SlotTable.modifyRows_of_fixed]
    intro row member
    rw [Function.comp_apply, setRowState_setRowState, ← id]
    exact holds.setRowState_same first.info.allocateId member
  exact congrArg (fun table => { state with allocations := table }) rows

end TableUpdates

theorem mountState_of_sameTables (before : ControllerState)
    {after : ControllerState}
    (allocations : after.allocations = before.allocations)
    (logdevs : after.logdevs = before.logdevs)
    (holds : MountState before) : MountState after := by
  obtain ⟨pool, next, table, devices, released⟩ := before
  obtain ⟨pool', next', table', devices', released'⟩ := after
  subst allocations logdevs
  exact ⟨holds.named, holds.deviceOfOne, holds.exclusive, holds.mountedState,
    holds.activeState, holds.nameOfOne, holds.sharing⟩

/-- An unmount changes the rows and the devices and nothing else. -/
theorem recordUnmount_frame (logicalDev allocateId : CString)
    (state : ControllerState) :
    ∃ allocations logdevs, recordUnmount logicalDev allocateId state =
      { state with allocations := allocations, logdevs := logdevs } := by
  unfold recordUnmount
  simp only
  split <;> exact ⟨_, _, rfl⟩

theorem unmount_frame (plugin : SsuPluginOps PluginState)
    (logicalDev : CString) (state : ControllerState) (world : PluginState) :
    ∃ allocations logdevs,
      (ssuControllerUnmount plugin logicalDev state world).2.1 =
        { state with allocations := allocations, logdevs := logdevs } := by
  have outcome := ssuControllerUnmount_outcome plugin logicalDev state world
  generalize ssuControllerUnmount plugin logicalDev state world = result
    at outcome
  cases outcome with
  | refused | stale | rejected => exact ⟨_, _, rfl⟩
  | unmounted => exact recordUnmount_frame _ _ _

theorem mount_frame (plugin : SsuPluginOps PluginState) (req : SsuMountReq)
    (state : ControllerState) (world : PluginState) :
    ∃ allocations logdevs,
      (ssuControllerMount plugin req state world).2.1 =
        { state with allocations := allocations, logdevs := logdevs } := by
  have outcome := ssuControllerMount_outcome plugin req state world
  generalize ssuControllerMount plugin req state world = result at outcome
  cases outcome <;> exact ⟨_, _, rfl⟩

/-- A refresh replaces the pool and nothing else. -/
theorem refreshPool_state (plugin : SsuPluginOps PluginState)
    (state : ControllerState) (world : PluginState) :
    ∃ pool, (ssuControllerRefreshPool plugin state world).2.1 =
      { state with pool := pool } := by
  unfold ssuControllerRefreshPool
  split
  · exact ⟨_, rfl⟩
  · split
    · split
      · simp only
        split <;> exact ⟨_, rfl⟩
      · exact ⟨_, rfl⟩
    · exact ⟨_, rfl⟩

theorem refreshPool_tables (plugin : SsuPluginOps PluginState)
    (state : ControllerState) (world : PluginState) :
    (ssuControllerRefreshPool plugin state world).2.1.allocations =
        state.allocations ∧
      (ssuControllerRefreshPool plugin state world).2.1.logdevs =
        state.logdevs := by
  obtain ⟨pool, refreshed⟩ := refreshPool_state plugin state world
  rw [refreshed]
  exact ⟨rfl, rfl⟩

/-- One case for each event; those without a table update change nothing. -/
theorem mountState_event {before after : ControllerState × PluginState}
    (event : ControllerEvent plugin before after)
    (holds : MountState before.1) : MountState after.1 := by
  cases event with
  | numbered state world number =>
      exact mountState_of_sameTables state rfl rfl holds
  | remembered state world allocateId =>
      exact mountState_of_sameTables state
        (rememberReleasedId_allocations state allocateId)
        (rememberReleasedId_logdevs state allocateId) holds
  | extentCreated _ _ _ placed _ _ => exact holds.addExtent placed _
  | extentUndone _ _ active unmounted =>
      exact holds.dropExtent active unmounted
  | extentReleased _ _ _ active unmounted _ =>
      exact holds.dropExtent active unmounted
  | mounted _ _ _ checked _ => exact holds.recordMount checked
  | unmounted _ _ _ found _ => exact holds.recordUnmount found
  | extentRefused => exact holds
  | extentKept => exact holds
  | connected => exact holds
  | mountRefused => exact holds
  | unmountRefused => exact holds
  | unmountedStale => exact holds

theorem mountState_step (plugin : SsuPluginOps PluginState)
    (current : ControllerState × PluginState) (op : ControllerOp)
    (holds : MountState current.1) : MountState (step plugin current op).1 := by
  by_cases refresh : op = .refreshPool
  · subst refresh
    obtain ⟨allocations, logdevs⟩ :=
      refreshPool_tables plugin current.1 current.2
    exact mountState_of_sameTables current.1 allocations logdevs holds
  · exact Transition.chain_invariant
      (fun current : ControllerState × PluginState =>
        MountState current.1)
      (fun _ _ => mountState_event)
      (step_chain plugin current refresh holds.named) holds

theorem mountState_run (plugin : SsuPluginOps PluginState)
    (world : PluginState) (ops : List ControllerOp) :
    MountState (Transition.run (step plugin) (.initial, world) ops).1 :=
  Transition.run_invariant_always
    (fun current : ControllerState × PluginState =>
      MountState current.1) (mountState_step plugin)
    mountState_initial ops

/-- In every state of every run, whatever the plugin answers: mounted devices
name active allocations, one device has one allocation, only a shared
allocation has several devices, the row states follow the mounts, and a disk
name belongs to one allocation. -/
theorem reachable_tables_agree (plugin : SsuPluginOps PluginState)
    (world : PluginState) (ops : List ControllerOp) :
    let state := (Transition.run (step plugin) (.initial, world) ops).1
    (∀ logdev ∈ state.logdevs.rows, ∃ row ∈ state.allocations.rows,
        row.info.allocateId = logdev.allocateId) ∧
      (∀ left ∈ state.logdevs.rows, ∀ right ∈ state.logdevs.rows,
        left.logicalDev = right.logicalDev →
          left.allocateId = right.allocateId) ∧
      (∀ row ∈ state.allocations.rows, row.info.shareType ≠ .shared →
        ∀ left ∈ state.logdevs.rows, ∀ right ∈ state.logdevs.rows,
          left.allocateId = row.info.allocateId →
            right.allocateId = row.info.allocateId →
              left.logicalDev = right.logicalDev) ∧
      (∀ row ∈ state.allocations.rows,
        row.info.state = if IsMounted state row.info.allocateId
          then mountedState else activeState) ∧
      ∀ left ∈ state.allocations.rows, ∀ right ∈ state.allocations.rows,
        left.info.diskName.chars ≠ [] →
          left.info.diskName = right.info.diskName →
            left.info.allocateId = right.info.allocateId := by
  intro state
  have holds : MountState state := mountState_run plugin world ops
  refine ⟨holds.named, holds.deviceOfOne, holds.exclusive, ?_,
    holds.nameOfOne⟩
  intro row member
  split
  · rename_i mounted
    exact holds.mountedState row member mounted
  · rename_i unmounted
    exact holds.activeState row member unmounted

end UbseSsu.Controller

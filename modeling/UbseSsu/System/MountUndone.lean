import UbseSsu.System.MountableAllocations
import UbseSsu.System.RepeatedUnmount

/-!
# An unmount right after a mount

Three tables keep a mount under its path, each in a field of 64 bytes, and the
unmount looks the whole path up.  Without a control device it takes back what
the mount did exactly when the path was stored whole and the SSUs of the
allocation still connect.
-/

namespace UbseSsu.System

open Controller Api Plugin Kernel Reqshim

section Skipped

variable {ctl : CtlAnswer} {logicalDev allocateId : CString}
  {specs : List MapSpec} {kernel after : KernelState}

/-- Without a control device a mount only checks what it was given. -/
theorem mountLogdevForAllocate_missing (missing : Missing ctl)
    (mounted : mountLogdevForAllocate logicalDev allocateId specs true ctl
      kernel = (.ok, after)) :
    after = kernel ∧ specs ≠ [] ∧ ∃ minor entries capacity,
      minorForAllocate logicalDev allocateId = some minor ∧
        buildEntries specs minor = .ok (entries, capacity) := by
  unfold mountLogdevForAllocate at mounted
  split at mounted
  · cases mounted
  · rename_i minor chosen
    unfold mountLogdevWithMinor at mounted
    split at mounted
    · cases mounted
    · rename_i filled
      split at mounted
      · rename_i err failed
        obtain ⟨rfl, _⟩ := Prod.mk.inj mounted
        cases buildEntries_error failed
      · rename_i entries capacity built
        split at mounted
        · rename_i err failed
          obtain ⟨rfl, _⟩ := Prod.mk.inj mounted
          cases copyLogicalDiskName_error failed
        · simp only [openReqshimCtl_missing missing] at mounted
          obtain ⟨_, rfl⟩ := Prod.mk.inj mounted
          exact ⟨rfl, filled, minor, entries, capacity, chosen, built⟩

theorem unmountLogdevForAllocate_missing (missing : Missing ctl)
    (filled : specs ≠ []) {minor : Nat} {entries : List MapEntry} {capacity : UInt64}
    (chosen : minorForAllocate logicalDev allocateId = some minor)
    (built : buildEntries specs minor = .ok (entries, capacity)) :
    unmountLogdevForAllocate logicalDev allocateId specs true ctl kernel =
      (.ok, kernel) := by
  simp only [unmountLogdevForAllocate, chosen, unmountLogdevWithMinor,
    if_neg filled, built, openReqshimCtl_missing missing]

end Skipped

section Mock

variable {host : MockHost} {world after : MockState} {specs : List MapSpec}

/-- Now, the SSU of each namespace of the allocation connects. -/
def SsusConnect (host : MockHost) (world : MockState) (allocateId : CString) :
    Prop :=
  ∀ ns ∈ world.namespaces.rows.filter (namespaceHasAllocate allocateId),
    (connectDev host world.clock ns.ssuId).1 = .ok

instance (host : MockHost) (world : MockState) (allocateId : CString) :
    Decidable (SsusConnect host world allocateId) :=
  inferInstanceAs (Decidable (∀ ns ∈ _, _))

theorem collectMapsLoop_connected {time : Nat} {rows : List MockNamespace}
    (collected : collectMapsLoop host time rows = .ok specs) :
    ∀ ns ∈ rows, (connectDev host time ns.ssuId).1 = .ok := by
  induction rows generalizing specs with
  | nil => exact fun _ member => (List.not_mem_nil member).elim
  | cons ns rows induction =>
      simp only [collectMapsLoop] at collected
      split at collected
      · rename_i physDev connected
        split at collected
        · cases collected
        · rename_i rest later
          exact List.forall_mem_cons.mpr ⟨by rw [connected], induction later⟩
      · cases collected

theorem collectReqshimMaps_eq_ok_iff {allocateId : CString} :
    collectReqshimMaps host world allocateId = .ok specs ↔
      specs ≠ [] ∧ collectMapsLoop host world.clock (world.namespaces.rows.filter
        (namespaceHasAllocate allocateId)) = .ok specs := by
  unfold collectReqshimMaps
  cases collected : collectMapsLoop host world.clock
      (world.namespaces.rows.filter (namespaceHasAllocate allocateId)) with
  | error err => simp
  | ok found =>
      cases found with
      | nil => simp [eq_comm]
      | cons first others =>
          simp only [Except.ok.injEq, iff_and_self]
          rintro rfl
          exact List.cons_ne_nil first others

/-- The extents of an allocation are the same whenever they can be told. -/
theorem collectReqshimMaps_again {allocateId : CString}
    (collected : collectReqshimMaps host world allocateId = .ok specs)
    (same : after.namespaces = world.namespaces)
    (connects : SsusConnect host after allocateId) :
    collectReqshimMaps host after allocateId = .ok specs := by
  obtain ⟨filled, earlier⟩ := collectReqshimMaps_eq_ok_iff.mp collected
  obtain ⟨others, told⟩ := collectMapsLoop_connects after.clock _ connects
  rw [same] at told
  have unchanged : others = specs := by
    rw [collectMapsLoop_ok host told, collectMapsLoop_ok host earlier]
  rw [unchanged, ← same] at told
  exact collectReqshimMaps_eq_ok_iff.mpr ⟨filled, told⟩

theorem mockMount_outcome (host : MockHost) (allocateId hostId : CString)
    (logicalDev : CBuf 64) (world : MockState) :
    VendorMountOutcome (collectReqshimMaps host world allocateId) true
      (host.ctl world.clock) allocateId hostId logicalDev.chars world.tables
      ((mockMount host allocateId hostId logicalDev world).1,
        (mockMount host allocateId hostId logicalDev world).2.tables) :=
  vendorMount_outcome (collectReqshimMaps_error host world allocateId)

theorem mockUnmount_outcome (host : MockHost) (logicalDev : CString)
    (world : MockState) :
    VendorUnmountOutcome (collectReqshimMaps host world) true
      (host.ctl world.clock) logicalDev world.tables
      ((mockUnmount host logicalDev world).1,
        (mockUnmount host logicalDev world).2.tables) :=
  vendorUnmount_outcome (collectReqshimMaps_error host world)

variable {allocateId hostId : CString} {logicalDev : CBuf 64}

/-- The mount record of an accepted mount is the one its unmount finds. -/
theorem mockMount_recorded
    (accepted : mockMount host allocateId hostId logicalDev world =
      (.ok, after))
    (fits : (copyCstr 64 allocateId).chars = allocateId) :
    after.namespaces = world.namespaces ∧ ∃ slot mount specs kernel,
      mount.allocateId.chars = allocateId ∧
      after.tables.mounts.findRow (mountHasDev logicalDev.chars) =
        some (slot, mount) ∧
      after.tables.mounts.clear slot = world.tables.mounts ∧
      collectReqshimMaps host world allocateId = .ok specs ∧
      mountLogdevForAllocate logicalDev.chars allocateId specs true
        (host.ctl world.clock) world.tables.kernel = (.ok, kernel) ∧
      after.tables.kernel = kernel := by
  have namespaces := congrArg (fun answer => answer.2.namespaces) accepted
  have outcome := mockMount_outcome host allocateId hostId logicalDev world
  rw [accepted] at outcome
  generalize same : (SsuErr.ok, after.tables) = answer at outcome
  cases outcome with
  | refused failed => exact (failed (congrArg Prod.fst same).symm).elim
  | rejected _ failed => exact (failed (congrArg Prod.fst same).symm).elim
  | accepted free collected unused mounted =>
      obtain ⟨bound, isFree⟩ := SlotTable.get_firstFree free
      rw [(Prod.mk.inj same).2]
      let mount : VendorMount :=
        { allocateId := copyCstr 64 allocateId
          hostId := copyCstr 64 hostId
          logicalDev := copyCstr 64 logicalDev.chars }
      refine ⟨namespaces.symm, _, mount, _, _, fits, ?_,
        SlotTable.clear_put_of_free bound isFree, collected, mounted, rfl⟩
      refine SlotTable.findRow_put bound ?_ ?_
      · simp [mountHasDev]
      · simpa [mountHasDev] using unused

/-- Without a control device, the unmount after a mount takes the record back
if the SSUs connect, and fails otherwise. -/
theorem mockUnmount_mounted (missing : ∀ time, Missing (host.ctl time))
    (accepted : mockMount host allocateId hostId logicalDev world =
      (.ok, after))
    (fits : (copyCstr 64 allocateId).chars = allocateId) :
    if SsusConnect host after allocateId then
      mockUnmount host logicalDev.chars after =
        (.ok, { after.tick with tables := world.tables })
    else (mockUnmount host logicalDev.chars after).1 ≠ .ok := by
  obtain ⟨namespaces, slot, mount, specs, kernel, own, found, cleared,
    collected, mounted, kept⟩ := mockMount_recorded accepted fits
  obtain ⟨rfl, filled, minor, entries, capacity, chosen, built⟩ :=
    mountLogdevForAllocate_missing (missing _) mounted
  split
  · rename_i connects
    have again := collectReqshimMaps_again collected namespaces connects
    have undone : unmountLogdevForAllocate logicalDev.chars allocateId specs
        true (host.ctl after.clock) world.tables.kernel =
          (.ok, world.tables.kernel) :=
      unmountLogdevForAllocate_missing (missing _) filled chosen built
    simp only [mockUnmount, vendorUnmount, found, own, again, undone, cleared,
      kept]
  · rename_i refused
    simp only [mockUnmount, vendorUnmount, found, own]
    cases again : collectReqshimMaps host after allocateId with
    | error err => exact collectReqshimMaps_error host after allocateId err again
    | ok others =>
        have told := (collectReqshimMaps_eq_ok_iff.mp again).2
        exact (refused (collectMapsLoop_connected told)).elim

end Mock

section Api

variable {PluginState : Type} {plugin : SsuPluginOps PluginState}
  {devicePath hostId : CString}

theorem requestIdFromDevicePath_error {state : ControllerState}
    {cache : ApiCache} {err : SsuErr}
    (failed : (requestIdFromDevicePath state devicePath cache).1 =
      .error err) : err ≠ .ok := by
  have looked := requestIdFromDevicePath_lookup state devicePath cache
  generalize requestIdFromDevicePath state devicePath cache = result
    at looked failed
  cases looked with
  | unknown refused =>
      cases failed
      exact refused
  | mounted => cases failed
  | cached => cases failed
  | registered => cases failed

theorem ssuApiMount_accepted {current : ApiState PluginState}
    (accepted : (ssuApiMount plugin devicePath hostId current).1 = .ok) :
    devicePath ≠ [] ∧ ∃ requestId,
      (requestIdFromDevicePath current.controller devicePath
        current.cache).1 = .ok requestId ∧
      (ssuControllerMount plugin (apiMountReq requestId devicePath hostId)
        current.controller current.world).1 = .ok ∧
      (ssuApiMount plugin devicePath hostId current).2.system =
        (ssuControllerMount plugin (apiMountReq requestId devicePath hostId)
          current.controller current.world).2 := by
  simp only [ssuApiMount] at accepted ⊢
  split at accepted
  · cases accepted
  · rename_i named
    rw [if_neg named]
    simp only [Bool.or_eq_true, isEmptyString_iff, not_or] at named
    refine ⟨named.1, ?_⟩
    split at accepted
    · rename_i err cache looked
      have failed := requestIdFromDevicePath_error
        (congrArg Prod.fst looked)
      exact (failed accepted).elim
    · rename_i requestId cache looked
      rw [looked]
      refine ⟨requestId, rfl, ?_⟩
      simp only [ssuResourceMount] at accepted ⊢
      split at accepted
      · rename_i answered
        split at answered
        · cases answered
        · have called : ssuControllerMount plugin
              (apiMountReq requestId devicePath hostId) current.controller
                current.world = _ := answered
          rw [called]
          exact ⟨rfl, rfl⟩
      · rename_i refused _
        exact (refused accepted).elim

/-- The call answered `SSU_OK`, and the tables are those before the mount. -/
structure MountUndone (before : ApiState MockState)
    (answer : SsuErr × ApiState MockState) : Prop where
  status : answer.1 = .ok
  logdevs : answer.2.controller.logdevs = before.controller.logdevs
  allocations : answer.2.controller.allocations =
    before.controller.allocations
  mounts : answer.2.world.tables.mounts = before.world.tables.mounts

variable {host : MockHost} {state mounted : ControllerState}
  {world after : MockState} {req : SsuMountReq}

/-- What an accepted mount over the mock plugin did, with the plugin's state
between its connections and its mount. -/
theorem ssuControllerMount_accepted
    (accepted : ssuControllerMount (mockPlugin host) req state world =
      (.ok, mounted, after)) :
    ∃ connected middle, MountChecked req state connected ∧
      mounted = recordMount req connected state ∧
      ConnectReach (mockConnect host) world middle ∧
      mockMount host req.allocateId req.hostId req.logicalDev middle =
        (.ok, after) := by
  have outcome := ssuControllerMount_outcome (mockPlugin host) req state world
  rw [accepted] at outcome
  generalize result : (SsuErr.ok, mounted, after) = answer at outcome
  cases outcome with
  | refused failed => exact (failed (congrArg Prod.fst result).symm).elim
  | unconnected _ _ failed =>
      exact (failed (congrArg Prod.fst result).symm).elim
  | rejected _ _ _ _ failed =>
      exact (failed (congrArg Prod.fst result).symm).elim
  | @mounted _ _ provided mounts connected middle _ reached _ checked called =>
      cases provided
      cases mounts
      cases result
      exact ⟨connected, middle, checked, rfl, reached, called⟩

theorem checked_id_fits
    {connected : List (ControllerAllocation × Nat × CBuf 64)}
    (checked : MountChecked req state connected) :
    (copyCstr 64 req.allocateId).chars = req.allocateId := by
  obtain ⟨first, _, id, _⟩ := checked.owner
  rw [← id, copyCstr_chars_self]

/-- The rows of a mount are found again by the path that was stored. -/
theorem findLogdevByDev_recordMount
    {connected : List (ControllerAllocation × Nat × CBuf 64)}
    (checked : MountChecked req state connected) :
    ∃ logdev, findLogdevByDev (recordMount req connected state)
        req.logicalDev.chars = some logdev ∧
      logdev.allocateId.chars = req.allocateId := by
  have rows := recordMount_logdevs checked
  cases found : findLogdevByDev (recordMount req connected state)
      req.logicalDev.chars with
  | none =>
      obtain ⟨entry, listed⟩ := List.exists_mem_of_ne_nil _ checked.found
      have new : logdevRow req entry.1 entry.2.2 ∈
          (recordMount req connected state).logdevs.rows :=
        rows.mem_iff.mpr (List.mem_append_left _ (List.mem_map_of_mem listed))
      have missed := List.find?_eq_none.mp found _ new
      exact (missed (decide_eq_true rfl)).elim
  | some logdev =>
      refine ⟨logdev, rfl, ?_⟩
      obtain ⟨member, device⟩ := findLogdevByDev_some found
      rcases List.mem_append.mp (rows.mem_iff.mp member) with new | old
      · obtain ⟨entry, _, rfl⟩ := List.mem_map.mp new
        exact checked_id_fits checked
      · exact (checked.unused logdev old (BoundedString.ext device)).elim

/-- The path was stored whole: the unmount takes everything back, if the SSUs
connect. -/
theorem ssuControllerUnmount_mounted
    (missing : ∀ time, Missing (host.ctl time)) (holds : MountState state)
    (accepted : ssuControllerMount (mockPlugin host) req state world =
      (.ok, mounted, after)) :
    let result := ssuControllerUnmount (mockPlugin host) req.logicalDev.chars
      mounted after
    if SsusConnect host after req.allocateId then
      result.1 = .ok ∧ result.2.1 = state ∧
        result.2.2.tables = world.tables
    else result.1 ≠ .ok := by
  obtain ⟨connected, middle, checked, rfl, reached, called⟩ :=
    ssuControllerMount_accepted accepted
  have tables := tables_of_connectReach reached
  obtain ⟨logdev, found, own⟩ := findLogdevByDev_recordMount checked
  have undone := mockUnmount_mounted missing called (checked_id_fits checked)
  have named : isEmptyString req.logicalDev.chars = false :=
    Bool.eq_false_iff.mpr fun unnamed =>
      checked.namedDev ((isEmptyString_iff _).mp unnamed)
  simp only [ssuControllerUnmount, mockPlugin, named, found, own,
    Bool.false_eq_true, if_false]
  split at undone
  · rename_i connects
    rw [if_pos connects, undone]
    exact ⟨rfl, holds.recordUnmount_recordMount checked, tables⟩
  · rename_i refused
    rw [if_neg refused]
    split
    · rename_i answered
      rw [answered] at undone
      exact (undone rfl).elim
    · rename_i answered
      rw [answered] at undone
      exact undone

/-- No row has a path that does not fit the field, so its unmount leaves the
rows alone. -/
theorem ssuControllerUnmount_long {logicalDev : CString}
    (long : 64 ≤ logicalDev.length) (world : PluginState) :
    (ssuControllerUnmount plugin logicalDev state world).2.1 = state := by
  have outcome := ssuControllerUnmount_outcome plugin logicalDev state world
  generalize ssuControllerUnmount plugin logicalDev state world = result
    at outcome
  cases outcome with
  | refused => rfl
  | stale => rfl
  | rejected => rfl
  | @unmounted _ _ logdev found =>
      obtain ⟨_, device⟩ := findLogdevByDev_some found
      have fits := logdev.logicalDev.fits
      rw [device] at fits
      omega

theorem ssuApiUnmount_eq (plugin : SsuPluginOps PluginState)
    (named : devicePath ≠ []) (current : ApiState PluginState) :
    ssuApiUnmount plugin devicePath current =
      let result := ssuControllerUnmount plugin devicePath current.controller
        current.world
      (result.1,
        { current with controller := result.2.1, world := result.2.2 }) := by
  have filled : isEmptyString devicePath = false :=
    Bool.eq_false_iff.mpr fun unnamed => named ((isEmptyString_iff _).mp unnamed)
  simp only [ssuApiUnmount, ssuResourceUnmount, filled, Bool.false_eq_true,
    if_false]

/-- Without a control device and in every state that any calls can lead to,
whatever the cache holds: after an accepted mount, the unmount of the same
path answers `SSU_OK` with the tables as they were before the mount if and
only if the path has less than 64 characters and the SSUs of its allocation
connect at the unmount. -/
theorem api_unmount_undoes_iff (host : MockHost)
    (missing : ∀ time, Missing (host.ctl time)) {current : ApiState MockState}
    (reached : ControllerRun (mockPlugin host) (.initial, .initial)
      current.system) (devicePath hostId : CString) :
    let mounted := ssuApiMount (mockPlugin host) devicePath hostId current
    mounted.1 = .ok →
      (MountUndone current
          (ssuApiUnmount (mockPlugin host) devicePath mounted.2) ↔
        devicePath.length < 64 ∧
          ∀ requestId, (requestIdFromDevicePath current.controller devicePath
            current.cache).1 = .ok requestId →
              SsusConnect host mounted.2.world requestId.chars) := by
  intro mounted accepted
  obtain ⟨named, requestId, resolved, ok, system⟩ :=
    ssuApiMount_accepted accepted
  have connects : (∀ other, (requestIdFromDevicePath current.controller
      devicePath current.cache).1 = .ok other →
        SsusConnect host mounted.2.world other.chars) ↔
      SsusConnect host mounted.2.world requestId.chars := by
    rw [resolved]
    simp only [Except.ok.injEq, forall_eq']
  rw [connects]
  generalize called : ssuControllerMount (mockPlugin host)
    (apiMountReq requestId devicePath hostId) current.controller
      current.world = answer at ok system
  obtain ⟨err, controller, after⟩ := answer
  obtain rfl : err = .ok := ok
  have states : mounted.2.controller = controller ∧
      mounted.2.world = after := Prod.mk.inj system
  rw [ssuApiUnmount_eq _ named, states.1, states.2]
  by_cases short : devicePath.length < 64
  · have stored : (copyCstr 64 devicePath).chars = devicePath :=
      copyCstr_chars_of_fits (by omega)
    have undone := ssuControllerUnmount_mounted missing reached.mountState
      called
    simp only [apiMountReq, stored] at undone
    rw [and_iff_right short]
    constructor
    · intro undoes
      by_contra refused
      rw [if_neg refused] at undone
      exact undone undoes.status
    · intro connects
      rw [if_pos connects] at undone
      obtain ⟨status, sameState, sameTables⟩ := undone
      constructor
      · exact status
      · exact congrArg _ sameState
      · exact congrArg _ sameState
      · exact congrArg _ sameTables
  · refine iff_of_false (fun undoes => ?_) (fun both => short both.1)
    have logdevs := undoes.logdevs
    simp only [ssuControllerUnmount_long (Nat.not_lt.mp short)] at logdevs
    obtain ⟨connected, _, checked, rfl, _⟩ := ssuControllerMount_accepted called
    have rows := (recordMount_logdevs checked).length_eq
    have added := List.length_pos_of_ne_nil checked.found
    rw [logdevs, List.length_append, List.length_map] at rows
    omega

/-- An allocation named `data` on the one SSU. -/
def allocatedData : List ApiOp := [.allocate (apiRequest 4096 "data".toList)]

theorem api_unmount_undoes_data :
    let plugin := mockPlugin noModuleHost
    let current := Transition.run (apiStep plugin) (.initial .initial)
      allocatedData
    let mounted := ssuApiMount plugin "/dev/ssu/data".toList "host0".toList
      current
    MountUndone current
      (ssuApiUnmount plugin "/dev/ssu/data".toList mounted.2) := by
  intro plugin current mounted
  refine (api_unmount_undoes_iff noModuleHost (fun _ => .inl rfl)
    (apiRun_run plugin .initial allocatedData) "/dev/ssu/data".toList
      "host0".toList (by decide +kernel)).mpr ⟨by decide +kernel, ?_⟩
  intro requestId resolved
  have own : (requestIdFromDevicePath current.controller
      "/dev/ssu/data".toList current.cache).1 =
        .ok (copyCstr 64 "alloc-0".toList) := by
    decide +kernel
  rw [own, Except.ok.injEq] at resolved
  subst resolved
  decide +kernel

/-- The last component of the path is `ssu0`, which leads to the allocation,
but only the first 63 characters are stored. -/
def longPath : CString := List.replicate 61 '/' ++ "ssu0".toList

theorem api_unmount_misses_long :
    let plugin := mockPlugin noModuleHost
    let current := Transition.run (apiStep plugin) (.initial .initial)
      [.allocate (apiRequest 4096 [])]
    let mounted := ssuApiMount plugin longPath "host0".toList current
    let unmounted := ssuApiUnmount plugin longPath mounted.2
    mounted.1 = .ok ∧ unmounted.1 = .ok ∧
      current.controller.logdevs.rows = [] ∧
      unmounted.2.controller.logdevs.rows ≠ [] := by
  decide +kernel

end Api

end UbseSsu.System

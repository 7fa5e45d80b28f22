import UbseSsu.Plugin.MountAccepted
import UbseSsu.System.DevicePaths
import UbseSsu.System.MappingView
import UbseSsu.System.MountedDevices

/-!
# Which allocations can be mounted

An allocation is cut into extents byte by byte and numbered without a bound,
and nobody asks ReqShim before the namespaces are made.  A mount of it is
accepted exactly when its extents start and end between sectors, the numbers
in its namespace ids fit their field, and its own number is a minor of the
kernel's table.
-/

namespace UbseSsu.System

open Controller Api Plugin Kernel Reqshim

section Conditions

/-- The extent starts and ends between sectors, and the number in its
namespace id fits the kernel's field. -/
structure ExtentMountable (row : ControllerAllocation) : Prop where
  offset : 512 ∣ row.info.logicalOffset.toNat
  length : 512 ∣ row.info.length.toNat
  nsNumber : (parseUintTail row.info.nsId.chars).isSome = true

instance (row : ControllerAllocation) : Decidable (ExtentMountable row) :=
  decidable_of_iff (512 ∣ row.info.logicalOffset.toNat ∧
      512 ∣ row.info.length.toNat ∧
      (parseUintTail row.info.nsId.chars).isSome = true)
    ⟨fun ⟨offset, length, nsNumber⟩ => ⟨offset, length, nsNumber⟩,
      fun fits => ⟨fits.offset, fits.length, fits.nsNumber⟩⟩

/-- The kernel's table has the minor of the device, without a device. -/
def MinorFree (kernel : KernelState) (devicePath requestId : CString) : Prop :=
  ∃ minor ∈ minorForAllocate devicePath requestId,
    minor < Kernel.maxLogdevs ∧ kernel.logdevs.get minor = none

instance (kernel : KernelState) (devicePath requestId : CString) :
    Decidable (MinorFree kernel devicePath requestId) :=
  inferInstanceAs (Decidable (∃ minor ∈ (_ : Option Nat), _))

def rowsOf (state : ControllerState) (requestId : CBuf 64) :
    List ControllerAllocation :=
  state.allocations.rows.filter (rowHasId requestId.chars)

/-- The allocation is not mounted, every table has slots for it, and its SSUs
connect whenever they are asked. -/
structure MountGranted (host : MockHost) (current : ApiState MockState)
    (requestId : CBuf 64) : Prop where
  unmounted : ¬IsMounted current.controller requestId
  logdevs : (rowsOf current.controller requestId).length ≤
    current.controller.logdevs.freeSlots.length
  mounts : current.world.tables.mounts.rows.length < mockMaxMounts
  maps : current.world.tables.kernel.maps.rows.length +
    (rowsOf current.controller requestId).length ≤ maxMaps
  connects : ∀ row ∈ rowsOf current.controller requestId, ∀ time,
    (connectDev host time row.info.ssuId).1 = .ok

/-- The number in the allocation id is below the bound. -/
def NumberBelow (bound : Nat) (requestId : CBuf 64) : Prop :=
  ∃ number < bound, requestId.chars = "alloc-".toList ++ decimal number

end Conditions

section Rows

variable {PluginState : Type} {plugin : SsuPluginOps PluginState}

/-- What the checks of an allocation leave in each row. -/
structure RowSound (row : ControllerAllocation) : Prop where
  name : row.info.diskName.chars = [] ∨
    allocationNameIsValid row.info.diskName.chars = true
  nonempty : 0 < row.info.length.toNat
  ending : row.info.logicalOffset.toNat + row.info.length.toNat < 2 ^ 64

def RowsSound (state : ControllerState) : Prop :=
  ∀ row ∈ state.allocations.rows, RowSound row

theorem rowsSound_preserved :
    Preserved plugin (fun state _ => RowsSound state) := by
  apply rows_preserved
  · intro allocateId newState row sound
    unfold setRowState
    split
    · exact ⟨sound.name, sound.nonempty, sound.ending⟩
    · exact sound
  · intro ctx _ _ _ _ _ _ placed answer
    refine ⟨?_, placed.nonempty, placed.progress⟩
    have written := copyCstr_validName placed.ready.validName
    simp only [AllocContext.row, written]
    exact placed.ready.validName

end Rows

section Path

/-- The name of a device path is what follows its directory. -/
theorem nameFits_copy {name : CString} (named : name ≠ [])
    (short : name.length ≤ Reqshim.maxDiskNameLen)
    (valid : name.all logicalDiskNameCharIsValid = true) :
    NameFits (copyCstr 64 ("/dev/ssu/".toList ++ name)).chars := by
  have limit : Reqshim.maxDiskNameLen ≤ 27 := by decide
  have lead : "/dev/ssu/".toList = "/dev/ssu".toList ++ ['/'] := by decide
  have size : "/dev/ssu/".toList.length = 9 := by decide
  have plain : '/' ∉ name := by
    intro member
    have accepted := List.all_eq_true.mp valid _ member
    revert accepted
    decide
  have whole : (copyCstr 64 ("/dev/ssu/".toList ++ name)).chars =
      "/dev/ssu".toList ++ '/' :: name := by
    rw [copyCstr_chars_of_fits]
    · rw [lead, List.append_assoc]
      rfl
    · rw [List.length_append, size]
      omega
  have base := afterLastSlash_append_slash "/dev/ssu".toList name plain
  rw [whole]
  exact {
    path := by simp
    named := by rwa [base]
    short := by rwa [base]
    valid := by rwa [base] }

theorem digit_isValid {char : Char} (digit : char.isDigit = true) :
    logicalDiskNameCharIsValid char = true := by
  simp only [Char.isDigit, Bool.and_eq_true, decide_eq_true_eq] at digit
  have bounds : '0' ≤ char ∧ char ≤ '9' := ⟨digit.1, digit.2⟩
  simp [logicalDiskNameCharIsValid, bounds]

/-- Every allocation has a path whose name ReqShim takes. -/
theorem nameFits_devicePath {cache : ApiCache} {state : ControllerState}
    (holds : PathsIdentify cache state) {row : ControllerAllocation}
    (active : row ∈ state.allocations.rows) (sound : RowSound row) :
    NameFits (devicePathOf row.info).chars := by
  have own := holds.ownPath row active
  simp only [hasOwnPath, Bool.or_eq_true, Bool.not_eq_true'] at own
  unfold devicePathOf System.ownPath defaultDevicePathForRequest
  split
  · rename_i named
    have named : row.info.diskName.chars ≠ [] := by
      simpa [isEmptyString] using named
    have valid := sound.name.resolve_left named
    simp only [allocationNameIsValid, Bool.and_eq_true, decide_eq_true_eq]
      at valid
    exact nameFits_copy named valid.1.2 valid.2
  · rename_i unnamed
    obtain ⟨index, parsed⟩ := Option.isSome_iff_exists.mp
      (own.resolve_left (by simpa using unnamed))
    have small : index < 10 ^ 10 :=
      (parsePrefixedU32_lt parsed).trans (by decide)
    have digits := length_decimal_le 10 (by decide) small
    have limit : Reqshim.maxDiskNameLen = 27 := rfl
    have lead : "/dev/ssu/ssu".toList = "/dev/ssu/".toList ++ "ssu".toList := by
      decide
    have size : "ssu".toList.length = 3 := by decide
    simp only [parsed, lead, List.append_assoc]
    apply nameFits_copy
    · exact List.append_ne_nil_of_left_ne_nil (by decide) _
    · rw [List.length_append, size, limit]
      omega
    · rw [List.all_append, Bool.and_eq_true]
      refine ⟨by decide, List.all_eq_true.mpr fun char member => ?_⟩
      exact digit_isValid (isDigit_of_mem_decimal member)

end Path

section Kernel

variable {kernel : KernelState} {logicalDev allocateId : CString}
  {specs : List MapSpec}

/-- With room in the kernel, the extents and the minor decide. -/
theorem mountLogdevForAllocate_ok_iff (some : specs ≠ [])
    (distinct : (specs.map MapSpec.logicalOffset).Nodup)
    (named : NameFits logicalDev) (owned : MapsOwned kernel)
    (room : kernel.maps.rows.length + specs.length ≤ maxMaps)
    (allowMissing : Bool) {device : CtlAnswer} (ready : device.Ready)
    (noError : device.blockLayer = none) :
    (mountLogdevForAllocate logicalDev allocateId specs allowMissing device
        kernel).1 = .ok ↔
      (∀ spec ∈ specs, SpecFits spec) ∧
        MinorFree kernel logicalDev allocateId := by
  unfold mountLogdevForAllocate MinorFree
  cases parsed : minorForAllocate logicalDev allocateId with
  | none => simp
  | some minor =>
      simp only [Option.mem_some_iff, exists_eq_left']
      constructor
      · intro accepted
        obtain ⟨_, entries, req, mounted⟩ := mountLogdevWithMinor_ok logicalDev
          minor specs allowMissing device kernel ready.1 accepted
        exact ⟨(buildEntries_checked mounted.built).1, mounted.small,
          mounted.free⟩
      · rintro ⟨fits, small, free⟩
        exact mountLogdevWithMinor_accepted some fits distinct named small free
          owned room allowMissing ready noError

/-- A vendor's mount table with room only passes the answer on. -/
theorem vendorMount_ok_iff {capacity : Nat} {tables : MountTables capacity}
    (hostId : CString) (allowMissing : Bool) (device : CtlAnswer)
    (unused : ∀ mount ∈ tables.mounts.rows,
      mount.logicalDev.chars ≠ logicalDev)
    (room : tables.mounts.rows.length < capacity) :
    (vendorMount true (.ok specs) allowMissing device allocateId hostId
        logicalDev tables).1 = .ok ↔
      (mountLogdevForAllocate logicalDev allocateId specs allowMissing device
        tables.kernel).1 = .ok := by
  have absent : tables.mounts.findRow (mountHasDev logicalDev) = none :=
    SlotTable.findRow_eq_none_iff.mpr (by simpa [mountHasDev] using unused)
  obtain ⟨slot, free⟩ := SlotTable.firstFree_isSome_of_room room
  simp only [vendorMount, absent, free, Bool.not_true, Bool.false_eq_true,
    Option.isSome_none, if_false]
  generalize mountLogdevForAllocate logicalDev allocateId specs allowMissing
    device tables.kernel = result
  obtain ⟨err, after⟩ := result
  cases err <;> simp

end Kernel

section Collect

variable {host : MockHost}

/-- A device that connects has a name. -/
theorem mockDevice_ne_nil {time : Nat} {ssuId : CBuf 64}
    (connects : (connectDev host time ssuId).1 = .ok) :
    (mockDevice host ssuId).chars ≠ [] := by
  have copied : ∀ source : CString, source ≠ [] →
      (copyCstr 64 source).chars ≠ [] := by
    intro source some
    simp [copyCstr, some]
  unfold connectDev at connects
  unfold mockDevice
  cases parsed : parseMockSsuId ssuId.chars with
  | none =>
      rw [parsed] at connects
      cases connects
  | some index =>
      simp only
      split
      · apply copied
        exact List.append_ne_nil_of_left_ne_nil (by decide) _
      · apply copied
        simp [backendPath]

theorem collectMapsLoop_connects (time : Nat) (rows : List MockNamespace)
    (connects : ∀ ns ∈ rows, (connectDev host time ns.ssuId).1 = .ok) :
    ∃ specs, collectMapsLoop host time rows = .ok specs := by
  induction rows with
  | nil => exact ⟨[], rfl⟩
  | cons ns rows induction =>
      obtain ⟨first, others⟩ := List.forall_mem_cons.mp connects
      obtain ⟨specs, collected⟩ := induction others
      cases answered : connectDev host time ns.ssuId with
      | mk err physDev =>
          rw [answered] at first
          cases first
          simp only [collectMapsLoop, answered, collected]
          exact ⟨_, rfl⟩

variable {state : ControllerState} {world : MockState} {requestId : CBuf 64}

theorem rowKeys_perm (same : (heldKeys state).Perm world.stored)
    (requestId : CBuf 64) :
    ((rowsOf state requestId).map rowKey).Perm
      ((world.namespaces.rows.filter
        (namespaceHasAllocate requestId.chars)).map MockNamespace.key) := by
  have own := same.filter (keyHasAllocate requestId.chars)
  rw [filter_heldKeys, MockState.stored, List.filter_map] at own
  exact own

/-- The namespaces of an allocation whose SSUs connect are the extents of its
rows. -/
theorem collect_connects (same : (heldKeys state).Perm world.stored)
    (some : rowsOf state requestId ≠ [])
    (connects : ∀ row ∈ rowsOf state requestId, ∀ time,
      (connectDev host time row.info.ssuId).1 = .ok) :
    ∃ specs, collectReqshimMaps host world requestId.chars = .ok specs ∧
      (((rowsOf state requestId).map rowKey).map
        (ExtentKey.mapOn (mockDevice host))).Perm specs := by
  have keys := rowKeys_perm same requestId
  obtain ⟨specs, collected⟩ := collectMapsLoop_connects world.clock
    (world.namespaces.rows.filter
      (namespaceHasAllocate requestId.chars)) (by
    intro ns member
    obtain ⟨row, own, named⟩ := List.mem_map.mp
      (keys.mem_iff.mpr (List.mem_map_of_mem member))
    have ssuId : row.info.ssuId = ns.ssuId := congrArg ExtentKey.ssuId named
    rw [← ssuId]
    exact connects row own world.clock)
  have shown := keys.map (ExtentKey.mapOn (mockDevice host))
  rw [← collectMapsLoop_ok host collected] at shown
  refine ⟨specs, ?_, shown⟩
  unfold collectReqshimMaps
  rw [collected]
  cases specs with
  | nil =>
      have none := shown.length_eq
      simp [some] at none
  | cons => rfl

/-- The extent of a row fits when its numbers do. -/
theorem specFits_iff {row : ControllerAllocation} (sound : RowSound row)
    {time : Nat} (connects : (connectDev host time row.info.ssuId).1 = .ok) :
    SpecFits (ExtentKey.mapOn (mockDevice host) (rowKey row)) ↔ ExtentMountable row := by
  constructor
  · intro fits
    exact ⟨fits.offset, fits.length, fits.nsNumber⟩
  · intro fits
    exact {
      physDev := mockDevice_ne_nil connects
      nonempty := sound.nonempty
      offset := fits.offset
      length := fits.length
      ending := sound.ending
      nsNumber := fits.nsNumber }

/-- What a mount of the mock plugin depends on, when every table has room. -/
theorem mockMount_ok_iff {device : CBuf 64} (hostId : CString)
    (ready : ∀ time, (host.ctl time).Ready)
    (noError : ∀ time, (host.ctl time).blockLayer = none)
    (same : (heldKeys state).Perm world.stored)
    (offsets : OffsetsDistinct (heldKeys state)) (sound : RowsSound state)
    (owned : MapsOwned world.tables.kernel)
    (some : rowsOf state requestId ≠ [])
    (connects : ∀ row ∈ rowsOf state requestId, ∀ time,
      (connectDev host time row.info.ssuId).1 = .ok)
    (named : NameFits device.chars)
    (unused : ∀ mount ∈ world.tables.mounts.rows,
      mount.logicalDev.chars ≠ device.chars)
    (mounts : world.tables.mounts.rows.length < mockMaxMounts)
    (maps : world.tables.kernel.maps.rows.length +
      (rowsOf state requestId).length ≤ maxMaps) :
    (mockMount host requestId.chars hostId device world).1 = .ok ↔
      (∀ row ∈ rowsOf state requestId, ExtentMountable row) ∧
        MinorFree world.tables.kernel device.chars requestId.chars := by
  obtain ⟨specs, collected, shown⟩ := collect_connects same some connects
  have listed : world.namespaces.rows.any
      (namespaceHasAllocate requestId.chars) = true := by
    obtain ⟨row, own⟩ := List.exists_mem_of_ne_nil _ some
    obtain ⟨ns, member, _⟩ := List.mem_map.mp
      ((rowKeys_perm same requestId).mem_iff.mp (List.mem_map_of_mem own))
    obtain ⟨stored, has⟩ := List.mem_filter.mp member
    exact List.any_eq_true.mpr ⟨ns, stored, has⟩
  have nonempty : specs ≠ [] := by
    rintro rfl
    have none := shown.length_eq
    simp [some] at none
  have distinct : (specs.map MapSpec.logicalOffset).Nodup := by
    have own := offsets.filter requestId.chars
    rw [filter_heldKeys] at own
    have moved := (shown.map MapSpec.logicalOffset).nodup_iff.mp
    rw [List.map_map] at moved
    exact moved own
  have room : world.tables.kernel.maps.rows.length + specs.length ≤
      maxMaps := by
    rw [← shown.length_eq, List.length_map, List.length_map]
    exact maps
  have fits : (∀ spec ∈ specs, SpecFits spec) ↔
      ∀ row ∈ rowsOf state requestId, ExtentMountable row := by
    have each : ∀ row ∈ rowsOf state requestId,
        (SpecFits (ExtentKey.mapOn (mockDevice host) (rowKey row)) ↔
          ExtentMountable row) := by
      intro row own
      exact specFits_iff (sound row (List.mem_filter.mp own).1)
        (connects row own 0)
    simp only [← shown.mem_iff, List.mem_map, forall_exists_index, and_imp,
      forall_apply_eq_imp_iff₂]
    exact forall₂_congr each
  simp only [mockMount, listed, collected]
  rw [vendorMount_ok_iff hostId true _ unused mounts,
    mountLogdevForAllocate_ok_iff nonempty distinct named owned room true
      (ready _) (noError _), fits]

end Collect

section Controller

variable {PluginState : Type} {plugin : SsuPluginOps PluginState}
  {connect : CBuf 64 → PluginState → (SsuErr × CBuf 64) × PluginState}

theorem connectExtents_connects {rows : List ControllerAllocation}
    {slots : List Nat} (room : rows.length ≤ slots.length)
    (connects : ∀ row ∈ rows, ∀ world,
      (connect row.info.ssuId world).1.1 = .ok) (world : PluginState) :
    ∃ connected middle,
      connectExtents connect rows slots world = (.ok connected, middle) := by
  induction rows generalizing slots world with
  | nil => exact ⟨[], world, rfl⟩
  | cons row rows induction =>
      cases slots with
      | nil => simp at room
      | cons slot slots =>
          obtain ⟨first, others⟩ := List.forall_mem_cons.mp connects
          have answered := first world
          cases called : connect row.info.ssuId world with
          | mk answer next =>
              obtain ⟨err, physDev⟩ := answer
              rw [called] at answered
              cases answered
              obtain ⟨connected, middle, rest⟩ := induction
                (Nat.le_of_succ_le_succ room) others next
              simp only [connectExtents, called, rest]
              exact ⟨_, _, rfl⟩

/-- With its own checks met, the controller passes the plugin's answer on. -/
theorem ssuControllerMount_granted {mount}
    (mounts : plugin.mount = some mount)
    (provided : plugin.connect = some connect) (req : SsuMountReq)
    {state : ControllerState} (world : PluginState)
    (id : req.allocateId ≠ []) (namedHost : req.hostId ≠ [])
    (namedDev : req.logicalDev.chars ≠ [])
    (some : state.allocations.rows.filter (rowHasId req.allocateId) ≠ [])
    (unused : ∀ logdev ∈ state.logdevs.rows,
      logdev.logicalDev.chars ≠ req.logicalDev.chars)
    (allowed : (∀ row ∈ state.allocations.rows.filter
        (rowHasId req.allocateId), row.info.shareType = .shared) ∨
      allocationHasLogdev state req.allocateId = false)
    (room : (state.allocations.rows.filter (rowHasId req.allocateId)).length ≤
      state.logdevs.freeSlots.length)
    (connects : ∀ row ∈ state.allocations.rows.filter (rowHasId req.allocateId),
      ∀ world, (connect row.info.ssuId world).1.1 = .ok) :
    ∃ middle, ConnectReach connect world middle ∧
      (ssuControllerMount plugin req state world).1 =
        (mount req.allocateId req.hostId req.logicalDev middle).1 := by
  obtain ⟨allocation, others, listed⟩ := List.exists_cons_of_ne_nil some
  have absent : findLogdevByDev state req.logicalDev.chars = none := by
    simpa [findLogdevByDev, logdevHasDev] using unused
  have named : (isEmptyString req.allocateId || isEmptyString req.hostId ||
      isEmptyString req.logicalDev.chars) = false := by
    simp [isEmptyString, id, namedHost, namedDev]
  rw [listed] at room connects allowed
  have unshared : ¬(allocation.info.shareType ≠ .shared ∧
      allocationHasLogdev state req.allocateId = true) := by
    rintro ⟨exclusive, mounted⟩
    rcases allowed with shared | unmounted
    · exact exclusive (shared allocation List.mem_cons_self)
    · rw [unmounted] at mounted
      cases mounted
  have slots : (allocation :: others).length ≤ (state.logdevs.freeSlots.take
      (allocation :: others).length).length := by
    rw [List.length_take]
    omega
  have reached := connectExtents_reach connect (allocation :: others)
    (state.logdevs.freeSlots.take (allocation :: others).length) world
  obtain ⟨connected, middle, ended⟩ :=
    connectExtents_connects slots connects world
  rw [ended] at reached
  refine ⟨middle, reached, ?_⟩
  simp only [ssuControllerMount, mounts, provided, named, listed, absent,
    if_neg unshared, ended, Nat.not_lt.mpr room, Bool.false_eq_true,
    Option.isSome_none, if_false]
  split <;> (rename_i answered; rw [answered])

end Controller

section Minors

variable {cache : ApiCache} {state : ControllerState} {world : MockState}

theorem minorForAllocate_number {number : Nat} (small : number < 2 ^ 32)
    (devicePath : CString) :
    minorForAllocate devicePath ("alloc-".toList ++ decimal number) =
      some number := by
  simp only [minorForAllocate, parseAllocateMinor, skipLead_append,
    Option.bind_some, strtoulU32_decimal small]

/-- While no number outgrows 32 bits, the minor of an allocation that is not
mounted is free, so only the size of the kernel's table matters. -/
theorem minorFree_iff (holds : DevicesMounted MockState.tables state world)
    (named : LogdevsNamed state) {requestId : CBuf 64}
    (active : ∃ row ∈ state.allocations.rows, row.info.allocateId = requestId)
    (unmounted : ¬IsMounted state requestId)
    (numbers : ∀ row ∈ state.allocations.rows,
      NumberBelow (2 ^ 32) row.info.allocateId) (devicePath : CString) :
    MinorFree world.tables.kernel devicePath requestId.chars ↔
      NumberBelow Kernel.maxLogdevs requestId := by
  obtain ⟨row, member, rfl⟩ := active
  obtain ⟨number, small, text⟩ := numbers row member
  have own := minorForAllocate_number small devicePath
  rw [← text] at own
  simp only [MinorFree, own, Option.mem_some_iff, exists_eq_left']
  constructor
  · rintro ⟨bound, _⟩
    exact ⟨number, bound, text⟩
  · rintro ⟨other, bound, same⟩
    have equal : number = other := by
      rw [text, List.append_cancel_left_eq] at same
      exact decimal_injective same
    subst equal
    refine ⟨bound, Option.not_isSome_iff_eq_none.mp fun live => ?_⟩
    -- A live device belongs to a mounted path of the same number.
    obtain ⟨mount, mounted, minor⟩ := holds.live number live
    obtain ⟨logdev, recorded, _, mine⟩ := holds.recorded mount mounted
    obtain ⟨owner, ownerMember, owned⟩ := named logdev recorded
    obtain ⟨found, foundSmall, foundText⟩ := numbers owner ownerMember
    have target := minorForAllocate_number foundSmall mount.logicalDev.chars
    rw [← foundText, owned, mine, minor, Option.some.injEq] at target
    refine unmounted ⟨logdev, recorded, ?_⟩
    rw [← owned]
    apply BoundedString.ext
    rw [foundText, text, target]

end Minors

section Api

variable {PluginState : Type} {plugin : SsuPluginOps PluginState}

theorem ControllerRun.invariant
    {invariant : ControllerState → PluginState → Prop}
    (preserved : Preserved plugin invariant) {world : PluginState}
    (initially : invariant .initial world)
    {current : ControllerState × PluginState}
    (reached : ControllerRun plugin (.initial, world) current) :
    invariant current.1 current.2 := by
  obtain ⟨ops, rfl⟩ := reached
  exact (preserved.run initially ops).2

/-- The path of an active allocation is not in use by another one. -/
theorem PathsIdentify.path_unmounted {cache : ApiCache}
    {state : ControllerState} (holds : PathsIdentify cache state)
    {row : ControllerAllocation} (active : row ∈ state.allocations.rows)
    (unmounted : ¬IsMounted state row.info.allocateId) :
    ∀ logdev ∈ state.logdevs.rows,
      logdev.logicalDev.chars ≠ (devicePathOf row.info).chars := by
  intro logdev member same
  apply unmounted
  exact ⟨logdev, member, holds.mounted logdev member row active
    (BoundedString.ext same)⟩

/-- The mount of an active allocation through the API is the plugin's. -/
theorem ssuApiMount_granted {mount connect} {current : ApiState PluginState}
    (mounts : plugin.mount = some mount)
    (provided : plugin.connect = some connect)
    (holds : PathsIdentify current.cache current.controller)
    {row : ControllerAllocation}
    (active : row ∈ current.controller.allocations.rows)
    (unmounted : ¬IsMounted current.controller row.info.allocateId)
    {hostId : CString} (namedHost : hostId ≠ [])
    (room : (rowsOf current.controller row.info.allocateId).length ≤
      current.controller.logdevs.freeSlots.length)
    (connects : ∀ own ∈ rowsOf current.controller row.info.allocateId,
      ∀ world, (connect own.info.ssuId world).1.1 = .ok) :
    ∃ middle, ConnectReach connect current.world middle ∧
      (ssuApiMount plugin (devicePathOf row.info).chars hostId current).1 =
        (mount row.info.allocateId.chars hostId (devicePathOf row.info)
          middle).1 := by
  obtain ⟨number, numbered⟩ := holds.idNumber row active
  have id : row.info.allocateId.chars ≠ [] := by
    rw [numbered]
    exact autoAllocateId_ne_nil number
  have namedDev : (devicePathOf row.info).chars ≠ [] := ownPath_ne_nil _ _
  have some : rowsOf current.controller row.info.allocateId ≠ [] :=
    List.ne_nil_of_mem (List.mem_filter.mpr ⟨active, rowHasId_iff.mpr rfl⟩)
  obtain ⟨middle, reached, answered⟩ := ssuControllerMount_granted mounts
    provided { allocateId := row.info.allocateId.chars
               hostId
               logicalDev := devicePathOf row.info } current.world id namedHost namedDev some
    (holds.path_unmounted active unmounted)
    (.inr (Bool.eq_false_iff.mpr (mt allocationHasLogdev_iff.mp unmounted)))
    room connects
  refine ⟨middle, reached, ?_⟩
  rw [← answered]
  have present : (isEmptyString row.info.allocateId.chars ||
      isEmptyString hostId ||
      isEmptyString (devicePathOf row.info).chars) = false := by
    simp [isEmptyString, id, namedHost, namedDev]
  have asked : (isEmptyString (devicePathOf row.info).chars ||
      isEmptyString hostId) = false := by
    simp [isEmptyString, namedHost, namedDev]
  simp only [ssuApiMount, asked, holds.resolve active, ssuResourceMount,
    copyCstr_chars_self, present, Bool.false_eq_true, if_false]
  split <;> (rename_i result; rw [result])

end Api

section Mountable

theorem tables_of_connectReach {host : MockHost} {before after : MockState}
    (reached : ConnectReach (mockConnect host) before after) :
    after.tables = before.tables := by
  induction reached with
  | refl => rfl
  | tail _ called induction =>
      obtain ⟨ssuId, rfl⟩ := called
      exact induction

/-- In every state of every run in which each new allocation takes an unused
path and the namespace ids have not wrapped: with slots in every table and
SSUs that connect, an allocation that is not mounted is told a path whose
mount returns `SSU_OK` if and only if its extents are mountable and its minor
is free.  While no allocation number outgrows 32 bits, the minor is free if
and only if the number is below the size of the kernel's table. -/
theorem allocation_mountable_iff (host : MockHost)
    (ready : ∀ time, (host.ctl time).Ready)
    (noError : ∀ time, (host.ctl time).blockLayer = none) (ops : List ApiOp)
    (admissible : Transition.Admissible (apiStep (mockPlugin host))
      (TakesUnusedPath (mockPlugin host)) (.initial .initial) ops)
    (hostId : CString) (namedHost : hostId ≠ []) :
    let current := Transition.run (apiStep (mockPlugin host))
      (.initial .initial) ops
    IdsUnwrapped current.world →
      ∀ row ∈ current.controller.allocations.rows,
        MountGranted host current row.info.allocateId →
          let answer :=
            ssuApiAllocateResultGet row.info.allocateId.chars current
          answer.1.status = .ok ∧
            ((ssuApiMount (mockPlugin host) answer.1.devicePath.chars hostId
                answer.2).1 = .ok ↔
              (∀ own ∈ rowsOf current.controller row.info.allocateId,
                  ExtentMountable own) ∧
                MinorFree current.world.tables.kernel
                  (devicePathOf row.info).chars row.info.allocateId.chars) ∧
              ((∀ other ∈ current.controller.allocations.rows,
                  NumberBelow (2 ^ 32) other.info.allocateId) →
                (MinorFree current.world.tables.kernel
                    (devicePathOf row.info).chars row.info.allocateId.chars ↔
                  NumberBelow Kernel.maxLogdevs row.info.allocateId)) := by
  intro current unwrapped row active granted answer
  obtain ⟨reached, holds⟩ :
      ControllerRun (mockPlugin host) (.initial, .initial) current.system ∧
        PathsIdentify current.cache current.controller :=
    pathsIdentify_run (mockPlugin host) .initial admissible
  have mounts := reached.mountState
  have namespaces := mock_namespacePlugin host
  have mirrored := ControllerRun.invariant
    (extentsMirrored_preserved namespaces (mock_namesNew host))
    (extentsMirrored_initial rfl) reached
  have offsets := ControllerRun.invariant (offsetsDistinct_preserved namespaces)
    (by rw [heldKeys_initial]; exact ⟨nofun, .nil⟩) reached
  have sound := ControllerRun.invariant rowsSound_preserved nofun reached
  have devices := ControllerRun.invariant
    (devicesMounted_preserved (mock_vendorPlugin host)
      fun world => (ready world.clock).1)
    (devicesMounted_initial _ _ rfl) reached
  obtain ⟨_, nextDeviceIndex, answered⟩ := resultGet_eq holds active
  have same : (heldKeys current.controller).Perm current.world.stored :=
    (mirrored.mirrored unwrapped).part.perm_of_length_le
      (mirrored.counted unwrapped (mock_deletesReliably host)).le
  have unused : ∀ mount ∈ current.world.tables.mounts.rows,
      mount.logicalDev.chars ≠ (devicePathOf row.info).chars := by
    intro mount member path
    obtain ⟨logdev, recorded, device⟩ := devices.known mount member
    exact holds.path_unmounted active granted.unmounted logdev recorded
      ((congrArg _ device).trans path)
  have provided : (mockPlugin host).connect = some (mockConnect host) := rfl
  let later : ApiState MockState :=
    { current with cache := { current.cache with nextDeviceIndex } }
  have identify : PathsIdentify later.cache later.controller :=
    holds.withIndex nextDeviceIndex
  obtain ⟨middle, connected, asked⟩ := ssuApiMount_granted rfl provided
    identify active granted.unmounted namedHost granted.logdevs
    fun own member world => granted.connects own member world.clock
  have tables := tables_of_connectReach connected
  have stored := stored_of_connectReach namespaces provided connected
  have decided := mockMount_ok_iff hostId ready noError (stored ▸ same) offsets
    sound (tables ▸ devices.owned) (List.ne_nil_of_mem
      (List.mem_filter.mpr ⟨active, rowHasId_iff.mpr rfl⟩)) granted.connects
    (nameFits_devicePath holds active (sound row active)) (tables ▸ unused)
    (tables ▸ granted.mounts) (tables ▸ granted.maps)
  simp only [answer, answered, true_and]
  refine ⟨?_, ?_⟩
  · rw [asked]
    rw [tables] at decided
    exact decided
  · intro numbers
    exact minorFree_iff devices mounts.named ⟨row, active, rfl⟩
      granted.unmounted numbers _

theorem twoMockSsus_connects (time : Nat) :
    ∀ ssuId ∈ [mockSsuId 0, mockSsuId 1],
      (connectDev twoMockSsus time ssuId).1 = .ok := by
  intro ssuId member
  rcases List.mem_cons.mp member with rfl | member
  · rfl
  · rcases List.mem_singleton.mp member with rfl
    rfl

/-- On the two mock SSUs, only the tables have to be looked at. -/
theorem granted_of_tables {current : ApiState MockState} {requestId : CBuf 64}
    (tables : ¬IsMounted current.controller requestId ∧
      (rowsOf current.controller requestId).length ≤
        current.controller.logdevs.freeSlots.length ∧
      current.world.tables.mounts.rows.length < mockMaxMounts ∧
      current.world.tables.kernel.maps.rows.length +
        (rowsOf current.controller requestId).length ≤ maxMaps ∧
      ∀ row ∈ rowsOf current.controller requestId,
        row.info.ssuId ∈ [mockSsuId 0, mockSsuId 1]) :
    MountGranted twoMockSsus current requestId := by
  obtain ⟨unmounted, logdevs, mounts, maps, ssuIds⟩ := tables
  exact
    { unmounted, logdevs, mounts, maps
      connects := fun row own time =>
        twoMockSsus_connects time _ (ssuIds row own) }

/-- 4096 bytes on one disk. -/
def alignedAllocation : List ApiOp := [.allocate (apiRequest 4096 [])]

theorem alignedAllocation_id :
    ∀ row ∈ (Transition.run (apiStep (mockPlugin twoMockSsus))
      (.initial .initial) alignedAllocation).controller.allocations.rows,
      row.info.allocateId = copyCstr 64 "alloc-0".toList ∧
        devicePathOf row.info = copyCstr 64 "/dev/ssu/ssu0".toList := by
  decide +kernel

theorem allocation_mountable_aligned :
    let current := Transition.run (apiStep (mockPlugin twoMockSsus))
      (.initial .initial) alignedAllocation
    current.controller.allocations.rows.length = 1 ∧
      ∀ row ∈ current.controller.allocations.rows,
        let answer := ssuApiAllocateResultGet row.info.allocateId.chars current
        (ssuApiMount (mockPlugin twoMockSsus) answer.1.devicePath.chars
          "host0".toList answer.2).1 = .ok := by
  refine ⟨by decide +kernel, fun row active => ?_⟩
  obtain ⟨id, path⟩ := alignedAllocation_id row active
  apply (allocation_mountable_iff twoMockSsus (fun _ => ⟨rfl, rfl⟩)
    (fun _ => rfl) alignedAllocation (by decide +kernel) "host0".toList
    (by decide) (by decide +kernel) row active ?_).2.1.mpr
  · rw [id, path]
    decide +kernel
  · rw [id]
    exact granted_of_tables (by decide +kernel)

/-- 1000 bytes are no whole number of sectors: the allocation succeeds, and
its mount fails with every slot free. -/
theorem unaligned_not_mountable :
    let plugin := mockPlugin twoMockSsus
    let allocated := ssuApiAllocate plugin (apiRequest 1000 [])
      (.initial .initial)
    let answer := ssuApiAllocateResultGet allocated.1.2.chars allocated.2
    (∀ time, (twoMockSsus.ctl time).Ready) ∧ allocated.1.1 = .ok ∧
      MountGranted twoMockSsus allocated.2 allocated.1.2 ∧
      answer.1.status = .ok ∧
      (ssuApiMount plugin answer.1.devicePath.chars "host0".toList
        answer.2).1 = .invalid := by
  refine ⟨fun _ => ⟨rfl, rfl⟩, by decide +kernel, ?_, by decide +kernel,
    by decide +kernel⟩
  exact granted_of_tables (by decide +kernel)

end Mountable

end UbseSsu.System

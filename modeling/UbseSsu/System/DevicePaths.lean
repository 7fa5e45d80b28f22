import UbseSsu.Api.Outcomes
import UbseSsu.Plugin.Mock

/-!
# Device paths identify allocations

A device path is made from the disk name or from the number in the allocation
id, and four lookups turn it back into an id.  `PathsIdentify` says that the
cache holds exactly the paths of the active allocations and that these are
all different; as long as no new allocation takes a path that is in use, it
survives every call of the API.
-/

namespace UbseSsu.System

open Controller Api Plugin

variable {PluginState : Type}

section Paths

theorem parseU32Digits_lt {value number : Nat} {text : CString}
    (small : value < 2 ^ 32)
    (parsed : parseU32Digits value text = some number) :
    number < 2 ^ 32 := by
  induction text generalizing value with
  | nil =>
      simp only [parseU32Digits, Option.some.injEq] at parsed
      exact parsed ▸ small
  | cons char rest induction =>
      simp only [parseU32Digits] at parsed
      split at parsed
      · split at parsed
        · contradiction
        · rename_i bounded
          exact induction (Nat.lt_of_not_le bounded) parsed
      · contradiction

theorem parsePrefixedU32_lt {text lead : CString} {number : Nat}
    (parsed : parsePrefixedU32 text lead = some number) :
    number < 2 ^ 32 := by
  unfold parsePrefixedU32 at parsed
  split at parsed
  · contradiction
  · contradiction
  · exact parseU32Digits_lt (by decide) parsed

/-- The path is made from the name or the id alone, not from the counter. -/
def hasOwnPath (requestId diskName : CString) : Bool :=
  !isEmptyString diskName ||
    (parsePrefixedU32 requestId "alloc-".toList).isSome

def ownPath (requestId diskName : CString) : CBuf 64 :=
  (defaultDevicePathForRequest requestId diskName 0).1

def devicePathOf (info : SsuAllocationInfo) : CBuf 64 :=
  ownPath info.allocateId.chars info.diskName.chars

theorem defaultDevicePath_own {requestId diskName : CString}
    (own : hasOwnPath requestId diskName = true) (nextDeviceIndex : UInt32) :
    (defaultDevicePathForRequest requestId diskName nextDeviceIndex).1 =
      ownPath requestId diskName := by
  simp only [hasOwnPath, Bool.or_eq_true] at own
  unfold ownPath defaultDevicePathForRequest
  split
  · rfl
  · rename_i unnamed
    obtain ⟨index, parsed⟩ :=
      Option.isSome_iff_exists.mp (own.resolve_left unnamed)
    simp only [parsed]

theorem ownPath_ne_nil (requestId diskName : CString) :
    (ownPath requestId diskName).chars ≠ [] := by
  unfold ownPath defaultDevicePathForRequest
  split
  · simp [copyCstr]
  · split <;> simp [copyCstr]

/-- Such a path is never cut off, and never fills its field. -/
theorem length_ownPath_lt {requestId diskName : CString}
    (own : hasOwnPath requestId diskName = true)
    (short : diskName.length ≤ maxDiskNameLen) :
    (ownPath requestId diskName).chars.length < 63 := by
  have limit : maxDiskNameLen ≤ 27 := by decide
  simp only [hasOwnPath, Bool.or_eq_true] at own
  unfold ownPath defaultDevicePathForRequest
  split
  · have lead : "/dev/ssu/".toList.length = 9 := by decide
    rw [copyCstr_chars_of_fits] <;> rw [List.length_append, lead] <;> omega
  · rename_i unnamed
    obtain ⟨index, parsed⟩ :=
      Option.isSome_iff_exists.mp (own.resolve_left unnamed)
    have small : index < 10 ^ 10 :=
      (parsePrefixedU32_lt parsed).trans (by decide)
    have digits := length_decimal_le 10 (by decide) small
    have lead : "/dev/ssu/ssu".toList.length = 12 := by decide
    simp only [parsed]
    rw [copyCstr_chars_of_fits] <;> rw [List.length_append, lead] <;> omega

end Paths

/-- The cache holds one path for each active allocation, no path serves two
of them, and mounted devices follow the paths. -/
structure PathsIdentify (cache : ApiCache) (state : ControllerState) :
    Prop where
  cached : ∀ row ∈ state.allocations.rows,
    ∃ request ∈ cache.requests.rows, request.requestId = row.info.allocateId
  issued : ∀ request ∈ cache.requests.rows,
    ∃ row ∈ state.allocations.rows, row.info.allocateId = request.requestId ∧
      devicePathOf row.info = request.devicePath
  slotOfOne : (cache.requests.rows.map ApiRequest.requestId).Nodup
  pathOfOne : ∀ left ∈ state.allocations.rows,
    ∀ right ∈ state.allocations.rows,
      devicePathOf left.info = devicePathOf right.info →
        left.info.allocateId = right.info.allocateId
  nameOfId : ∀ left ∈ state.allocations.rows,
    ∀ right ∈ state.allocations.rows,
      left.info.allocateId = right.info.allocateId →
        left.info.diskName = right.info.diskName
  idNumber : ∀ row ∈ state.allocations.rows,
    ∃ number, row.info.allocateId = autoAllocateId number
  ownPath : ∀ row ∈ state.allocations.rows,
    hasOwnPath row.info.allocateId.chars row.info.diskName.chars = true
  short : ∀ row ∈ state.allocations.rows,
    row.info.diskName.chars.length ≤ maxDiskNameLen
  mounted : ∀ logdev ∈ state.logdevs.rows,
    ∀ row ∈ state.allocations.rows,
      logdev.logicalDev = devicePathOf row.info →
        logdev.allocateId = row.info.allocateId

theorem pathsIdentify_initial :
    PathsIdentify .initial ControllerState.initial := by
  constructor <;> simp [ControllerState.initial, ApiCache.initial]

namespace PathsIdentify

variable {cache : ApiCache} {state : ControllerState}

section Lookups

variable (holds : PathsIdentify cache state) {row : ControllerAllocation}
  (active : row ∈ state.allocations.rows)
include holds active

theorem samePath {other : ControllerAllocation}
    (member : other ∈ state.allocations.rows)
    (same : other.info.allocateId = row.info.allocateId) :
    devicePathOf other.info = devicePathOf row.info := by
  have name := holds.nameOfId other member row active same
  simp only [devicePathOf, same, name]

theorem path_of_request {request : ApiRequest}
    (stored : request ∈ cache.requests.rows)
    (same : request.requestId = row.info.allocateId) :
    request.devicePath = devicePathOf row.info := by
  obtain ⟨other, member, own, path⟩ := holds.issued request stored
  rw [← path]
  exact holds.samePath active member (own.trans same)

/-- The slot of an active allocation is found, with its path in it. -/
theorem findRequestById_eq :
    ∃ slot, cache.requests.get slot =
        some ⟨row.info.allocateId, devicePathOf row.info⟩ ∧
      findRequestById row.info.allocateId.chars cache =
        some (slot, ⟨row.info.allocateId, devicePathOf row.info⟩) := by
  obtain ⟨request, stored, same⟩ := holds.cached row active
  cases found : findRequestById row.info.allocateId.chars cache with
  | none =>
      have skipped := SlotTable.findRow_eq_none_iff.mp found request stored
      simp [requestHasId, same] at skipped
  | some entry =>
      obtain ⟨slot, content⟩ := entry
      obtain ⟨held, owned⟩ := SlotTable.findRow_eq_some found
      have own : content.requestId = row.info.allocateId :=
        BoundedString.ext (of_decide_eq_true owned)
      have path := holds.path_of_request active
        (SlotTable.mem_rows_of_get held) own
      have whole : content =
          ⟨row.info.allocateId, devicePathOf row.info⟩ := by
        cases content
        simp only at own path
        rw [own, path]
      rw [whole] at held
      exact ⟨slot, held, by rw [whole]⟩

/-- The cached lookup of its path finds the allocation too. -/
theorem findRequestByDevice_eq :
    ∃ slot request,
      findRequestByDevice (devicePathOf row.info).chars cache =
          some (slot, request) ∧ request.requestId = row.info.allocateId := by
  obtain ⟨owner, stored, same⟩ := holds.cached row active
  have path := holds.path_of_request active stored same
  cases found : findRequestByDevice (devicePathOf row.info).chars cache with
  | none =>
      have skipped := SlotTable.findRow_eq_none_iff.mp found owner stored
      simp [requestHasDevice, path] at skipped
  | some entry =>
      obtain ⟨slot, request⟩ := entry
      obtain ⟨held, reached⟩ := SlotTable.findRow_eq_some found
      obtain ⟨other, member, own, issued⟩ :=
        holds.issued request (SlotTable.mem_rows_of_get held)
      have device : request.devicePath = devicePathOf row.info :=
        BoundedString.ext (of_decide_eq_true reached)
      refine ⟨slot, request, rfl, ?_⟩
      rw [← own]
      exact holds.pathOfOne other member row active (issued.trans device)

/-- The first two lookups decide: a mounted path belongs to its allocation,
and otherwise the cache knows the path. -/
theorem resolve :
    requestIdFromDevicePath state (devicePathOf row.info).chars cache =
      (.ok row.info.allocateId, cache) := by
  have present : isEmptyString (devicePathOf row.info).chars = false := by
    simp [isEmptyString, devicePathOf, ownPath_ne_nil]
  obtain ⟨slot, request, found, same⟩ := holds.findRequestByDevice_eq active
  have known : allocationExists state row.info.allocateId.chars = true :=
    allocationExists_iff.mpr ⟨row, active, rfl⟩
  unfold requestIdFromDevicePath
  cases looked : logdevRequestId state (devicePathOf row.info).chars with
  | some requestId =>
      rw [logdevRequestId_eq] at looked
      obtain ⟨logdev, device, rfl⟩ := Option.map_eq_some_iff.mp looked
      obtain ⟨member, path⟩ := findLogdevByDev_some device
      have owner := holds.mounted logdev member row active
        (BoundedString.ext path)
      simp only [present, Bool.false_eq_true, if_false, owner]
  | none =>
      simp only [present, Bool.false_eq_true, if_false, found,
        Option.filter_some, same, known, if_true]

/-- Registering an active allocation again rewrites its slot with what it
holds, so at most the counter moves. -/
theorem register {diskName : CString}
    (name : diskName = [] ∨ diskName = row.info.diskName.chars) :
    ∃ nextDeviceIndex,
      registerRequestPathWithName state row.info.allocateId.chars diskName
          cache =
        (some (devicePathOf row.info), { cache with nextDeviceIndex }) := by
  obtain ⟨number, numbered⟩ := holds.idNumber row active
  have nonempty : row.info.allocateId.chars ≠ [] := by
    rw [numbered]
    exact autoAllocateId_ne_nil number
  have queried := allocationDiskName_eq active nonempty
    (fun other member same => holds.nameOfId other member row active same)
  have effective : (if isEmptyString diskName then
      allocationDiskName state row.info.allocateId.chars else diskName) =
        row.info.diskName.chars := by
    rcases name with rfl | rfl
    · rw [if_pos (by rfl), queried]
    · split
      · exact queried
      · rfl
  obtain ⟨slot, held, found⟩ := holds.findRequestById_eq active
  have path : (defaultDevicePathForRequest row.info.allocateId.chars
      row.info.diskName.chars cache.nextDeviceIndex).1 =
        devicePathOf row.info :=
    defaultDevicePath_own (holds.ownPath row active) cache.nextDeviceIndex
  have rewritten := SlotTable.put_of_get held
  refine ⟨(defaultDevicePathForRequest row.info.allocateId.chars
    row.info.diskName.chars cache.nextDeviceIndex).2, ?_⟩
  simp only [registerRequestPathWithName, effective, found, path, rewritten]

end Lookups

/-- Whatever path is looked up, the id found is active and at most the
counter of the cache moves. -/
theorem lookup (holds : PathsIdentify cache state) (named : LogdevsNamed state)
    (devicePath : CString) :
    ∃ answer nextDeviceIndex,
      requestIdFromDevicePath state devicePath cache =
          (answer, { cache with nextDeviceIndex }) ∧
        ∀ requestId, answer = .ok requestId →
          ∃ row ∈ state.allocations.rows,
            row.info.allocateId = requestId := by
  have looked := requestIdFromDevicePath_lookup state devicePath cache
  generalize requestIdFromDevicePath state devicePath cache = result at looked
  cases looked with
  | unknown _ =>
      exact ⟨_, cache.nextDeviceIndex, rfl, fun _ failed => by cases failed⟩
  | @mounted logdev member =>
      refine ⟨_, cache.nextDeviceIndex, rfl, fun requestId same => ?_⟩
      cases same
      exact named logdev member
  | @cached row active =>
      refine ⟨_, cache.nextDeviceIndex, rfl, fun requestId same => ?_⟩
      cases same
      exact ⟨row, active, rfl⟩
  | @registered row diskName active name =>
      obtain ⟨nextDeviceIndex, registered⟩ := holds.register active name
      rw [registered]
      refine ⟨_, nextDeviceIndex, rfl, fun requestId same => ?_⟩
      cases same
      exact ⟨row, active, rfl⟩

theorem withIndex (holds : PathsIdentify cache state)
    (nextDeviceIndex : UInt32) :
    PathsIdentify { cache with nextDeviceIndex } state :=
  ⟨holds.cached, holds.issued, holds.slotOfOne, holds.pathOfOne,
    holds.nameOfId, holds.idNumber, holds.ownPath, holds.short, holds.mounted⟩

/-- Rows may go or change their state, and slots may go with them; a new
device must not carry another allocation's path. -/
theorem narrow (holds : PathsIdentify cache state) {left : ApiCache}
    {after : ControllerState}
    (slots : left.requests.rows.Sublist cache.requests.rows)
    (rows : ∀ row ∈ after.allocations.rows, ∃ old ∈ state.allocations.rows,
      old.info.allocateId = row.info.allocateId ∧
        old.info.diskName = row.info.diskName)
    (kept : ∀ row ∈ after.allocations.rows,
      ∃ request ∈ left.requests.rows,
        request.requestId = row.info.allocateId)
    (owned : ∀ request ∈ left.requests.rows,
      ∃ row ∈ after.allocations.rows,
        row.info.allocateId = request.requestId)
    (devices : ∀ logdev ∈ after.logdevs.rows, logdev ∈ state.logdevs.rows ∨
      ∀ row ∈ state.allocations.rows,
        logdev.logicalDev = devicePathOf row.info →
          logdev.allocateId = row.info.allocateId) :
    PathsIdentify left after := by
  have paths : ∀ old row : ControllerAllocation,
      old.info.allocateId = row.info.allocateId →
        old.info.diskName = row.info.diskName →
          devicePathOf old.info = devicePathOf row.info := by
    intro old row sameId sameName
    simp only [devicePathOf, sameId, sameName]
  constructor
  · exact kept
  · intro request stored
    obtain ⟨row, member, own⟩ := owned request stored
    obtain ⟨old, active, sameId, sameName⟩ := rows row member
    refine ⟨row, member, own, ?_⟩
    rw [← paths old row sameId sameName]
    exact (holds.path_of_request active (slots.subset stored)
      (own.symm.trans sameId.symm)).symm
  · exact holds.slotOfOne.sublist (slots.map _)
  · intro first firstMember second secondMember same
    obtain ⟨left, leftActive, leftId, leftName⟩ := rows first firstMember
    obtain ⟨right, rightActive, rightId, rightName⟩ :=
      rows second secondMember
    rw [← leftId, ← rightId]
    apply holds.pathOfOne left leftActive right rightActive
    rw [paths left first leftId leftName, paths right second rightId rightName]
    exact same
  · intro first firstMember second secondMember same
    obtain ⟨left, leftActive, leftId, leftName⟩ := rows first firstMember
    obtain ⟨right, rightActive, rightId, rightName⟩ :=
      rows second secondMember
    rw [← leftName, ← rightName]
    apply holds.nameOfId left leftActive right rightActive
    rw [leftId, rightId]
    exact same
  · intro row member
    obtain ⟨old, active, sameId, _⟩ := rows row member
    rw [← sameId]
    exact holds.idNumber old active
  · intro row member
    obtain ⟨old, active, sameId, sameName⟩ := rows row member
    rw [← sameId, ← sameName]
    exact holds.ownPath old active
  · intro row member
    obtain ⟨old, active, _, sameName⟩ := rows row member
    rw [← sameName]
    exact holds.short old active
  · intro logdev device row member same
    obtain ⟨old, active, sameId, sameName⟩ := rows row member
    rw [← paths old row sameId sameName] at same
    rw [← sameId]
    rcases devices logdev device with known | new
    · exact holds.mounted logdev known old active same
    · exact new old active same

theorem of_sameTables (holds : PathsIdentify cache state)
    {after : ControllerState} (same : SameTables state after) :
    PathsIdentify cache after := by
  apply holds.narrow
  · exact .refl _
  · intro row member
    rw [same.allocations] at member
    exact ⟨row, member, rfl, rfl⟩
  · rw [same.allocations]
    exact holds.cached
  · intro request stored
    obtain ⟨row, member, own, _⟩ := holds.issued request stored
    exact ⟨row, same.allocations ▸ member, own⟩
  · intro logdev device
    exact .inl (same.logdevs ▸ device)

end PathsIdentify

section Creation

/-- A new allocation with its rows; everything else is as before. -/
structure RowsAdded (state after : ControllerState) (allocateId : CBuf 64)
    (diskName : CString) : Prop where
  rows : ∀ row, row ∈ after.allocations.rows →
    row ∈ state.allocations.rows ∨ row.info.allocateId = allocateId ∧
      row.info.diskName.chars = diskName
  kept : ∀ row ∈ state.allocations.rows, row ∈ after.allocations.rows
  some : ∃ row ∈ after.allocations.rows, row.info.allocateId = allocateId
  longer : state.allocations.rows.length < after.allocations.rows.length
  fresh : ∀ row ∈ state.allocations.rows, row.info.allocateId ≠ allocateId
  logdevs : after.logdevs = state.logdevs
  unmounted : ∀ logdev ∈ state.logdevs.rows, logdev.allocateId ≠ allocateId
  idNumber : ∃ number, allocateId = autoAllocateId number
  short : diskName.length ≤ maxDiskNameLen

theorem length_le_of_validName {diskName : CString}
    (valid : allocationNameIsValid diskName = true) :
    diskName.length ≤ maxDiskNameLen := by
  simp only [allocationNameIsValid, Bool.and_eq_true, decide_eq_true_eq]
    at valid
  exact valid.1.2

theorem rowsAdded_of_run
    {createNs : SsuExtentCreateReq → PluginState → CreateNsAnswer × PluginState}
    {req : SsuAllocReq} {state before : ControllerState} {ctx : AllocContext}
    {number : UInt64} {selected : List Nat} {world : PluginState}
    {entries : List (Nat × ControllerAllocation)}
    {last : ControllerState × PluginState} (named : LogdevsNamed state)
    (same : SameTables state before)
    (plan : AllocPlan req before ctx number selected)
    (run : ExtentRun createNs ctx selected 0 0 (numbered before number, world)
      entries last) :
    RowsAdded state (advanced last.1) ctx.allocateId req.diskName := by
  have rows : (advanced last.1).allocations.rows.Perm
      (entries.map Prod.snd ++ state.allocations.rows) := by
    rw [← same.allocations]
    exact run.rows_perm
  have count := run.length_entries
  have positive := plan.positive
  have valid : req.diskName = [] ∨ allocationNameIsValid req.diskName = true :=
    plan.name.imp id And.left
  have written : ∀ entry ∈ entries,
      entry.2.info.allocateId = ctx.allocateId ∧
        entry.2.info.diskName.chars = req.diskName := by
    intro entry member
    have own := run.written entry member
    refine ⟨own.allocateId, ?_⟩
    rw [own.diskName, plan.request, copyCstr_validName valid]
  constructor
  · intro row member
    rcases List.mem_append.mp (rows.mem_iff.mp member) with new | old
    · obtain ⟨entry, placed, rfl⟩ := List.mem_map.mp new
      exact .inr (written entry placed)
    · exact .inl old
  · intro row member
    exact rows.mem_iff.mpr (List.mem_append.mpr (.inr member))
  · obtain ⟨entry, placed⟩ :=
      List.exists_mem_of_length_pos (count ▸ positive)
    refine ⟨entry.2, rows.mem_iff.mpr ?_, (written entry placed).1⟩
    exact List.mem_append.mpr (.inl (List.mem_map_of_mem placed))
  · rw [rows.length_eq, List.length_append, List.length_map]
    omega
  · intro row member
    exact plan.unused (same.allocations ▸ member)
  · exact run.logdevs.trans same.logdevs
  · intro logdev member
    apply plan.unmounted (same.named named)
    rw [same.logdevs]
    exact member
  · exact ⟨number, plan.allocateId⟩
  · rcases valid with unnamed | valid
    · simp [unnamed]
    · exact length_le_of_validName valid

/-- No allocation and no mounted device has the path of a new allocation. -/
def PathUnused (state : ControllerState) (requestId diskName : CString) :
    Prop :=
  (∀ row ∈ state.allocations.rows,
    devicePathOf row.info ≠ ownPath requestId diskName) ∧
  ∀ logdev ∈ state.logdevs.rows,
    logdev.logicalDev ≠ ownPath requestId diskName

instance decidablePathUnused (state : ControllerState)
    (requestId diskName : CString) :
    Decidable (PathUnused state requestId diskName) :=
  inferInstanceAs (Decidable ((∀ row ∈ state.allocations.rows, _) ∧
    ∀ logdev ∈ state.logdevs.rows, _))

variable {cache : ApiCache} {state after : ControllerState}
  {allocateId : CBuf 64} {diskName : CString}

/-- Each slot belongs to another active allocation, so there are no more
slots in use than rows. -/
theorem PathsIdentify.length_requests_le
    (holds : PathsIdentify cache state) :
    cache.requests.rows.length ≤ state.allocations.rows.length := by
  have covered : cache.requests.rows.map ApiRequest.requestId ⊆
      state.allocations.rows.map fun row => row.info.allocateId := by
    intro requestId member
    obtain ⟨request, stored, rfl⟩ := List.mem_map.mp member
    obtain ⟨row, active, own, _⟩ := holds.issued request stored
    exact List.mem_map.mpr ⟨row, active, own⟩
  have counted := (holds.slotOfOne.subperm covered).length_le
  simpa only [List.length_map] using counted

/-- A new allocation always finds a slot of its own. -/
theorem PathsIdentify.register_new (holds : PathsIdentify cache state)
    (added : RowsAdded state after allocateId diskName) :
    ∃ slot, slot < apiMaxRequests ∧ cache.requests.get slot = none ∧
      registerRequestPathWithName after allocateId.chars diskName cache =
        let registered := defaultDevicePathForRequest allocateId.chars diskName
          cache.nextDeviceIndex
        (some registered.1,
          { requests := cache.requests.put slot
              { requestId := allocateId, devicePath := registered.1 }
            nextDeviceIndex := registered.2 }) := by
  have unknown : findRequestById allocateId.chars cache = none := by
    refine SlotTable.findRow_eq_none_iff.mpr fun request stored => ?_
    obtain ⟨row, active, own, _⟩ := holds.issued request stored
    have other := added.fresh row active
    simp only [requestHasId, decide_eq_false_iff_not]
    intro same
    exact other (own.trans (BoundedString.ext same))
  have room : cache.requests.rows.length < apiMaxRequests := by
    have few := holds.length_requests_le
    have longer := added.longer
    have bound := after.allocations.length_rows_le
    have sizes : maxAllocations = apiMaxRequests := rfl
    omega
  obtain ⟨slot, found⟩ := SlotTable.firstFree_isSome_of_room room
  obtain ⟨bound, free⟩ := SlotTable.get_firstFree found
  obtain ⟨row, active, own⟩ := added.some
  obtain ⟨number, auto⟩ := added.idNumber
  have named : ∀ other ∈ after.allocations.rows,
      other.info.allocateId = allocateId →
        other.info.diskName.chars = diskName := by
    intro other member same
    rcases added.rows other member with old | new
    · exact (added.fresh other old same).elim
    · exact new.2
  have queried : allocationDiskName after allocateId.chars = diskName := by
    rw [← own, ← named row active own]
    apply allocationDiskName_eq active
    · rw [own, auto]
      exact autoAllocateId_ne_nil number
    · intro other member same
      apply BoundedString.ext
      rw [named other member (same.trans own), named row active own]
  have effective : (if isEmptyString diskName then
      allocationDiskName after allocateId.chars else diskName) = diskName := by
    rw [queried, ite_self]
  refine ⟨slot, bound, free, ?_⟩
  simp only [registerRequestPathWithName, effective, unknown, found,
    copyCstr_chars_self]

/-- With a path of its own and not in use, the new allocation fits in. -/
theorem PathsIdentify.created (holds : PathsIdentify cache state)
    (added : RowsAdded state after allocateId diskName)
    (own : hasOwnPath allocateId.chars diskName = true)
    (unused : PathUnused state allocateId.chars diskName) {slot : Nat}
    (bound : slot < apiMaxRequests) (free : cache.requests.get slot = none)
    (nextDeviceIndex : UInt32) :
    PathsIdentify
      { requests := cache.requests.put slot
          { requestId := allocateId
            devicePath := System.ownPath allocateId.chars diskName }
        nextDeviceIndex } after := by
  have slots : ∀ request, request ∈ (cache.requests.put slot
      { requestId := allocateId
        devicePath := System.ownPath allocateId.chars diskName }).rows ↔
      request = { requestId := allocateId
                  devicePath := System.ownPath allocateId.chars diskName } ∨
        request ∈ cache.requests.rows :=
    fun request => (SlotTable.rows_put_perm bound free).mem_iff.trans
      List.mem_cons
  have newPath : ∀ row : ControllerAllocation,
      row.info.allocateId = allocateId → row.info.diskName.chars = diskName →
        devicePathOf row.info = System.ownPath allocateId.chars diskName := by
    intro row sameId sameName
    simp only [devicePathOf, sameId, sameName]
  constructor
  · intro row member
    rcases added.rows row member with old | new
    · obtain ⟨request, stored, same⟩ := holds.cached row old
      exact ⟨request, (slots request).mpr (.inr stored), same⟩
    · exact ⟨_, (slots _).mpr (.inl rfl), new.1.symm⟩
  · intro request stored
    rcases (slots request).mp stored with rfl | old
    · obtain ⟨row, active, same⟩ := added.some
      refine ⟨row, active, same, ?_⟩
      rcases added.rows row active with old | new
      · exact (added.fresh row old same).elim
      · exact newPath row new.1 new.2
    · obtain ⟨row, active, same, path⟩ := holds.issued request old
      exact ⟨row, added.kept row active, same, path⟩
  · have order : ((cache.requests.put slot
        { requestId := allocateId
          devicePath := System.ownPath allocateId.chars diskName }).rows.map
            ApiRequest.requestId).Perm
        (allocateId :: cache.requests.rows.map ApiRequest.requestId) :=
      (SlotTable.rows_put_perm bound free).map ApiRequest.requestId
    refine order.nodup_iff.mpr (List.nodup_cons.mpr ⟨?_, holds.slotOfOne⟩)
    intro member
    obtain ⟨request, stored, same⟩ := List.mem_map.mp member
    obtain ⟨row, active, sameRow, _⟩ := holds.issued request stored
    exact added.fresh row active (sameRow.trans same)
  · intro left leftMember right rightMember same
    rcases added.rows left leftMember with oldLeft | newLeft <;>
      rcases added.rows right rightMember with oldRight | newRight
    · exact holds.pathOfOne left oldLeft right oldRight same
    · rw [newPath right newRight.1 newRight.2] at same
      exact (unused.1 left oldLeft same).elim
    · rw [newPath left newLeft.1 newLeft.2] at same
      exact (unused.1 right oldRight same.symm).elim
    · rw [newLeft.1, newRight.1]
  · intro left leftMember right rightMember same
    rcases added.rows left leftMember with oldLeft | newLeft <;>
      rcases added.rows right rightMember with oldRight | newRight
    · exact holds.nameOfId left oldLeft right oldRight same
    · exact (added.fresh left oldLeft (same.trans newRight.1)).elim
    · exact (added.fresh right oldRight (same.symm.trans newLeft.1)).elim
    · exact BoundedString.ext (newLeft.2.trans newRight.2.symm)
  · intro row member
    rcases added.rows row member with old | new
    · exact holds.idNumber row old
    · rw [new.1]
      exact added.idNumber
  · intro row member
    rcases added.rows row member with old | new
    · exact holds.ownPath row old
    · rw [new.1, new.2]
      exact own
  · intro row member
    rcases added.rows row member with old | new
    · exact holds.short row old
    · rw [new.2]
      exact added.short
  · intro logdev device row member same
    rw [added.logdevs] at device
    rcases added.rows row member with old | new
    · exact holds.mounted logdev device row old same
    · rw [newPath row new.1 new.2] at same
      exact (unused.2 logdev device same).elim

end Creation

/-- No row and no device of another allocation is changed. -/
structure ActsOnlyOn (requestId : CBuf 64) (before after : ControllerState) :
    Prop where
  rows : ∀ row, row.info.allocateId ≠ requestId →
    (row ∈ after.allocations.rows ↔ row ∈ before.allocations.rows)
  logdevs : ∀ logdev, logdev.allocateId ≠ requestId →
    (logdev ∈ after.logdevs.rows ↔ logdev ∈ before.logdevs.rows)

theorem ActsOnlyOn.refl (requestId : CBuf 64) (state : ControllerState) :
    ActsOnlyOn requestId state state :=
  ⟨fun _ _ => .rfl, fun _ _ => .rfl⟩

section Release

variable
  {deleteNs : CBuf 64 → CBuf 32 → PluginState → SsuErr × PluginState}
  {requestId : CBuf 64} {first last : ControllerState × PluginState}
  {rows : List ControllerAllocation}

theorem release_subset
    (run : ReleaseRun deleteNs requestId.chars first rows last)
    {row : ControllerAllocation} (member : row ∈ last.1.allocations.rows) :
    row ∈ first.1.allocations.rows :=
  run.rows_perm.mem_iff.mpr (List.mem_append.mpr (.inr member))

theorem release_kept
    (run : ReleaseRun deleteNs requestId.chars first rows last)
    {row : ControllerAllocation} (member : row ∈ first.1.allocations.rows)
    (other : row.info.allocateId ≠ requestId) :
    row ∈ last.1.allocations.rows := by
  rcases List.mem_append.mp (run.rows_perm.mem_iff.mp member) with gone | left
  · exact (other (rowHasId_iff.mp (run.owned row gone))).elim
  · exact left

theorem release_actsOnly
    (run : ReleaseRun deleteNs requestId.chars first rows last) :
    ActsOnlyOn requestId first.1 last.1 where
  rows _ other :=
    ⟨fun member => release_subset run member,
      fun member => release_kept run member other⟩
  logdevs _ _ := by rw [run.logdevs]

variable {plugin : SsuPluginOps PluginState} {state : ControllerState}
  {cache : ApiCache} {world : PluginState}

theorem ssuResourceRelease_actsOnly (plugin : SsuPluginOps PluginState)
    (requestId : CBuf 64) (state : ControllerState) (world : PluginState) :
    ActsOnlyOn requestId state
      (ssuResourceRelease plugin state world requestId.chars).2.1 := by
  unfold ssuResourceRelease
  split
  · exact .refl _ _
  · have outcome := ssuControllerRelease_outcome plugin requestId.chars state
      world
    generalize ssuControllerRelease plugin requestId.chars state world = result
      at outcome
    cases outcome with
    | refused _ => exact .refl _ _
    | stopped _ _ run _ _ _ _ => exact release_actsOnly run
    | released _ _ run _ _ =>
        obtain ⟨sameRows, sameLogdevs⟩ := release_actsOnly run
        exact ⟨by simpa using sameRows, by simpa using sameLogdevs⟩
    | absent _ => exact .refl _ _

/-- A released allocation takes its slot along; after a release that stopped
half-way a row is left, and the slot stays. -/
theorem PathsIdentify.release (holds : PathsIdentify cache state)
    {row : ControllerAllocation} (active : row ∈ state.allocations.rows)
    (own : row.info.allocateId = requestId) {err : SsuErr}
    {after : ControllerState} {final : PluginState}
    (answered : ssuResourceRelease plugin state world requestId.chars =
      (err, after, final)) :
    PathsIdentify
      (if err = .ok then forgetRequestPath requestId.chars cache else cache)
      after := by
  unfold ssuResourceRelease at answered
  split at answered
  · cases answered
    rw [if_neg (by decide)]
    exact holds
  · have outcome := ssuControllerRelease_outcome plugin requestId.chars state
      world
    rw [answered] at outcome
    cases outcome with
    | refused failed =>
        rw [if_neg failed]
        exact holds
    | stopped _ _ run kept owned _ failed =>
        rw [if_neg failed]
        apply holds.narrow (.refl _)
        · exact fun row member => ⟨row, release_subset run member, rfl, rfl⟩
        · exact fun row member => holds.cached row (release_subset run member)
        · intro request stored
          obtain ⟨row, active, same, _⟩ := holds.issued request stored
          by_cases released : row.info.allocateId = requestId
          · refine ⟨_, kept, ?_⟩
            rw [rowHasId_iff.mp owned, ← released, same]
          · exact ⟨row, release_kept run active released, same⟩
        · intro logdev device
          rw [run.logdevs] at device
          exact .inl device
    | @released _ _ _ rows last run found gone =>
        rw [if_pos rfl]
        obtain ⟨slot, held, looked⟩ := holds.findRequestById_eq active
        rw [own] at held looked
        have order := SlotTable.rows_perm_clear held
        have slots := SlotTable.rows_clear_sublist held
        have forgotten : forgetRequestPath requestId.chars cache =
            { cache with requests := cache.requests.clear slot } := by
          simp only [forgetRequestPath, looked]
        have other : ∀ request ∈ (cache.requests.clear slot).rows,
            request.requestId ≠ requestId := by
          have distinct := (order.map ApiRequest.requestId).nodup_iff.mp
            holds.slotOfOne
          rw [List.map_cons, List.nodup_cons] at distinct
          intro request stored same
          apply distinct.1
          exact List.mem_map.mpr ⟨request, stored, same⟩
        rw [forgotten]
        apply holds.narrow slots
        · intro row member
          rw [rememberReleasedId_allocations] at member
          exact ⟨row, release_subset run member, rfl, rfl⟩
        · intro row member
          rw [rememberReleasedId_allocations] at member
          obtain ⟨request, stored, same⟩ :=
            holds.cached row (release_subset run member)
          refine ⟨request, ?_, same⟩
          rcases List.mem_cons.mp (order.mem_iff.mp stored) with rfl | left
          · have absent := gone row member
            rw [rowHasId_iff.mpr same.symm] at absent
            contradiction
          · exact left
        · intro request stored
          obtain ⟨row, active, same, _⟩ :=
            holds.issued request (slots.subset stored)
          refine ⟨row, ?_, same⟩
          rw [rememberReleasedId_allocations]
          apply release_kept run active
          rw [same]
          exact other request stored
        · intro logdev device
          rw [rememberReleasedId_logdevs, run.logdevs] at device
          exact .inl device
    | absent gone =>
        have absent := gone row active
        rw [rowHasId_iff.mpr own] at absent
        contradiction

end Release

section Mount

variable {plugin : SsuPluginOps PluginState} {state : ControllerState}
  {cache : ApiCache} {world : PluginState}

theorem restated_row {allocateId : CString} {newState : CBuf 16}
    {row : ControllerAllocation} (active : row ∈ state.allocations.rows) :
    setRowState allocateId newState row ∈
      (setAllocationState state allocateId newState).allocations.rows := by
  rw [setAllocationState_rows]
  exact List.mem_map_of_mem active

theorem restated_of_row {allocateId : CString} {newState : CBuf 16}
    {row : ControllerAllocation}
    (member : row ∈
      (setAllocationState state allocateId newState).allocations.rows) :
    ∃ old ∈ state.allocations.rows,
      row = setRowState allocateId newState old := by
  rw [setAllocationState_rows] at member
  obtain ⟨old, active, rfl⟩ := List.mem_map.mp member
  exact ⟨old, active, rfl⟩

/-- Changed states do not concern the paths. -/
theorem PathsIdentify.restated (holds : PathsIdentify cache state)
    {logdevs : SlotTable SsuLogdevInfo maxLogdevs} (allocateId : CString)
    (newState : CBuf 16)
    (devices : ∀ logdev ∈ logdevs.rows, logdev ∈ state.logdevs.rows ∨
      ∀ row ∈ state.allocations.rows,
        logdev.logicalDev = devicePathOf row.info →
          logdev.allocateId = row.info.allocateId) :
    PathsIdentify cache
      (setAllocationState { state with logdevs } allocateId newState) := by
  apply holds.narrow (.refl _)
  · intro row member
    obtain ⟨old, active, rfl⟩ := restated_of_row member
    exact ⟨old, active, by simp, by simp⟩
  · intro row member
    obtain ⟨old, active, rfl⟩ := restated_of_row member
    rw [setRowState_allocateId]
    exact holds.cached old active
  · intro request stored
    obtain ⟨row, active, same, _⟩ := holds.issued request stored
    refine ⟨_, restated_row active, ?_⟩
    rw [setRowState_allocateId]
    exact same
  · exact devices

theorem actsOnly_restated {requestId : CBuf 64} {newState : CBuf 16}
    {logdevs : SlotTable SsuLogdevInfo maxLogdevs}
    (devices : ∀ logdev, logdev.allocateId ≠ requestId →
      (logdev ∈ logdevs.rows ↔ logdev ∈ state.logdevs.rows)) :
    ActsOnlyOn requestId state
      (setAllocationState { state with logdevs } requestId.chars newState) := by
  refine ⟨fun row other => ?_, devices⟩
  have unchanged : setRowState requestId.chars newState row = row :=
    if_neg (mt rowHasId_iff.mp other)
  constructor
  · intro member
    obtain ⟨old, active, same⟩ := restated_of_row member
    have oldOther : old.info.allocateId ≠ requestId := by
      rw [same, setRowState_allocateId] at other
      exact other
    have kept : setRowState requestId.chars newState old = old :=
      if_neg (mt rowHasId_iff.mp oldOther)
    rw [same, kept]
    exact active
  · intro active
    rw [← unchanged]
    exact restated_row active

variable {requestId : CBuf 64} {devicePath hostId : CString}

/-- The request that `ssu_api_mount` makes of its arguments. -/
def apiMountReq (requestId : CBuf 64) (devicePath hostId : CString) :
    SsuMountReq :=
  { allocateId := requestId.chars
    hostId := hostId
    logicalDev := copyCstr 64 devicePath }

theorem apiMount_device {connected}
    (checked : MountChecked (apiMountReq requestId devicePath hostId) state
      connected) (logdev : SsuLogdevInfo) :
    logdev ∈ (recordMount (apiMountReq requestId devicePath hostId) connected
        state).logdevs.rows ↔
      (∃ entry ∈ connected, logdevRow (apiMountReq requestId devicePath hostId)
        entry.1 entry.2.2 = logdev) ∨ logdev ∈ state.logdevs.rows := by
  rw [(recordMount_logdevs checked).mem_iff, List.mem_append, List.mem_map]

variable (plugin state world requestId devicePath hostId)

theorem ssuResourceMount_actsOnly :
    ActsOnlyOn requestId state
      (ssuResourceMount plugin state world
        (apiMountReq requestId devicePath hostId)).2.1 := by
  unfold ssuResourceMount
  split
  · exact .refl _ _
  · have outcome := ssuControllerMount_outcome plugin
      (apiMountReq requestId devicePath hostId) state world
    generalize ssuControllerMount plugin
      (apiMountReq requestId devicePath hostId) state world = result at outcome
    cases outcome with
    | refused _ => exact .refl _ _
    | unconnected _ _ _ => exact .refl _ _
    | rejected _ _ _ _ _ => exact .refl _ _
    | mounted _ _ _ _ checked _ =>
        apply actsOnly_restated
        intro logdev other
        refine (apiMount_device checked logdev).trans
          ⟨fun member => ?_, fun member => .inr member⟩
        rcases member with ⟨entry, _, rfl⟩ | old
        · exact (other (copyCstr_chars_self requestId)).elim
        · exact old

variable {state}

theorem ssuResourceMount_keeps {row : ControllerAllocation}
    (active : row ∈ state.allocations.rows) :
    ∃ new ∈ (ssuResourceMount plugin state world
        (apiMountReq requestId devicePath hostId)).2.1.allocations.rows,
      new.info.allocateId = row.info.allocateId := by
  unfold ssuResourceMount
  split
  · exact ⟨row, active, rfl⟩
  · have outcome := ssuControllerMount_outcome plugin
      (apiMountReq requestId devicePath hostId) state world
    generalize ssuControllerMount plugin
      (apiMountReq requestId devicePath hostId) state world = result at outcome
    cases outcome with
    | refused _ => exact ⟨row, active, rfl⟩
    | unconnected _ _ _ => exact ⟨row, active, rfl⟩
    | rejected _ _ _ _ _ => exact ⟨row, active, rfl⟩
    | mounted _ _ _ _ _ _ =>
        refine ⟨_, restated_row active, ?_⟩
        rw [setRowState_allocateId]

variable {requestId devicePath}

/-- The new devices carry the path that led to their allocation, so no other
allocation has it. -/
theorem PathsIdentify.mount (holds : PathsIdentify cache state)
    (resolved : (requestIdFromDevicePath state devicePath cache).1 =
      .ok requestId) :
    PathsIdentify cache
      (ssuResourceMount plugin state world
        (apiMountReq requestId devicePath hostId)).2.1 := by
  unfold ssuResourceMount
  split
  · exact holds
  · have outcome := ssuControllerMount_outcome plugin
      (apiMountReq requestId devicePath hostId) state world
    generalize ssuControllerMount plugin
      (apiMountReq requestId devicePath hostId) state world = result at outcome
    cases outcome with
    | refused _ => exact holds
    | unconnected _ _ _ => exact holds
    | rejected _ _ _ _ _ => exact holds
    | mounted _ _ _ _ checked _ =>
        apply holds.restated
        intro logdev member
        rcases (apiMount_device checked logdev).mp member with
          ⟨entry, _, rfl⟩ | old
        · refine .inr fun row active same => ?_
          have path : copyCstr 64 devicePath = devicePathOf row.info := same
          have short := length_ownPath_lt (holds.ownPath row active)
            (holds.short row active)
          have whole : (copyCstr 64 devicePath).chars = devicePath := by
            apply copyCstr_chars_of_fits
            by_contra long
            have cut : (copyCstr 64 devicePath).chars.length = 63 := by
              simp only [copyCstr, List.length_take]
              omega
            rw [path] at cut
            exact absurd cut (Nat.ne_of_lt short)
          rw [path] at whole
          rw [← whole, holds.resolve active] at resolved
          cases resolved
          exact copyCstr_chars_self row.info.allocateId
        · exact .inl old

theorem PathsIdentify.unmount (holds : PathsIdentify cache state)
    (named : LogdevsNamed state) (logicalDev : CString) :
    PathsIdentify cache
      (ssuResourceUnmount plugin state world logicalDev).2.1 := by
  unfold ssuResourceUnmount
  split
  · exact holds
  · have outcome := ssuControllerUnmount_outcome plugin logicalDev state world
    generalize ssuControllerUnmount plugin logicalDev state world = result
      at outcome
    cases outcome with
    | refused _ => exact holds
    | stale _ _ _ => exact holds
    | rejected _ _ _ => exact holds
    | unmounted _ found _ =>
        have member := (findLogdevByDev_some found).1
        simp only [recordUnmount_rows logicalDev named member]
        apply holds.restated
        intro logdev device
        rw [SlotTable.rows_eraseWhere] at device
        exact .inl (List.mem_filter.mp device).1

end Mount

section Calls

variable (plugin : SsuPluginOps PluginState)

/-- A successful `ssu_api_allocate` that makes a new allocation gives it a
path of its own that nothing in use has. -/
def TakesUnusedPath (current : ApiState PluginState) : ApiOp → Prop
  | .allocate req =>
      let requestId := (nextAutoAllocateId current.controller).1.chars
      (ssuApiAllocate plugin req current).1.1 = .ok →
        allocationNameExists current.controller req.diskName = false →
          hasOwnPath requestId req.diskName = true ∧
            PathUnused current.controller requestId req.diskName
  | _ => True

instance decidableTakesUnusedPath (current : ApiState PluginState) :
    ∀ op, Decidable (TakesUnusedPath plugin current op)
  | .allocate _ => inferInstanceAs (Decidable (_ → _ → _ ∧ _))
  | .resultGet _ | .mount _ _ | .unmount _ | .free _ => .isTrue trivial

variable {plugin} {current : ApiState PluginState}
  (holds : PathsIdentify current.cache current.controller)
include holds

theorem pathsIdentify_allocate (named : LogdevsNamed current.controller)
    (req : ApiAllocateReq)
    (allowed : TakesUnusedPath plugin current (.allocate req)) :
    let after := (ssuApiAllocate plugin req current).2
    PathsIdentify after.cache after.controller := by
  have effect := ssuResourceAlloc_effect plugin req.resourceReq
    current.controller current.world named
  simp only [TakesUnusedPath, ssuApiAllocate] at allowed
  simp only [ssuApiAllocate]
  split
  · rename_i checked
    simp only [checked] at allowed
    generalize ssuResourceAlloc plugin current.controller current.world
      req.resourceReq = result at effect allowed
    cases effect with
    | failed failed same =>
        simp only [failed, ne_eq, not_false_eq_true, if_true]
        exact holds.of_sameTables same
    | @reused answer result after world row nonempty active name answered out
        own same =>
        have kept := holds.of_sameTables same
        rw [← same.allocations] at active
        obtain ⟨nextDeviceIndex, registered⟩ :=
          kept.register active (.inr name.symm)
        rw [← own] at registered
        have called : registerRequestPathWithName after
            result.allocateId.chars req.diskName current.cache = _ :=
          registered
        simp only [answered, ne_eq, not_true_eq_false, if_false, out, called]
        exact kept.withIndex nextDeviceIndex
    | @created _ _ answer result before world ctx number selected entries last
        same plan run answered out own =>
        have added : RowsAdded current.controller (advanced last.1)
            ctx.allocateId req.diskName := rowsAdded_of_run named same plan run
        obtain ⟨slot, bound, free, registered⟩ := holds.register_new added
        rw [← own] at registered added
        have unnamed : allocationNameExists current.controller
            req.diskName = false := by
          rw [allocationNameExists_eq]
          rcases plan.name with empty | ⟨_, free⟩
          · have empty : req.diskName = [] := empty
            simp [diskNameIsActive, findAllocationRowsByDiskName, isEmptyString,
              empty]
          · have free : diskNameIsActive before req.diskName = false := free
            simpa only [diskNameIsActive, findAllocationRowsByDiskName,
              same.allocations] using free
        have searched : (nextAutoAllocateId current.controller).1 =
            result.allocateId := by
          rw [← same.searched, plan.searched, own]
        simp only [answered, ne_eq, not_true_eq_false, if_false, out,
          registered, unnamed, searched, forall_const] at allowed ⊢
        rw [defaultDevicePath_own allowed.1]
        exact holds.created added allowed.1 allowed.2 bound free _
  · exact holds

theorem resultGet_eq {row : ControllerAllocation}
    (active : row ∈ current.controller.allocations.rows) :
    ∃ physicalDisks nextDeviceIndex,
      ssuApiAllocateResultGet row.info.allocateId.chars current =
        ({ status := .ok
           devicePath := devicePathOf row.info
           physicalDisks
           errorMessage := .empty },
          { current with cache := { current.cache with nextDeviceIndex } }) := by
  obtain ⟨number, numbered⟩ := holds.idNumber row active
  have present : isEmptyString row.info.allocateId.chars = false := by
    rw [numbered, Bool.eq_false_iff, ne_eq, isEmptyString_iff]
    exact autoAllocateId_ne_nil number
  have known : allocationExists current.controller
      row.info.allocateId.chars = true :=
    allocationExists_iff.mpr ⟨row, active, rfl⟩
  obtain ⟨nextDeviceIndex, registered⟩ := holds.register active (.inl rfl)
  obtain ⟨lbas, filled⟩ := fillAllocationLbas_ok active
  refine ⟨lbas, nextDeviceIndex, ?_⟩
  simp only [ssuApiAllocateResultGet, present, known, registerRequestPath,
    registered, filled, Bool.false_eq_true, Bool.not_true, if_false]

theorem pathsIdentify_resultGet (requestId : CString) :
    let after := (ssuApiAllocateResultGet requestId current).2
    PathsIdentify after.cache after.controller := by
  by_cases known : allocationExists current.controller requestId = true
  · obtain ⟨row, active, rfl⟩ := allocationExists_iff.mp known
    obtain ⟨_, nextDeviceIndex, answered⟩ := resultGet_eq holds active
    rw [answered]
    exact holds.withIndex nextDeviceIndex
  · have unknown : allocationExists current.controller requestId = false :=
      Bool.eq_false_iff.mpr known
    simp only [ssuApiAllocateResultGet, unknown, Bool.not_false, if_true]
    split <;> exact holds

theorem pathsIdentify_mount (named : LogdevsNamed current.controller)
    (devicePath hostId : CString) :
    let after := (ssuApiMount plugin devicePath hostId current).2
    PathsIdentify after.cache after.controller := by
  obtain ⟨answer, nextDeviceIndex, looked, found⟩ :=
    holds.lookup named devicePath
  simp only [ssuApiMount, looked]
  split
  · exact holds
  · cases answer with
    | error err => exact holds.withIndex nextDeviceIndex
    | ok requestId =>
        obtain ⟨row, active, rfl⟩ := found requestId rfl
        have resolved : (requestIdFromDevicePath current.controller devicePath
            current.cache).1 = .ok row.info.allocateId := by
          rw [looked]
        have mounted := (holds.mount plugin current.world hostId
          resolved).withIndex nextDeviceIndex
        obtain ⟨new, kept, same⟩ := ssuResourceMount_keeps plugin
          current.world row.info.allocateId devicePath hostId active
        simp only [apiMountReq] at mounted kept
        simp only
        split <;> (rename_i answered; rw [answered] at mounted kept)
        · obtain ⟨last, registered⟩ := mounted.register kept (.inl rfl)
          rw [same] at registered
          simp only [registerRequestPath, registered]
          exact mounted.withIndex last
        · exact mounted

theorem pathsIdentify_free (named : LogdevsNamed current.controller)
    (devicePath : CString) :
    let after := (ssuApiFree plugin devicePath current).2
    PathsIdentify after.cache after.controller := by
  obtain ⟨answer, nextDeviceIndex, looked, found⟩ :=
    holds.lookup named devicePath
  simp only [ssuApiFree, looked]
  cases answer with
  | error err => exact holds.withIndex nextDeviceIndex
  | ok requestId =>
      obtain ⟨row, active, own⟩ := found requestId rfl
      simp only
      split
      · rename_i answered
        exact (holds.withIndex nextDeviceIndex).release active own answered
      · rename_i err _ _ failed answered
        have released := (holds.withIndex nextDeviceIndex).release active own
          answered
        rwa [if_neg failed] at released

theorem pathsIdentify_apiStep (named : LogdevsNamed current.controller)
    (op : ApiOp) (allowed : TakesUnusedPath plugin current op) :
    PathsIdentify (apiStep plugin current op).cache
      (apiStep plugin current op).controller := by
  cases op with
  | allocate req => exact pathsIdentify_allocate holds named req allowed
  | resultGet requestId => exact pathsIdentify_resultGet holds requestId
  | mount devicePath hostId =>
      exact pathsIdentify_mount holds named devicePath hostId
  | free devicePath => exact pathsIdentify_free holds named devicePath
  | unmount devicePath =>
      simp only [apiStep, apiExec, ssuApiUnmount]
      split
      · exact holds
      · exact holds.unmount plugin current.world named devicePath

end Calls

section Runs

variable {plugin : SsuPluginOps PluginState}

/-- Both the state of the controller and the cache are sound in every state
of an admissible run. -/
theorem pathsIdentify_run (plugin : SsuPluginOps PluginState)
    (world : PluginState) {ops : List ApiOp}
    (admissible : Transition.Admissible (apiStep plugin)
      (TakesUnusedPath plugin) (.initial world) ops) :
    let current := Transition.run (apiStep plugin) (.initial world) ops
    ControllerRun plugin (.initial, world) current.system ∧
      PathsIdentify current.cache current.controller :=
  Transition.run_invariant
    (fun current => ControllerRun plugin (.initial, world) current.system ∧
      PathsIdentify current.cache current.controller)
    (fun current op holds allowed =>
      ⟨holds.1.trans (apiStep_run plugin current op),
        pathsIdentify_apiStep holds.2 holds.1.mountState.named op allowed⟩)
    ⟨.refl _, pathsIdentify_initial⟩ admissible

/-- In this state the path leads to the allocation, and freeing or mounting it
touches no other allocation. -/
structure PathNames (plugin : SsuPluginOps PluginState)
    (current : ApiState PluginState) (devicePath requestId : CBuf 64) :
    Prop where
  resolved : (requestIdFromDevicePath current.controller devicePath.chars
    current.cache).1 = .ok requestId
  freed : ActsOnlyOn requestId current.controller
    (ssuApiFree plugin devicePath.chars current).2.controller
  mounted : ∀ hostId, ActsOnlyOn requestId current.controller
    (ssuApiMount plugin devicePath.chars hostId current).2.controller

theorem PathsIdentify.pathNames {current : ApiState PluginState}
    (holds : PathsIdentify current.cache current.controller)
    {row : ControllerAllocation}
    (active : row ∈ current.controller.allocations.rows) :
    PathNames plugin current (devicePathOf row.info) row.info.allocateId := by
  have resolved := holds.resolve active
  constructor
  · rw [resolved]
  · have released := ssuResourceRelease_actsOnly plugin row.info.allocateId
      current.controller current.world
    simp only [ssuApiFree, resolved]
    split <;> (rename_i answered; rw [answered] at released; exact released)
  · intro hostId
    have mounted := ssuResourceMount_actsOnly plugin current.controller
      current.world row.info.allocateId (devicePathOf row.info).chars hostId
    simp only [apiMountReq] at mounted
    simp only [ssuApiMount, resolved]
    split
    · exact .refl _ _
    · split <;> (rename_i answered; rw [answered] at mounted; exact mounted)

/-- In every state of every run in which each new allocation takes an unused
path: an active allocation is told the path made from its id and its name,
that path leads back to it, before and after the question and however often it
was mounted or unmounted, and no other active allocation is told the same. -/
theorem device_paths_identify (plugin : SsuPluginOps PluginState)
    (world : PluginState) (ops : List ApiOp)
    (admissible : Transition.Admissible (apiStep plugin)
      (TakesUnusedPath plugin) (.initial world) ops) :
    let current := Transition.run (apiStep plugin) (.initial world) ops
    let answer := fun row : ControllerAllocation =>
      ssuApiAllocateResultGet row.info.allocateId.chars current
    (∀ row ∈ current.controller.allocations.rows,
        (answer row).1.status = .ok ∧
          (answer row).1.devicePath = devicePathOf row.info ∧
          PathNames plugin current (answer row).1.devicePath
            row.info.allocateId ∧
          PathNames plugin (answer row).2 (answer row).1.devicePath
            row.info.allocateId) ∧
      ∀ left ∈ current.controller.allocations.rows,
        ∀ right ∈ current.controller.allocations.rows,
          (answer left).1.devicePath = (answer right).1.devicePath →
            left.info.allocateId = right.info.allocateId := by
  intro current answer
  have holds : PathsIdentify current.cache current.controller :=
    (pathsIdentify_run plugin world admissible).2
  constructor
  · intro row active
    obtain ⟨_, nextDeviceIndex, answered⟩ := resultGet_eq holds active
    simp only [answer, answered, true_and]
    exact ⟨holds.pathNames active,
      (holds.withIndex nextDeviceIndex).pathNames active⟩
  · intro left leftActive right rightActive same
    obtain ⟨_, _, leftAnswer⟩ := resultGet_eq holds leftActive
    obtain ⟨_, _, rightAnswer⟩ := resultGet_eq holds rightActive
    simp only [answer, leftAnswer, rightAnswer] at same
    exact holds.pathOfOne left leftActive right rightActive same

/-- A request through the API for one host. -/
def apiRequest (size : UInt64) (diskName : CString) : ApiAllocateReq :=
  { sizeBytes := size
    diskName := diskName
    userId := "user".toList
    physicalDiskCount := 1
    logicalDiskAggregate := 0
    allocationType := .exclusive
    hostIds := ["host0".toList] }

/-- An unnamed and a named allocation, one of them mounted. -/
def unnamedAndNamed : List ApiOp :=
  [.allocate (apiRequest 4096 []), .allocate (apiRequest 4096 "data".toList),
    .mount "/dev/ssu/data".toList "host0".toList]

theorem device_paths_identify_two :
    let plugin := mockPlugin twoMockSsus
    let current := Transition.run (apiStep plugin) (.initial .initial)
      unnamedAndNamed
    let answer := fun row : ControllerAllocation =>
      ssuApiAllocateResultGet row.info.allocateId.chars current
    current.controller.allocations.rows.length = 2 ∧
      current.controller.logdevs.rows.length = 1 ∧
      ∀ left ∈ current.controller.allocations.rows,
        ∀ right ∈ current.controller.allocations.rows,
          (answer left).1.devicePath = (answer right).1.devicePath →
            left.info.allocateId = right.info.allocateId :=
  ⟨by decide +kernel, by decide +kernel,
    (device_paths_identify (mockPlugin twoMockSsus) .initial unnamedAndNamed
      (by decide +kernel)).2⟩

/-- The first allocation is unnamed and numbered 0; the second is named
`ssu0`.  The path that the second is told leads to the first, and freeing it
frees the first. -/
theorem device_path_shared :
    let current := Transition.run (apiStep (mockPlugin twoMockSsus))
      (.initial .initial)
      [.allocate (apiRequest 4096 []),
        .allocate (apiRequest 4096 "ssu0".toList)]
    let answer := ssuApiAllocateResultGet "alloc-1".toList current
    let freed := ssuApiFree (mockPlugin twoMockSsus)
      answer.1.devicePath.chars answer.2
    allocationExists current.controller "alloc-1".toList = true ∧
      answer.1.status = .ok ∧
      (requestIdFromDevicePath answer.2.controller answer.1.devicePath.chars
        answer.2.cache).1 = .ok (copyCstr 64 "alloc-0".toList) ∧
      freed.1 = .ok ∧
      allocationExists freed.2.controller "alloc-0".toList = false ∧
      allocationExists freed.2.controller "alloc-1".toList = true := by
  decide +kernel

end Runs

end UbseSsu.System

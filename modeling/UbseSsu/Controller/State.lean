import UbseSsu.Interface
import UbseSsu.Library.SlotTable

/-!
# The controller's tables and lookups

The file-scope variables of `ssu_controller.cpp` and its static helpers: the
resource pool, the allocation and logical-device tables with their `active`
flags, the released ids, the SSU selection and the host key.
-/

namespace UbseSsu.Controller

abbrev maxResources : Nat := 128
abbrev maxAllocations : Nat := 128
abbrev maxReleased : Nat := 128
abbrev maxLogdevs : Nat := 128
abbrev maxHosts : Nat := 32
abbrev sectorSize : UInt64 := 512
abbrev hostKeySize : Nat := 256
/-- `SSU_API_MAX_DISK_NAME_LEN`. -/
abbrev maxDiskNameLen : Nat := 27

structure ControllerAllocation where
  info : SsuAllocationInfo
  hostKey : CBuf hostKeySize
deriving DecidableEq

structure ControllerState where
  pool : CountedArray SsuResourceInfo maxResources
  nextAllocationId : UInt64
  allocations : SlotTable ControllerAllocation maxAllocations
  logdevs : SlotTable SsuLogdevInfo maxLogdevs
  releasedIds : CountedArray (CBuf 64) maxReleased
deriving DecidableEq

def ControllerState.initial : ControllerState :=
  { pool := .empty maxResources
    nextAllocationId := 0
    allocations := .empty maxAllocations
    logdevs := .empty maxLogdevs
    releasedIds := .empty maxReleased }

def onlineState : CBuf 16 := copyCstr 16 "ONLINE".toList
def offlineState : CBuf 16 := copyCstr 16 "OFFLINE".toList
def activeState : CBuf 16 := copyCstr 16 "ACTIVE".toList
def mountedState : CBuf 16 := copyCstr 16 "MOUNTED".toList

def resourceIsOnline (resource : SsuResourceInfo) : Bool :=
  resource.state.chars = "ONLINE".toList

def onlinePoolIndexes (state : ControllerState) : List Nat :=
  (List.range state.pool.items.length).filter fun index =>
    (state.pool.items[index]?).any resourceIsOnline

def poolIndexHasCapacity (state : ControllerState) (poolIndex : Nat)
    (length : UInt64) : Bool :=
  match state.pool.items[poolIndex]? with
  | none => false
  | some resource =>
      if resource.usedBytes > resource.totalBytes ∨
          resource.usedBytes % sectorSize ≠ 0 then false
      else decide (length ≤ resource.totalBytes - resource.usedBytes)

/-- The length of extent `index`: the first `remainder` ones are longer. -/
def extentLength (baseLength remainder : UInt64) (index : Nat) : UInt64 :=
  baseLength + (if index < remainder.toNat then 1 else 0)

/-- The two nested loops: every extent in turn takes the first listed SSU
that is not selected yet and has room. -/
def selectPoolIndexes (state : ControllerState) (onlineIndexes : List Nat)
    (baseLength remainder : UInt64) :
    List Nat → List Nat → Except SsuErr (List Nat)
  | [], selected => .ok selected
  | extent :: extents, selected =>
      let usable := fun poolIndex =>
        !selected.contains poolIndex &&
          poolIndexHasCapacity state poolIndex
            (extentLength baseLength remainder extent)
      match onlineIndexes.find? usable with
      | none => .error .noResource
      | some poolIndex =>
          selectPoolIndexes state onlineIndexes baseLength remainder extents
            (selected ++ [poolIndex])

def isDiskNameChar (char : Char) : Bool :=
  ('a' ≤ char && char ≤ 'z') || ('A' ≤ char && char ≤ 'Z') ||
    ('0' ≤ char && char ≤ '9') ||
    char = '_' || char = '-' || char = '.' || char = ':'

def allocationNameIsValid (name : CString) : Bool :=
  !isEmptyString name && decide (name.length ≤ maxDiskNameLen) &&
    name.all isDiskNameChar

/-- `strcmp(left, right) > 0` on the character codes. -/
def strcmpGreater : CString → CString → Bool
  | [], _ => false
  | _ :: _, [] => true
  | left :: lefts, right :: rights =>
      if left = right then strcmpGreater lefts rights
      else decide (right.toNat < left.toNat)

/-- One round of the insertion sort: the sorted part is held with its last
element first, and the new host moves past every greater one. -/
def insertHost (host : CString) : List CString → List CString
  | [] => [host]
  | last :: earlier =>
      if strcmpGreater last host then last :: insertHost host earlier
      else host :: last :: earlier

def sortHosts (hosts : List CString) : List CString :=
  (hosts.foldl (fun sorted host => insertHost host sorted) []).reverse

def appendHostKey (key : CString) (host : CString) (needsComma : Bool) :
    Option CString :=
  if isEmptyString host ∨ ',' ∈ host then none
  else if hostKeySize ≤ key.length then none
  else
    let written := (if needsComma then [','] else []) ++ host
    if written.length < hostKeySize - key.length then some (key ++ written)
    else none

def joinHosts : List CString → CString → Bool → Option CString
  | [], key, _ => some key
  | host :: hosts, key, needsComma =>
      match appendHostKey key host needsComma with
      | none => none
      | some key => joinHosts hosts key true

def buildHostKey (hosts : List CString) : Option (CBuf hostKeySize) :=
  if hosts.length > maxHosts then none
  else if hosts.any fun host => isEmptyString host || host.contains ',' then
    none
  else (joinHosts (sortHosts hosts) [] false).map (copyCstr hostKeySize)

def rowHasId (allocateId : CString) (row : ControllerAllocation) : Bool :=
  row.info.allocateId.chars = allocateId

def rowHasDiskName (diskName : CString) (row : ControllerAllocation) : Bool :=
  row.info.diskName.chars = diskName

def logdevHasId (allocateId : CString) (row : SsuLogdevInfo) : Bool :=
  row.allocateId.chars = allocateId

def logdevHasDev (logicalDev : CString) (row : SsuLogdevInfo) : Bool :=
  row.logicalDev.chars = logicalDev

def findLogdevByDev (state : ControllerState) (logicalDev : CString) :
    Option SsuLogdevInfo :=
  state.logdevs.rows.find? (logdevHasDev logicalDev)

def findAllocationRowsById (state : ControllerState) (allocateId : CString) :
    List ControllerAllocation :=
  if isEmptyString allocateId then []
  else state.allocations.rows.filter (rowHasId allocateId)

def findAllocationRowsByDiskName (state : ControllerState)
    (diskName : CString) : List ControllerAllocation :=
  if isEmptyString diskName then []
  else state.allocations.rows.filter (rowHasDiskName diskName)

def activeAllocationExtentCount (state : ControllerState)
    (allocateId : CString) : Nat :=
  (state.allocations.rows.filter (rowHasId allocateId)).length

def allocationIdIsActive (state : ControllerState) (allocateId : CString) :
    Bool :=
  !(findAllocationRowsById state allocateId).isEmpty

def diskNameIsActive (state : ControllerState) (diskName : CString) : Bool :=
  !(findAllocationRowsByDiskName state diskName).isEmpty

def allocationHasLogdev (state : ControllerState) (allocateId : CString) :
    Bool :=
  state.logdevs.rows.any (logdevHasId allocateId)

def setRowState (allocateId : CString) (newState : CBuf 16)
    (row : ControllerAllocation) : ControllerAllocation :=
  if rowHasId allocateId row then
    { row with info := { row.info with state := newState } }
  else row

def setAllocationState (state : ControllerState) (allocateId : CString)
    (newState : CBuf 16) : ControllerState :=
  { state with
    allocations :=
      state.allocations.modifyRows (setRowState allocateId newState) }

def releasedIdExists (state : ControllerState) (allocateId : CString) :
    Bool :=
  state.releasedIds.items.any fun released => released.chars = allocateId

def rememberReleasedId (state : ControllerState) (allocateId : CString) :
    ControllerState :=
  if releasedIdExists state allocateId then state
  else if room : state.releasedIds.items.length < maxReleased then
    { state with
      releasedIds := state.releasedIds.push (copyCstr 64 allocateId) room }
  else state

/-- `"alloc-%llu"`. -/
def autoAllocateId (number : UInt64) : CBuf 64 :=
  copyCstr 64 ("alloc-".toList ++ decimal number.toNat)

/-- The endless search loop, bounded by `fuel` rounds. -/
def nextAutoAllocateIdLoop :
    Nat → ControllerState → CBuf 64 × ControllerState
  | 0, state => (autoAllocateId state.nextAllocationId, state)
  | fuel + 1, state =>
      let candidate := autoAllocateId state.nextAllocationId
      if !allocationIdIsActive state candidate.chars &&
          !releasedIdExists state candidate.chars then
        (candidate, state)
      else
        nextAutoAllocateIdLoop fuel
          { state with nextAllocationId := state.nextAllocationId + 1 }

/-- At most 128 ids are active and 128 remembered, so the search ends within
257 rounds. -/
def nextAutoAllocateId (state : ControllerState) :
    CBuf 64 × ControllerState :=
  nextAutoAllocateIdLoop (maxAllocations + maxReleased + 1) state

def findResourceIndex (resources : List SsuResourceInfo) (ssuId : CBuf 64) :
    Option Nat :=
  resources.findIdx? fun resource => resource.ssuId = ssuId

/-- `used_bytes += length` on one pool entry. -/
def addUsedBytes (state : ControllerState) (poolIndex : Nat)
    (length : UInt64) : ControllerState :=
  { state with
    pool := state.pool.modifyAt poolIndex fun resource =>
      { resource with usedBytes := resource.usedBytes + length } }

/-- The guarded `used_bytes -= length` of the SSU a row names. -/
def subUsedBytes (state : ControllerState) (ssuId : CBuf 64)
    (length : UInt64) : ControllerState :=
  match findResourceIndex state.pool.items ssuId with
  | none => state
  | some poolIndex =>
      { state with
        pool := state.pool.modifyAt poolIndex fun resource =>
          if resource.usedBytes ≥ length then
            { resource with usedBytes := resource.usedBytes - length }
          else resource }

section Fields

variable (state : ControllerState)

@[simp] theorem addUsedBytes_allocations (poolIndex : Nat) (length : UInt64) :
    (addUsedBytes state poolIndex length).allocations = state.allocations :=
  rfl

@[simp] theorem addUsedBytes_logdevs (poolIndex : Nat) (length : UInt64) :
    (addUsedBytes state poolIndex length).logdevs = state.logdevs := rfl

@[simp] theorem addUsedBytes_releasedIds (poolIndex : Nat)
    (length : UInt64) :
    (addUsedBytes state poolIndex length).releasedIds = state.releasedIds :=
  rfl

@[simp] theorem addUsedBytes_nextAllocationId (poolIndex : Nat)
    (length : UInt64) :
    (addUsedBytes state poolIndex length).nextAllocationId =
      state.nextAllocationId := rfl

@[simp] theorem subUsedBytes_allocations (ssuId : CBuf 64)
    (length : UInt64) :
    (subUsedBytes state ssuId length).allocations = state.allocations := by
  unfold subUsedBytes
  split <;> rfl

@[simp] theorem subUsedBytes_logdevs (ssuId : CBuf 64) (length : UInt64) :
    (subUsedBytes state ssuId length).logdevs = state.logdevs := by
  unfold subUsedBytes
  split <;> rfl

@[simp] theorem subUsedBytes_releasedIds (ssuId : CBuf 64)
    (length : UInt64) :
    (subUsedBytes state ssuId length).releasedIds = state.releasedIds := by
  unfold subUsedBytes
  split <;> rfl

@[simp] theorem subUsedBytes_nextAllocationId (ssuId : CBuf 64)
    (length : UInt64) :
    (subUsedBytes state ssuId length).nextAllocationId =
      state.nextAllocationId := by
  unfold subUsedBytes
  split <;> rfl

@[simp] theorem rememberReleasedId_allocations (allocateId : CString) :
    (rememberReleasedId state allocateId).allocations =
      state.allocations := by
  unfold rememberReleasedId
  split <;> [rfl; split <;> rfl]

@[simp] theorem rememberReleasedId_logdevs (allocateId : CString) :
    (rememberReleasedId state allocateId).logdevs = state.logdevs := by
  unfold rememberReleasedId
  split <;> [rfl; split <;> rfl]

@[simp] theorem rememberReleasedId_pool (allocateId : CString) :
    (rememberReleasedId state allocateId).pool = state.pool := by
  unfold rememberReleasedId
  split <;> [rfl; split <;> rfl]

@[simp] theorem setAllocationState_rows (allocateId : CString)
    (newState : CBuf 16) :
    (setAllocationState state allocateId newState).allocations.rows =
      state.allocations.rows.map (setRowState allocateId newState) := by
  simp [setAllocationState]

end Fields

section RowState

variable {allocateId : CString} {newState : CBuf 16}

@[simp] theorem setRowState_allocateId (row : ControllerAllocation) :
    (setRowState allocateId newState row).info.allocateId =
      row.info.allocateId := by
  unfold setRowState
  split <;> rfl

@[simp] theorem setRowState_diskName (row : ControllerAllocation) :
    (setRowState allocateId newState row).info.diskName =
      row.info.diskName := by
  unfold setRowState
  split <;> rfl

@[simp] theorem setRowState_shareType (row : ControllerAllocation) :
    (setRowState allocateId newState row).info.shareType =
      row.info.shareType := by
  unfold setRowState
  split <;> rfl

@[simp] theorem setRowState_ssuId (row : ControllerAllocation) :
    (setRowState allocateId newState row).info.ssuId = row.info.ssuId := by
  unfold setRowState
  split <;> rfl

@[simp] theorem setRowState_length (row : ControllerAllocation) :
    (setRowState allocateId newState row).info.length = row.info.length := by
  unfold setRowState
  split <;> rfl

@[simp] theorem setRowState_physSector (row : ControllerAllocation) :
    (setRowState allocateId newState row).info.physSector =
      row.info.physSector := by
  unfold setRowState
  split <;> rfl

/-- Only the last state set counts. -/
@[simp] theorem setRowState_setRowState (earlier : CBuf 16)
    (row : ControllerAllocation) :
    setRowState allocateId newState (setRowState allocateId earlier row) =
      setRowState allocateId newState row := by
  by_cases own : rowHasId allocateId row = true
  · have still : rowHasId allocateId
        { row with info := { row.info with state := earlier } } = true := own
    simp only [setRowState, own, still, if_true]
  · simp only [setRowState, own, if_false, Bool.false_eq_true]

theorem setRowState_state (row : ControllerAllocation) :
    (setRowState allocateId newState row).info.state =
      if rowHasId allocateId row then newState else row.info.state := by
  unfold setRowState
  split <;> rfl

end RowState

section Ids

theorem autoAllocateId_chars (number : UInt64) :
    (autoAllocateId number).chars =
      "alloc-".toList ++ decimal number.toNat := by
  apply copyCstr_chars_of_fits
  have small : number.toNat < 10 ^ 20 :=
    Nat.lt_of_lt_of_le number.toNat_lt (by decide)
  have digits := length_decimal_le 20 (by decide) small
  have lead : "alloc-".toList.length = 6 := by decide
  rw [List.length_append, lead]
  omega

theorem autoAllocateId_injective : Function.Injective autoAllocateId := by
  intro left right equality
  have texts := congrArg BoundedString.chars equality
  rw [autoAllocateId_chars, autoAllocateId_chars,
    List.append_cancel_left_eq] at texts
  exact UInt64.toNat_inj.mp (decimal_injective texts)

/-- The loop condition of `next_auto_allocate_id`. -/
def idIsBlocked (state : ControllerState) (allocateId : CBuf 64) : Prop :=
  allocateId ∈ state.allocations.rows.map (fun row => row.info.allocateId) ∨
    allocateId ∈ state.releasedIds.items

theorem allocationIdIsActive_iff (state : ControllerState)
    {allocateId : CBuf 64} (named : allocateId.chars ≠ []) :
    allocationIdIsActive state allocateId.chars = true ↔
      ∃ row ∈ state.allocations.rows, row.info.allocateId = allocateId := by
  simp [allocationIdIsActive, findAllocationRowsById, isEmptyString,
    named, rowHasId, BoundedString.chars_inj]

theorem releasedIdExists_iff (state : ControllerState)
    (allocateId : CBuf 64) :
    releasedIdExists state allocateId.chars = true ↔
      allocateId ∈ state.releasedIds.items := by
  simp [releasedIdExists, BoundedString.chars_inj]

theorem autoAllocateId_ne_nil (number : UInt64) :
    (autoAllocateId number).chars ≠ [] := by
  rw [autoAllocateId_chars]
  simp

theorem not_blocked_iff (state : ControllerState) (number : UInt64) :
    (!allocationIdIsActive state (autoAllocateId number).chars &&
        !releasedIdExists state (autoAllocateId number).chars) = true ↔
      ¬idIsBlocked state (autoAllocateId number) := by
  have active := allocationIdIsActive_iff state (autoAllocateId_ne_nil number)
  have released := releasedIdExists_iff state (autoAllocateId number)
  simp only [Bool.and_eq_true, Bool.not_eq_true', ← Bool.not_eq_true, active,
    released, idIsBlocked, List.mem_map, not_or]

/-- One search either ends at a free number or has seen only blocked ones. -/
private theorem nextAutoAllocateIdLoop_spec (fuel : Nat)
    (state : ControllerState) :
    ∃ number,
      nextAutoAllocateIdLoop fuel state =
          (autoAllocateId number, { state with nextAllocationId := number }) ∧
        (¬idIsBlocked state (autoAllocateId number) ∨
          ∀ skipped < fuel, idIsBlocked state
            (autoAllocateId
              (state.nextAllocationId + UInt64.ofNat skipped))) := by
  induction fuel generalizing state with
  | zero => exact ⟨state.nextAllocationId, rfl, .inr (by simp)⟩
  | succ fuel induction =>
      by_cases free : ¬idIsBlocked state (autoAllocateId state.nextAllocationId)
      · refine ⟨state.nextAllocationId, ?_, .inl free⟩
        simp only [nextAutoAllocateIdLoop,
          (not_blocked_iff state state.nextAllocationId).mpr free, ↓reduceIte]
      · obtain ⟨number, result, found⟩ := induction
          { state with nextAllocationId := state.nextAllocationId + 1 }
        refine ⟨number, ?_, found.imp id fun blocked skipped bound => ?_⟩
        · have taken := mt (not_blocked_iff state state.nextAllocationId).mp free
          simpa only [nextAutoAllocateIdLoop, taken, Bool.false_eq_true,
            ↓reduceIte] using result
        · cases skipped with
          | zero => simpa using free
          | succ skipped =>
              have later := blocked skipped (by omega)
              have shifted : state.nextAllocationId + 1 +
                    UInt64.ofNat skipped =
                  state.nextAllocationId + UInt64.ofNat (skipped + 1) := by
                rw [UInt64.add_assoc, UInt64.ofNat_add,
                  UInt64.add_comm (UInt64.ofNat skipped)]
                rfl
              rw [← shifted]
              exact later

private theorem offset_injective (start : UInt64) {left right : Nat}
    (leftSmall : left < 2 ^ 64) (rightSmall : right < 2 ^ 64)
    (equality : start + UInt64.ofNat left = start + UInt64.ofNat right) :
    left = right := by
  have offsets := (UInt64.add_right_inj start).mp equality
  have values := congrArg UInt64.toNat offsets
  rwa [UInt64.toNat_ofNat_of_lt' leftSmall,
    UInt64.toNat_ofNat_of_lt' rightSmall] at values

/-- The number the search settles on is neither active nor remembered as
released: 257 candidates cannot all be among 128 rows and 128 old ids. -/
theorem nextAutoAllocateId_spec (state : ControllerState) :
    ∃ number,
      nextAutoAllocateId state =
          (autoAllocateId number, { state with nextAllocationId := number }) ∧
        ¬idIsBlocked state (autoAllocateId number) := by
  obtain ⟨number, result, found⟩ := nextAutoAllocateIdLoop_spec
    (maxAllocations + maxReleased + 1) state
  refine ⟨number, result, found.resolve_right fun blocked => ?_⟩
  let candidates := (List.range (maxAllocations + maxReleased + 1)).map
    fun skipped =>
      autoAllocateId (state.nextAllocationId + UInt64.ofNat skipped)
  let taken := state.allocations.rows.map (fun row => row.info.allocateId) ++
    state.releasedIds.items
  have distinct : candidates.Nodup := by
    refine List.Nodup.map_on ?_ List.nodup_range
    intro left leftMember right rightMember equality
    have leftBound := List.mem_range.mp leftMember
    have rightBound := List.mem_range.mp rightMember
    have small : maxAllocations + maxReleased + 1 < 2 ^ 64 := by decide
    exact offset_injective _ (leftBound.trans small) (rightBound.trans small)
      (autoAllocateId_injective equality)
  have covered : candidates ⊆ taken := by
    intro candidate member
    obtain ⟨skipped, inRange, rfl⟩ := List.mem_map.mp member
    exact List.mem_append.mpr (blocked skipped (List.mem_range.mp inRange))
  have counted := (distinct.subperm covered).length_le
  have active := state.allocations.length_rows_le
  have remembered := state.releasedIds.fits
  simp only [candidates, taken, List.length_map, List.length_range,
    List.length_append] at counted
  omega

/-- The search ends at once when its next number is free. -/
theorem nextAutoAllocateId_of_free (state : ControllerState)
    (free : ¬idIsBlocked state (autoAllocateId state.nextAllocationId)) :
    nextAutoAllocateId state =
      (autoAllocateId state.nextAllocationId, state) := by
  have first := (not_blocked_iff state state.nextAllocationId).mpr free
  simp only [nextAutoAllocateId, nextAutoAllocateIdLoop, first, ↓reduceIte]

/-- Searching again finds the same id. -/
theorem nextAutoAllocateId_again (state : ControllerState) :
    (nextAutoAllocateId (nextAutoAllocateId state).2).1 =
      (nextAutoAllocateId state).1 := by
  obtain ⟨number, result, unblocked⟩ := nextAutoAllocateId_spec state
  rw [result]
  have again := nextAutoAllocateId_of_free
    { state with nextAllocationId := number } unblocked
  exact congrArg Prod.fst again

/-- The search reads neither the pool nor the logical devices. -/
theorem nextAutoAllocateId_congr {left right : ControllerState}
    (allocations : left.allocations = right.allocations)
    (releasedIds : left.releasedIds = right.releasedIds)
    (next : left.nextAllocationId = right.nextAllocationId) :
    (nextAutoAllocateId left).1 = (nextAutoAllocateId right).1 := by
  unfold nextAutoAllocateId
  generalize maxAllocations + maxReleased + 1 = fuel
  induction fuel generalizing left right with
  | zero => simp only [nextAutoAllocateIdLoop, next]
  | succ fuel induction =>
      have active : ∀ allocateId, allocationIdIsActive left allocateId =
          allocationIdIsActive right allocateId := by
        intro allocateId
        simp only [allocationIdIsActive, findAllocationRowsById, allocations]
      have released : ∀ allocateId, releasedIdExists left allocateId =
          releasedIdExists right allocateId := by
        intro allocateId
        simp only [releasedIdExists, releasedIds]
      simp only [nextAutoAllocateIdLoop, active, released, next]
      split
      · rfl
      · apply induction
        · exact allocations
        · exact releasedIds
        · rfl

end Ids

end UbseSsu.Controller

import UbseSsu.Controller.State

/-!
# The controller's entry points

`ssu_controller_refresh_pool`, `alloc`, `release`, `mount`, `unmount` and the
three queries, over an arbitrary vendor plugin.  Every operation threads the
plugin's state through its calls in the order of the source.  A NULL plugin
table behaves like one without entry points.
-/

namespace UbseSsu.Controller

variable {PluginState : Type}

section RefreshPool

def refreshResourceState (plugin : SsuPluginOps PluginState)
    (resource : SsuResourceInfo) (world : PluginState) :
    SsuResourceInfo × PluginState :=
  match plugin.healthCheck with
  | none => (resource, world)
  | some healthCheck =>
      match healthCheck resource.ssuId world with
      | ((.ok, health), world) => ({ resource with state := health }, world)
      | ((_, _), world) => ({ resource with state := offlineState }, world)

/-- First loop of the refresh: the discovered resources in discovery order,
with the counter of an already known resource carried over. -/
def mergeDiscovered (plugin : SsuPluginOps PluginState)
    (pool : List SsuResourceInfo) :
    List SsuResourceInfo → PluginState → List SsuResourceInfo × PluginState
  | [], world => ([], world)
  | resource :: resources, world =>
      let counted :=
        match (findResourceIndex pool resource.ssuId).bind (pool[·]?) with
        | none => resource
        | some known => { resource with usedBytes := known.usedBytes }
      let (refreshed, world) := refreshResourceState plugin counted world
      let (rest, world) := mergeDiscovered plugin pool resources world
      (refreshed :: rest, world)

theorem length_mergeDiscovered (plugin : SsuPluginOps PluginState)
    (pool resources : List SsuResourceInfo) (world : PluginState) :
    (mergeDiscovered plugin pool resources world).1.length =
      resources.length := by
  induction resources generalizing world with
  | nil => rfl
  | cons resource resources induction => simp [mergeDiscovered, induction]

/-- Second loop: known resources that discovery did not report are kept. -/
def keepKnown (plugin : SsuPluginOps PluginState) :
    List SsuResourceInfo → CountedArray SsuResourceInfo maxResources →
      PluginState →
      Option (CountedArray SsuResourceInfo maxResources) × PluginState
  | [], nextPool, world => (some nextPool, world)
  | known :: others, nextPool, world =>
      if (findResourceIndex nextPool.items known.ssuId).isSome then
        keepKnown plugin others nextPool world
      else if room : nextPool.items.length < maxResources then
        let (refreshed, world) := refreshResourceState plugin known world
        keepKnown plugin others (nextPool.push refreshed room) world
      else (none, world)

def ssuControllerRefreshPool (plugin : SsuPluginOps PluginState)
    (state : ControllerState) (world : PluginState) :
    SsuErr × ControllerState × PluginState :=
  match plugin.discover with
  | none => (.invalid, state, world)
  | some discover =>
      match discover world with
      | ((.ok, discovered), world) =>
          if fits : discovered.length ≤ maxResources then
            let merged :=
              mergeDiscovered plugin state.pool.items discovered world
            let nextPool : CountedArray SsuResourceInfo maxResources :=
              ⟨merged.1, by
                rw [length_mergeDiscovered]
                exact fits⟩
            match keepKnown plugin state.pool.items nextPool merged.2 with
            | (some pool, world) => (.ok, { state with pool := pool }, world)
            | (none, world) => (.internal, state, world)
          else (.internal, state, world)
      | ((err, _), world) => (err, state, world)

end RefreshPool

section Alloc

/-- The caller's `out_extents` array and `*inout_extent_count`. -/
structure ExtentBuffer where
  present : Bool
  count : UInt32
deriving DecidableEq

/-- The status and what was written through the output pointers; `none` means
that the caller's memory was left alone. -/
structure AllocAnswer where
  err : SsuErr
  out : Option SsuAllocResult
  outExtents : Option (List SsuAllocExtent)
  extentCount : UInt32
deriving DecidableEq

def AllocAnswer.failed (err : SsuErr) (buffer : ExtentBuffer) : AllocAnswer :=
  { err := err, out := none, outExtents := none, extentCount := buffer.count }

def AllocAnswer.bufferTooSmall (needed : UInt32) : AllocAnswer :=
  { err := .bufferTooSmall, out := none, outExtents := none
    extentCount := needed }

/-- A failure after `out` and `out_extents` were zeroed. -/
def AllocAnswer.zeroed (err : SsuErr) (buffer : ExtentBuffer)
    (extentCount : Nat) : AllocAnswer :=
  { err := err, out := some default
    outExtents := some (List.replicate extentCount default)
    extentCount := buffer.count }

def existingExtent (state : ControllerState) (row : ControllerAllocation) :
    SsuAllocExtent :=
  { ssuId := row.info.ssuId
    hostId :=
      match (findResourceIndex state.pool.items row.info.ssuId).bind
          (state.pool.items[·]?) with
      | none => .empty
      | some resource => resource.hostId
    nsId := row.info.nsId
    logicalOffset := row.info.logicalOffset
    length := row.info.length }

/-- `uint64_t` sum of the row lengths. -/
def totalSize (rows : List ControllerAllocation) : UInt64 :=
  rows.foldl (fun total row => total + row.info.length) 0

def copyExistingAllocation (req : SsuAllocReq) (diskName : CString)
    (buffer : ExtentBuffer) (state : ControllerState) : AllocAnswer :=
  match findAllocationRowsByDiskName state diskName with
  | [] => .failed .notFound buffer
  | first :: others =>
      let rows := first :: others
      let extentCount := rows.length
      match buildHostKey req.hostIds with
      | none => .failed .invalid buffer
      | some hostKey =>
          if totalSize rows ≠ req.sizeBytes ∨
              (req.physicalDiskCount > 0 ∧
                req.physicalDiskCount.toNat ≠ extentCount) ∨
              first.info.policy ≠ req.reliability ∨
              first.info.shareType ≠ req.shareType ∨
              first.info.tenant.chars ≠ req.tenant ∨
              first.hostKey ≠ hostKey then
            .failed .nsExists buffer
          else if !buffer.present || decide (buffer.count.toNat < extentCount)
          then .bufferTooSmall (UInt32.ofNat extentCount)
          else
            { err := .ok
              out := some
                { allocateId := first.info.allocateId
                  logicalSizeBytes := totalSize rows
                  extentCount := UInt32.ofNat extentCount }
              outExtents := some (rows.map (existingExtent state))
              extentCount := UInt32.ofNat extentCount }

/-- The locals of `ssu_controller_alloc` that its extent loop reads. -/
structure AllocContext where
  req : SsuAllocReq
  allocateId : CBuf 64
  hostKey : CBuf hostKeySize
  baseLength : UInt64
  remainder : UInt64

def AllocContext.extentReq (ctx : AllocContext) (resource : SsuResourceInfo)
    (index : Nat) (logicalOffset : UInt64) : SsuExtentCreateReq :=
  { allocateId := ctx.allocateId
    ssuId := resource.ssuId
    logicalOffset := logicalOffset
    length := extentLength ctx.baseLength ctx.remainder index
    physOffsetHint := resource.usedBytes / sectorSize
    policy := ctx.req.reliability
    roleIndex := UInt32.ofNat index
    tenant := ctx.req.tenant }

def AllocContext.row (ctx : AllocContext) (extentReq : SsuExtentCreateReq)
    (answer : CreateNsAnswer) : ControllerAllocation :=
  { info :=
      { allocateId := ctx.allocateId
        diskName := copyCstr 64 ctx.req.diskName
        tenant := copyCstr 64 ctx.req.tenant
        policy := ctx.req.reliability
        shareType := ctx.req.shareType
        state := activeState
        ssuId := extentReq.ssuId
        nsId := answer.nsId
        logicalOffset := extentReq.logicalOffset
        length := extentReq.length
        physSector := answer.physSector
        roleIndex := extentReq.roleIndex }
    hostKey := ctx.hostKey }

def AllocContext.extent (resource : SsuResourceInfo)
    (extentReq : SsuExtentCreateReq) (answer : CreateNsAnswer) :
    SsuAllocExtent :=
  { ssuId := resource.ssuId
    hostId := resource.hostId
    nsId := answer.nsId
    logicalOffset := extentReq.logicalOffset
    length := extentReq.length }

/-- One extent arrives: its row is filled and its SSU's counter goes up. -/
def addExtent (state : ControllerState) (slot poolIndex : Nat)
    (row : ControllerAllocation) : ControllerState :=
  addUsedBytes { state with allocations := state.allocations.put slot row }
    poolIndex row.info.length

/-- How the extent loop ended, with the created slots (latest first). -/
structure CreateResult (PluginState : Type) where
  err : SsuErr
  created : List Nat
  outExtents : List SsuAllocExtent
  state : ControllerState
  world : PluginState

def createExtents
    (createNs : SsuExtentCreateReq → PluginState → CreateNsAnswer × PluginState)
    (ctx : AllocContext) :
    List Nat → Nat → UInt64 → List Nat → List SsuAllocExtent →
      ControllerState → PluginState → CreateResult PluginState
  | [], _, _, created, extents, state, world =>
      { err := .ok, created, outExtents := extents.reverse, state, world }
  | poolIndex :: poolIndexes, index, logicalOffset, created, extents, state,
      world =>
      let stop := fun err world =>
        { err := err, created, outExtents := [], state, world }
      let length := extentLength ctx.baseLength ctx.remainder index
      match state.allocations.firstFree, state.pool.items[poolIndex]? with
      | none, _ | _, none => stop .noResource world
      | some slot, some resource =>
          if resource.usedBytes > resource.totalBytes ∨
              length > resource.totalBytes - resource.usedBytes then
            stop .noResource world
          else if resource.usedBytes % sectorSize ≠ 0 then stop .invalid world
          else
            let extentReq := ctx.extentReq resource index logicalOffset
            let (answer, world) := createNs extentReq world
            if answer.err ≠ .ok then stop answer.err world
            else
              createExtents createNs ctx poolIndexes (index + 1)
                (logicalOffset + length) (slot :: created)
                (AllocContext.extent resource extentReq answer :: extents)
                (addExtent state slot poolIndex (ctx.row extentReq answer))
                world

/-- `plugin->delete_ns` of the rollback: its status is not looked at. -/
def rollbackDelete (plugin : SsuPluginOps PluginState)
    (row : ControllerAllocation) (world : PluginState) : PluginState :=
  match plugin.deleteNs with
  | none => world
  | some deleteNs => (deleteNs row.info.ssuId row.info.nsId world).2

/-- One extent leaves: its SSU's counter goes down and its row is freed. -/
def dropExtent (state : ControllerState) (slot : Nat)
    (row : ControllerAllocation) : ControllerState :=
  let uncounted := subUsedBytes state row.info.ssuId row.info.length
  { uncounted with allocations := uncounted.allocations.clear slot }

section ExtentFields

variable (state : ControllerState) (slot poolIndex : Nat)
  (row : ControllerAllocation)

@[simp] theorem addExtent_allocations :
    (addExtent state slot poolIndex row).allocations =
      state.allocations.put slot row := rfl

@[simp] theorem addExtent_logdevs :
    (addExtent state slot poolIndex row).logdevs = state.logdevs := rfl

@[simp] theorem addExtent_releasedIds :
    (addExtent state slot poolIndex row).releasedIds = state.releasedIds :=
  rfl

@[simp] theorem addExtent_nextAllocationId :
    (addExtent state slot poolIndex row).nextAllocationId =
      state.nextAllocationId := rfl

@[simp] theorem dropExtent_allocations :
    (dropExtent state slot row).allocations =
      state.allocations.clear slot := by
  simp [dropExtent]

@[simp] theorem dropExtent_logdevs :
    (dropExtent state slot row).logdevs = state.logdevs := by
  simp [dropExtent]

@[simp] theorem dropExtent_releasedIds :
    (dropExtent state slot row).releasedIds = state.releasedIds := by
  simp [dropExtent]

@[simp] theorem dropExtent_nextAllocationId :
    (dropExtent state slot row).nextAllocationId =
      state.nextAllocationId := by
  simp [dropExtent]

end ExtentFields

def rollbackExtents (plugin : SsuPluginOps PluginState) :
    List Nat → ControllerState → PluginState → ControllerState × PluginState
  | [], state, world => (state, world)
  | slot :: created, state, world =>
      match state.allocations.get slot with
      | none => rollbackExtents plugin created state world
      | some row =>
          rollbackExtents plugin created (dropExtent state slot row)
            (rollbackDelete plugin row world)

/-- `min(extent_count, size_bytes)` of the requested or all ONLINE disks. -/
def plannedExtentCount (req : SsuAllocReq) (onlineCount : Nat) : Nat :=
  let extentCount :=
    if req.physicalDiskCount > 0 then req.physicalDiskCount.toNat
    else onlineCount
  if req.sizeBytes.toNat < extentCount then req.sizeBytes.toNat
  else extentCount

/-- `ssu_controller_alloc` from the choice of the id on. -/
def allocNew
    (createNs : SsuExtentCreateReq → PluginState → CreateNsAnswer × PluginState)
    (plugin : SsuPluginOps PluginState) (req : SsuAllocReq)
    (hostKey : CBuf hostKeySize) (buffer : ExtentBuffer)
    (initial : ControllerState) (world : PluginState) :
    AllocAnswer × ControllerState × PluginState :=
  let (allocateId, state) := nextAutoAllocateId initial
  let online := onlinePoolIndexes state
  if online.length = 0 then (.failed .noResource buffer, state, world)
  else if req.physicalDiskCount.toNat > online.length then
    (.failed .noResource buffer, state, world)
  else
    let extentCount := plannedExtentCount req online.length
    if !buffer.present || decide (buffer.count.toNat < extentCount) then
      (.bufferTooSmall (UInt32.ofNat extentCount), state, world)
    else if state.allocations.freeSlots.length < extentCount then
      (.failed .noResource buffer, state, world)
    else
      let ctx : AllocContext :=
        { req, allocateId, hostKey
          baseLength := req.sizeBytes / UInt64.ofNat extentCount
          remainder := req.sizeBytes % UInt64.ofNat extentCount }
      match selectPoolIndexes state online ctx.baseLength ctx.remainder
          (List.range extentCount) [] with
      | .error err => (.zeroed err buffer extentCount, state, world)
      | .ok selected =>
          let result := createExtents createNs ctx selected 0 0 [] [] state world
          if result.err ≠ .ok then
            let (state, world) :=
              rollbackExtents plugin result.created result.state result.world
            (.zeroed result.err buffer extentCount, state, world)
          else
            ({ err := .ok
               out := some
                 { allocateId
                   logicalSizeBytes := req.sizeBytes
                   extentCount := UInt32.ofNat extentCount }
               outExtents := some result.outExtents
               extentCount := UInt32.ofNat extentCount },
              { result.state with
                nextAllocationId := result.state.nextAllocationId + 1 },
              result.world)

def ssuControllerAlloc (plugin : SsuPluginOps PluginState)
    (req : SsuAllocReq) (buffer : ExtentBuffer) (state : ControllerState)
    (world : PluginState) : AllocAnswer × ControllerState × PluginState :=
  match plugin.createNs with
  | none => (.failed .invalid buffer, state, world)
  | some createNs =>
      if req.reliability ≠ .stripe then
        (.failed .unsupported buffer, state, world)
      else if req.sizeBytes = 0 then (.failed .invalid buffer, state, world)
      else
        match buildHostKey req.hostIds with
        | none => (.failed .invalid buffer, state, world)
        | some hostKey =>
            if isEmptyString req.diskName then
              allocNew createNs plugin req hostKey buffer state world
            else if !allocationNameIsValid req.diskName then
              (.failed .invalid buffer, state, world)
            else if diskNameIsActive state req.diskName then
              (copyExistingAllocation req req.diskName buffer state, state,
                world)
            else allocNew createNs plugin req hostKey buffer state world

end Alloc

section Release

structure ReleaseResult (PluginState : Type) where
  err : SsuErr
  found : Bool
  state : ControllerState
  world : PluginState

def releaseExtents
    (deleteNs : CBuf 64 → CBuf 32 → PluginState → SsuErr × PluginState)
    (allocateId : CString) :
    List Nat → Bool → ControllerState → PluginState →
      ReleaseResult PluginState
  | [], found, state, world => { err := .ok, found, state, world }
  | slot :: slots, found, state, world =>
      match state.allocations.get slot with
      | none => releaseExtents deleteNs allocateId slots found state world
      | some row =>
          if rowHasId allocateId row then
            match deleteNs row.info.ssuId row.info.nsId world with
            | (.ok, world) =>
                releaseExtents deleteNs allocateId slots true
                  (dropExtent state slot row) world
            | (err, world) => { err, found, state, world }
          else releaseExtents deleteNs allocateId slots found state world

def ssuControllerRelease (plugin : SsuPluginOps PluginState)
    (allocateId : CString) (state : ControllerState) (world : PluginState) :
    SsuErr × ControllerState × PluginState :=
  match plugin.deleteNs with
  | none => (.invalid, state, world)
  | some deleteNs =>
      if isEmptyString allocateId then (.invalid, state, world)
      else if allocationHasLogdev state allocateId then (.busy, state, world)
      else
        let result :=
          releaseExtents deleteNs allocateId (List.range maxAllocations) false
            state world
        if result.err ≠ .ok then (result.err, result.state, result.world)
        else if result.found then
          (.ok, rememberReleasedId result.state allocateId, result.world)
        else if releasedIdExists result.state allocateId then
          (.ok, result.state, result.world)
        else (.notFound, result.state, result.world)

end Release

section Mount

/-- The loop that connects every extent, in step with the preselected free
logical-device slots. -/
def connectExtents
    (connect : CBuf 64 → PluginState → (SsuErr × CBuf 64) × PluginState) :
    List ControllerAllocation → List Nat → PluginState →
      Except SsuErr (List (ControllerAllocation × Nat × CBuf 64)) × PluginState
  | [], _, world => (.ok [], world)
  | _ :: _, [], world => (.error .noResource, world)
  | row :: rows, slot :: slots, world =>
      match connect row.info.ssuId world with
      | ((.ok, physDev), world) =>
          match connectExtents connect rows slots world with
          | (.ok connected, world) =>
              (.ok ((row, slot, physDev) :: connected), world)
          | (.error err, world) => (.error err, world)
      | ((err, _), world) => (.error err, world)

def logdevRow (req : SsuMountReq) (row : ControllerAllocation)
    (physDev : CBuf 64) : SsuLogdevInfo :=
  { logicalDev := req.logicalDev
    hostId := copyCstr 64 req.hostId
    allocateId := copyCstr 64 req.allocateId
    logicalOffset := row.info.logicalOffset
    length := row.info.length
    physDev := physDev
    nsId := row.info.nsId
    physSector := row.info.physSector }

def logdevEntries (req : SsuMountReq)
    (connected : List (ControllerAllocation × Nat × CBuf 64)) :
    List (Nat × SsuLogdevInfo) :=
  connected.map fun entry =>
    (entry.2.1, logdevRow req entry.1 entry.2.2)

/-- The row fill and the state change after a successful `plugin->mount`. -/
def recordMount (req : SsuMountReq)
    (connected : List (ControllerAllocation × Nat × CBuf 64))
    (state : ControllerState) : ControllerState :=
  setAllocationState
    { state with
      logdevs := state.logdevs.putAll (logdevEntries req connected) }
    req.allocateId mountedState

def ssuControllerMount (plugin : SsuPluginOps PluginState)
    (req : SsuMountReq) (state : ControllerState) (world : PluginState) :
    SsuErr × ControllerState × PluginState :=
  match plugin.mount, plugin.connect with
  | none, _ | _, none => (.invalid, state, world)
  | some mount, some connect =>
      if isEmptyString req.allocateId || isEmptyString req.hostId ||
          isEmptyString req.logicalDev.chars then
        (.invalid, state, world)
      else
        match state.allocations.rows.filter (rowHasId req.allocateId) with
        | [] => (.notFound, state, world)
        | allocation :: others =>
            let allocationRows := allocation :: others
            if (findLogdevByDev state req.logicalDev.chars).isSome then
              (.busy, state, world)
            else if allocation.info.shareType ≠ .shared ∧
                allocationHasLogdev state req.allocateId = true then
              (.busy, state, world)
            else if state.logdevs.freeSlots.length < allocationRows.length then
              (.noResource, state, world)
            else
              match connectExtents connect allocationRows
                  (state.logdevs.freeSlots.take allocationRows.length)
                  world with
              | (.error err, world) => (err, state, world)
              | (.ok connected, world) =>
                  match mount req.allocateId req.hostId req.logicalDev
                      world with
                  | (.ok, world) => (.ok, recordMount req connected state, world)
                  | (err, world) => (err, state, world)

/-- The row removal and the state change after a successful
`plugin->unmount`. -/
def recordUnmount (logicalDev allocateId : CString)
    (state : ControllerState) : ControllerState :=
  let removed :=
    { state with logdevs := state.logdevs.eraseWhere (logdevHasDev logicalDev) }
  if activeAllocationExtentCount removed allocateId > 0 then
    setAllocationState removed allocateId
      (if allocationHasLogdev removed allocateId then mountedState
      else activeState)
  else removed

def ssuControllerUnmount (plugin : SsuPluginOps PluginState)
    (logicalDev : CString) (state : ControllerState) (world : PluginState) :
    SsuErr × ControllerState × PluginState :=
  match plugin.unmount with
  | none => (.invalid, state, world)
  | some unmount =>
      if isEmptyString logicalDev then (.invalid, state, world)
      else
        match findLogdevByDev state logicalDev with
        | none =>
            let (err, world) := unmount logicalDev world
            (err, state, world)
        | some logdev =>
            match unmount logicalDev world with
            | (.ok, world) =>
                (.ok, recordUnmount logicalDev logdev.allocateId.chars state,
                  world)
            | (err, world) => (err, state, world)

end Mount

section Query

/-- The caller's array of a query: `none` is a NULL pointer. -/
structure QueryAnswer (Row : Type) where
  err : SsuErr
  rows : Option (List Row)
  count : UInt32

def queryRows {Row : Type} (rows : List Row) (present : Bool)
    (capacity : UInt32) : QueryAnswer Row :=
  if !present || decide (capacity.toNat < rows.length) then
    { err := if rows.length = 0 then .ok else .bufferTooSmall
      rows := none
      count := UInt32.ofNat rows.length }
  else
    { err := .ok, rows := some rows, count := UInt32.ofNat rows.length }

def ssuControllerQueryPool (state : ControllerState) (present : Bool)
    (capacity : UInt32) : QueryAnswer SsuResourceInfo :=
  queryRows state.pool.items present capacity

def ssuControllerQueryAllocations (state : ControllerState) (present : Bool)
    (capacity : UInt32) : QueryAnswer SsuAllocationInfo :=
  queryRows (state.allocations.rows.map ControllerAllocation.info) present
    capacity

def ssuControllerQueryLogdevs (state : ControllerState) (present : Bool)
    (capacity : UInt32) : QueryAnswer SsuLogdevInfo :=
  queryRows state.logdevs.rows present capacity

/-- A query with a buffer answers all rows or asks for more room. -/
theorem queryRows_present {Row : Type} (rows : List Row) (capacity : UInt32) :
    queryRows rows true capacity =
      if rows.length ≤ capacity.toNat then
        { err := .ok, rows := some rows, count := UInt32.ofNat rows.length }
      else
        { err := .bufferTooSmall, rows := none
          count := UInt32.ofNat rows.length } := by
  by_cases enough : rows.length ≤ capacity.toNat
  · simp [queryRows, enough, Nat.not_lt.mpr enough]
  · have short := Nat.not_le.mp enough
    have some : rows.length ≠ 0 := by omega
    simp [queryRows, enough, short, some]

end Query

end UbseSsu.Controller

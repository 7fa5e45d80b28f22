import UbseSsu.Api.RequestCache
import UbseSsu.Controller.MountOutcomes
import UbseSsu.Controller.PoolRefresh

/-!
# The operations of the API

`ssu_api_allocate`, `ssu_api_allocate_result_get`, `ssu_api_mount`,
`ssu_api_unmount` and `ssu_api_free` of `ssu_api.cpp`, with the resource
functions below them, over the controller and a plugin.  The plugin table is
never NULL, so the initialization that every entry point starts with succeeds.
-/

namespace UbseSsu.Api

open Controller

variable {PluginState : Type} (plugin : SsuPluginOps PluginState)

section Resource

variable (state : ControllerState) (world : PluginState)

/-- `ssu_resource_alloc(req, &out, NULL, NULL)`: the first call only asks for
the number of extents. -/
def ssuResourceAlloc (req : SsuAllocReq) :
    AllocAnswer × ControllerState × PluginState :=
  let nothing : ExtentBuffer := { present := false, count := 0 }
  if req.reliability ≠ .stripe then
    (.failed .unsupported nothing, state, world)
  else
    match ssuControllerRefreshPool plugin state world with
    | (.ok, state, world) =>
        match ssuControllerAlloc plugin req nothing state world with
        | (answer, state, world) =>
            if answer.err ≠ .bufferTooSmall then (answer, state, world)
            else
              ssuControllerAlloc plugin req
                { present := true, count := answer.extentCount } state world
    | (err, state, world) => (.failed err nothing, state, world)

def ssuResourceMount (req : SsuMountReq) :
    SsuErr × ControllerState × PluginState :=
  if isEmptyString req.allocateId || isEmptyString req.hostId ||
      isEmptyString req.logicalDev.chars then
    (.invalid, state, world)
  else ssuControllerMount plugin req state world

def ssuResourceUnmount (logicalDev : CString) :
    SsuErr × ControllerState × PluginState :=
  if isEmptyString logicalDev then (.invalid, state, world)
  else ssuControllerUnmount plugin logicalDev state world

def ssuResourceRelease (allocateId : CString) :
    SsuErr × ControllerState × PluginState :=
  if isEmptyString allocateId then (.invalid, state, world)
  else ssuControllerRelease plugin allocateId state world

end Resource

/-- `ssu_api_allocate_req_t`. -/
structure ApiAllocateReq where
  sizeBytes : UInt64
  diskName : CString
  userId : CString
  physicalDiskCount : UInt32
  logicalDiskAggregate : Int
  allocationType : SsuShareType
  hostIds : List CString
deriving DecidableEq

def ApiAllocateReq.resourceReq (req : ApiAllocateReq) : SsuAllocReq :=
  { sizeBytes := req.sizeBytes
    diskName := req.diskName
    physicalDiskCount :=
      if req.physicalDiskCount = 0 then 1 else req.physicalDiskCount
    reliability := .stripe
    shareType := req.allocationType
    tenant := req.userId
    hostIds := req.hostIds }

/-- `ssu_api_physical_lba_t`. -/
structure ApiPhysicalLba where
  ssuId : CBuf 64
  nsId : CBuf 32
  logicalOffset : UInt64
  length : UInt64
  lba : UInt64
deriving DecidableEq

/-- `ssu_api_allocate_result_info_t`. -/
structure ApiAllocateResultInfo where
  status : SsuErr
  devicePath : CBuf 64
  physicalDisks : List ApiPhysicalLba
  errorMessage : CBuf 128
deriving DecidableEq

def ssuErrMessage : SsuErr → CString
  | .ok => []
  | .invalid => "invalid argument".toList
  | .noResource => "no usable SSU resource".toList
  | .notFound => "requested SSU object was not found".toList
  | .busy => "resource is still in use".toList
  | .io => "device I/O operation failed".toList
  | .kernel => "kernel data path operation failed".toList
  | .nsExists => "namespace already exists".toList
  | .bufferTooSmall => "caller buffer is too small".toList
  | .unsupported => "operation is not supported by this build".toList
  | .internal => "internal error".toList

def ApiAllocateResultInfo.failed (err : SsuErr) (devicePath : CBuf 64) :
    ApiAllocateResultInfo :=
  { status := err
    devicePath := devicePath
    physicalDisks := []
    errorMessage := copyCstr 128 (ssuErrMessage err) }

/-- The extents in the order of their offsets. -/
def fillAllocationLbas (state : ControllerState) (requestId : CString) :
    Except SsuErr (List ApiPhysicalLba) :=
  let answer := ssuControllerQueryAllocations state true 128
  if answer.err ≠ .ok then .error answer.err
  else
    match (answer.rows.getD []).filter (infoHasId requestId) with
    | [] => .error .notFound
    | first :: others =>
        let order := fun left right : SsuAllocationInfo =>
          decide (left.logicalOffset ≤ right.logicalOffset)
        .ok (((first :: others).mergeSort order).map fun info =>
          { ssuId := info.ssuId
            nsId := info.nsId
            logicalOffset := info.logicalOffset
            length := info.length
            lba := info.physSector })

/-- The API with its cache, the controller and the plugin. -/
structure ApiState (PluginState : Type) where
  cache : ApiCache
  controller : ControllerState
  world : PluginState

def ApiState.initial (world : PluginState) : ApiState PluginState :=
  { cache := .initial, controller := .initial, world := world }

/-- The checks of `ssu_api_allocate` in their order. -/
def checkAllocateReq (req : ApiAllocateReq) : SsuErr :=
  if req.sizeBytes = 0 ∨ isEmptyString req.userId = true ∨
      req.hostIds = [] then
    .invalid
  else if req.allocationType ≠ .exclusive ∧ req.allocationType ≠ .shared then
    .invalid
  else if req.allocationType = .exclusive ∧ req.hostIds.length ≠ 1 then
    .invalid
  else if req.hostIds.any isEmptyString then .invalid
  else if req.logicalDiskAggregate < 0 then .unsupported
  else .ok

/-- The status and the request id of the response. -/
def ssuApiAllocate (req : ApiAllocateReq) (current : ApiState PluginState) :
    (SsuErr × CBuf 64) × ApiState PluginState :=
  match checkAllocateReq req with
  | .ok =>
      let existing := allocationNameExists current.controller req.diskName
      match ssuResourceAlloc plugin current.controller current.world
          req.resourceReq with
      | (answer, state, world) =>
          if answer.err ≠ .ok then
            ((answer.err, .empty), { current with controller := state, world })
          else
            let requestId :=
              match answer.out with
              | none => .empty
              | some result => result.allocateId
            match registerRequestPathWithName state requestId.chars
                req.diskName current.cache with
            | (some _, cache) =>
                ((.ok, requestId), { cache, controller := state, world })
            | (none, cache) =>
                if existing then
                  ((.internal, .empty), { cache, controller := state, world })
                else
                  match ssuResourceRelease plugin state world
                      requestId.chars with
                  | (_, state, world) =>
                      ((.internal, .empty),
                        { cache, controller := state, world })
  | err => ((err, .empty), current)

def ssuApiFree (devicePath : CString) (current : ApiState PluginState) :
    SsuErr × ApiState PluginState :=
  match requestIdFromDevicePath current.controller devicePath
      current.cache with
  | (.error err, cache) => (err, { current with cache })
  | (.ok requestId, cache) =>
      match ssuResourceRelease plugin current.controller current.world
          requestId.chars with
      | (.ok, controller, world) =>
          (.ok,
            { cache := forgetRequestPath requestId.chars cache
              controller, world })
      | (err, controller, world) => (err, { cache, controller, world })

def ssuApiAllocateResultGet (requestId : CString)
    (current : ApiState PluginState) :
    ApiAllocateResultInfo × ApiState PluginState :=
  if isEmptyString requestId then (.failed .invalid .empty, current)
  else if !allocationExists current.controller requestId then
    (.failed .notFound .empty, current)
  else
    match registerRequestPath current.controller requestId current.cache with
    | (none, cache) => (.failed .internal .empty, { current with cache })
    | (some devicePath, cache) =>
        match fillAllocationLbas current.controller requestId with
        | .error err => (.failed err devicePath, { current with cache })
        | .ok physicalDisks =>
            ({ status := .ok
               devicePath
               physicalDisks
               errorMessage := .empty }, { current with cache })

def ssuApiMount (devicePath hostId : CString)
    (current : ApiState PluginState) : SsuErr × ApiState PluginState :=
  if isEmptyString devicePath || isEmptyString hostId then (.invalid, current)
  else
    match requestIdFromDevicePath current.controller devicePath
        current.cache with
    | (.error err, cache) => (err, { current with cache })
    | (.ok requestId, cache) =>
        let req : SsuMountReq :=
          { allocateId := requestId.chars
            hostId := hostId
            logicalDev := copyCstr 64 devicePath }
        match ssuResourceMount plugin current.controller current.world req with
        | (.ok, controller, world) =>
            (.ok,
              { cache :=
                  (registerRequestPath controller requestId.chars cache).2
                controller, world })
        | (err, controller, world) => (err, { cache, controller, world })

def ssuApiUnmount (devicePath : CString) (current : ApiState PluginState) :
    SsuErr × ApiState PluginState :=
  if isEmptyString devicePath then (.invalid, current)
  else
    match ssuResourceUnmount plugin current.controller current.world
        devicePath with
    | (err, controller, world) => (err, { current with controller, world })

inductive ApiOp where
  | allocate (req : ApiAllocateReq)
  | resultGet (requestId : CString)
  | mount (devicePath hostId : CString)
  | unmount (devicePath : CString)
  | free (devicePath : CString)
deriving DecidableEq

/-- The status that a call returns, with the state after it. -/
def apiExec (current : ApiState PluginState) :
    ApiOp → SsuErr × ApiState PluginState
  | .allocate req =>
      let result := ssuApiAllocate plugin req current
      (result.1.1, result.2)
  | .resultGet requestId =>
      let result := ssuApiAllocateResultGet requestId current
      (result.1.status, result.2)
  | .mount devicePath hostId => ssuApiMount plugin devicePath hostId current
  | .unmount devicePath => ssuApiUnmount plugin devicePath current
  | .free devicePath => ssuApiFree plugin devicePath current

def apiStep (current : ApiState PluginState) (op : ApiOp) :
    ApiState PluginState :=
  (apiExec plugin current op).2

end UbseSsu.Api

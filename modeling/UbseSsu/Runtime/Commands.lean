import UbseSsu.Api.Operations
import UbseSsu.Library.Tokens

/-!
# The commands of the manager

`handle_command` of `ssu_runtime.cpp` and its handlers: a request line is cut
into tokens, the API or the controller is called, and the answer is written
into a body of 8192 bytes, which silently cuts off what does not fit.
-/

namespace UbseSsu.Runtime

open Controller Api

/-- `RUNTIME_BODY_SIZE`. -/
abbrev bodySize : Nat := 8192

abbrev Body : Type := CBuf bodySize

section Text

/-- `vsnprintf` behind what the buffer holds; `used` stops at `n - 1`. -/
def appendf (body : Body) (text : CString) : Body :=
  copyCstr bodySize (body.chars ++ text)

def ssuErrName : SsuErr → CString
  | .ok => "SSU_OK".toList
  | .invalid => "SSU_ERR_INVALID".toList
  | .noResource => "SSU_ERR_NO_RESOURCE".toList
  | .notFound => "SSU_ERR_NOT_FOUND".toList
  | .busy => "SSU_ERR_BUSY".toList
  | .io => "SSU_ERR_IO".toList
  | .kernel => "SSU_ERR_KERNEL".toList
  | .nsExists => "SSU_ERR_NS_EXISTS".toList
  | .bufferTooSmall => "SSU_ERR_BUFFER_TOO_SMALL".toList
  | .unsupported => "SSU_ERR_UNSUPPORTED".toList
  | .internal => "SSU_ERR_INTERNAL".toList

/-- The values of `ssu_err_t`. -/
def ssuErrCode : SsuErr → Int
  | .ok => 0
  | .invalid => -1
  | .noResource => -2
  | .notFound => -3
  | .busy => -4
  | .io => -5
  | .kernel => -6
  | .nsExists => -7
  | .bufferTooSmall => -8
  | .unsupported => -9
  | .internal => -99

def operationErrorHint (pluginName operation : CString) (err : SsuErr) :
    Option CString :=
  let lbcMock := pluginName = "lbc_mock".toList
  if lbcMock ∧ operation = "alloc".toList ∧ err = .notFound then
    some "lbc_mock create/attach finished, but no new /dev/nvmeXnY namespace was found. Check LBC_PREFIX, mock/run_mock.sh, ls /dev/nvme*n*, and /tmp/ubse-lbc-mock.log.".toList
  else if lbcMock ∧ operation = "alloc".toList ∧ err = .io then
    some "lbc_mock create/attach command failed. Check ssu-mgr stderr and /tmp/ubse-lbc-mock.log for the exact script and exit status.".toList
  else if lbcMock ∧
      (operation = "mount".toList ∨ operation = "unmount".toList) ∧
      err = .kernel then
    some "lbc_mock failed to program ReqShim. Check that ssu_reqshim.ko is loaded and /dev/ssu-ctl exists; see ssu-mgr stderr and /tmp/ubse-lbc-mock.log for the failing ReqShim open/ioctl errno.".toList
  else if lbcMock ∧ err = .notFound then
    some "lbc_mock did not find the requested SSU, allocation, namespace, or logical device. Check query output and /tmp/ubse-lbc-mock.log.".toList
  else if err = .noResource then
    some "No usable SSU resource is currently available. Run query --type pool and check whether discovery succeeded.".toList
  else if err = .busy then
    some "The resource is still in use. Unmount it before releasing or reuse another logical device path.".toList
  else none

def formatOperationError (pluginName operation : CString) (err : SsuErr) :
    Body :=
  let failure := operation ++ " failed: ".toList ++ ssuErrName err ++
    " (".toList ++ decimalInt (ssuErrCode err) ++ ")\nplugin: ".toList ++
    pluginName ++ "\n".toList
  match operationErrorHint pluginName operation err with
  | none => copyCstr bodySize failure
  | some hint =>
      copyCstr bodySize (failure ++ "hint: ".toList ++ hint ++ "\n".toList)

/-- `send_response`: what is written to the response FIFO. -/
def responseText (err : SsuErr) (body : CString) : CString :=
  if err = .ok then "OK\n".toList ++ body
  else
    "ERR ".toList ++ decimalInt (ssuErrCode err) ++ "\n".toList ++ body

def resourceLine (resource : SsuResourceInfo) : CString :=
  resource.ssuId.chars ++ " ".toList ++ resource.hostId.chars ++
    " ".toList ++ resource.state.chars ++ " ".toList ++
    decimal resource.usedBytes.toNat ++ "/".toList ++
    decimal resource.totalBytes.toNat

def allocationLine (info : SsuAllocationInfo) : CString :=
  info.allocateId.chars ++ " ".toList ++ info.state.chars ++ " ".toList ++
    info.ssuId.chars ++ " ".toList ++ info.nsId.chars ++ " ".toList ++
    decimal info.length.toNat

def logdevLine (info : SsuLogdevInfo) : CString :=
  info.logicalDev.chars ++ " ".toList ++ info.hostId.chars ++ " ".toList ++
    info.allocateId.chars ++ " ".toList ++
    decimal info.logicalOffset.toNat ++ " ".toList ++
    decimal info.length.toNat ++ " ".toList ++ info.physDev.chars ++
    " ".toList ++ info.nsId.chars ++ " ".toList ++
    decimal info.physSector.toNat

def physicalLine (index : Nat) (lba : ApiPhysicalLba) : CString :=
  "physical ".toList ++ decimal index ++ " ".toList ++ lba.ssuId.chars ++
    " ".toList ++ lba.nsId.chars ++ " ".toList ++
    decimal lba.logicalOffset.toNat ++ " ".toList ++
    decimal lba.length.toNat ++ " lba=".toList ++ decimal lba.lba.toNat

/-- One `appendf` for the first line and one for each row. -/
def linesBody (first : CString) (rows : List CString) : Body :=
  (first :: rows).foldl (fun body line => appendf body (line ++ "\n".toList))
    .empty

/-- A query into a local array of 128 rows, printed under a header. -/
def buildBody {Row : Type} (header : CString) (rowLine : Row → CString)
    (answer : QueryAnswer Row) : SsuErr × Body :=
  if answer.err ≠ .ok then (answer.err, .empty)
  else
    (.ok, linesBody (header ++ decimal answer.count.toNat)
      ((answer.rows.getD []).map rowLine))

def buildPoolBody (state : ControllerState) : SsuErr × Body :=
  buildBody "pool entries: ".toList resourceLine
    (ssuControllerQueryPool state true 128)

def buildAllocationBody (state : ControllerState) : SsuErr × Body :=
  buildBody "allocation entries: ".toList allocationLine
    (ssuControllerQueryAllocations state true 128)

def buildLogdevBody (state : ControllerState) : SsuErr × Body :=
  buildBody "logdev entries: ".toList logdevLine
    (ssuControllerQueryLogdevs state true 128)

end Text

section Requests

/-- `ssu_api_allocate_req_t` with its enumeration and `int` fields as the
numbers they are on the wire. -/
structure AllocateReq where
  sizeBytes : UInt64
  diskName : CString
  userId : CString
  physicalDiskCount : UInt32
  logicalDiskAggregate : Int32
  allocationType : Int32
  hostIds : List CString
deriving DecidableEq

def shareTypeOf (code : Int32) : SsuShareType :=
  if code = 0 then .exclusive
  else if code = 1 then .shared
  else .other code.toInt

def reliabilityOf (code : Int32) : SsuReliability :=
  if code = 0 then .stripe
  else if code = 1 then .ec
  else if code = 2 then .replica
  else .other code.toInt

def AllocateReq.apiReq (req : AllocateReq) : ApiAllocateReq :=
  { sizeBytes := req.sizeBytes
    diskName := req.diskName
    userId := req.userId
    physicalDiskCount := req.physicalDiskCount
    logicalDiskAggregate := req.logicalDiskAggregate.toInt
    allocationType := shareTypeOf req.allocationType
    hostIds := req.hostIds }

/-- `strtok_r(NULL, " ", &save)`: a NULL token leaves `save` at the end. -/
def nextToken (save : CString) : Option CString × CString :=
  match strtok ' ' save with
  | none => (none, [])
  | some (token, rest) => (some token, rest)

/-- `(uint64_t)strtoull(s, NULL, 10)`. -/
def toUInt64 (text : CString) : UInt64 := UInt64.ofNat (strtoul text).value

/-- `(uint32_t)strtoul(s, NULL, 10)`. -/
def toUInt32 (text : CString) : UInt32 := UInt32.ofNat (strtoul text).value

/-- `(int)strtol(s, NULL, 10)`. -/
def toInt32 (text : CString) : Int32 := Int32.ofInt (strtol text).value

/-- `"-"` stands for an absent string. -/
def optionalToken (token : CString) : CString :=
  if token = "-".toList then [] else token

/-- The request that `handle_allocate` reads, or its error text. -/
def readAllocateReq (save : CString) : Except CString AllocateReq :=
  let (size, save) := nextToken save
  let (share, save) := nextToken save
  let (physicalDisks, save) := nextToken save
  let (aggregate, save) := nextToken save
  let (user, save) := nextToken save
  let (hosts, save) := nextToken save
  let (diskName, _) := nextToken save
  match size, share, physicalDisks, aggregate, user, hosts with
  | some size, some share, some physicalDisks, some aggregate, some user,
      some hosts =>
      let hostIds := strtokAll ',' hosts.length hosts
      if 32 < hostIds.length then
        .error "too many hosts in ALLOCATE command\n".toList
      else
        .ok
          { sizeBytes := toUInt64 size
            diskName :=
              match diskName with
              | none => []
              | some diskName => optionalToken diskName
            userId := optionalToken user
            physicalDiskCount := toUInt32 physicalDisks
            logicalDiskAggregate := toInt32 aggregate
            allocationType := toInt32 share
            hostIds }
  | _, _, _, _, _, _ => .error "invalid ALLOCATE command\n".toList

end Requests

section Handlers

variable {PluginState : Type} (plugin : SsuPluginOps PluginState)
  (pluginName : CString)

/-- An operation's status, its text on success, and the states after it. -/
def reportOperation (operation : CString)
    (result : SsuErr × ApiState PluginState) (done : CString) :
    (SsuErr × Body) × ApiState PluginState :=
  if result.1 = .ok then ((.ok, copyCstr bodySize done), result.2)
  else ((result.1, formatOperationError pluginName operation result.1),
    result.2)

def handleAlloc (save : CString) (current : ApiState PluginState) :
    (SsuErr × Body) × ApiState PluginState :=
  let (size, save) := nextToken save
  let (reliability, save) := nextToken save
  let (replica, save) := nextToken save
  let (share, _) := nextToken save
  match size, reliability, replica, share with
  | some size, some reliability, some _, some share =>
      let req : SsuAllocReq :=
        { sizeBytes := toUInt64 size
          diskName := []
          physicalDiskCount := 1
          reliability := reliabilityOf (toInt32 reliability)
          shareType := shareTypeOf (toInt32 share)
          tenant := []
          hostIds := [] }
      let (answer, controller, world) := ssuControllerAlloc plugin req
        ⟨true, 1⟩ current.controller current.world
      let allocateId := ((answer.out.getD default).allocateId).chars
      reportOperation pluginName "alloc".toList
        (answer.err, { current with controller, world })
        (allocateId ++ "\n".toList)
  | _, _, _, _ =>
      ((.invalid, copyCstr bodySize "invalid ALLOC command\n".toList), current)

def handleAllocate (save : CString) (current : ApiState PluginState) :
    (SsuErr × Body) × ApiState PluginState :=
  match readAllocateReq save with
  | .error text => ((.invalid, copyCstr bodySize text), current)
  | .ok req =>
      let ((err, requestId), after) := ssuApiAllocate plugin req.apiReq current
      reportOperation pluginName "allocate".toList (err, after)
        (requestId.chars ++ "\n".toList)

def handleAllocateResult (save : CString) (current : ApiState PluginState) :
    (SsuErr × Body) × ApiState PluginState :=
  match (nextToken save).1 with
  | none =>
      ((.invalid, copyCstr bodySize "invalid ALLOCATE_RESULT command\n".toList),
        current)
  | some requestId =>
      let (info, after) := ssuApiAllocateResultGet requestId current
      if info.status ≠ .ok then
        ((info.status,
          formatOperationError pluginName "allocate-result-get".toList
            info.status), after)
      else
        ((.ok, linesBody info.devicePath.chars
          (info.physicalDisks.mapIdx physicalLine)), after)

/-- A controller call seen from the API's state. -/
def withController (result : SsuErr × ControllerState × PluginState)
    (current : ApiState PluginState) : SsuErr × ApiState PluginState :=
  (result.1, { current with controller := result.2.1, world := result.2.2 })

def handleMount (save : CString) (current : ApiState PluginState) :
    (SsuErr × Body) × ApiState PluginState :=
  let (allocateId, save) := nextToken save
  let (host, save) := nextToken save
  let (dev, _) := nextToken save
  match allocateId, host, dev with
  | some allocateId, some hostId, some dev =>
      let req : SsuMountReq :=
        { allocateId, hostId, logicalDev := copyCstr 64 dev }
      reportOperation pluginName "mount".toList
        (withController (ssuControllerMount plugin req current.controller
          current.world) current)
        ("mounted ".toList ++ dev ++ "\n".toList)
  | _, _, _ =>
      ((.invalid, copyCstr bodySize "invalid MOUNT command\n".toList), current)

def handleMountDev (save : CString) (current : ApiState PluginState) :
    (SsuErr × Body) × ApiState PluginState :=
  let (dev, save) := nextToken save
  let (host, _) := nextToken save
  match dev, host with
  | some dev, some host =>
      reportOperation pluginName "mount".toList
        (ssuApiMount plugin dev host current)
        ("mounted ".toList ++ dev ++ "\n".toList)
  | _, _ =>
      ((.invalid, copyCstr bodySize "invalid MOUNT_DEV command\n".toList),
        current)

def handleUnmount (save : CString) (current : ApiState PluginState) :
    (SsuErr × Body) × ApiState PluginState :=
  match (nextToken save).1 with
  | none =>
      ((.invalid, copyCstr bodySize "invalid UNMOUNT command\n".toList), current)
  | some dev =>
      reportOperation pluginName "unmount".toList
        (withController (ssuControllerUnmount plugin dev current.controller
          current.world) current)
        ("unmounted ".toList ++ dev ++ "\n".toList)

def handleRelease (save : CString) (current : ApiState PluginState) :
    (SsuErr × Body) × ApiState PluginState :=
  match (nextToken save).1 with
  | none =>
      ((.invalid, copyCstr bodySize "invalid RELEASE command\n".toList), current)
  | some allocateId =>
      reportOperation pluginName "release".toList
        (withController (ssuControllerRelease plugin allocateId
          current.controller current.world) current)
        ("released ".toList ++ allocateId ++ "\n".toList)

def handleFree (save : CString) (current : ApiState PluginState) :
    (SsuErr × Body) × ApiState PluginState :=
  match (nextToken save).1 with
  | none =>
      ((.invalid, copyCstr bodySize "invalid FREE command\n".toList), current)
  | some dev =>
      reportOperation pluginName "free".toList
        (ssuApiFree plugin dev current) ("freed ".toList ++ dev ++ "\n".toList)

/-- `refresh_pool`, then the pool's body. -/
def handleList (current : ApiState PluginState) :
    (SsuErr × Body) × ApiState PluginState :=
  let (err, after) := withController
    (ssuControllerRefreshPool plugin current.controller current.world) current
  if err ≠ .ok then
    ((.internal, copyCstr bodySize "pool refresh failed\n".toList), after)
  else (buildPoolBody after.controller, after)

def handleQuery (save : CString) (current : ApiState PluginState) :
    (SsuErr × Body) × ApiState PluginState :=
  match (nextToken save).1 with
  | none =>
      ((.invalid, copyCstr bodySize "invalid QUERY command\n".toList), current)
  | some type =>
      if type = "pool".toList then handleList plugin current
      else if type = "allocation".toList then
        (buildAllocationBody current.controller, current)
      else if type = "logdev".toList then
        (buildLogdevBody current.controller, current)
      else
        ((.invalid, copyCstr bodySize
          ("unknown query type: ".toList ++ type ++ "\n".toList)), current)

/-- The request up to its first CR or LF. -/
def cutLine (request : CString) : CString :=
  request.takeWhile fun char => char ≠ '\r' && char ≠ '\n'

/-- The response and the states after a command. -/
def handleCommand (request : CString) (current : ApiState PluginState) :
    CString × ApiState PluginState :=
  match strtok ' ' (cutLine request) with
  | none => (responseText .invalid "empty command\n".toList, current)
  | some (command, save) =>
      let ((err, body), after) :=
        if command = "ALLOC".toList then
          handleAlloc plugin pluginName save current
        else if command = "ALLOCATE".toList then
          handleAllocate plugin pluginName save current
        else if command = "ALLOCATE_RESULT".toList then
          handleAllocateResult pluginName save current
        else if command = "MOUNT".toList then
          handleMount plugin pluginName save current
        else if command = "MOUNT_DEV".toList then
          handleMountDev plugin pluginName save current
        else if command = "UNMOUNT".toList then
          handleUnmount plugin pluginName save current
        else if command = "RELEASE".toList then
          handleRelease plugin pluginName save current
        else if command = "FREE".toList then
          handleFree plugin pluginName save current
        else if command = "LIST".toList then handleList plugin current
        else if command = "QUERY".toList then
          handleQuery plugin save current
        else
          ((.invalid, copyCstr bodySize
            ("unknown command: ".toList ++ command ++ "\n".toList)), current)
      (responseText err body.chars, after)

end Handlers

end UbseSsu.Runtime

import UbseSsu.Controller.Operations

/-!
# Device paths and the request cache of the API

The file-scope variables of `ssu_api.cpp` and its static helpers: the device
path of an allocation, the cache of the paths that were handed out, and the
four lookups that turn a path back into an allocation id.
-/

namespace UbseSsu.Api

open Controller

abbrev apiMaxRequests : Nat := 128

structure ApiRequest where
  requestId : CBuf 64
  devicePath : CBuf 64
deriving DecidableEq

structure ApiCache where
  requests : SlotTable ApiRequest apiMaxRequests
  nextDeviceIndex : UInt32
deriving DecidableEq

def ApiCache.initial : ApiCache :=
  { requests := .empty apiMaxRequests, nextDeviceIndex := 0 }

/-- The digit loop of `parse_prefixed_u32`. -/
def parseU32Digits : Nat → CString → Option Nat
  | value, [] => some value
  | value, char :: rest =>
      if '0' ≤ char ∧ char ≤ '9' then
        let next := value * 10 + (char.toNat - '0'.toNat)
        if 2 ^ 32 ≤ next then none else parseU32Digits next rest
      else none

def parsePrefixedU32 (text lead : CString) : Option Nat :=
  match skipLead lead text with
  | none | some [] => none
  | some (first :: rest) => parseU32Digits 0 (first :: rest)

def parseLogicalDevIndex (devicePath : CString) : Option Nat :=
  if isEmptyString devicePath then none
  else parsePrefixedU32 (afterLastSlash devicePath) "ssu".toList

/-- The device path and the index counter after it. -/
def defaultDevicePathForRequest (requestId diskName : CString)
    (nextDeviceIndex : UInt32) : CBuf 64 × UInt32 :=
  if !isEmptyString diskName then
    (copyCstr 64 ("/dev/ssu/".toList ++ diskName), nextDeviceIndex)
  else
    match parsePrefixedU32 requestId "alloc-".toList with
    | some index =>
        (copyCstr 64 ("/dev/ssu/ssu".toList ++ decimal index),
          if nextDeviceIndex.toNat ≤ index then UInt32.ofNat index + 1
          else nextDeviceIndex)
    | none =>
        (copyCstr 64 ("/dev/ssu/ssu".toList ++
          decimal nextDeviceIndex.toNat), nextDeviceIndex + 1)

/-- `"alloc-%u"`. -/
def devicePathToRequestId (devicePath : CString) : Option (CBuf 64) :=
  (parseLogicalDevIndex devicePath).map fun index =>
    copyCstr 64 ("alloc-".toList ++ decimal index)

section Queries

variable (state : ControllerState)

/-- `ssu_resource_query` into a local array of 128 allocation rows; a failed
query finds nothing. -/
def queriedAllocations : List SsuAllocationInfo :=
  let answer := ssuControllerQueryAllocations state true 128
  if answer.err ≠ .ok then [] else answer.rows.getD []

def queriedLogdevs : List SsuLogdevInfo :=
  let answer := ssuControllerQueryLogdevs state true 128
  if answer.err ≠ .ok then [] else answer.rows.getD []

def infoHasId (requestId : CString) (info : SsuAllocationInfo) : Bool :=
  info.allocateId.chars = requestId

def infoHasName (diskName : CString) (info : SsuAllocationInfo) : Bool :=
  info.diskName.chars = diskName

/-- The name, or the empty string when the function returns 0. -/
def allocationDiskName (requestId : CString) : CString :=
  if isEmptyString requestId then []
  else
    match (queriedAllocations state).find? fun info =>
        infoHasId requestId info && !isEmptyString info.diskName.chars with
    | none => []
    | some info => info.diskName.chars

def allocationNameExists (diskName : CString) : Bool :=
  !isEmptyString diskName &&
    (queriedAllocations state).any (infoHasName diskName)

def allocationExists (requestId : CString) : Bool :=
  (queriedAllocations state).any (infoHasId requestId)

def logdevRequestId (devicePath : CString) : Option (CBuf 64) :=
  ((queriedLogdevs state).find? (logdevHasDev devicePath)).map
    SsuLogdevInfo.allocateId

end Queries

section Cache

variable (state : ControllerState)

def requestHasId (requestId : CString) (request : ApiRequest) : Bool :=
  request.requestId.chars = requestId

def requestHasDevice (devicePath : CString) (request : ApiRequest) : Bool :=
  request.devicePath.chars = devicePath

def findRequestById (requestId : CString) (cache : ApiCache) :
    Option (Nat × ApiRequest) :=
  cache.requests.findRow (requestHasId requestId)

def findRequestByDevice (devicePath : CString) (cache : ApiCache) :
    Option (Nat × ApiRequest) :=
  cache.requests.findRow (requestHasDevice devicePath)

/-- The device path in the registered slot, or `none` without a free one. -/
def registerRequestPathWithName (requestId diskName : CString)
    (cache : ApiCache) : Option (CBuf 64) × ApiCache :=
  let diskName :=
    if isEmptyString diskName then allocationDiskName state requestId
    else diskName
  let (devicePath, nextDeviceIndex) :=
    defaultDevicePathForRequest requestId diskName cache.nextDeviceIndex
  let registered := fun slot request =>
    (some devicePath,
      { requests := cache.requests.put slot request, nextDeviceIndex })
  match findRequestById requestId cache with
  | some (slot, request) => registered slot { request with devicePath }
  | none =>
      match cache.requests.firstFree with
      | some slot =>
          registered slot { requestId := copyCstr 64 requestId, devicePath }
      | none => (none, cache)

def registerRequestPath (requestId : CString) (cache : ApiCache) :
    Option (CBuf 64) × ApiCache :=
  registerRequestPathWithName state requestId [] cache

def forgetRequestPath (requestId : CString) (cache : ApiCache) : ApiCache :=
  match findRequestById requestId cache with
  | none => cache
  | some (slot, _) => { cache with requests := cache.requests.clear slot }

def namedAllocationRequestId (devicePath : CString) (cache : ApiCache) :
    Option (CBuf 64) × ApiCache :=
  let base := afterLastSlash devicePath
  if isEmptyString devicePath || isEmptyString base then (none, cache)
  else
    match (queriedAllocations state).find? fun info =>
        !isEmptyString info.diskName.chars && infoHasName base info with
    | none => (none, cache)
    | some info =>
        (some info.allocateId,
          (registerRequestPathWithName state info.allocateId.chars
            info.diskName.chars cache).2)

/-- The lookups in order: mounted paths, cached paths, the number in the path,
the disk name in the path. -/
def requestIdFromDevicePath (devicePath : CString) (cache : ApiCache) :
    Except SsuErr (CBuf 64) × ApiCache :=
  if isEmptyString devicePath then (.error .invalid, cache)
  else
    let cached :=
      (findRequestByDevice devicePath cache).filter fun found =>
        allocationExists state found.2.requestId.chars
    let numbered := (devicePathToRequestId devicePath).filter fun requestId =>
      allocationExists state requestId.chars
    match logdevRequestId state devicePath, cached, numbered with
    | some requestId, _, _ => (.ok requestId, cache)
    | none, some (_, request), _ => (.ok request.requestId, cache)
    | none, none, some requestId =>
        (.ok requestId, (registerRequestPath state requestId.chars cache).2)
    | none, none, none =>
        match namedAllocationRequestId state devicePath cache with
        | (some requestId, cache) => (.ok requestId, cache)
        | (none, cache) => (.error .notFound, cache)

end Cache

end UbseSsu.Api

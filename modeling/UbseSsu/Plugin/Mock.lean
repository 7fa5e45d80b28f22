import UbseSsu.Plugin.VendorMounts

/-!
# The mock vendor plugin

`ssu_plugin_mock.cpp` over the machine it runs on.  What the plugin reads from
outside of the program is a field of `MockHost`: the two environment variables
for the whole run, and the file system and the control device at each plugin
call, counted by `MockState.clock`.
-/

namespace UbseSsu.Plugin

open Kernel Reqshim

abbrev mockTotalBytes : UInt64 := 1073741824
abbrev mockMaxNullblk : Nat := 128
abbrev mockMaxNamespaces : Nat := 128
abbrev mockMaxMounts : Nat := 128

structure MockNamespace where
  allocateId : CBuf 64
  ssuId : CBuf 64
  nsId : CBuf 32
  logicalOffset : UInt64
  length : UInt64
  physSector : UInt64
deriving DecidableEq

structure MockHost where
  /-- `SSU_MOCK_SSU_COUNT`. -/
  ssuCount : CString
  /-- `SSU_MOCK_BACKEND_DIR`. -/
  backendDir : CString
  /-- The entries of `/sys/block`. -/
  sysBlock : Nat → List CString
  /-- Whether `/sys/block/nullbN` exists. -/
  nullblkExists : Nat → Nat → Bool
  /-- What `/sys/block/nullbN/size` holds, when it can be read. -/
  nullblkSectors : Nat → Nat → Option UInt64
  /-- Whether a backend file can be opened and has or gets its full size. -/
  openBackend : Nat → CString → Bool
  ctl : Nat → CtlAnswer

structure MockState where
  namespaces : SlotTable MockNamespace mockMaxNamespaces
  /-- `next_ns_id`, without its wrap at 64 bits. -/
  nextNsId : Nat
  tables : MountTables mockMaxMounts
  clock : Nat

def MockState.initial : MockState :=
  { namespaces := .empty mockMaxNamespaces
    nextNsId := 0
    tables := .initial mockMaxMounts
    clock := 0 }

def MockState.tick (world : MockState) : MockState :=
  { world with clock := world.clock + 1 }

variable (host : MockHost)

def parseUint32Tail (text : CString) : Option Nat :=
  if isEmptyString text then none else strtoulU32 text

inductive MockCount where
  | unset
  | count (value : Nat)
  | malformed

def configuredMockCount : MockCount :=
  if isEmptyString host.ssuCount then .unset
  else
    match parseUint32Tail host.ssuCount with
    | some value => .count value
    | none => .malformed

def parseMockSsuId (ssuId : CString) : Option Nat :=
  (skipLead "mock-ssu".toList ssuId).bind parseUint32Tail

/-- `"%s/mock-ssu%u.img"`. -/
def backendPath (index : Nat) : CString :=
  host.backendDir ++ "/mock-ssu".toList ++ decimal index ++ ".img".toList

def mockBackendFile (time index : Nat) : SsuErr × CBuf 64 :=
  let path := backendPath host index
  if isEmptyString host.backendDir then (.notFound, .empty)
  else if 256 ≤ path.length ∨ 64 ≤ path.length then (.invalid, .empty)
  else if host.openBackend time path then (.ok, copyCstr 64 path)
  else (.io, .empty)

def nullblkTotalBytes (time index : Nat) : UInt64 :=
  match host.nullblkSectors time index with
  | none => mockTotalBytes
  | some sectors =>
      if sectors = 0 ∨ sectors > uint64Max / 512 then mockTotalBytes
      else sectors * 512

def mockSsuId (index : Nat) : CBuf 64 :=
  copyCstr 64 ("mock-ssu".toList ++ decimal index)

/-- `"mock-ns%llu"`. -/
def mockNsId (nextNsId : Nat) : CBuf 32 :=
  copyCstr 32 ("mock-ns".toList ++ decimal (nextNsId % 2 ^ 64))

def fillResource (index : Nat) (totalBytes : UInt64) : SsuResourceInfo :=
  { ssuId := mockSsuId index
    totalBytes := totalBytes
    usedBytes := 0
    state := copyCstr 16 "ONLINE".toList
    hostId := copyCstr 64 ("mock-host".toList ++ decimal index) }

def namespaceHasAllocate (allocateId : CString) (ns : MockNamespace) : Bool :=
  ns.allocateId.chars = allocateId

def namespaceIs (ssuId : CBuf 64) (nsId : CBuf 32) (ns : MockNamespace) :
    Bool :=
  ns.ssuId = ssuId && ns.nsId = nsId

/-- The sorted insertion of `insert_index`, while there is room. -/
def insertSorted (index : Nat) : List Nat → List Nat
  | [] => [index]
  | first :: others =>
      if first = index then first :: others
      else if index < first then index :: first :: others
      else first :: insertSorted index others

def insertIndex (indexes : List Nat) (index : Nat) : List Nat :=
  if mockMaxNullblk ≤ indexes.length then indexes
  else insertSorted index indexes

def scanNullblkIndexes (time : Nat) : List Nat :=
  ((host.sysBlock time).filterMap fun name =>
    (skipLead "nullb".toList name).bind parseUint32Tail).foldl insertIndex []

/-- The buffer of the caller has room for 128 resources. -/
def discoverConfigured (count : Nat) : SsuErr × List SsuResourceInfo :=
  if 128 < count then (.bufferTooSmall, [])
  else
    (.ok, (List.range count).map fun index => fillResource index mockTotalBytes)

def discoverNullblk (time : Nat) : SsuErr × List SsuResourceInfo :=
  let indexes := scanNullblkIndexes host time
  if 128 < indexes.length then (.bufferTooSmall, [])
  else
    (.ok, indexes.map fun index =>
      fillResource index (nullblkTotalBytes host time index))

def mockDiscover (world : MockState) :
    (SsuErr × List SsuResourceInfo) × MockState :=
  let answer :=
    match configuredMockCount host with
    | .malformed => (.invalid, [])
    | .count value => discoverConfigured value
    | .unset => discoverNullblk host world.clock
  (answer, world.tick)

/-- `mock_connect` at one moment. -/
def connectDev (time : Nat) (ssuId : CBuf 64) : SsuErr × CBuf 64 :=
  match parseMockSsuId ssuId.chars with
  | none => (.invalid, .empty)
  | some index =>
      let found :=
        match configuredMockCount host with
        | .malformed => none
        | .count value => some (decide (index < value))
        | .unset => some (host.nullblkExists time index)
      match found with
      | none => (.invalid, .empty)
      | some false => (.notFound, .empty)
      | some true =>
          match mockBackendFile host time index with
          | (.notFound, _) =>
              (.ok, copyCstr 64 ("/dev/nullb".toList ++ decimal index))
          | answer => answer

def mockConnect (ssuId : CBuf 64) (world : MockState) :
    (SsuErr × CBuf 64) × MockState :=
  (connectDev host world.clock ssuId, world.tick)

def mockHealthCheck (ssuId : CBuf 64) (world : MockState) :
    (SsuErr × CBuf 16) × MockState :=
  let state := fun online =>
    (SsuErr.ok,
      copyCstr 16 (if online then "ONLINE".toList else "OFFLINE".toList))
  let answer :=
    match parseMockSsuId ssuId.chars, configuredMockCount host with
    | none, _ | some _, .malformed => (.invalid, .empty)
    | some index, .count value => state (decide (index < value))
    | some index, .unset => state (host.nullblkExists world.clock index)
  (answer, world.tick)

def mockCreateNs (extentReq : SsuExtentCreateReq) (world : MockState) :
    CreateNsAnswer × MockState :=
  let refused := fun err =>
    ({ err := err, nsId := .empty, physSector := 0 }, world.tick)
  if extentReq.policy ≠ .stripe then refused .unsupported
  else
    match world.namespaces.firstFree with
    | none => refused .noResource
    | some slot =>
        let nsId := mockNsId world.nextNsId
        let ns : MockNamespace :=
          { allocateId := extentReq.allocateId
            ssuId := extentReq.ssuId
            nsId := nsId
            logicalOffset := extentReq.logicalOffset
            length := extentReq.length
            physSector := extentReq.physOffsetHint }
        ({ err := .ok, nsId := nsId, physSector := extentReq.physOffsetHint },
          { world.tick with
            namespaces := world.namespaces.put slot ns
            nextNsId := world.nextNsId + 1 })

def mockDeleteNs (ssuId : CBuf 64) (nsId : CBuf 32) (world : MockState) :
    SsuErr × MockState :=
  match world.namespaces.findRow (namespaceIs ssuId nsId) with
  | none => (.notFound, world.tick)
  | some (slot, _) =>
      (.ok, { world.tick with namespaces := world.namespaces.clear slot })

/-- The loop of `collect_reqshim_maps` over the allocation's namespaces. -/
def collectMapsLoop (time : Nat) :
    List MockNamespace → Except SsuErr (List MapSpec)
  | [] => .ok []
  | ns :: others =>
      match connectDev host time ns.ssuId with
      | (.ok, physDev) =>
          match collectMapsLoop time others with
          | .error err => .error err
          | .ok specs =>
              .ok
                ({ physDev := physDev
                   nsId := ns.nsId
                   logicalOffset := ns.logicalOffset
                   length := ns.length
                   physSector := ns.physSector } :: specs)
      | (err, _) => .error err

def collectReqshimMaps (world : MockState) (allocateId : CString) :
    Except SsuErr (List MapSpec) :=
  match collectMapsLoop host world.clock
      (world.namespaces.rows.filter (namespaceHasAllocate allocateId)) with
  | .ok [] => .error .notFound
  | answer => answer

def mockMount (allocateId hostId : CString) (logicalDev : CBuf 64)
    (world : MockState) : SsuErr × MockState :=
  let result := vendorMount
    (world.namespaces.rows.any (namespaceHasAllocate allocateId))
    (collectReqshimMaps host world allocateId) true (host.ctl world.clock)
    allocateId hostId logicalDev.chars world.tables
  (result.1, { world.tick with tables := result.2 })

def mockUnmount (logicalDev : CString) (world : MockState) :
    SsuErr × MockState :=
  let result := vendorUnmount (collectReqshimMaps host world) true
    (host.ctl world.clock) logicalDev world.tables
  (result.1, { world.tick with tables := result.2 })

def mockPlugin : SsuPluginOps MockState :=
  { discover := some (mockDiscover host)
    connect := some (mockConnect host)
    healthCheck := some (mockHealthCheck host)
    createNs := some mockCreateNs
    deleteNs := some mockDeleteNs
    mount := some (mockMount host)
    unmount := some (mockUnmount host) }

/-- Two mock SSUs without backing files, and the control device. -/
def twoMockSsus : MockHost :=
  { ssuCount := "2".toList
    backendDir := []
    sysBlock := fun _ => []
    nullblkExists := fun _ _ => false
    nullblkSectors := fun _ _ => none
    openBackend := fun _ _ => false
    ctl := fun _ => { openErrno := none, blockLayer := none } }

end UbseSsu.Plugin

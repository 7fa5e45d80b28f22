import UbseSsu.Plugin.VendorMounts

/-!
# The LBC mock vendor plugin

`ssu_plugin_lbc_mock.cpp`.  Its namespaces are made by scripts and found again
by scanning directories, so the answers of both are fields of `LbcHost`,
together with the loaded configuration.
-/

namespace UbseSsu.Plugin

open Kernel Reqshim

abbrev lbcMockMaxNamespaces : Nat := 32
abbrev lbcMockMaxMounts : Nat := 32
abbrev lbcMockSectorSize : UInt64 := 512

structure LbcNamespace where
  allocateId : CBuf 64
  ssuId : CBuf 64
  nsId : CBuf 32
  devPath : CBuf 256
  logicalOffset : UInt64
  length : UInt64
  physSector : UInt64
deriving DecidableEq

theorem oneResource_inRange : 0 < 1 ∧ 1 ≤ lbcMockMaxNamespaces := by
  decide

structure LbcHost where
  resourceCount : Nat
  /-- `apply_config_pair` refuses any other count. -/
  countInRange : 0 < resourceCount ∧ resourceCount ≤ lbcMockMaxNamespaces
  resourceBytes : UInt64
  devDir : CString
  configfsDir : CString
  scriptsAvailable : Nat → Bool
  setupCommand : Nat → Bool
  createCommand : Nat → Bool
  deleteCommand : Nat → Bool
  /-- The new entry that `choose_created_dev` finds, given the namespaces
  there are. -/
  createdDev : Nat → List LbcNamespace → Option CString
  /-- The new entry that `choose_created_nsid` finds. -/
  createdNsid : Nat → List LbcNamespace → Option CString
  ctl : Nat → CtlAnswer

structure LbcState where
  namespaces : SlotTable LbcNamespace lbcMockMaxNamespaces
  nextNsid : Nat
  targetReady : Bool
  tables : MountTables lbcMockMaxMounts
  clock : Nat

def LbcState.initial : LbcState :=
  { namespaces := .empty lbcMockMaxNamespaces
    nextNsid := 1
    targetReady := false
    tables := .initial lbcMockMaxMounts
    clock := 0 }

def LbcState.tick (world : LbcState) : LbcState :=
  { world with clock := world.clock + 1 }

variable (host : LbcHost)

def lengthToNsze (length : UInt64) : UInt64 :=
  if length = 0 ∨ length > uint64Max - (lbcMockSectorSize - 1) then 0
  else (length + lbcMockSectorSize - 1) / lbcMockSectorSize

def ensureTargetReady (world : LbcState) : SsuErr :=
  if world.targetReady then .ok
  else if !host.scriptsAvailable world.clock then .notFound
  else if !host.setupCommand world.clock then .io
  else .ok

def parseNsidFromDevPath (devPath : CString) : Option CString :=
  let name := afterLastSlash devPath
  match skipLead "nvme".toList name with
  | none => none
  | some _ =>
      match strtoulU32 (name.reverse.takeWhile (· ≠ 'n')).reverse with
      | none | some 0 => none
      | some nsid => some (decimal nsid)

def advanceNextNsidHint (nextNsid : Nat) (nsId : CString) : Nat :=
  match strtoulU32 nsId with
  | none => nextNsid
  | some nsid =>
      if nsid < 2 ^ 32 - 1 ∧ nextNsid ≤ nsid then nsid + 1 else nextNsid

def parseLbcMockSsuId (ssuId : CString) : Option Nat :=
  ((skipLead "lbc-mock-ssu".toList ssuId).bind strtoulU32).filter
    fun index => index < host.resourceCount

def lbcHasAllocate (allocateId : CString) (ns : LbcNamespace) : Bool :=
  ns.allocateId.chars = allocateId

def lbcHasSsu (ssuId : CBuf 64) (ns : LbcNamespace) : Bool :=
  ns.ssuId = ssuId

def lbcNamespaceIs (ssuId : CBuf 64) (nsId : CBuf 32) (ns : LbcNamespace) :
    Bool :=
  ns.ssuId = ssuId && ns.nsId = nsId

/-- `lbc_mock_reqshim_allow_missing`. -/
def allowMissingCtl : Bool :=
  host.devDir ≠ "/dev".toList ||
    host.configfsDir ≠ "/sys/kernel/config/nvmet/subsystems".toList

def lbcMockDiscover (world : LbcState) :
    (SsuErr × List SsuResourceInfo) × LbcState :=
  let resource := fun index : Nat =>
    { ssuId := copyCstr 64 ("lbc-mock-ssu".toList ++ decimal index)
      totalBytes := host.resourceBytes
      usedBytes := 0
      state := copyCstr 16 "ONLINE".toList
      hostId := copyCstr 64 ("lbc-mock-host".toList ++ decimal index) }
  ((.ok, (List.range host.resourceCount).map resource), world.tick)

/-- The device of the first active namespace on the SSU. -/
def firstDevOn (ssuId : CBuf 64) (world : LbcState) : Option (CBuf 256) :=
  (world.namespaces.rows.find? fun ns =>
    lbcHasSsu ssuId ns && !isEmptyString ns.devPath.chars).map
      LbcNamespace.devPath

def lbcMockConnect (ssuId : CBuf 64) (world : LbcState) :
    (SsuErr × CBuf 64) × LbcState :=
  let answer :=
    if isEmptyString ssuId.chars then (.invalid, .empty)
    else
      match parseLbcMockSsuId host ssuId.chars with
      | none => (.notFound, .empty)
      | some _ =>
          match firstDevOn ssuId world with
          | none => (.notFound, .empty)
          | some devPath => (.ok, copyCstr 64 devPath.chars)
  (answer, world.tick)

def lbcMockHealthCheck (ssuId : CBuf 64) (world : LbcState) :
    (SsuErr × CBuf 16) × LbcState :=
  let answer :=
    if isEmptyString ssuId.chars then (.invalid, .empty)
    else
      match parseLbcMockSsuId host ssuId.chars with
      | none => (.notFound, .empty)
      | some _ => (.ok, copyCstr 16 "ONLINE".toList)
  (answer, world.tick)

/-- The script and the two scans: the id that was already known when the
script had failed, and the device. -/
def createdByScript (world : LbcState) :
    Except SsuErr (Option CString × CString) :=
  let createdDev := host.createdDev world.clock world.namespaces.rows
  if host.createCommand world.clock then
    match createdDev with
    | none => .error .notFound
    | some devPath => .ok (none, devPath)
  else
    match host.createdNsid world.clock world.namespaces.rows, createdDev with
    | none, _ | some _, none => .error .io
    | some nsId, some devPath => .ok (some nsId, devPath)

/-- The namespace id in order of preference. -/
def chooseNsId (world : LbcState) (known : Option CString)
    (devPath : CString) : CString :=
  match known, host.createdNsid world.clock world.namespaces.rows with
  | some nsId, _ | none, some nsId => nsId
  | none, none =>
      match parseNsidFromDevPath devPath with
      | some nsId => nsId
      | none => decimal world.nextNsid

def lbcMockCreateNs (extentReq : SsuExtentCreateReq) (world : LbcState) :
    CreateNsAnswer × LbcState :=
  let refused := fun err (world : LbcState) =>
    ({ err := err, nsId := .empty, physSector := 0 }, world.tick)
  if isEmptyString extentReq.allocateId.chars = true ∨
      isEmptyString extentReq.ssuId.chars = true ∨ extentReq.length = 0 then
    refused .invalid world
  else
    match parseLbcMockSsuId host extentReq.ssuId.chars with
    | none => refused .notFound world
    | some _ =>
        if extentReq.policy ≠ .stripe then refused .unsupported world
        else if world.namespaces.rows.any fun ns =>
            lbcHasAllocate extentReq.allocateId.chars ns &&
              lbcHasSsu extentReq.ssuId ns then
          refused .nsExists world
        else
          match world.namespaces.firstFree, ensureTargetReady host world with
          | none, _ => refused .noResource world
          | some slot, .ok =>
              let ready := { world with targetReady := true }
              if lengthToNsze extentReq.length = 0 then refused .invalid ready
              else
                match createdByScript host world with
                | .error err => refused err ready
                | .ok (known, path) =>
                    let devPath := copyCstr 256 path
                    let nsId := copyCstr 32
                      (chooseNsId host world known devPath.chars)
                    let ns : LbcNamespace :=
                      { allocateId := extentReq.allocateId
                        ssuId := extentReq.ssuId
                        nsId := nsId
                        devPath := devPath
                        logicalOffset := extentReq.logicalOffset
                        length := extentReq.length
                        physSector := 0 }
                    ({ err := .ok, nsId := nsId, physSector := 0 },
                      { ready.tick with
                        namespaces := world.namespaces.put slot ns
                        nextNsid :=
                          advanceNextNsidHint world.nextNsid nsId.chars })
          | some _, err => refused err world

def lbcMockDeleteNs (ssuId : CBuf 64) (nsId : CBuf 32) (world : LbcState) :
    SsuErr × LbcState :=
  if isEmptyString ssuId.chars = true ∨ isEmptyString nsId.chars = true then
    (.invalid, world.tick)
  else
    match world.namespaces.findRow (lbcNamespaceIs ssuId nsId) with
    | none => (.notFound, world.tick)
    | some (slot, _) =>
        if host.deleteCommand world.clock then
          (.ok, { world.tick with namespaces := world.namespaces.clear slot })
        else (.io, world.tick)

/-- The loop of `collect_reqshim_maps` over the allocation's namespaces. -/
def lbcCollectLoop : List LbcNamespace → Except SsuErr (List MapSpec)
  | [] => .ok []
  | ns :: others =>
      if 64 ≤ ns.devPath.chars.length then .error .invalid
      else
        match lbcCollectLoop others with
        | .error err => .error err
        | .ok specs =>
            .ok
              ({ physDev := copyCstr 64 ns.devPath.chars
                 nsId := ns.nsId
                 logicalOffset := ns.logicalOffset
                 length := ns.length
                 physSector := ns.physSector } :: specs)

def lbcCollectReqshimMaps (world : LbcState) (allocateId : CString) :
    Except SsuErr (List MapSpec) :=
  if isEmptyString allocateId then .error .invalid
  else
    match lbcCollectLoop
        (world.namespaces.rows.filter (lbcHasAllocate allocateId)) with
    | .ok [] => .error .notFound
    | answer => answer

def lbcMockMount (allocateId hostId : CString) (logicalDev : CBuf 64)
    (world : LbcState) : SsuErr × LbcState :=
  if isEmptyString allocateId || isEmptyString hostId ||
      isEmptyString logicalDev.chars then
    (.invalid, world.tick)
  else
    let result := vendorMount
      (world.namespaces.rows.any (lbcHasAllocate allocateId))
      (lbcCollectReqshimMaps world allocateId) (allowMissingCtl host)
      (host.ctl world.clock) allocateId hostId logicalDev.chars world.tables
    (result.1, { world.tick with tables := result.2 })

def lbcMockUnmount (logicalDev : CString) (world : LbcState) :
    SsuErr × LbcState :=
  if isEmptyString logicalDev then (.invalid, world.tick)
  else
    let result := vendorUnmount (lbcCollectReqshimMaps world)
      (allowMissingCtl host) (host.ctl world.clock) logicalDev world.tables
    (result.1, { world.tick with tables := result.2 })

def lbcMockPlugin : SsuPluginOps LbcState :=
  { discover := some (lbcMockDiscover host)
    connect := some (lbcMockConnect host)
    healthCheck := some (lbcMockHealthCheck host)
    createNs := some (lbcMockCreateNs host)
    deleteNs := some (lbcMockDeleteNs host)
    mount := some (lbcMockMount host)
    unmount := some (lbcMockUnmount host) }

end UbseSsu.Plugin

import UbseSsu.Interface
import UbseSsu.Kernel.Tables

/-!
# The ReqShim interface of the vendor plugins

`reqshim_iface.cpp`: the minor number of a device, the map entries of its
extents, and the ioctl sequences of a mount and an unmount over the tables of
the kernel module.  What happens outside of both, the `open` of the control
device and the block layer, is an argument of every sequence.
-/

namespace UbseSsu.Reqshim

open Kernel

abbrev sectorSize : UInt64 := 512
abbrev uint64Max : UInt64 := 0xFFFFFFFFFFFFFFFF
/-- `SSU_API_MAX_DISK_NAME_LEN`. -/
abbrev maxDiskNameLen : Nat := 27

/-- `ssu_reqshim_map_spec_t`. -/
structure MapSpec where
  physDev : CBuf 64
  nsId : CBuf 32
  logicalOffset : UInt64
  length : UInt64
  physSector : UInt64
deriving DecidableEq

/-- One use of the control device: the errno of `open`, if it fails, the
answer of `SSU_IOC_GET_VERSION`, and the errno of the block layer when a
logical device is created. -/
structure CtlAnswer where
  openErrno : Option Errno
  version : Except Errno Nat := .ok uapiVersion
  blockLayer : Option Errno
deriving DecidableEq

def errnoToSsuErr : Errno → SsuErr
  | .einval => .invalid
  | .enomem | .enospc => .noResource
  | .enoent | .enodev => .notFound
  | .ebusy | .eexist => .busy
  | .eopnotsupp | .enosys => .unsupported
  | .other _ => .kernel

def parseUintTail (text : CString) : Option Nat :=
  if isEmptyString text then none
  else
    let digits := (text.reverse.takeWhile Char.isDigit).reverse
    if digits = [] then some 0 else strtoulU32 digits

def parseLogicalMinor (logicalDev : CString) : Option Nat :=
  if isEmptyString logicalDev then none
  else (skipLead "ssu".toList (afterLastSlash logicalDev)).bind strtoulU32

def parseAllocateMinor (allocateId : CString) : Option Nat :=
  (skipLead "alloc-".toList allocateId).bind strtoulU32

/-- The minor of a mount: the allocation's number, or else the digits of the
device path. -/
def minorForAllocate (logicalDev allocateId : CString) : Option Nat :=
  match parseAllocateMinor allocateId with
  | some minor => some minor
  | none => parseLogicalMinor logicalDev

def logicalDiskNameCharIsValid (char : Char) : Bool :=
  ('a' ≤ char && char ≤ 'z') || ('A' ≤ char && char ≤ 'Z') ||
    ('0' ≤ char && char ≤ '9') ||
    char = '_' || char = '-' || char = '.' || char = ':'

def copyLogicalDiskName (logicalDev : CString) :
    Except SsuErr (CBuf diskNameLen) :=
  let base := afterLastSlash logicalDev
  if isEmptyString logicalDev || isEmptyString base then .error .invalid
  else if diskNameLen ≤ base.length ∨ maxDiskNameLen < base.length then
    .error .invalid
  else if base.all logicalDiskNameCharIsValid then
    .ok (copyCstr diskNameLen base)
  else .error .invalid

def buildMapEntry (spec : MapSpec) (minor : Nat) : Except SsuErr MapEntry :=
  if isEmptyString spec.physDev.chars = true ∨ spec.length = 0 ∨
      spec.logicalOffset % sectorSize ≠ 0 ∨ spec.length % sectorSize ≠ 0 ∨
      64 ≤ spec.physDev.chars.length then
    .error .invalid
  else
    match parseUintTail spec.nsId.chars with
    | none => .error .invalid
    | some nsid =>
        .ok
          { logicalMinor := minor
            logicalSector := spec.logicalOffset / sectorSize
            lengthSectors := spec.length / sectorSize
            physDev := spec.physDev.widen (Nat.le_succ 63)
            nsid := nsid
            physSector := spec.physSector }

/-- The loop of `build_entries` with its running `capacity_bytes`. -/
def buildEntriesLoop (minor : Nat) :
    List MapSpec → UInt64 → Except SsuErr (List MapEntry × UInt64)
  | [], capacity => .ok ([], capacity)
  | spec :: specs, capacity =>
      if spec.logicalOffset > uint64Max - spec.length then .error .invalid
      else
        match buildMapEntry spec minor with
        | .error err => .error err
        | .ok entry =>
            let endByte := spec.logicalOffset + spec.length
            match buildEntriesLoop minor specs
                (if endByte > capacity then endByte else capacity) with
            | .error err => .error err
            | .ok (entries, capacity) => .ok (entry :: entries, capacity)

def buildEntries (specs : List MapSpec) (minor : Nat) :
    Except SsuErr (List MapEntry × UInt64) :=
  match buildEntriesLoop minor specs 0 with
  | .error err => .error err
  | .ok (entries, capacity) =>
      if capacity = 0 ∨ capacity % sectorSize ≠ 0 then .error .invalid
      else .ok (entries, capacity / sectorSize)

inductive CtlOpened where
  | opened
  | skipped
  | failed

def openReqshimCtl (allowMissing : Bool) (ctl : CtlAnswer) : CtlOpened :=
  match ctl.openErrno with
  | none => .opened
  | some .enoent | some .enodev => if allowMissing then .skipped else .failed
  | some _ => .failed

def checkVersion (ctl : CtlAnswer) : SsuErr :=
  match ctl.version with
  | .error errno => errnoToSsuErr errno
  | .ok version => if version = uapiVersion then .ok else .unsupported

/-- A request whose status is not looked at. -/
def attempt (request : KernelState → Except Errno KernelState)
    (kernel : KernelState) : KernelState :=
  match request kernel with
  | .ok after => after
  | .error _ => kernel

def deleteMaps (entries : List MapEntry) (kernel : KernelState) :
    KernelState :=
  entries.foldl (fun kernel entry => attempt (mapDel entry) kernel) kernel

/-- The `MAP_ADD` loop, with the entries added so far (latest first). -/
def addMaps (minor : Nat) :
    List MapEntry → List MapEntry → KernelState → SsuErr × KernelState
  | [], _, kernel => (.ok, kernel)
  | entry :: entries, added, kernel =>
      match mapAdd entry kernel with
      | .ok kernel => addMaps minor entries (entry :: added) kernel
      | .error errno =>
          (errnoToSsuErr errno,
            attempt (logdevDestroy minor) (deleteMaps added kernel))

def mountLogdevWithMinor (logicalDev : CString) (minor : Nat)
    (specs : List MapSpec) (allowMissing : Bool) (ctl : CtlAnswer)
    (kernel : KernelState) : SsuErr × KernelState :=
  if specs = [] then (.invalid, kernel)
  else
    match buildEntries specs minor with
    | .error err => (err, kernel)
    | .ok (entries, capacitySectors) =>
        match copyLogicalDiskName logicalDev with
        | .error err => (err, kernel)
        | .ok diskName =>
            match openReqshimCtl allowMissing ctl with
            | .skipped => (.ok, kernel)
            | .failed => (.kernel, kernel)
            | .opened =>
                match checkVersion ctl with
                | .ok =>
                    let req : LogdevReq :=
                      { minor
                        capacitySectors
                        logicalBlockSize := 512
                        diskName := diskName.widen (Nat.le_succ 31) }
                    match logdevCreate ctl.blockLayer req kernel with
                    | .error errno => (errnoToSsuErr errno, kernel)
                    | .ok kernel => addMaps minor entries [] kernel
                | err => (err, kernel)

def mountLogdevForAllocate (logicalDev allocateId : CString)
    (specs : List MapSpec) (allowMissing : Bool) (ctl : CtlAnswer)
    (kernel : KernelState) : SsuErr × KernelState :=
  match minorForAllocate logicalDev allocateId with
  | none => (.invalid, kernel)
  | some minor =>
      mountLogdevWithMinor logicalDev minor specs allowMissing ctl kernel

def unmountLogdevWithMinor (minor : Nat) (specs : List MapSpec)
    (allowMissing : Bool) (ctl : CtlAnswer) (kernel : KernelState) :
    SsuErr × KernelState :=
  let built :=
    if specs = [] then .ok ([], 0) else buildEntries specs minor
  match built with
  | .error err => (err, kernel)
  | .ok (entries, _) =>
      match openReqshimCtl allowMissing ctl with
      | .skipped => (.ok, kernel)
      | .failed => (.kernel, kernel)
      | .opened =>
          match checkVersion ctl with
          | .ok =>
              let unmapped := deleteMaps entries kernel
              match logdevDestroy minor unmapped with
              | .ok kernel => (.ok, kernel)
              | .error errno => (errnoToSsuErr errno, unmapped)
          | err => (err, kernel)

def unmountLogdevForAllocate (logicalDev allocateId : CString)
    (specs : List MapSpec) (allowMissing : Bool) (ctl : CtlAnswer)
    (kernel : KernelState) : SsuErr × KernelState :=
  match minorForAllocate logicalDev allocateId with
  | none => (.invalid, kernel)
  | some minor =>
      unmountLogdevWithMinor minor specs allowMissing ctl kernel

def unmountLogdev (logicalDev : CString) (specs : List MapSpec)
    (allowMissing : Bool) (ctl : CtlAnswer) (kernel : KernelState) :
    SsuErr × KernelState :=
  match parseLogicalMinor logicalDev with
  | none => (.invalid, kernel)
  | some minor =>
      unmountLogdevWithMinor minor specs allowMissing ctl kernel

end UbseSsu.Reqshim

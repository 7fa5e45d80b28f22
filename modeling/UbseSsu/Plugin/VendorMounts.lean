import UbseSsu.Plugin.ReqshimEffects

/-!
# The mount tables of the vendor plugins

`mock_mount` and `lbc_mock_mount` are the same sequence over the same table,
and so are `mock_unmount` and `lbc_mock_unmount`.  What differs between the
vendors is an argument here: how the map specs are collected, and whether a
missing control device is tolerated.
-/

namespace UbseSsu.Plugin

open Kernel Reqshim

/-- `mock_mount_t` and `lbc_mock_mount_t`. -/
structure VendorMount where
  allocateId : CBuf 64
  hostId : CBuf 64
  logicalDev : CBuf 64
deriving DecidableEq

/-- A vendor's mount table over the tables of the kernel module. -/
structure MountTables (capacity : Nat) where
  mounts : SlotTable VendorMount capacity
  kernel : KernelState

def MountTables.initial (capacity : Nat) : MountTables capacity :=
  { mounts := .empty capacity, kernel := .loaded }

variable {capacity : Nat}

def mountHasDev (logicalDev : CString) (mount : VendorMount) : Bool :=
  mount.logicalDev.chars = logicalDev

/-- `maps` is what `collect_reqshim_maps` answers for the allocation. -/
def vendorMount (hasNamespace : Bool) (maps : Except SsuErr (List MapSpec))
    (allowMissing : Bool) (ctl : CtlAnswer)
    (allocateId hostId logicalDev : CString) (tables : MountTables capacity) :
    SsuErr × MountTables capacity :=
  if !hasNamespace then (.notFound, tables)
  else if (tables.mounts.findRow (mountHasDev logicalDev)).isSome then
    (.busy, tables)
  else
    match tables.mounts.firstFree, maps with
    | none, _ => (.noResource, tables)
    | some _, .error err => (err, tables)
    | some slot, .ok specs =>
        match mountLogdevForAllocate logicalDev allocateId specs allowMissing
            ctl tables.kernel with
        | (.ok, kernel) =>
            let mount : VendorMount :=
              { allocateId := copyCstr 64 allocateId
                hostId := copyCstr 64 hostId
                logicalDev := copyCstr 64 logicalDev }
            (.ok, { mounts := tables.mounts.put slot mount, kernel })
        | (err, kernel) => (err, { tables with kernel })

def vendorUnmount (collect : CString → Except SsuErr (List MapSpec))
    (allowMissing : Bool) (ctl : CtlAnswer) (logicalDev : CString)
    (tables : MountTables capacity) : SsuErr × MountTables capacity :=
  match tables.mounts.findRow (mountHasDev logicalDev) with
  | none =>
      let (err, kernel) :=
        unmountLogdev logicalDev [] allowMissing ctl tables.kernel
      (err, { tables with kernel })
  | some (slot, mount) =>
      match collect mount.allocateId.chars with
      | .error err => (err, tables)
      | .ok specs =>
          match unmountLogdevForAllocate logicalDev mount.allocateId.chars
              specs allowMissing ctl tables.kernel with
          | (.ok, kernel) =>
              (.ok, { mounts := tables.mounts.clear slot, kernel })
          | (err, kernel) => (err, { tables with kernel })

end UbseSsu.Plugin

import UbseSsu.Library.CString

/-!
# The component's shared data types

The records of `ssu_api.h` and the plugin table of `ssu_plugin.h`.  A fixed
`char[n]` field is a `CBuf n`; a `const char *` argument is a `CString`, where
a NULL pointer and the empty string are the same value because every function
treats them alike.
-/

namespace UbseSsu

inductive SsuErr where
  | ok
  | invalid
  | noResource
  | notFound
  | busy
  | io
  | kernel
  | nsExists
  | bufferTooSmall
  | unsupported
  | internal
deriving DecidableEq, Repr

inductive SsuReliability where
  | stripe
  | ec
  | replica
  | other (code : Int)
deriving DecidableEq

inductive SsuShareType where
  | exclusive
  | shared
  | other (code : Int)
deriving DecidableEq

structure SsuResourceInfo where
  ssuId : CBuf 64
  totalBytes : UInt64
  usedBytes : UInt64
  state : CBuf 16
  hostId : CBuf 64
deriving DecidableEq, Inhabited

structure SsuAllocReq where
  sizeBytes : UInt64
  diskName : CString
  physicalDiskCount : UInt32
  reliability : SsuReliability
  shareType : SsuShareType
  tenant : CString
  /-- `host_ids[0 .. host_count)`. -/
  hostIds : List CString
deriving DecidableEq

structure SsuAllocResult where
  allocateId : CBuf 64
  logicalSizeBytes : UInt64
  extentCount : UInt32
deriving DecidableEq, Inhabited

structure SsuAllocExtent where
  ssuId : CBuf 64
  hostId : CBuf 64
  nsId : CBuf 32
  logicalOffset : UInt64
  length : UInt64
deriving DecidableEq, Inhabited

structure SsuMountReq where
  allocateId : CString
  hostId : CString
  logicalDev : CBuf 64
deriving DecidableEq

structure SsuAllocationInfo where
  allocateId : CBuf 64
  diskName : CBuf 64
  tenant : CBuf 64
  policy : SsuReliability
  shareType : SsuShareType
  state : CBuf 16
  ssuId : CBuf 64
  nsId : CBuf 32
  logicalOffset : UInt64
  length : UInt64
  physSector : UInt64
  roleIndex : UInt32
deriving DecidableEq

structure SsuLogdevInfo where
  logicalDev : CBuf 64
  hostId : CBuf 64
  allocateId : CBuf 64
  logicalOffset : UInt64
  length : UInt64
  physDev : CBuf 64
  nsId : CBuf 32
  physSector : UInt64
deriving DecidableEq

structure SsuExtentCreateReq where
  allocateId : CBuf 64
  ssuId : CBuf 64
  logicalOffset : UInt64
  length : UInt64
  physOffsetHint : UInt64
  policy : SsuReliability
  roleIndex : UInt32
  tenant : CString
deriving DecidableEq

/-- What `create_ns` writes through its output pointers, next to its status. -/
structure CreateNsAnswer where
  err : SsuErr
  nsId : CBuf 32
  physSector : UInt64
deriving DecidableEq

/-- A vendor plugin over its own state: every entry point is a function that
also yields the plugin's next state, and a NULL function pointer is `none`.
`discover` fills the caller's array, whose used part is `resources`. -/
structure SsuPluginOps (PluginState : Type) where
  discover : Option (PluginState → (SsuErr × List SsuResourceInfo) × PluginState)
  connect : Option (CBuf 64 → PluginState → (SsuErr × CBuf 64) × PluginState)
  healthCheck : Option (CBuf 64 → PluginState → (SsuErr × CBuf 16) × PluginState)
  createNs :
    Option (SsuExtentCreateReq → PluginState → CreateNsAnswer × PluginState)
  deleteNs : Option (CBuf 64 → CBuf 32 → PluginState → SsuErr × PluginState)
  mount :
    Option (CString → CString → CBuf 64 → PluginState → SsuErr × PluginState)
  unmount : Option (CString → PluginState → SsuErr × PluginState)

def isEmptyString (text : CString) : Bool :=
  text.isEmpty

@[simp] theorem isEmptyString_iff (text : CString) :
    isEmptyString text = true ↔ text = [] :=
  List.isEmpty_iff

end UbseSsu

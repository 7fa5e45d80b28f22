import UbseSsu.Runtime.Commands
import UbseSsu.Runtime.RequestFifo

/-!
# The requests of the SDK

`ubse_ssu_sdk_allocate` of `ubse_ssu_sdk.cpp` up to the command it sends: the
token checks, the host list, the disk name, and the request line with its
response path in front.  `none` stands for `SSU_ERR_INVALID`.
-/

namespace UbseSsu.Sdk

open UbseSsu.Runtime (AllocateReq)

/-- `SDK_COMMAND_SIZE`. -/
abbrev commandSize : Nat := 512

abbrev logicalDevLead : CString := "/dev/ssu/".toList

def isUnsafeChar (char : Char) : Bool :=
  char = ' ' || char = '\t' || char = '\n' || char = '\r'

def tokenIsSafe (text : CString) : Bool :=
  !isEmptyString text && !text.any isUnsafeChar

/-- The name without its directory, or `"-"` for none. -/
def normalizeDiskName (input : CString) : Option CString :=
  if isEmptyString input then some "-".toList
  else
    let name :=
      match skipLead logicalDevLead input with
      | some name => if isEmptyString name || name.contains '/' then none
          else some name
      | none => if input.contains '/' then none else some input
    match name with
    | none => none
    | some name =>
        if !tokenIsSafe name || decide (256 ≤ name.length) then none
        else some name

/-- The loop over the hosts, with what the buffer holds so far. -/
def appendHosts : List CString → CString → Bool → Option CString
  | [], list, _ => some list
  | host :: hosts, list, isFirst =>
      if !tokenIsSafe host || host.contains ',' then none
      else
        let written := (if isFirst then [] else [',']) ++ host
        if 256 - list.length ≤ written.length then none
        else appendHosts hosts (list ++ written) false

def buildHostList (hosts : List CString) : Option CString :=
  if hosts = [] then some "local".toList else appendHosts hosts [] true

/-- `"ALLOCATE %llu %d %u %d %s %s %s"`. -/
def allocateText (req : AllocateReq) (user hostList diskName : CString) :
    CString :=
  "ALLOCATE ".toList ++ decimal req.sizeBytes.toNat ++ " ".toList ++
    decimalInt req.allocationType.toInt ++ " ".toList ++
    decimal req.physicalDiskCount.toNat ++ " ".toList ++
    decimalInt req.logicalDiskAggregate.toInt ++ " ".toList ++ user ++
    " ".toList ++ hostList ++ " ".toList ++ diskName

/-- The command of `ubse_ssu_sdk_allocate`. -/
def allocateCommand (req : AllocateReq) : Option CString :=
  if req.sizeBytes = 0 then none
  else
    match buildHostList req.hostIds with
    | none => none
    | some hostList =>
        let user :=
          if isEmptyString req.userId then "-".toList else req.userId
        match normalizeDiskName req.diskName with
        | none => none
        | some diskName =>
            if !tokenIsSafe user || !tokenIsSafe diskName then none
            else
              let command := allocateText req user hostList diskName
              if commandSize ≤ command.length then none else some command

/-- `"/tmp/ubse-ssu-sdk-response-%ld-%u.fifo"`. -/
def responsePath (pid : Nat) (counter : UInt32) : CString :=
  "/tmp/ubse-ssu-sdk-response-".toList ++ decimal pid ++ "-".toList ++
    decimal counter.toNat ++ ".fifo".toList

/-- `"%s %s\n"` of `manager_request`. -/
def requestText (responsePath command : CString) : CString :=
  responsePath ++ " ".toList ++ command ++ "\n".toList

end UbseSsu.Sdk

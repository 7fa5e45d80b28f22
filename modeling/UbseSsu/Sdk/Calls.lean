import UbseSsu.Sdk.Responses

/-!
# The calls of the SDK

`ubse_ssu_sdk_free`, `ubse_ssu_sdk_mount` and `ubse_ssu_sdk_unmount` of
`ubse_ssu_sdk.cpp` up to the commands they send, `ubse_ssu_sdk_allocate` from
the response on, and what all calls return that have a counterpart in the API:
the status of `request_ok_body` or, if that is `SSU_OK`, whether they could read
the body.
-/

namespace UbseSsu.Sdk

open UbseSsu.Runtime (AllocateReq ssuErrCode)

/-- A command with one argument; `none` stands for `SSU_ERR_INVALID`. -/
def tokenCommand (name argument : CString) : Option CString :=
  if !tokenIsSafe argument then none
  else
    let command := name ++ " ".toList ++ argument
    if commandSize ≤ command.length then none else some command

/-- The command of `ubse_ssu_sdk_free`. -/
def freeCommand (devicePath : CString) : Option CString :=
  tokenCommand "FREE".toList devicePath

/-- The command of `ubse_ssu_sdk_unmount`. -/
def unmountCommand (devicePath : CString) : Option CString :=
  tokenCommand "UNMOUNT".toList devicePath

/-- The command of `ubse_ssu_sdk_mount`. -/
def mountCommand (devicePath hostId : CString) : Option CString :=
  if !tokenIsSafe devicePath || !tokenIsSafe hostId then none
  else
    let command :=
      "MOUNT_DEV".toList ++ " ".toList ++ devicePath ++ " ".toList ++ hostId
    if commandSize ≤ command.length then none else some command

inductive SdkOp where
  | allocate (req : AllocateReq)
  | resultGet (requestId : CString)
  | mount (devicePath hostId : CString)
  | unmount (devicePath : CString)
  | free (devicePath : CString)

def SdkOp.command : SdkOp → Option CString
  | .allocate req => allocateCommand req
  | .resultGet requestId => allocateResultCommand requestId
  | .mount devicePath hostId => mountCommand devicePath hostId
  | .unmount devicePath => unmountCommand devicePath
  | .free devicePath => freeCommand devicePath

/-- What `request_ok_body` returns. -/
def requestStatus (transport : Except SsuErr CString) : Int :=
  (requestOkBody transport).1

def copyFirstLine (size : Nat) (body : CString) : CBuf size :=
  copyCstr size (body.takeWhile (· ≠ '\n'))

/-- What `ubse_ssu_sdk_allocate` returns, and the `request_id` unless `out` is
left as it was. -/
def ubseSsuSdkAllocate (transport : Except SsuErr CString) :
    Int × Option (CBuf 64) :=
  match requestOkBody transport with
  | (err, body) =>
      if err ≠ ssuErrCode .ok then (err, none)
      else
        let requestId := copyFirstLine 64 body.chars
        if isEmptyString requestId.chars then
          (ssuErrCode .io, some requestId)
        else (ssuErrCode .ok, some requestId)

/-- What a call returns that has sent its command. -/
def SdkOp.status : SdkOp → Except SsuErr CString → Int
  | .allocate _, transport => (ubseSsuSdkAllocate transport).1
  | .resultGet _, transport => (ubseSsuSdkAllocateResultGet transport).status
  | .mount _ _, transport | .unmount _, transport | .free _, transport =>
      requestStatus transport

end UbseSsu.Sdk

import UbseSsu.Library.Scanning
import UbseSsu.Sdk.Requests

/-!
# The responses of the manager

`ubse_ssu_sdk_list` and `ubse_ssu_sdk_allocate_result_get` of
`ubse_ssu_sdk.cpp` from the response on: the status line, the body of at most
8191 characters, and the rows, which `sscanf` reads.  Error codes are the
numbers of `ssu_err_t`, because a status line can hold any number.
-/

namespace UbseSsu.Sdk

open UbseSsu.Runtime (ssuErrCode)
open UbseSsu.Api (ApiPhysicalLba)

/-- `SDK_RESPONSE_SIZE`. -/
abbrev responseSize : Nat := 8192

section Body

/-- What `read_response_fifo` keeps of a response that arrives whole. -/
def delivered (written : CString) : CString := written.take (responseSize - 1)

/-- The status, and the body unless `*body` is not set. -/
def responseStatus (response : CString) : Int × Option CString :=
  match skipLead "OK\n".toList response with
  | some body => (ssuErrCode .ok, some body)
  | none =>
      match skipLead "ERR ".toList response with
      | none => (ssuErrCode .io, none)
      | some number =>
          let value := strtol number
          let newline := response.dropWhile (· ≠ '\n')
          if value.outOfRange ∨ ¬value.converted ∨ newline = [] ∨
              value.rest ≠ newline then
            (ssuErrCode .io, none)
          else ((Int32.ofInt value.value).toInt, some (newline.drop 1))

/-- The status and the copied body; an error of `manager_request` is passed
on. -/
def requestOkBody (transport : Except SsuErr CString) :
    Int × CBuf responseSize :=
  match transport with
  | .error err => (ssuErrCode err, .empty)
  | .ok response =>
      match responseStatus response with
      | (err, none) => (err, .empty)
      | (err, some body) => (err, copyCstr responseSize body)

/-- `strtok_r(body, "\n", &save)` until NULL. -/
def bodyLines (body : CBuf responseSize) : List CString :=
  strtokAll '\n' body.chars.length body.chars

end Body

section List

/-- `"pool entries: %u"`. -/
def poolFormat : List Directive :=
  [.literal "pool".toList, .space, .literal "entries:".toList, .space, .number]

/-- `"%63s %63s %15s %llu/%llu"`. -/
def resourceFormat : List Directive :=
  [.word 63, .space, .word 63, .space, .word 15, .space, .number,
    .literal "/".toList, .number]

def scanResource (line : CString) : Option SsuResourceInfo :=
  match sscanf resourceFormat line with
  | [.word ssuId, .word hostId, .word state, .number used, .number total] =>
      some
        { ssuId := copyCstr 64 ssuId
          totalBytes := UInt64.ofNat total
          usedBytes := UInt64.ofNat used
          state := copyCstr 16 state
          hostId := copyCstr 64 hostId }
  | _ => none

/-- The loop over the rows, with the rows parsed so far. -/
def parseResources (reported : Nat) :
    List CString → List SsuResourceInfo → Int × List SsuResourceInfo
  | [], out =>
      (ssuErrCode (if out.length = reported then .ok else .io), out)
  | line :: lines, out =>
      if out.length < reported then
        match scanResource line with
        | none => (ssuErrCode .io, out)
        | some item => parseResources reported lines (out ++ [item])
      else (ssuErrCode (if out.length = reported then .ok else .io), out)

structure ListAnswer where
  err : Int
  /-- `*inout_count`. -/
  count : UInt32
  /-- The rows written to `out`. -/
  out : List SsuResourceInfo
deriving DecidableEq

/-- `ubse_ssu_sdk_list` for a buffer that is `present` and the count it was
given. -/
def ubseSsuSdkList (present : Bool) (capacity : UInt32)
    (transport : Except SsuErr CString) : ListAnswer :=
  match requestOkBody transport with
  | (err, body) =>
      if err ≠ ssuErrCode .ok then
        { err, count := capacity, out := [] }
      else
        match bodyLines body with
        | [] => { err := ssuErrCode .io, count := capacity, out := [] }
        | line :: lines =>
            match sscanf poolFormat line with
            | [.number value] =>
                let reported := UInt32.ofNat value
                if reported = 0 then
                  { err := ssuErrCode .ok, count := reported, out := [] }
                else if !present || decide (capacity < reported) then
                  { err := ssuErrCode .bufferTooSmall, count := reported
                    out := [] }
                else
                  match parseResources reported.toNat lines [] with
                  | (err, out) => { err, count := reported, out }
            | _ => { err := ssuErrCode .io, count := capacity, out := [] }

end List

section AllocateResult

/-- `SSU_API_MAX_PHYSICAL_DISKS`. -/
abbrev maxPhysicalDisks : Nat := 128

/-- `ssu_api_allocate_result_info_t` as the SDK fills it in; the call returns
its `status`. -/
structure SdkResultInfo where
  status : Int
  devicePath : CBuf 64
  physicalDisks : Vector ApiPhysicalLba maxPhysicalDisks
  physicalDiskCount : Nat
  errorMessage : CBuf 128

def zeroPhysicalLba : ApiPhysicalLba :=
  { ssuId := .empty, nsId := .empty, logicalOffset := 0, length := 0, lba := 0 }

/-- `memset(out, 0, sizeof(*out))`. -/
def SdkResultInfo.zero : SdkResultInfo :=
  { status := 0
    devicePath := .empty
    physicalDisks := Vector.replicate maxPhysicalDisks zeroPhysicalLba
    physicalDiskCount := 0
    errorMessage := .empty }

/-- `"physical %u %63s %31s %llu %llu lba=%llu"`. -/
def physicalFormat : List Directive :=
  [.literal "physical".toList, .space, .number, .space, .word 63, .space,
    .word 31, .space, .number, .space, .number, .space,
    .literal "lba=".toList, .number]

def scanPhysical (line : CString) : Option (UInt32 × ApiPhysicalLba) :=
  match sscanf physicalFormat line with
  | [.number index, .word ssuId, .word nsId, .number logicalOffset,
      .number length, .number lba] =>
      some (UInt32.ofNat index,
        { ssuId := copyCstr 64 ssuId
          nsId := copyCstr 32 nsId
          logicalOffset := UInt64.ofNat logicalOffset
          length := UInt64.ofNat length
          lba := UInt64.ofNat lba })
  | _ => none

/-- `physical_disks[index] = item`, and the count that covers it. -/
def SdkResultInfo.store (out : SdkResultInfo) (index : Nat)
    (item : ApiPhysicalLba) (small : index < maxPhysicalDisks) :
    SdkResultInfo :=
  { out with
    physicalDisks := out.physicalDisks.set index item small
    physicalDiskCount := max out.physicalDiskCount (index + 1) }

/-- The loop over the rows, with what is filled in so far. -/
def parsePhysicals : List CString → SdkResultInfo → SdkResultInfo
  | [], out => out
  | line :: lines, out =>
      match scanPhysical line with
      | none => { out with status := ssuErrCode .io }
      | some (index, item) =>
          if small : index.toNat < maxPhysicalDisks then
            parsePhysicals lines (out.store index.toNat item small)
          else { out with status := ssuErrCode .bufferTooSmall }

/-- The command of `ubse_ssu_sdk_allocate_result_get`; `none` stands for
`SSU_ERR_INVALID`. -/
def allocateResultCommand (requestId : CString) : Option CString :=
  if !tokenIsSafe requestId then none
  else
    let command := "ALLOCATE_RESULT ".toList ++ requestId
    if commandSize ≤ command.length then none else some command

def ubseSsuSdkAllocateResultGet (transport : Except SsuErr CString) :
    SdkResultInfo :=
  match requestOkBody transport with
  | (err, body) =>
      if err ≠ ssuErrCode .ok then
        { SdkResultInfo.zero with
          status := err
          errorMessage := copyCstr 128 body.chars }
      else
        match bodyLines body with
        | [] => { SdkResultInfo.zero with status := ssuErrCode .io }
        | line :: lines =>
            parsePhysicals lines
              { SdkResultInfo.zero with
                status := ssuErrCode .ok
                devicePath := copyCstr 64 line }

/-- The disks in front of the count. -/
def SdkResultInfo.listed (info : SdkResultInfo) : List ApiPhysicalLba :=
  info.physicalDisks.toList.take info.physicalDiskCount

end AllocateResult

end UbseSsu.Sdk

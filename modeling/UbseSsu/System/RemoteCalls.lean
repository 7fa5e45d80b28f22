import UbseSsu.Sdk.Calls
import UbseSsu.System.ExchangeService
import UbseSsu.System.ResponseRoundTrip

/-!
# The SDK as the API at a distance

Every call of the SDK that has a counterpart in the API sends a command on
which the manager makes just that call.  A response that is cut off anywhere
still cannot change its status into another one than `SSU_ERR_IO`, and a call
turns `SSU_OK` into an error only when it cannot read the body.
-/

namespace UbseSsu.System

open Api Controller Exchange UbseSsu.Runtime UbseSsu.Sdk

variable {PluginState : Type}

/-- The call that the manager makes for a call of the SDK. -/
def apiOp : SdkOp → ApiOp
  | .allocate req => .allocate (sentReq req).apiReq
  | .resultGet requestId => .resultGet requestId
  | .mount devicePath hostId => .mount devicePath hostId
  | .unmount devicePath => .unmount devicePath
  | .free devicePath => .free devicePath

/-- What the wire format of `ALLOCATE` can carry. -/
def Carried : SdkOp → Prop
  | .allocate req => req.hostIds.length ≤ 32 ∧ req.userId ≠ "-".toList ∧
      strippedDiskName req.diskName ≠ "-".toList
  | _ => True

section Status

theorem requestStatus_ok (rest : CString) :
    requestStatus (.ok ("OK\n".toList ++ rest)) = ssuErrCode .ok := by
  have answered : responseStatus ("OK\n".toList ++ rest) =
      (ssuErrCode .ok, some rest) := by
    rw [responseStatus, skipLead_append]
  rw [requestStatus, requestOkBody]
  simp only [answered]

/-- The status line of an error. -/
def errorLine (err : SsuErr) : CString :=
  "ERR ".toList ++ decimalInt (ssuErrCode err) ++ "\n".toList

theorem requestStatus_error {err : SsuErr} (failed : err ≠ .ok)
    (rest : CString) :
    requestStatus (.ok (errorLine err ++ rest)) = ssuErrCode err := by
  have number : strtol (decimalInt (ssuErrCode err) ++ '\n' :: rest) =
      { value := ssuErrCode err
        rest := '\n' :: rest
        converted := true
        outOfRange := false } := by
    cases err <;> rfl
  have lead : skipLead "OK\n".toList ("ERR ".toList ++
      (decimalInt (ssuErrCode err) ++ '\n' :: rest)) = none := rfl
  have newline : ("ERR ".toList ++ (decimalInt (ssuErrCode err) ++
      '\n' :: rest)).dropWhile (· ≠ '\n') = '\n' :: rest := by
    cases err <;> rfl
  have code : (Int32.ofInt (ssuErrCode err)).toInt = ssuErrCode err := by
    cases err <;> decide
  have split : errorLine err ++ rest =
      "ERR ".toList ++ (decimalInt (ssuErrCode err) ++ '\n' :: rest) := by
    simp only [errorLine, List.append_assoc]
    rfl
  have answered : responseStatus (errorLine err ++ rest) =
      (ssuErrCode err, some rest) := by
    rw [split, responseStatus, lead]
    simp only [skipLead_append, number, newline, code]
    simp
  rw [requestStatus, requestOkBody]
  simp only [answered]

theorem length_errorLine (err : SsuErr) : (errorLine err).length ≤ 8 := by
  cases err <;> decide

theorem requestStatus_short {err : SsuErr} (failed : err ≠ .ok)
    (count : Nat) (short : count < (errorLine err).length) :
    requestStatus (.ok ((errorLine err).take count)) = ssuErrCode .io := by
  have lengths := length_errorLine err
  have all : ∀ count < 8, count < (errorLine err).length →
      requestStatus (.ok ((errorLine err).take count)) = ssuErrCode .io := by
    cases err with
    | ok => exact absurd rfl failed
    | _ => decide
  exact all count (by omega) short

theorem requestStatus_shortOk (count : Nat)
    (short : count < "OK\n".toList.length) :
    requestStatus (.ok ("OK\n".toList.take count)) = ssuErrCode .io := by
  have all : ∀ count < 3,
      requestStatus (.ok ("OK\n".toList.take count)) = ssuErrCode .io := by
    decide
  exact all count short

/-- Where the status line of a response ends. -/
theorem statusLine (err : SsuErr) (body : CString) : ∃ line,
    responseText err body = line ++ body ∧ line.length ≤ 8 ∧
      (∀ rest, requestStatus (.ok (line ++ rest)) = ssuErrCode err) ∧
      ∀ count < line.length,
        requestStatus (.ok (line.take count)) = ssuErrCode .io := by
  by_cases failed : err = .ok
  · subst failed
    exact ⟨"OK\n".toList, rfl, by decide, requestStatus_ok,
      requestStatus_shortOk⟩
  · refine ⟨errorLine err, ?_, length_errorLine err,
      requestStatus_error failed, requestStatus_short failed⟩
    rw [responseText, if_neg failed]
    rfl

/-- A response that is cut off keeps its status or loses it. -/
theorem requestStatus_prefix {err : SsuErr} {body text : CString}
    (part : text <+: responseText err body) :
    requestStatus (.ok text) = ssuErrCode .io ∨
      requestStatus (.ok text) = ssuErrCode err := by
  obtain ⟨line, whole, _, complete, short⟩ := statusLine err body
  rw [whole] at part
  rcases Nat.lt_or_ge text.length line.length with fewer | enough
  · have cut : text = line.take text.length := by
      have beginning := List.prefix_iff_eq_take.mp part
      rwa [List.take_append_of_le_length (Nat.le_of_lt fewer)] at beginning
    rw [cut]
    exact .inl (short text.length fewer)
  · obtain ⟨rest, split⟩ := List.prefix_of_prefix_length_le
      (List.prefix_append line body) part enough
    rw [← split]
    exact .inr (complete rest)

end Status

section Whole

/-- What a call returns in place of `SSU_OK` for a body it cannot read: no
request id, no device path, or a row that does not scan or has no place. -/
def Unreadable : SdkOp → Int → Prop
  | .allocate _, status => status = ssuErrCode .io
  | .resultGet _, status =>
      status = ssuErrCode .io ∨ status = ssuErrCode .bufferTooSmall
  | .mount _ _, _ | .unmount _, _ | .free _, _ => False

theorem parsePhysicals_status (lines : List CString) (out : SdkResultInfo) :
    (parsePhysicals lines out).status = out.status ∨
      (parsePhysicals lines out).status = ssuErrCode .io ∨
      (parsePhysicals lines out).status = ssuErrCode .bufferTooSmall := by
  induction lines generalizing out with
  | nil => exact .inl rfl
  | cons line lines induction =>
      unfold parsePhysicals
      split
      · exact .inr (.inl rfl)
      · rename_i index item _
        split
        · rename_i small
          exact induction (out.store index.toNat item small)
        · exact .inr (.inr rfl)

/-- A call returns the status of `request_ok_body`, or it could not read the
body of a response that begins with `OK`. -/
theorem SdkOp.status_cases (op : SdkOp) (result : Except SsuErr CString) :
    op.status result = requestStatus result ∨
      requestStatus result = ssuErrCode .ok ∧
        Unreadable op (op.status result) := by
  cases op with
  | allocate req =>
      unfold SdkOp.status ubseSsuSdkAllocate requestStatus
      simp only
      split
      · exact .inl rfl
      · rename_i accepted
        have ok : (requestOkBody result).1 = ssuErrCode .ok :=
          not_not.mp accepted
        split
        · exact .inr ⟨ok, rfl⟩
        · exact .inl ok.symm
  | resultGet requestId =>
      unfold SdkOp.status ubseSsuSdkAllocateResultGet requestStatus
      simp only
      split
      · exact .inl rfl
      · rename_i accepted
        have ok : (requestOkBody result).1 = ssuErrCode .ok :=
          not_not.mp accepted
        split
        · exact .inr ⟨ok, .inl rfl⟩
        · rename_i line lines _
          rcases parsePhysicals_status lines
            { SdkResultInfo.zero with
              status := ssuErrCode .ok
              devicePath := copyCstr 64 line } with same | io | small
          · exact .inl (same.trans ok.symm)
          · exact .inr ⟨ok, .inl io⟩
          · exact .inr ⟨ok, .inr small⟩
  | mount devicePath hostId => exact .inl rfl
  | unmount devicePath => exact .inl rfl
  | free devicePath => exact .inl rfl

/-- The call returns the status of its own operation, unless the operation has
succeeded and the call cannot read what came with that. -/
structure ReportsOwn (op : SdkOp) (own : SsuErr)
    (result : Except SsuErr CString) : Prop where
  request : requestStatus result = ssuErrCode own
  whole : op.status result = ssuErrCode own ∨
    own = .ok ∧ Unreadable op (op.status result)

theorem ssuErrCode_injective {err other : SsuErr}
    (same : ssuErrCode err = ssuErrCode other) : err = other := by
  cases err <;> cases other <;> first | rfl | cases same

theorem ReportsOwn.of_request {op : SdkOp} {own : SsuErr}
    {result : Except SsuErr CString}
    (request : requestStatus result = ssuErrCode own) :
    ReportsOwn op own result where
  request := request
  whole := by
    rcases SdkOp.status_cases op result with same | ⟨ok, unreadable⟩
    · exact .inl (same.trans request)
    · exact .inr ⟨ssuErrCode_injective (request.symm.trans ok), unreadable⟩

/-- The call reports that nothing of use came back. -/
structure TransportFailed (op : SdkOp) (result : Except SsuErr CString) :
    Prop where
  request : requestStatus result = ssuErrCode .io ∨
    requestStatus result = ssuErrCode .notFound
  whole : op.status result = requestStatus result

theorem TransportFailed.of_request {op : SdkOp}
    {result : Except SsuErr CString}
    (request : requestStatus result = ssuErrCode .io ∨
      requestStatus result = ssuErrCode .notFound) :
    TransportFailed op result where
  request := request
  whole := by
    rcases SdkOp.status_cases op result with same | ⟨ok, _⟩
    · exact same
    · rw [ok] at request
      rcases request with other | other <;> cases other

end Whole

section Commands

variable (plugin : SsuPluginOps PluginState) (pluginName : CString)
  (current : ApiState PluginState)

/-- The answer to a command that makes one call of the API. -/
def Calls (request : CString) (op : ApiOp) : Prop :=
  ∃ body, handleCommand plugin pluginName request current =
    (responseText (apiExec plugin current op).1 body,
      apiStep plugin current op)

variable {plugin pluginName current}

theorem calls_of_handled {request : CString} {op : ApiOp}
    (handled : (SsuErr × Body) × ApiState PluginState)
    (ran : handleCommand plugin pluginName request current =
      (responseText handled.1.1 handled.1.2.chars, handled.2))
    (result : (handled.1.1, handled.2) = apiExec plugin current op) :
    Calls plugin pluginName current request op := by
  refine ⟨handled.1.2.chars, ?_⟩
  rw [ran, apiStep, ← result]

theorem reportOperation_result (operation done : CString)
    (result : SsuErr × ApiState PluginState) :
    ((reportOperation pluginName operation result done).1.1,
      (reportOperation pluginName operation result done).2) = result := by
  unfold reportOperation
  split
  · rename_i succeeded
    rw [← succeeded]
  · rfl

/-- What a command with one safe argument is cut into. -/
theorem tokenCommand_some {name argument command : CString}
    (built : tokenCommand name argument = some command) :
    SafeToken argument ∧ command = name ++ ' ' :: argument ∧
      command.length < commandSize := by
  unfold tokenCommand at built
  simp only [Option.ite_none_left_eq_some, Bool.not_eq_true',
    Bool.not_eq_false, Option.some.injEq, Nat.not_le] at built
  obtain ⟨safe, short, rfl⟩ := built
  refine ⟨safeToken_of_tokenIsSafe safe, ?_, short⟩
  rw [List.append_assoc]
  rfl

theorem mountCommand_some {devicePath hostId command : CString}
    (built : mountCommand devicePath hostId = some command) :
    SafeToken devicePath ∧ SafeToken hostId ∧
      command = "MOUNT_DEV".toList ++ ' ' ::
        (devicePath ++ (" ".toList ++ hostId)) ∧
      command.length < commandSize := by
  unfold mountCommand at built
  simp only [Option.ite_none_left_eq_some, Bool.or_eq_true,
    Bool.not_eq_true', not_or, Bool.not_eq_false, Option.some.injEq,
    Nat.not_le] at built
  obtain ⟨⟨device, host⟩, short, rfl⟩ := built
  refine ⟨safeToken_of_tokenIsSafe device, safeToken_of_tokenIsSafe host, ?_,
    short⟩
  simp only [List.append_assoc]
  rfl

/-- A command name and arguments without a line break are cut at the blank. -/
theorem command_cut (name arguments : CString) (named : name ≠ [])
    (plain : ' ' ∉ name ∧ '\n' ∉ name ∧ '\r' ∉ name)
    (newline : '\n' ∉ arguments) (carriageReturn : '\r' ∉ arguments) :
    strtok ' ' (cutLine (name ++ ' ' :: arguments)) =
      some (name, arguments) := by
  have whole : cutLine (name ++ ' ' :: arguments) =
      name ++ ' ' :: arguments := by
    apply cutLine_eq_self
    · simp [plain.2.1, newline]
    · simp [plain.2.2, carriageReturn]
  rw [whole]
  exact strtok_plain named plain.1

theorem free_calls {devicePath command : CString}
    (built : freeCommand devicePath = some command) :
    Calls plugin pluginName current command (.free devicePath) := by
  obtain ⟨safe, rfl, _⟩ := tokenCommand_some built
  have cut := command_cut "FREE".toList devicePath (by decide)
    (by decide) safe.noNewline safe.noReturn
  apply calls_of_handled (handleFree plugin pluginName devicePath current)
  · rw [handleCommand, cut]
    rfl
  · rw [handleFree, safe.last]
    exact reportOperation_result ..

theorem unmount_calls {devicePath command : CString}
    (built : unmountCommand devicePath = some command) :
    Calls plugin pluginName current command (.unmount devicePath) := by
  obtain ⟨safe, rfl, _⟩ := tokenCommand_some built
  have cut := command_cut "UNMOUNT".toList devicePath (by decide)
    (by decide) safe.noNewline safe.noReturn
  have present : isEmptyString devicePath = false := by
    rw [← Bool.not_eq_true, isEmptyString_iff]
    exact safe.nonempty
  apply calls_of_handled (handleUnmount plugin pluginName devicePath current)
  · rw [handleCommand, cut]
    rfl
  · rw [handleUnmount, safe.last]
    refine (reportOperation_result ..).trans ?_
    simp only [apiExec, ssuApiUnmount, ssuResourceUnmount, present,
      Bool.false_eq_true, if_false]
    rfl

theorem mount_calls {devicePath hostId command : CString}
    (built : mountCommand devicePath hostId = some command) :
    Calls plugin pluginName current command (.mount devicePath hostId) := by
  obtain ⟨device, host, rfl, _⟩ := mountCommand_some built
  have cut := command_cut "MOUNT_DEV".toList
    (devicePath ++ (" ".toList ++ hostId)) (by decide) (by decide)
    (by simp [device.noNewline, host.noNewline])
    (by simp [device.noReturn, host.noReturn])
  apply calls_of_handled (handleMountDev plugin pluginName
    (devicePath ++ (" ".toList ++ hostId)) current)
  · rw [handleCommand, cut]
    rfl
  · rw [handleMountDev, device.next]
    simp only [host.last]
    exact reportOperation_result ..

theorem resultGet_calls {requestId command : CString}
    (built : allocateResultCommand requestId = some command) :
    Calls plugin pluginName current command (.resultGet requestId) := by
  apply calls_of_handled (handleAllocateResult pluginName requestId current)
  · exact handleCommand_allocateResult plugin pluginName current built
  · rw [handleAllocateResult_eq pluginName current
      (allocateResultCommand_some built).1]
    simp only [apiExec]
    split
    · rfl
    · rename_i succeeded
      rw [not_not.mp succeeded]

theorem allocate_calls {req : AllocateReq} {command : CString}
    (received : receivedReq command = some req) :
    Calls plugin pluginName current command (.allocate req.apiReq) := by
  unfold receivedReq at received
  split at received
  · rename_i name save cut
    split at received
    · rename_i named
      have read : readAllocateReq save = .ok req := by
        cases answer : readAllocateReq save with
        | error text =>
            rw [answer] at received
            cases received
        | ok other =>
            rw [answer] at received
            cases received
            rfl
      subst named
      apply calls_of_handled (handleAllocate plugin pluginName save current)
      · rw [handleCommand, cut]
        rfl
      · rw [handleAllocate, read]
        exact reportOperation_result ..
    · cases received
  · cases received

theorem received_carried {req : AllocateReq} {command : CString}
    (built : Sdk.allocateCommand req = some command)
    (carried : Carried (.allocate req)) :
    receivedReq command = some (sentReq req) := by
  obtain ⟨few, userNamed, diskNamed⟩ := carried
  obtain ⟨user, hostList, diskName, accepted, rfl⟩ :=
    allocateCommand_some built
  have sameUser : optionalToken user = req.userId := by
    rw [accepted.sentUser]
    split
    · rename_i empty
      rw [(isEmptyString_iff _).mp empty]
      decide
    · exact (optionalToken_iff _).mpr userNamed
  have sameName : optionalToken diskName = strippedDiskName req.diskName := by
    rcases normalizeDiskName_some accepted.sentName with ⟨empty, rfl⟩ | rfl
    · rw [empty]
      decide
    · exact (optionalToken_iff _).mpr diskNamed
  rw [accepted.received few, sameUser, sameName]
  rfl

/-- The manager makes the call that the SDK was asked for. -/
theorem sdkOp_calls {op : SdkOp} {command : CString}
    (built : op.command = some command) (carried : Carried op) :
    Calls plugin pluginName current command (apiOp op) := by
  cases op with
  | allocate req =>
      exact allocate_calls (received_carried built carried)
  | resultGet requestId => exact resultGet_calls built
  | mount devicePath hostId => exact mount_calls built
  | unmount devicePath => exact unmount_calls built
  | free devicePath => exact free_calls built

theorem allocateCommand_short {req : AllocateReq} {command : CString}
    (built : Sdk.allocateCommand req = some command) :
    command.length < commandSize := by
  unfold Sdk.allocateCommand at built
  split at built
  · cases built
  · split at built
    · cases built
    · simp only at built
      split at built
      · cases built
      · simp only [Option.ite_none_left_eq_some, Option.some.injEq,
          Nat.not_le] at built
        obtain ⟨_, short, rfl⟩ := built
        exact short

theorem allocateResultCommand_short {requestId command : CString}
    (built : allocateResultCommand requestId = some command) :
    command.length < commandSize := by
  unfold allocateResultCommand at built
  simp only [Option.ite_none_left_eq_some, Option.some.injEq, Nat.not_le]
    at built
  obtain ⟨_, short, rfl⟩ := built
  exact short

/-- An argument of a command brings no line break of its own. -/
theorem plain_argument {name argument : CString} (named : '\n' ∉ name)
    (plain : '\n' ∉ argument) : '\n' ∉ name ++ ' ' :: argument := by
  rw [List.mem_append, List.mem_cons, not_or, not_or]
  exact ⟨named, by decide, plain⟩

theorem tokenCommand_manages {name argument text : CString}
    (built : tokenCommand name argument = some text)
    (named : ∃ first rest, name = first :: rest ∧ first ≠ ' ')
    (plain : '\n' ∉ name) :
    ∃ command : ManagerCommand, command.text = text := by
  obtain ⟨safe, same, short⟩ := tokenCommand_some built
  obtain ⟨first, rest, split, visible⟩ := named
  have begins : text = first :: (rest ++ ' ' :: argument) := by
    rw [same, split, List.cons_append]
  have whole : '\n' ∉ text := by
    rw [same]
    exact plain_argument plain safe.noNewline
  exact ⟨⟨text, ⟨first, _, begins, visible⟩, whole, short⟩, rfl⟩

/-- Every command of the SDK is one that a line of the request FIFO carries. -/
theorem sdkOp_manages {op : SdkOp} {text : CString}
    (built : op.command = some text) :
    ∃ command : ManagerCommand, command.text = text := by
  cases op with
  | allocate req =>
      have short := allocateCommand_short built
      obtain ⟨user, hostList, diskName, accepted, rfl⟩ :=
        allocateCommand_some built
      exact ⟨⟨_, ⟨'A', _, allocateText_eq req user hostList diskName,
        by decide⟩, accepted.noBreak (.inl rfl), short⟩, rfl⟩
  | resultGet requestId =>
      have short := allocateResultCommand_short built
      obtain ⟨safe, same⟩ := allocateResultCommand_some built
      refine ⟨⟨text, ⟨'A', "LLOCATE_RESULT ".toList ++ requestId, same,
        by decide⟩, ?_, short⟩, rfl⟩
      rw [same, List.mem_append, not_or]
      exact ⟨by decide, safe.noNewline⟩
  | mount devicePath hostId =>
      obtain ⟨device, host, same, short⟩ := mountCommand_some built
      refine ⟨⟨text, ⟨'M', "OUNT_DEV ".toList ++
        (devicePath ++ (" ".toList ++ hostId)), same, by decide⟩, ?_,
        short⟩, rfl⟩
      rw [same]
      have arguments : '\n' ∉ devicePath ++ ' ' :: hostId :=
        plain_argument device.noNewline host.noNewline
      exact plain_argument (by decide) arguments
  | unmount devicePath =>
      exact tokenCommand_manages built ⟨'U', _, rfl, by decide⟩ (by decide)
  | free devicePath =>
      exact tokenCommand_manages built ⟨'F', _, rfl, by decide⟩ (by decide)

end Commands

section Runs

variable {plugin : SsuPluginOps PluginState} {pluginName : CString}
  {start : ApiState PluginState}

/-- What a call makes of the beginning of its response. -/
theorem Calls.reported {op : SdkOp} {request response text : CString}
    {current : ApiState PluginState}
    (calls : Calls plugin pluginName current request (apiOp op))
    (answered : response =
      (handleCommand plugin pluginName request current).1)
    (part : text <+: response) :
    TransportFailed op (.ok text) ∨
      ReportsOwn op (apiExec plugin current (apiOp op)).1 (.ok text) := by
  obtain ⟨body, ran⟩ := calls
  rw [answered, ran] at part
  rcases requestStatus_prefix part with io | same
  · exact .inl (.of_request (.inl io))
  · exact .inr (.of_request same)

end Runs

end UbseSsu.System

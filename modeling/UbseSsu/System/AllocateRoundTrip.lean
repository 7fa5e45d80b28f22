import UbseSsu.Sdk.Requests

/-!
# An allocation request on its way to the manager

The SDK prints a request into one command line and the manager reads it back.
Every token that the SDK lets through is free of separators, so the request
comes back whole unless its user or its disk name is the text `-` that stands
for an absent string.
-/

namespace UbseSsu.System

open Framing UbseSsu.Runtime UbseSsu.Sdk

/-- The disk name without `/dev/ssu/` in front. -/
def strippedDiskName (input : CString) : CString :=
  match skipLead logicalDevLead input with
  | some name => name
  | none => input

/-- The request that should arrive. -/
def sentReq (req : AllocateReq) : AllocateReq :=
  { req with
    hostIds := if req.hostIds = [] then ["local".toList] else req.hostIds
    diskName := strippedDiskName req.diskName }

/-- The request on which `handle_command` calls `ssu_api_allocate`. -/
def receivedReq (command : CString) : Option AllocateReq :=
  match strtok ' ' (cutLine command) with
  | some (name, save) =>
      if name = "ALLOCATE".toList then (readAllocateReq save).toOption else none
  | none => none

section Tokens

/-- What the SDK's check promises about a token. -/
structure SafeToken (token : CString) : Prop where
  nonempty : token ≠ []
  noBlank : ' ' ∉ token
  noNewline : '\n' ∉ token
  noReturn : '\r' ∉ token

theorem safeToken_of_tokenIsSafe {token : CString}
    (safe : tokenIsSafe token = true) : SafeToken token := by
  simp only [tokenIsSafe, Bool.and_eq_true, Bool.not_eq_true',
    List.any_eq_false] at safe
  have absent : ∀ char, isUnsafeChar char = true → char ∉ token :=
    fun char isUnsafe member => safe.2 char member isUnsafe
  refine ⟨?_, absent ' ' (by decide), absent '\n' (by decide),
    absent '\r' (by decide)⟩
  rintro rfl
  simp [isEmptyString] at safe

theorem safeToken_decimal (value : Nat) : SafeToken (decimal value) :=
  ⟨decimal_ne_nil value, not_mem_decimal (by decide),
    not_mem_decimal (by decide), not_mem_decimal (by decide)⟩

theorem safeToken_decimalInt (value : Int) : SafeToken (decimalInt value) :=
  ⟨decimalInt_ne_nil value, not_mem_decimalInt (by decide) (by decide),
    not_mem_decimalInt (by decide) (by decide),
    not_mem_decimalInt (by decide) (by decide)⟩

theorem SafeToken.next {token : CString} (safe : SafeToken token)
    (rest : CString) :
    nextToken (token ++ (" ".toList ++ rest)) = (some token, rest) := by
  have found : strtok ' ' (token ++ ' ' :: rest) = some (token, rest) :=
    strtok_plain safe.nonempty safe.noBlank
  unfold nextToken
  rw [show " ".toList ++ rest = ' ' :: rest from rfl, found]

theorem SafeToken.last {token : CString} (safe : SafeToken token) :
    nextToken token = (some token, []) := by
  unfold nextToken
  rw [strtok_last safe.nonempty safe.noBlank]

theorem cutLine_eq_self {text : CString} (newline : '\n' ∉ text)
    (carriageReturn : '\r' ∉ text) : cutLine text = text := by
  apply List.takeWhile_eq_self_iff.mpr
  intro char member
  have notReturn : char ≠ '\r' := by
    rintro rfl
    exact carriageReturn member
  have notNewline : char ≠ '\n' := by
    rintro rfl
    exact newline member
  simp [notReturn, notNewline]

end Tokens

section Command

/-- The hosts that are sent. -/
abbrev sentHosts (hosts : List CString) : List CString :=
  if hosts = [] then ["local".toList] else hosts

theorem appendHosts_some {hosts : List CString} {list text : CString}
    {isFirst : Bool} (built : appendHosts hosts list isFirst = some text) :
    (∀ host ∈ hosts, tokenIsSafe host = true ∧ ',' ∉ host) ∧
      text = list ++ (if isFirst then [','].intercalate hosts
        else hosts.flatMap (',' :: ·)) := by
  induction hosts generalizing list isFirst with
  | nil =>
      cases built
      cases isFirst <;> simp
  | cons host hosts induction =>
      unfold appendHosts at built
      split at built
      · cases built
      · rename_i valid
        simp only [Bool.or_eq_true, Bool.not_eq_true', not_or,
          Bool.not_eq_false, List.contains_eq_mem, decide_eq_true_eq] at valid
        simp only [Option.ite_none_left_eq_some] at built
        obtain ⟨others, whole⟩ := induction built.2
        refine ⟨List.forall_mem_cons.mpr ⟨valid, others⟩, ?_⟩
        rw [whole]
        cases isFirst with
        | true => simp [intercalate_cons]
        | false => simp

theorem buildHostList_some {hosts : List CString} {hostList : CString}
    (built : buildHostList hosts = some hostList) :
    (∀ host ∈ sentHosts hosts, tokenIsSafe host = true ∧ ',' ∉ host) ∧
      hostList = [','].intercalate (sentHosts hosts) := by
  unfold buildHostList at built
  unfold sentHosts
  split at built
  · rename_i none
    cases built
    rw [if_pos none]
    exact ⟨by decide, by decide⟩
  · rename_i some
    rw [if_neg some]
    obtain ⟨safe, whole⟩ := appendHosts_some built
    exact ⟨safe, whole⟩

theorem normalizeDiskName_some {input name : CString}
    (normalized : normalizeDiskName input = some name) :
    (input = [] ∧ name = "-".toList) ∨
      name = strippedDiskName input := by
  unfold normalizeDiskName at normalized
  split at normalized
  · rename_i empty
    cases normalized
    exact .inl ⟨(isEmptyString_iff input).mp empty, rfl⟩
  · have accepted : ∀ stripped : CString,
        (if (!tokenIsSafe stripped || decide (256 ≤ stripped.length)) = true
          then none else some stripped) = some name →
            name = stripped := by
      intro stripped chosen
      simp only [Option.ite_none_left_eq_some, Option.some.injEq] at chosen
      exact chosen.2.symm
    right
    unfold strippedDiskName
    cases lead : skipLead logicalDevLead input with
    | none =>
        simp only [lead] at normalized
        split at normalized
        · cases normalized
        · rename_i stripped chosen
          obtain ⟨_, same⟩ := Option.ite_none_left_eq_some.mp chosen
          cases same
          exact accepted input normalized
    | some stripped =>
        simp only [lead] at normalized
        split at normalized
        · cases normalized
        · rename_i name' chosen
          obtain ⟨_, same⟩ := Option.ite_none_left_eq_some.mp chosen
          cases same
          exact accepted stripped normalized

theorem mem_intercalate {parts : List CString} {separator char : Char}
    (member : char ∈ [separator].intercalate parts) :
    char = separator ∨ ∃ part ∈ parts, char ∈ part := by
  cases parts with
  | nil => simp at member
  | cons part parts =>
      rw [intercalate_cons, List.mem_append, List.mem_flatMap] at member
      rcases member with first | ⟨other, listed, behind⟩
      · exact .inr ⟨part, List.mem_cons_self, first⟩
      · rcases List.mem_cons.mp behind with rfl | inside
        · exact .inl rfl
        · exact .inr ⟨other, List.mem_cons_of_mem _ listed, inside⟩

theorem safeToken_hostList {hosts : List CString} {hostList : CString}
    (built : buildHostList hosts = some hostList) : SafeToken hostList := by
  obtain ⟨safe, rfl⟩ := buildHostList_some built
  have absent : ∀ char, char ≠ ',' →
      (∀ host : CString, SafeToken host → char ∉ host) →
        char ∉ [','].intercalate (sentHosts hosts) := by
    intro char notComma outside member
    rcases mem_intercalate member with rfl | ⟨host, listed, inside⟩
    · exact notComma rfl
    · exact outside host (safeToken_of_tokenIsSafe (safe host listed).1) inside
  refine ⟨?_, absent ' ' (by decide) fun _ token => token.noBlank,
    absent '\n' (by decide) fun _ token => token.noNewline,
    absent '\r' (by decide) fun _ token => token.noReturn⟩
  have some : sentHosts hosts ≠ [] := by
    unfold sentHosts
    split
    · exact List.cons_ne_nil _ _
    · assumption
  obtain ⟨host, others, listed⟩ := List.exists_cons_of_ne_nil some
  have nonempty := (safeToken_of_tokenIsSafe
    (safe host (by rw [listed]; exact List.mem_cons_self)).1).nonempty
  rw [listed, intercalate_cons]
  exact List.append_ne_nil_of_left_ne_nil nonempty _

/-- What the SDK has checked about the parts of a command. -/
structure Accepted (req : AllocateReq)
    (user hostList diskName : CString) : Prop where
  sentUser : user =
    if isEmptyString req.userId then "-".toList else req.userId
  sentList : buildHostList req.hostIds = some hostList
  sentName : normalizeDiskName req.diskName = some diskName
  userSafe : SafeToken user
  nameSafe : SafeToken diskName

theorem allocateCommand_some {req : AllocateReq} {command : CString}
    (built : allocateCommand req = some command) :
    ∃ user hostList diskName, Accepted req user hostList diskName ∧
      command = allocateText req user hostList diskName := by
  unfold allocateCommand at built
  split at built
  · cases built
  · split at built
    · cases built
    · rename_i hostList hosts
      simp only at built
      split at built
      · cases built
      · rename_i diskName normalized
        simp only [Option.ite_none_left_eq_some, Option.some.injEq] at built
        obtain ⟨valid, _, rfl⟩ := built
        simp only [Bool.or_eq_true, Bool.not_eq_true', not_or,
          Bool.not_eq_false] at valid
        exact ⟨_, hostList, diskName,
          ⟨rfl, hosts, normalized, safeToken_of_tokenIsSafe valid.1,
            safeToken_of_tokenIsSafe valid.2⟩, rfl⟩

end Command

section Received

variable {req : AllocateReq} {user hostList diskName : CString}

/-- The tokens behind the command's name. -/
def allocateTokens (req : AllocateReq) (user hostList diskName : CString) :
    CString :=
  decimal req.sizeBytes.toNat ++ (" ".toList ++
    (decimalInt req.allocationType.toInt ++ (" ".toList ++
      (decimal req.physicalDiskCount.toNat ++ (" ".toList ++
        (decimalInt req.logicalDiskAggregate.toInt ++ (" ".toList ++
          (user ++ (" ".toList ++
            (hostList ++ (" ".toList ++ diskName)))))))))))

theorem allocateText_eq (req : AllocateReq)
    (user hostList diskName : CString) :
    allocateText req user hostList diskName =
      "ALLOCATE".toList ++ ' ' :: allocateTokens req user hostList diskName := by
  have name : "ALLOCATE ".toList = "ALLOCATE".toList ++ [' '] := by
    decide +kernel
  have blank : " ".toList = [' '] := by decide +kernel
  unfold allocateText allocateTokens
  rw [name, blank]
  simp only [List.append_assoc, List.cons_append, List.nil_append]

theorem toInt32_decimalInt (value : Int32) :
    toInt32 (decimalInt value.toInt) = value := by
  have low := value.le_toInt
  have high := value.toInt_lt
  have printed : (strtol (decimalInt value.toInt)).value = value.toInt := by
    conv_lhs => rw [← List.append_nil (decimalInt value.toInt)]
    exact strtol_decimalInt (by omega) (by omega) (by simp)
  rw [toInt32, printed, Int32.ofInt_toInt]

theorem toUInt64_decimal (value : UInt64) :
    toUInt64 (decimal value.toNat) = value := by
  rw [toUInt64, strtoul_decimal value.toNat_lt, UInt64.ofNat_toNat]

theorem toUInt32_decimal (value : UInt32) :
    toUInt32 (decimal value.toNat) = value := by
  have small := value.toNat_lt
  rw [toUInt32, strtoul_decimal (by omega), UInt32.ofNat_toNat]

theorem Accepted.read (accepted : Accepted req user hostList diskName)
    (few : req.hostIds.length ≤ 32) :
    readAllocateReq (allocateTokens req user hostList diskName) =
      .ok { sentReq req with
        userId := optionalToken user, diskName := optionalToken diskName } := by
  have hostToken := safeToken_hostList accepted.sentList
  obtain ⟨safe, joined⟩ := buildHostList_some accepted.sentList
  have hosts : strtokAll ',' hostList.length hostList =
      sentHosts req.hostIds := by
    rw [strtokAll_eq_runs (Nat.le_refl _), joined]
    apply runs_intercalate
    intro host listed
    exact ⟨(safeToken_of_tokenIsSafe (safe host listed).1).nonempty,
      (safe host listed).2⟩
  have count : ¬32 < (sentHosts req.hostIds).length := by
    unfold sentHosts
    split
    · decide
    · omega
  unfold readAllocateReq allocateTokens
  simp only [(safeToken_decimal _).next, (safeToken_decimalInt _).next,
    accepted.userSafe.next, hostToken.next, accepted.nameSafe.last, hosts,
    count, if_false, toUInt64_decimal, toUInt32_decimal, toInt32_decimalInt]
  rfl

theorem Accepted.noBreak (accepted : Accepted req user hostList diskName)
    {char : Char} (isBreak : char = '\n' ∨ char = '\r') :
    char ∉ allocateText req user hostList diskName := by
  have absent : ∀ token, SafeToken token → char ∉ token := by
    intro token safe
    rcases isBreak with rfl | rfl
    · exact safe.noNewline
    · exact safe.noReturn
  have noDigit : char.isDigit = false := by
    rcases isBreak with rfl | rfl <;> decide
  have notMinus : char ≠ '-' := by
    rcases isBreak with rfl | rfl <;> decide
  have name : char ∉ "ALLOCATE ".toList := by
    rcases isBreak with rfl | rfl <;> decide
  have blank : char ∉ " ".toList := by
    rcases isBreak with rfl | rfl <;> decide
  unfold allocateText
  simp only [List.mem_append, not_or, name, blank, not_mem_decimal noDigit,
    not_mem_decimalInt noDigit notMinus, absent _ accepted.userSafe,
    absent _ accepted.nameSafe, absent _ (safeToken_hostList accepted.sentList),
    not_false_eq_true, and_self]

theorem Accepted.received (accepted : Accepted req user hostList diskName)
    (few : req.hostIds.length ≤ 32) :
    receivedReq (allocateText req user hostList diskName) =
      some { sentReq req with
        userId := optionalToken user, diskName := optionalToken diskName } := by
  have whole : cutLine (allocateText req user hostList diskName) =
      allocateText req user hostList diskName :=
    cutLine_eq_self (accepted.noBreak (.inl rfl)) (accepted.noBreak (.inr rfl))
  have found : strtok ' ' (allocateText req user hostList diskName) =
      some ("ALLOCATE".toList, allocateTokens req user hostList diskName) := by
    rw [allocateText_eq]
    exact strtok_plain (by decide) (by decide)
  unfold receivedReq
  rw [whole, found]
  simp only [if_true, accepted.read few]
  rfl

theorem not_mem_responsePath (pid : Nat) (counter : UInt32) {char : Char}
    (separates : char = ' ' ∨ char = '\n') :
    char ∉ responsePath pid counter := by
  have noDigit : char.isDigit = false := by
    rcases separates with rfl | rfl <;> decide
  have directory : char ∉ "/tmp/ubse-ssu-sdk-response-".toList := by
    rcases separates with rfl | rfl <;> decide +kernel
  have dash : char ∉ "-".toList := by
    rcases separates with rfl | rfl <;> decide
  have ending : char ∉ ".fifo".toList := by
    rcases separates with rfl | rfl <;> decide
  unfold responsePath
  simp only [List.mem_append, not_or, directory, dash, ending,
    not_mem_decimal noDigit, not_false_eq_true, and_self]

/-- The request line holds one command, which the server takes out whole. -/
theorem Accepted.oneLine (accepted : Accepted req user hostList diskName)
    (opens : CString → Bool) (pid : Nat) (counter : UInt32)
    (answering : opens (responsePath pid counter) = true) :
    let command := allocateText req user hostList diskName
    let text := requestText (responsePath pid counter) command
    (requestLines text.length text).filterMap (handleFifoLine opens) =
      [(responsePath pid counter, command)] := by
  intro command text
  let request : FifoRequest :=
    { responsePath := responsePath pid counter
      command := command
      pathNamed :=
        List.append_ne_nil_of_right_ne_nil _ (by decide +kernel)
      pathPlain :=
        ⟨not_mem_responsePath pid counter (.inl rfl),
          not_mem_responsePath pid counter (.inr rfl)⟩
      commandNamed := by
        refine ⟨'A', _, allocateText_eq req user hostList diskName, by decide⟩
      commandPlain := accepted.noBreak (.inl rfl) }
  have sent : text = request.text ++ ['\n'] := by
    simp only [text, requestText, FifoRequest.text, request, List.append_assoc]
    rfl
  have line : runs '\n' text = [request.text] := by
    rw [sent, runs_append_sep request.text_ne_nil request.text_plain, runs_nil]
  rw [requestLines_eq_runs (Nat.le_refl _), line]
  have handled : handleFifoLine opens request.text = some request.pair :=
    handleFifoLine_text answering
  simp only [List.filterMap_cons, List.filterMap_nil, handled]
  rfl

theorem optionalToken_iff (token : CString) :
    optionalToken token = token ↔ token ≠ "-".toList := by
  unfold optionalToken
  split
  · rename_i dash
    rw [dash]
    decide
  · rename_i other
    exact iff_of_true rfl other

/-- One call of the SDK sends one command line, and the manager reads the same
request from it exactly when neither its user nor its disk name is `-`. -/
theorem allocate_round_trip_iff (req : AllocateReq)
    (few : req.hostIds.length ≤ 32) (command : CString)
    (built : allocateCommand req = some command) :
    (∀ opens pid counter, opens (responsePath pid counter) = true →
      let text := requestText (responsePath pid counter) command
      (requestLines text.length text).filterMap (handleFifoLine opens) =
        [(responsePath pid counter, command)]) ∧
      (receivedReq command = some (sentReq req) ↔
        req.userId ≠ "-".toList ∧
          strippedDiskName req.diskName ≠ "-".toList) := by
  obtain ⟨user, hostList, diskName, accepted, rfl⟩ := allocateCommand_some built
  constructor
  · intro opens pid counter answering
    exact accepted.oneLine opens pid counter answering
  rw [accepted.received few, Option.some.injEq]
  have sameUser : optionalToken user = req.userId ↔
      req.userId ≠ "-".toList := by
    rw [accepted.sentUser]
    split
    · rename_i empty
      rw [(isEmptyString_iff _).mp empty]
      decide
    · exact optionalToken_iff _
  have sameName : optionalToken diskName = strippedDiskName req.diskName ↔
      strippedDiskName req.diskName ≠ "-".toList := by
    rcases normalizeDiskName_some accepted.sentName with
      ⟨empty, rfl⟩ | rfl
    · rw [empty]
      decide
    · exact optionalToken_iff _
  rw [← sameUser, ← sameName]
  constructor
  · intro same
    exact ⟨congrArg AllocateReq.userId same, congrArg AllocateReq.diskName same⟩
  · rintro ⟨user, name⟩
    rw [user, name]
    rfl

/-- Two hosts and a disk given by its path. -/
def dataDiskReq (userId diskName : String) : AllocateReq :=
  { sizeBytes := 4096
    diskName := diskName.toList
    userId := userId.toList
    physicalDiskCount := 1
    logicalDiskAggregate := 0
    allocationType := 1
    hostIds := ["nodeB".toList, "nodeA".toList] }

theorem allocate_round_trip_dataDisk :
    receivedReq
        "ALLOCATE 4096 1 1 0 tenantA nodeB,nodeA data-a".toList =
      some (sentReq (dataDiskReq "tenantA" "/dev/ssu/data-a")) :=
  (allocate_round_trip_iff (dataDiskReq "tenantA" "/dev/ssu/data-a")
    (by decide) _ (by decide +kernel)).2.mpr (by decide +kernel)

/-- A user called `-` does not arrive. -/
theorem allocate_loses_dashUser :
    allocateCommand (dataDiskReq "-" "data-a") =
        some "ALLOCATE 4096 1 1 0 - nodeB,nodeA data-a".toList ∧
      receivedReq "ALLOCATE 4096 1 1 0 - nodeB,nodeA data-a".toList =
        some (sentReq (dataDiskReq "" "data-a")) ∧
      receivedReq "ALLOCATE 4096 1 1 0 - nodeB,nodeA data-a".toList ≠
        some (sentReq (dataDiskReq "-" "data-a")) := by
  decide +kernel

end Received

end UbseSsu.System

import UbseSsu.Controller.State
import UbseSsu.Plugin.NamespaceTables

/-!
# The directories of the LBC mock plugin

`lbc_mock_create_ns` learns what its script has made by scanning the device
directory and the namespace directory of the subsystem before and after it.
Here the two directories are part of the state, and `createdDev` and
`createdNsid` of the host are what the scans find.
-/

namespace UbseSsu.Plugin

open Kernel Reqshim

section Scans

/-- The host with the subsystem name of its configuration. -/
structure LbcScanHost extends LbcHost where
  subnqn : CString

/-- `snprintf(out, size, "%s/%s", lead, name)`, without a second slash. -/
def checkedJoin (size : Nat) (lead name : CString) : Option CString :=
  if isEmptyString lead ∨ isEmptyString name then none
  else
    let joined :=
      if lead.getLast? = some '/' then lead ++ name else lead ++ '/' :: name
    if joined.length < size then some joined else none

def isNvmeNamespaceName (name : CString) : Bool :=
  match skipLead "nvme".toList name with
  | none => false
  | some rest => rest.contains 'n'

def isNamespaceIdName (name : CString) : Bool :=
  !isEmptyString name && name.all Char.isDigit

/-- `std::set<std::string>::insert`. -/
def insertString (text : CString) : List CString → List CString
  | [] => [text]
  | first :: others =>
      if text = first then first :: others
      else if Controller.strcmpGreater first text then
        text :: first :: others
      else first :: insertString text others

def stringSet (texts : List CString) : List CString :=
  texts.foldl (fun sorted text => insertString text sorted) []

/-- The entries of a directory, `none` when `opendir` fails. -/
abbrev DirEntries : Type := Option (List CString)

variable (host : LbcScanHost)

def scanNvmeNamespaces (entries : DirEntries) : List CString :=
  stringSet (((entries.getD []).filter isNvmeNamespaceName).filterMap
    (checkedJoin 512 host.devDir))

def namespaceRootPath : Option CString :=
  (checkedJoin 512 host.configfsDir host.subnqn).bind fun subsystem =>
    checkedJoin 512 subsystem "namespaces".toList

def scanConfigfsNamespaceIds (entries : DirEntries) : List CString :=
  match namespaceRootPath host with
  | none => []
  | some _ => stringSet ((entries.getD []).filter isNamespaceIdName)

abbrev maxScans : Nat := 50

/-- The first entry of one of the scans that was not there before. -/
def firstNewEntry (before : List CString) (scans : Nat → List CString) :
    Option CString :=
  (List.range maxScans).findSome? fun attempt =>
    (scans attempt).find? fun entry => entry ∉ before

def chooseCreatedDev (before : List CString) (scans : Nat → List CString) :
    Option CString :=
  match firstNewEntry before scans with
  | some path => some path
  | none => if before.isEmpty then (scans (maxScans - 1)).head? else none

def chooseCreatedNsid (before : List CString) (scans : Nat → List CString) :
    Option CString :=
  firstNewEntry before scans

end Scans

section Calls

/-- What a script makes: a device node and a namespace of the subsystem. -/
structure Space where
  device : Option CString
  nsid : Option CString
deriving DecidableEq

def devices (spaces : List Space) : List CString :=
  spaces.filterMap Space.device

def nsids (spaces : List Space) : List CString :=
  spaces.filterMap Space.nsid

/-- The plugin and the two directories. -/
structure LbcWorld where
  plugin : LbcState
  spaces : List Space

/-- What the create script does and which scans can open their directory. -/
structure CreateRun where
  succeeds : Bool
  made : Space
  devBefore : Bool
  nsidBefore : Bool
  devAfter : Nat → Bool
  nsidAfter : Nat → Bool

def entriesOf (opens : Bool) (names : List CString) : DirEntries :=
  if opens then some names else none

variable (host : LbcScanHost)

def createdDevOf (run : CreateRun) (spaces : List Space) : Option CString :=
  chooseCreatedDev
    (scanNvmeNamespaces host (entriesOf run.devBefore (devices spaces)))
    fun attempt => scanNvmeNamespaces host
      (entriesOf (run.devAfter attempt) (devices (spaces ++ [run.made])))

def createdNsidOf (run : CreateRun) (spaces : List Space) : Option CString :=
  chooseCreatedNsid
    (scanConfigfsNamespaceIds host (entriesOf run.nsidBefore (nsids spaces)))
    fun attempt => scanConfigfsNamespaceIds host
      (entriesOf (run.nsidAfter attempt) (nsids (spaces ++ [run.made])))

/-- The host of one call: its script and what its scans find. -/
def hostOf (run : CreateRun) (spaces : List Space) : LbcHost :=
  { host.toLbcHost with
    createCommand := fun _ => run.succeeds
    createdDev := fun _ _ => createdDevOf host run spaces
    createdNsid := fun _ _ => createdNsidOf host run spaces }

/-- The checks of `lbc_mock_create_ns` before its script. -/
def reachesScript (extentReq : SsuExtentCreateReq) (world : LbcState) : Bool :=
  !isEmptyString extentReq.allocateId.chars &&
    !isEmptyString extentReq.ssuId.chars && decide (extentReq.length ≠ 0) &&
      (parseLbcMockSsuId host.toLbcHost extentReq.ssuId.chars).isSome &&
        decide (extentReq.policy = .stripe) &&
          !(world.namespaces.rows.any fun ns =>
            lbcHasAllocate extentReq.allocateId.chars ns &&
              lbcHasSsu extentReq.ssuId ns) &&
            world.namespaces.firstFree.isSome &&
              decide (ensureTargetReady host.toLbcHost world = .ok) &&
                decide (lengthToNsze extentReq.length ≠ 0)

/-- `cleanup_configfs_namespace_id`, when it succeeds. -/
def cleanupConfigfsNamespaceId (nsId : CString) (spaces : List Space) :
    List Space :=
  spaces.map fun space =>
    if space.nsid = some nsId then { space with nsid := none } else space

/-- The directories after the script and, where it was called, the cleanup. -/
def spacesAfterScript (run : CreateRun) (spaces : List Space) : List Space :=
  match createdNsidOf host run spaces with
  | some nsId =>
      if !run.succeeds && (createdDevOf host run spaces).isNone then
        cleanupConfigfsNamespaceId (copyCstr 32 nsId).chars
          (spaces ++ [run.made])
      else spaces ++ [run.made]
  | none => spaces ++ [run.made]

def createNsOn (extentReq : SsuExtentCreateReq) (run : CreateRun)
    (world : LbcWorld) : CreateNsAnswer × LbcWorld :=
  let result := lbcMockCreateNs (hostOf host run world.spaces) extentReq
    world.plugin
  (result.1,
    { plugin := result.2
      spaces :=
        if reachesScript host extentReq world.plugin then
          spacesAfterScript host run world.spaces
        else world.spaces })

end Calls

section Records

variable {host : LbcScanHost}

/-- The id without a new entry in the namespace directory. -/
def guessedNsid (nextNsid : Nat) (devPath : CString) : CString :=
  match parseNsidFromDevPath devPath with
  | some nsId => nsId
  | none => decimal nextNsid

/-- The path and the id that a call behind its checks records. -/
def recordedTexts (host : LbcScanHost) (run : CreateRun) (world : LbcWorld) :
    Option (CString × CString) :=
  match createdDevOf host run world.spaces,
      createdNsidOf host run world.spaces with
  | none, _ => none
  | some path, some nsId => some (path, nsId)
  | some path, none =>
      if run.succeeds then
        some (path, guessedNsid world.plugin.nextNsid (copyCstr 256 path).chars)
      else none

def recordOf (extentReq : SsuExtentCreateReq) (path nsId : CString) :
    LbcNamespace :=
  { allocateId := extentReq.allocateId
    ssuId := extentReq.ssuId
    nsId := copyCstr 32 nsId
    devPath := copyCstr 256 path
    logicalOffset := extentReq.logicalOffset
    length := extentReq.length
    physSector := 0 }

theorem createdByScript_hostOf (host : LbcScanHost) (run : CreateRun)
    (world : LbcWorld) :
    (∀ err, createdByScript (hostOf host run world.spaces) world.plugin =
        .error err → recordedTexts host run world = none) ∧
      ∀ known path, createdByScript (hostOf host run world.spaces)
          world.plugin = .ok (known, path) →
        recordedTexts host run world = some (path,
          chooseNsId (hostOf host run world.spaces) world.plugin known
            (copyCstr 256 path).chars) := by
  unfold createdByScript recordedTexts chooseNsId hostOf guessedNsid
  simp only
  cases createdDevOf host run world.spaces with
  | none =>
      cases run.succeeds <;> cases createdNsidOf host run world.spaces <;> simp
  | some path =>
      cases run.succeeds with
      | true =>
          cases createdNsidOf host run world.spaces with
          | some nsId => simp
          | none =>
              simp only [if_true, reduceCtorEq, false_implies, implies_true,
                true_and]
              rintro _ _ ended
              cases ended
              cases parseNsidFromDevPath (copyCstr 256 path).chars <;> rfl
      | false =>
          cases createdNsidOf host run world.spaces with
          | none => simp
          | some nsId =>
              simp only [Bool.false_eq_true, if_false, reduceCtorEq,
                false_implies, implies_true, true_and]
              rintro _ _ ended
              cases ended
              rfl

/-- What a call does to the table. -/
inductive CreateOutcome (host : LbcScanHost) (extentReq : SsuExtentCreateReq)
    (run : CreateRun) (world : LbcWorld) : CreateNsAnswer × LbcWorld → Prop where
  | early {answer : CreateNsAnswer} {after : LbcWorld}
      (unreached : reachesScript host extentReq world.plugin = false)
      (failed : answer.err ≠ .ok)
      (namespaces : after.plugin.namespaces = world.plugin.namespaces)
      (spaces : after.spaces = world.spaces) :
      CreateOutcome host extentReq run world (answer, after)
  | failed {answer : CreateNsAnswer} {after : LbcWorld}
      (reached : reachesScript host extentReq world.plugin = true)
      (unrecorded : recordedTexts host run world = none)
      (failed : answer.err ≠ .ok)
      (namespaces : after.plugin.namespaces = world.plugin.namespaces)
      (spaces : after.spaces = spacesAfterScript host run world.spaces) :
      CreateOutcome host extentReq run world (answer, after)
  | recorded {answer : CreateNsAnswer} {after : LbcWorld} {slot : Nat}
      {path nsId : CString}
      (reached : reachesScript host extentReq world.plugin = true)
      (texts : recordedTexts host run world = some (path, nsId))
      (ok : answer.err = .ok)
      (free : world.plugin.namespaces.firstFree = some slot)
      (namespaces : after.plugin.namespaces =
        world.plugin.namespaces.put slot (recordOf extentReq path nsId))
      (spaces : after.spaces = spacesAfterScript host run world.spaces) :
      CreateOutcome host extentReq run world (answer, after)

theorem createNsOn_outcome (host : LbcScanHost)
    (extentReq : SsuExtentCreateReq) (run : CreateRun) (world : LbcWorld) :
    CreateOutcome host extentReq run world
      (createNsOn host extentReq run world) := by
  have script := createdByScript_hostOf host run world
  have ready : ensureTargetReady (hostOf host run world.spaces) world.plugin =
      ensureTargetReady host.toLbcHost world.plugin := rfl
  have parses : ∀ text, parseLbcMockSsuId (hostOf host run world.spaces) text =
      parseLbcMockSsuId host.toLbcHost text := fun _ => rfl
  have early : ∀ (answer : CreateNsAnswer) (plugin : LbcState),
      reachesScript host extentReq world.plugin = false → answer.err ≠ .ok →
        plugin.namespaces = world.plugin.namespaces →
          CreateOutcome host extentReq run world
            (answer,
              { plugin
                spaces :=
                  if reachesScript host extentReq world.plugin then
                    spacesAfterScript host run world.spaces
                  else world.spaces }) := by
    intro answer plugin unreached failed same
    exact .early unreached failed same (by simp [unreached])
  unfold createNsOn lbcMockCreateNs
  simp only [ready, parses]
  split
  · rename_i missing
    apply early
    · rcases missing with missing | missing | missing <;>
        simp [reachesScript, missing]
    · simp
    · rfl
  · rename_i present
    simp only [not_or] at present
    obtain ⟨allocateId, ssuId, sized⟩ := present
    split
    · rename_i unknown
      apply early
      · simp [reachesScript, unknown]
      · simp
      · rfl
    · rename_i index parsed
      split
      · rename_i other
        apply early
        · simp [reachesScript, other]
        · simp
        · rfl
      · rename_i stripe
        split
        · rename_i known
          apply early
          · simp [reachesScript, known]
          · simp
          · rfl
        · rename_i fresh
          split
          · rename_i full
            apply early
            · simp [reachesScript, full]
            · simp
            · rfl
          · rename_i slot free target
            split
            · rename_i large
              apply early
              · simp [reachesScript, large]
              · simp
              · rfl
            · rename_i fits
              have reached : reachesScript host extentReq world.plugin =
                  true := by
                simp only [reachesScript, allocateId, ssuId, parsed,
                  not_not.mp stripe, fresh, free, target]
                simp [sized, fits]
              split
              · rename_i err ended
                refine .failed reached (script.1 err ended) ?_ rfl
                  (if_pos reached)
                exact createdByScript_error _ ended
              · rename_i known path ended
                exact .recorded reached (script.2 known path ended) rfl free rfl
                  (if_pos reached)
          · rename_i failed
            have refused : ensureTargetReady host.toLbcHost world.plugin ≠
                .ok := failed
            apply early
            · simp [reachesScript, refused]
            · exact refused
            · rfl

end Records

end UbseSsu.Plugin

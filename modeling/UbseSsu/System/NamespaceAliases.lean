import UbseSsu.Library.KeyedSet
import UbseSsu.Plugin.LbcNamespaces
import UbseSsu.System.MappingView

/-!
# The namespaces of the LBC mock plugin and their records

Every record of the plugin names the device and the namespace that its own
script has made, as long as no scan misses what is there.  Then no two records
share a device or an id, and both a deletion and a mapping reach the namespace
of their record.
-/

namespace UbseSsu.System

open Plugin Reqshim

section Steps

variable (host : LbcScanHost)

/-- The delete script, when it succeeds. -/
def detachDelete (ns : LbcNamespace) (spaces : List Space) : List Space :=
  spaces.map fun space =>
    { device :=
        if seenDevice host space = some ns.devPath.chars then none
        else space.device
      nsid := if space.nsid = some ns.nsId.chars then none else space.nsid }

def deleteNsOn (ssuId : CBuf 64) (nsId : CBuf 32) (succeeds : Bool)
    (world : LbcWorld) : SsuErr × LbcWorld :=
  let result := lbcMockDeleteNs
    { host.toLbcHost with deleteCommand := fun _ => succeeds } ssuId nsId
    world.plugin
  (result.1,
    { plugin := result.2
      spaces :=
        match result.1,
            world.plugin.namespaces.findRow (lbcNamespaceIs ssuId nsId) with
        | .ok, some (_, ns) => detachDelete host ns world.spaces
        | _, _ => world.spaces })

inductive NamespaceOp where
  | create (extentReq : SsuExtentCreateReq) (run : CreateRun)
  | delete (ssuId : CBuf 64) (nsId : CBuf 32) (succeeds : Bool)

/-- For each record also what its own script has made, which the plugin does
not know. -/
structure OwnedWorld where
  world : LbcWorld
  owned : SlotTable Space lbcMockMaxNamespaces

def OwnedWorld.initial (spaces : List Space) : OwnedWorld :=
  { world := { plugin := .initial, spaces }
    owned := .empty lbcMockMaxNamespaces }

def namespaceStep (current : OwnedWorld) : NamespaceOp → OwnedWorld
  | .create extentReq run =>
      let result := createNsOn host extentReq run current.world
      { world := result.2
        owned :=
          match result.1.err, current.world.plugin.namespaces.firstFree with
          | .ok, some slot => current.owned.put slot run.made
          | _, _ => current.owned }
  | .delete ssuId nsId succeeds =>
      let result := deleteNsOn host ssuId nsId succeeds current.world
      { world := result.2
        owned :=
          match result.1, current.world.plugin.namespaces.findRow
              (lbcNamespaceIs ssuId nsId) with
          | .ok, some (slot, _) => current.owned.clear slot
          | _, _ => current.owned }

/-- What the create scripts do: everything they make is new, and a successful
one makes a device and a namespace. -/
def ScriptsMake (current : OwnedWorld) : NamespaceOp → Prop
  | .create extentReq run =>
      reachesScript host extentReq current.world.plugin = true →
        Appears host run.made current.world.spaces ∧
          (run.succeeds = true →
            run.made.device.isSome = true ∧ run.made.nsid.isSome = true)
  | .delete _ _ _ => True

/-- The scans before the script miss nothing, one scan after it sees the new
namespace, and what is recorded fits its field. -/
structure ScansSee (run : CreateRun) (world : LbcWorld) : Prop where
  devBefore : MissesNothing (seenDevice host) run.devBefore world.spaces
  nsidBefore : MissesNothing (seenNsid host) run.nsidBefore world.spaces
  nsidAfter : run.succeeds = true →
    ∃ attempt < maxScans, run.nsidAfter attempt = true
  deviceFits : ∀ path ∈ seenDevice host run.made, path.length < 256
  nsidFits : ∀ nsId ∈ run.made.nsid, nsId.length < 32

def CreatesSee (current : OwnedWorld) : NamespaceOp → Prop
  | .create extentReq run =>
      reachesScript host extentReq current.world.plugin = true →
        ScansSee host run current.world
  | .delete _ _ _ => True

end Steps

section Records

variable {host : LbcScanHost}

/-- The device path and the id are those of the space. -/
structure Names (host : LbcScanHost) (ns : LbcNamespace) (space : Space) :
    Prop where
  device : seenDevice host space = some ns.devPath.chars
  nsid : seenNsid host space = some ns.nsId.chars

/-- Every record names what its script has made, which is still there, and
shares neither device nor id with another. -/
structure RecordsOwn (host : LbcScanHost) (current : OwnedWorld) : Prop where
  devices : SlotTable.KeysDistinct LbcNamespace.devPath
    current.world.plugin.namespaces
  nsids : SlotTable.KeysDistinct LbcNamespace.nsId
    current.world.plugin.namespaces
  named : ∀ slot ns, current.world.plugin.namespaces.get slot = some ns →
    ∃ space ∈ current.world.spaces,
      current.owned.get slot = some space ∧ Names host ns space

theorem RecordsOwn.initial (spaces : List Space) :
    RecordsOwn host (.initial spaces) where
  devices := .empty _ _
  nsids := .empty _ _
  named slot ns active := by
    simp only [OwnedWorld.initial, LbcState.initial, SlotTable.get_empty]
      at active
    cases active

theorem RecordsOwn.of_kept {current after : OwnedWorld}
    (own : RecordsOwn host current)
    (namespaces : after.world.plugin.namespaces =
      current.world.plugin.namespaces)
    (owned : after.owned = current.owned)
    (kept : ∀ space ∈ current.world.spaces, space ∈ after.world.spaces) :
    RecordsOwn host after where
  devices := by
    rw [namespaces]
    exact own.devices
  nsids := by
    rw [namespaces]
    exact own.nsids
  named slot ns active := by
    rw [namespaces] at active
    obtain ⟨space, member, owner, names⟩ := own.named slot ns active
    rw [owned]
    exact ⟨space, kept space member, owner, names⟩

end Records

section Create

variable {host : LbcScanHost} {run : CreateRun} {world : LbcWorld}

/-- The cleanup reaches no namespace but that of its own script. -/
theorem mem_spacesAfterScript (appears : Appears host run.made world.spaces)
    (see : ScansSee host run world) {space : Space}
    (member : space ∈ world.spaces) :
    space ∈ spacesAfterScript host run world.spaces := by
  unfold spacesAfterScript
  split
  · rename_i nsId chosen
    split
    · have made := seenNsid_some (createdNsidOf_made see.nsidBefore chosen).1
      have fits := see.nsidFits nsId made
      rw [copyCstr_chars_of_fits (by omega)]
      refine List.mem_map.mpr ⟨space, List.mem_append_left _ member, ?_⟩
      rw [if_neg]
      intro same
      apply (appears.nsid nsId made).2
      exact List.mem_filterMap.mpr ⟨space, member, same⟩
    · exact List.mem_append_left _ member
  · exact List.mem_append_left _ member

theorem spacesAfterScript_recorded {texts : CString × CString}
    (recorded : recordedTexts host run world = some texts) :
    spacesAfterScript host run world.spaces = world.spaces ++ [run.made] := by
  unfold recordedTexts at recorded
  unfold spacesAfterScript
  cases chosen : createdDevOf host run world.spaces with
  | none => simp [chosen] at recorded
  | some path =>
      simp only [Option.isNone_some, Bool.and_false, Bool.false_eq_true, if_false]
      split <;> rfl

/-- What a call records is what its script has made, and nothing that was
there before. -/
theorem recordedTexts_own (appears : Appears host run.made world.spaces)
    (makes : run.succeeds = true → run.made.nsid.isSome = true)
    (see : ScansSee host run world) {path nsId : CString}
    (recorded : recordedTexts host run world = some (path, nsId)) :
    (seenDevice host run.made = some path ∧
        ∀ space ∈ world.spaces, seenDevice host space ≠ some path) ∧
      seenNsid host run.made = some nsId ∧
        ∀ space ∈ world.spaces, seenNsid host space ≠ some nsId := by
  unfold recordedTexts at recorded
  split at recorded
  · cases recorded
  · rename_i chosenDev chosenNsid
    cases recorded
    exact ⟨createdDevOf_made see.devBefore chosenDev,
      createdNsidOf_made see.nsidBefore chosenNsid⟩
  · rename_i missing
    split at recorded
    · rename_i succeeds
      obtain ⟨made, nsid⟩ := Option.isSome_iff_exists.mp (makes succeeds)
      obtain ⟨attempt, bound, opens⟩ := see.nsidAfter succeeds
      have seen := (appears.nsid made nsid).1
      exact (createdNsidOf_found appears seen bound opens missing).elim
    · cases recorded

/-- A record of a device and a namespace that were not there before. -/
theorem RecordsOwn.put {current after : OwnedWorld} {slot : Nat}
    {ns : LbcNamespace} {made : Space} (own : RecordsOwn host current)
    (free : current.world.plugin.namespaces.firstFree = some slot)
    (namespaces : after.world.plugin.namespaces =
      current.world.plugin.namespaces.put slot ns)
    (owned : after.owned = current.owned.put slot made)
    (spaces : after.world.spaces = current.world.spaces ++ [made])
    (names : Names host ns made)
    (newDevice : ∀ space ∈ current.world.spaces,
      seenDevice host space ≠ some ns.devPath.chars)
    (newNsid : ∀ space ∈ current.world.spaces,
      seenNsid host space ≠ some ns.nsId.chars) :
    RecordsOwn host after := by
  obtain ⟨bound, empty⟩ := SlotTable.get_firstFree free
  refine ⟨?_, ?_, ?_⟩
  · rw [namespaces]
    refine own.devices.put bound empty ?_
    intro old member same
    obtain ⟨other, active⟩ := SlotTable.mem_rows_iff.mp member
    obtain ⟨space, there, _, oldNames⟩ := own.named other old active
    exact newDevice space there (same ▸ oldNames.device)
  · rw [namespaces]
    refine own.nsids.put bound empty ?_
    intro old member same
    obtain ⟨other, active⟩ := SlotTable.mem_rows_iff.mp member
    obtain ⟨space, there, _, oldNames⟩ := own.named other old active
    exact newNsid space there (same ▸ oldNames.nsid)
  · intro other row active
    rw [namespaces] at active
    rw [owned, spaces]
    by_cases same : slot = other
    · subst same
      rw [SlotTable.get_put_self bound] at active
      cases active
      exact ⟨made, List.mem_append_right _ List.mem_cons_self,
        SlotTable.get_put_self bound, names⟩
    · rw [SlotTable.get_put_other same] at active
      rw [SlotTable.get_put_other same]
      obtain ⟨space, there, owner, rowNames⟩ := own.named other row active
      exact ⟨space, List.mem_append_left _ there, owner, rowNames⟩

theorem RecordsOwn.create {current : OwnedWorld}
    (own : RecordsOwn host current) (extentReq : SsuExtentCreateReq)
    (run : CreateRun)
    (makes : ScriptsMake host current (.create extentReq run))
    (sees : CreatesSee host current (.create extentReq run)) :
    RecordsOwn host (namespaceStep host current (.create extentReq run)) := by
  have outcome := createNsOn_outcome host extentReq run current.world
  unfold namespaceStep
  simp only
  generalize createNsOn host extentReq run current.world = result at outcome ⊢
  cases outcome with
  | early unreached failed namespaces spaces =>
      refine own.of_kept namespaces ?_ ?_
      · split
        · rename_i ok _
          exact (failed ok).elim
        · rfl
      · intro space member
        rw [spaces]
        exact member
  | failed reached unrecorded failed namespaces spaces =>
      obtain ⟨appears, _⟩ := makes reached
      refine own.of_kept namespaces ?_ ?_
      · split
        · rename_i ok _
          exact (failed ok).elim
        · rfl
      · intro space member
        rw [spaces]
        exact mem_spacesAfterScript appears (sees reached) member
  | recorded reached texts ok free namespaces spaces =>
      rename_i path nsId
      obtain ⟨appears, whole⟩ := makes reached
      have see := sees reached
      obtain ⟨⟨device, newDevice⟩, nsid, newNsid⟩ :=
        recordedTexts_own appears (fun succeeds => (whole succeeds).2) see texts
      have devPath : (recordOf extentReq path nsId).devPath.chars = path :=
        copyCstr_chars_of_fits (Nat.le_pred_of_lt (see.deviceFits path device))
      have sameNsid : (recordOf extentReq path nsId).nsId.chars = nsId :=
        copyCstr_chars_of_fits
          (Nat.le_pred_of_lt (see.nsidFits nsId (seenNsid_some nsid)))
      rw [spacesAfterScript_recorded texts] at spaces
      refine own.put free namespaces ?_ spaces ⟨?_, ?_⟩ ?_ ?_
      · simp only [ok, free]
      · rw [devPath, device]
      · rw [sameNsid, nsid]
      · rw [devPath]
        exact newDevice
      · rw [sameNsid]
        exact newNsid

end Create

section Delete

variable {host : LbcScanHost}

/-- The delete script of a record leaves what the other records name. -/
theorem mem_detachDelete {ns other : LbcNamespace} {spaces : List Space}
    {space : Space} (member : space ∈ spaces) (names : Names host other space)
    (device : other.devPath ≠ ns.devPath) (nsid : other.nsId ≠ ns.nsId) :
    space ∈ detachDelete host ns spaces := by
  refine List.mem_map.mpr ⟨space, member, ?_⟩
  rw [if_neg, if_neg]
  · rw [seenNsid_some names.nsid]
    intro same
    exact nsid (BoundedString.ext (Option.some.inj same))
  · rw [names.device]
    intro same
    exact device (BoundedString.ext (Option.some.inj same))

theorem RecordsOwn.clear {current after : OwnedWorld} {slot : Nat}
    {ns : LbcNamespace} (own : RecordsOwn host current)
    (active : current.world.plugin.namespaces.get slot = some ns)
    (namespaces : after.world.plugin.namespaces =
      current.world.plugin.namespaces.clear slot)
    (owned : after.owned = current.owned.clear slot)
    (spaces : after.world.spaces = detachDelete host ns current.world.spaces) :
    RecordsOwn host after := by
  refine ⟨?_, ?_, ?_⟩
  · rw [namespaces]
    exact own.devices.clear active
  · rw [namespaces]
    exact own.nsids.clear active
  · intro other row held
    rw [namespaces] at held
    rw [owned, spaces]
    by_cases same : slot = other
    · subst same
      rw [SlotTable.get_clear_self] at held
      cases held
    · rw [SlotTable.get_clear_other same] at held
      rw [SlotTable.get_clear_other same]
      obtain ⟨space, there, owner, names⟩ := own.named other row held
      refine ⟨space, mem_detachDelete there names ?_ ?_, owner, names⟩
      · intro shared
        exact same (own.devices.slot_eq active held shared.symm)
      · intro shared
        exact same (own.nsids.slot_eq active held shared.symm)

/-- A deletion fails and changes nothing, or it removes the record it has
found. -/
theorem deleteNsOn_cases (host : LbcScanHost) (ssuId : CBuf 64)
    (nsId : CBuf 32) (succeeds : Bool) (world : LbcWorld) :
    ((deleteNsOn host ssuId nsId succeeds world).1 ≠ .ok ∧
        (deleteNsOn host ssuId nsId succeeds world).2.plugin.namespaces =
          world.plugin.namespaces ∧
        (deleteNsOn host ssuId nsId succeeds world).2.spaces = world.spaces) ∨
      (deleteNsOn host ssuId nsId succeeds world).1 = .ok ∧
        ∃ slot ns, world.plugin.namespaces.findRow
            (lbcNamespaceIs ssuId nsId) = some (slot, ns) ∧
          (deleteNsOn host ssuId nsId succeeds world).2.plugin.namespaces =
            world.plugin.namespaces.clear slot ∧
          (deleteNsOn host ssuId nsId succeeds world).2.spaces =
            detachDelete host ns world.spaces := by
  unfold deleteNsOn lbcMockDeleteNs
  split
  · exact .inl ⟨(fun same => by cases same), rfl, rfl⟩
  · cases found : world.plugin.namespaces.findRow
        (lbcNamespaceIs ssuId nsId) with
    | none => exact .inl ⟨(fun same => by cases same), rfl, rfl⟩
    | some entry =>
        cases succeeds with
        | false => exact .inl ⟨(fun same => by cases same), rfl, rfl⟩
        | true => exact .inr ⟨rfl, entry.1, entry.2, rfl, rfl, rfl⟩

theorem RecordsOwn.delete {current : OwnedWorld}
    (own : RecordsOwn host current) (ssuId : CBuf 64) (nsId : CBuf 32)
    (succeeds : Bool) :
    RecordsOwn host
      (namespaceStep host current (.delete ssuId nsId succeeds)) := by
  unfold namespaceStep
  simp only
  rcases deleteNsOn_cases host ssuId nsId succeeds current.world with
    ⟨failed, namespaces, spaces⟩ | ⟨ok, slot, ns, found, namespaces, spaces⟩
  · refine own.of_kept namespaces ?_ ?_
    · split
      · rename_i ok _
        exact (failed ok).elim
      · rfl
    · intro space member
      rw [spaces]
      exact member
  · obtain ⟨active, _⟩ := SlotTable.findRow_eq_some found
    refine own.clear active namespaces ?_ spaces
    simp only [ok, found]

end Delete

section Runs

variable {host : LbcScanHost}

theorem lbcCollectLoop_fits {rows : List LbcNamespace} {specs : List MapSpec}
    (collected : lbcCollectLoop rows = .ok specs) :
    ∀ ns ∈ rows, ns.devPath.chars.length < 64 := by
  induction rows generalizing specs with
  | nil => simp
  | cons first others induction =>
      simp only [lbcCollectLoop] at collected
      split at collected
      · cases collected
      · rename_i fits
        split at collected
        · cases collected
        · rename_i rest later
          intro ns member
          rcases List.mem_cons.mp member with rfl | member
          · exact Nat.not_le.mp fits
          · exact induction later ns member

theorem lbcCollectReqshimMaps_fits {world : LbcState} {allocateId : CString}
    {specs : List MapSpec}
    (collected : lbcCollectReqshimMaps world allocateId = .ok specs) :
    ∀ ns ∈ world.namespaces.rows, lbcHasAllocate allocateId ns = true →
      ns.devPath.chars.length < 64 := by
  intro ns member own
  unfold lbcCollectReqshimMaps at collected
  split at collected
  · cases collected
  · split at collected
    · cases collected
    · exact lbcCollectLoop_fits collected ns
        (List.mem_filter.mpr ⟨member, own⟩)

/-- No two records share a device or a name; a deletion finds the record it
names, and records and maps name what the script of the record has made. -/
structure NoAliases (host : LbcScanHost) (current : OwnedWorld) : Prop where
  devices : SlotTable.KeysDistinct LbcNamespace.devPath
    current.world.plugin.namespaces
  names : SlotTable.KeysDistinct (fun ns => (ns.ssuId, ns.nsId))
    current.world.plugin.namespaces
  addressed : ∀ slot ns,
    current.world.plugin.namespaces.get slot = some ns →
      current.world.plugin.namespaces.findRow
          (lbcNamespaceIs ns.ssuId ns.nsId) = some (slot, ns) ∧
        ∃ space ∈ current.world.spaces,
          current.owned.get slot = some space ∧ Names host ns space
  mapped : ∀ allocateId specs,
    lbcCollectReqshimMaps current.world.plugin allocateId = .ok specs →
      ∀ spec ∈ specs, ∃ slot ns space,
        current.world.plugin.namespaces.get slot = some ns ∧
          lbcHasAllocate allocateId ns = true ∧
            current.owned.get slot = some space ∧
              seenDevice host space = some spec.physDev.chars ∧
                seenNsid host space = some spec.nsId.chars

theorem RecordsOwn.noAliases {current : OwnedWorld}
    (own : RecordsOwn host current) : NoAliases host current where
  devices := own.devices
  names := by
    refine List.Nodup.of_map Prod.snd ?_
    rw [List.map_map]
    exact own.nsids
  addressed slot ns active := by
    refine ⟨own.nsids.findRow_eq active ?_ ?_, own.named slot ns active⟩
    · simp [lbcNamespaceIs]
    · intro other named
      simp only [lbcNamespaceIs, Bool.and_eq_true, decide_eq_true_eq] at named
      exact named.2.symm
  mapped allocateId specs collected spec member := by
    rw [lbcCollectReqshimMaps_ok collected] at member
    obtain ⟨ns, kept, rfl⟩ := List.mem_map.mp member
    obtain ⟨listed, has⟩ := List.mem_filter.mp kept
    obtain ⟨slot, active⟩ := SlotTable.mem_rows_iff.mp listed
    obtain ⟨space, _, owner, names⟩ := own.named slot ns active
    have fits := lbcCollectReqshimMaps_fits collected ns listed has
    refine ⟨slot, ns, space, active, has, owner, ?_, names.nsid⟩
    rw [names.device, lbcMap, copyCstr_chars_of_fits (by omega)]

/-- As long as no scan misses what is there, no run lets two records share a
namespace. -/
theorem namespaces_never_alias (host : LbcScanHost) (spaces : List Space)
    (ops : List NamespaceOp)
    (scripts : Transition.Admissible (namespaceStep host) (ScriptsMake host)
      (.initial spaces) ops)
    (scans : Transition.Admissible (namespaceStep host) (CreatesSee host)
      (.initial spaces) ops) :
    NoAliases host
      (Transition.run (namespaceStep host) (.initial spaces) ops) := by
  apply RecordsOwn.noAliases
  refine Transition.run_invariant (RecordsOwn host) ?_ (.initial spaces)
    (scripts.and scans)
  rintro current op own ⟨makes, sees⟩
  cases op with
  | create extentReq run => exact own.create extentReq run makes sees
  | delete ssuId nsId succeeds => exact own.delete ssuId nsId succeeds

def secondSpace : Space :=
  { device := some "nvme0n2".toList, nsid := some "2".toList }

theorem secondSpace_appears : Appears defaultScanHost secondSpace [firstSpace] := by
  refine ⟨?_, ?_⟩
  · rintro name ⟨⟩
    decide
  · rintro nsId ⟨⟩
    decide

def createFirst : NamespaceOp :=
  .create (extentOf "alloc-0".toList) (succeedsWith firstSpace)

def createSecond (run : CreateRun) : NamespaceOp :=
  .create (extentOf "alloc-1".toList) run

def deleteFirst : NamespaceOp :=
  .delete (copyCstr 64 "lbc-mock-ssu0".toList) (copyCstr 32 "1".toList) true

theorem spaces_createFirst :
    (namespaceStep defaultScanHost (.initial []) createFirst).world.spaces =
      [firstSpace] := by
  decide +kernel

/-- Two namespaces are created and the first one is deleted. -/
theorem namespaces_never_alias_two :
    NoAliases defaultScanHost
      (Transition.run (namespaceStep defaultScanHost) (.initial [])
        [createFirst, createSecond (succeedsWith secondSpace), deleteFirst]) := by
  refine namespaces_never_alias defaultScanHost [] _ ?_ ?_
  · refine ⟨fun _ => ⟨firstSpace_appears, fun _ => ⟨rfl, rfl⟩⟩, ?_, trivial,
      trivial⟩
    intro _
    rw [spaces_createFirst]
    exact ⟨secondSpace_appears, fun _ => ⟨rfl, rfl⟩⟩
  · refine ⟨fun _ => ?_, fun _ => ?_, trivial, trivial⟩
    · refine ⟨.inl rfl, .inl rfl, fun _ => ⟨0, by decide, rfl⟩, ?_, ?_⟩
      · rintro path ⟨⟩
        decide
      · rintro nsId ⟨⟩
        decide
    · refine ⟨.inl rfl, .inl rfl, fun _ => ⟨0, by decide, rfl⟩, ?_, ?_⟩
      · rintro path ⟨⟩
        decide
      · rintro nsId ⟨⟩
        decide

/-- `opendir` fails in the scan of the device directory before the script. -/
def missesDevices : CreateRun :=
  { succeedsWith secondSpace with devBefore := false }

/-- The second record gets the device of the first. -/
theorem namespaces_alias_missed :
    Transition.Admissible (namespaceStep defaultScanHost)
        (ScriptsMake defaultScanHost) (.initial [])
        [createFirst, createSecond missesDevices] ∧
      ¬NoAliases defaultScanHost
        (Transition.run (namespaceStep defaultScanHost) (.initial [])
          [createFirst, createSecond missesDevices]) := by
  refine ⟨⟨fun _ => ⟨firstSpace_appears, fun _ => ⟨rfl, rfl⟩⟩, ?_, trivial⟩, ?_⟩
  · intro _
    rw [spaces_createFirst]
    exact ⟨secondSpace_appears, fun _ => ⟨rfl, rfl⟩⟩
  · intro apart
    have devices := apart.devices
    revert devices
    unfold SlotTable.KeysDistinct
    decide +kernel

end Runs

end UbseSsu.System

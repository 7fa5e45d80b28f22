import UbseSsu.Controller.SystemInvariant
import UbseSsu.Plugin.NamespaceTables
import UbseSsu.Plugin.VendorTables

/-!
# The controller's rows and the plugin's map table

A mount writes the extents twice: the controller records one logical-device
row per allocation row, asking `connect` for the device of the row's SSU, and
the plugin hands one map per namespace of the allocation to ReqShim.  The mock
plugin has one device per SSU, so both views agree.  The LBC mock plugin has
one device per namespace, and its `connect` answers with the first one on the
SSU; it also keeps a namespace whose removal failed in a rollback.
-/

namespace UbseSsu.System

open Controller Plugin Mirror Reqshim

variable {PluginState : Type} {plugin : SsuPluginOps PluginState}
  {stored : PluginState → List ExtentKey} {sound : PluginState → Prop}
  {world : PluginState}

section Effects

def rowKey (row : ControllerAllocation) : ExtentKey :=
  { allocateId := row.info.allocateId
    ssuId := row.info.ssuId
    nsId := row.info.nsId
    logicalOffset := row.info.logicalOffset
    length := row.info.length
    physSector := row.info.physSector }

/-- The extents that the controller lists. -/
def heldKeys (state : ControllerState) : List ExtentKey :=
  state.allocations.rows.map rowKey

@[simp] theorem rowKey_setRowState (allocateId : CString)
    (newState : CBuf 16) (row : ControllerAllocation) :
    rowKey (setRowState allocateId newState row) = rowKey row := by
  unfold setRowState
  split <;> rfl

theorem heldKeys_setAllocationState (state : ControllerState)
    (allocateId : CString) (newState : CBuf 16) :
    heldKeys (setAllocationState state allocateId newState) =
      heldKeys state := by
  simp [heldKeys, Function.comp_def]

theorem heldKeys_recordUnmount (state : ControllerState)
    (logicalDev allocateId : CString) :
    heldKeys (recordUnmount logicalDev allocateId state) = heldKeys state := by
  unfold recordUnmount
  simp only
  split
  · exact heldKeys_setAllocationState _ _ _
  · rfl

/-- A namespace is always removed when it is there. -/
def DeletesReliably (plugin : SsuPluginOps PluginState)
    (stored : PluginState → List ExtentKey) : Prop :=
  ∃ deleteNs, plugin.deleteNs = some deleteNs ∧ ∀ ssuId nsId world,
    (ssuId, nsId) ∈ (stored world).map ExtentKey.name →
      (deleteNs ssuId nsId world).1 = .ok

/-- What one event does to the extents on both sides. -/
inductive ExtentsEffect (plugin : SsuPluginOps PluginState)
    (stored : PluginState → List ExtentKey)
    (before after : ControllerState × PluginState) : Prop where
  | unchanged (held : heldKeys after.1 = heldKeys before.1)
      (same : stored after.2 = stored before.2)
  | created {createNs} (provided : plugin.createNs = some createNs)
      (extentReq : SsuExtentCreateReq)
      (accepted : (createNs extentReq before.2).1.err = .ok)
      (result : after.2 = (createNs extentReq before.2).2)
      (held : (heldKeys after.1).Perm
        (createdKey extentReq (createNs extentReq before.2).1 ::
          heldKeys before.1))
      (nonempty : 0 < extentReq.length.toNat)
      (behind : ∀ key ∈ heldKeys before.1,
        key.allocateId = extentReq.allocateId →
          key.logicalOffset.toNat + key.length.toNat ≤
            extentReq.logicalOffset.toNat)
  | deleted (key gone : ExtentKey)
      (held : (heldKeys before.1).Perm (key :: heldKeys after.1))
      (named : gone.name = key.name)
      (removal : (stored before.2).Perm (gone :: stored after.2))
  | orphaned (key : ExtentKey)
      (held : (heldKeys before.1).Perm (key :: heldKeys after.1))
      (same : stored after.2 = stored before.2)
      (kept : ¬DeletesReliably plugin stored ∨
        key.name ∉ (stored before.2).map ExtentKey.name)

theorem heldKeys_dropExtent {state : ControllerState} {slot : Nat}
    {row : ControllerAllocation}
    (active : state.allocations.get slot = some row) :
    (heldKeys state).Perm
      (rowKey row :: heldKeys (dropExtent state slot row)) := by
  simp only [heldKeys, dropExtent_allocations]
  exact (SlotTable.rows_perm_clear active).map rowKey

theorem rollback_effect (vendor : NamespacePlugin plugin stored)
    {state : ControllerState} {slot : Nat} {row : ControllerAllocation}
    (active : state.allocations.get slot = some row) :
    ExtentsEffect plugin stored (state, world)
      (dropExtent state slot row, rollbackDelete plugin row world) := by
  have held := heldKeys_dropExtent active
  unfold rollbackDelete
  split
  · rename_i missing
    refine .orphaned (rowKey row) held rfl (.inl ?_)
    rintro ⟨deleteNs, provided, _⟩
    rw [missing] at provided
    contradiction
  · rename_i deleteNs provided
    by_cases ok : (deleteNs row.info.ssuId row.info.nsId world).1 = .ok
    · obtain ⟨gone, named, removal⟩ := vendor.deleted provided _ _ _ ok
      exact .deleted (rowKey row) gone held named removal
    · refine .orphaned (rowKey row) held (vendor.kept provided _ _ _ ok) ?_
      by_cases listed : (rowKey row).name ∈ (stored world).map ExtentKey.name
      · left
        rintro ⟨_, same, reliable⟩
        rw [provided, Option.some.injEq] at same
        subst same
        exact ok (reliable _ _ _ listed)
      · exact .inr listed

theorem event_effect (vendor : NamespacePlugin plugin stored)
    {before after : ControllerState × PluginState}
    (event : ControllerEvent plugin before after) :
    ExtentsEffect plugin stored before after := by
  cases event with
  | numbered => exact .unchanged rfl rfl
  | extentRefused _ _ provided extentReq refused =>
      exact .unchanged rfl (vendor.refused provided _ _ refused)
  | @extentCreated state world _ provided ctx slot poolIndex index offset
      resource placed answer next answered accepted =>
      obtain ⟨bound, isFree⟩ := SlotTable.get_firstFree placed.free
      have answer_eq := congrArg Prod.fst answered
      have next_eq := congrArg Prod.snd answered
      refine .created provided (ctx.extentReq resource index offset) ?_
        next_eq.symm ?_ placed.nonempty ?_
      · simpa only [answer_eq] using accepted
      · simp only [heldKeys, addExtent_allocations, answer_eq]
        exact (SlotTable.rows_put_perm bound isFree).map rowKey
      · intro key member own
        obtain ⟨row, rowMember, rfl⟩ := List.mem_map.mp member
        exact (placed.ready.ownId row rowMember own).2
  | extentUndone _ _ active _ => exact rollback_effect vendor active
  | @extentReleased _ world _ provided _ row active _ _ deleted =>
      have ok := congrArg Prod.fst deleted
      have result := congrArg Prod.snd deleted
      obtain ⟨gone, named, removal⟩ := vendor.deleted provided _ _ world ok
      refine .deleted (rowKey row) gone (heldKeys_dropExtent active) named ?_
      simpa only [result] using removal
  | extentKept _ _ provided _ refused =>
      exact .unchanged rfl (vendor.kept provided _ _ _ refused)
  | remembered =>
      exact .unchanged (by simp [heldKeys]) rfl
  | connected _ _ provided _ =>
      exact .unchanged rfl (vendor.connect provided _ _)
  | mountRefused _ _ provided req _ =>
      exact .unchanged rfl (vendor.mount provided _ _ _ _)
  | @mounted _ world _ provided req _ _ _ accepted =>
      have called := vendor.mount provided req.allocateId req.hostId
        req.logicalDev world
      rw [accepted] at called
      exact .unchanged (heldKeys_setAllocationState _ _ _) called
  | unmountRefused _ _ provided _ _ =>
      exact .unchanged rfl (vendor.unmount provided _ _)
  | unmountedStale _ _ provided _ _ _ =>
      exact .unchanged rfl (vendor.unmount provided _ _)
  | @unmounted _ world _ provided logicalDev _ _ _ accepted =>
      have called := vendor.unmount provided logicalDev world
      rw [accepted] at called
      exact .unchanged (heldKeys_recordUnmount _ _ _) called

end Effects

section Invariants

/-- An event makes at most one call of the plugin. -/
theorem event_calls {before after : ControllerState × PluginState}
    (event : ControllerEvent plugin before after) :
    PluginReach plugin before.2 after.2 := by
  cases event with
  | numbered => exact .refl
  | extentRefused _ world provided extentReq _ =>
      exact .single (.createNs world provided extentReq)
  | extentCreated _ world provided _ answered _ =>
      cases congrArg Prod.snd answered
      exact .single (.createNs world provided _)
  | extentUndone _ world _ _ =>
      unfold rollbackDelete
      split
      · exact .refl
      · rename_i provided
        exact .single (.deleteNs world provided _ _)
  | extentReleased _ world provided _ _ deleted =>
      cases congrArg Prod.snd deleted
      exact .single (.deleteNs world provided _ _)
  | extentKept _ world provided _ _ =>
      exact .single (.deleteNs world provided _ _)
  | remembered => exact .refl
  | connected _ world provided ssuId =>
      exact .single (.connect world provided ssuId)
  | mountRefused _ world provided req _ =>
      exact .single (.mount world provided _ _ _)
  | mounted _ world provided _ accepted =>
      cases congrArg Prod.snd accepted
      exact .single (.mount world provided _ _ _)
  | unmountRefused _ world provided logicalDev _ =>
      exact .single (.unmount world provided logicalDev)
  | unmountedStale _ world provided logicalDev _ _ =>
      exact .single (.unmount world provided logicalDev)
  | unmounted _ world provided _ accepted =>
      cases congrArg Prod.snd accepted
      exact .single (.unmount world provided _)

/-- The ids of new namespaces are new as long as the plugin state is `sound`,
which is never regained. -/
structure NamesNew (plugin : SsuPluginOps PluginState)
    (stored : PluginState → List ExtentKey) (initial : PluginState)
    (sound : PluginState → Prop) : Prop where
  back : ∀ {before after}, PluginReach plugin before after →
    sound after → sound before
  fresh : ∀ {createNs}, plugin.createNs = some createNs →
    ∀ extentReq world, PluginReach plugin initial world →
      (createNs extentReq world).1.err = .ok →
        sound (createNs extentReq world).2 →
          (createdKey extentReq (createNs extentReq world).1).name ∉
            (stored world).map ExtentKey.name

/-- The plugin stores every extent the controller lists, and no other one if
its removals cannot fail. -/
structure ExtentsMirrored (plugin : SsuPluginOps PluginState)
    (stored : PluginState → List ExtentKey) (initial : PluginState)
    (sound : PluginState → Prop) (state : ControllerState)
    (world : PluginState) : Prop where
  reached : PluginReach plugin initial world
  mirrored : sound world →
    Mirrored ExtentKey.name (heldKeys state) (stored world)
  counted : sound world → DeletesReliably plugin stored →
    (stored world).length = (heldKeys state).length

theorem extentsMirrored_event (vendor : NamespacePlugin plugin stored)
    {initial : PluginState} (names : NamesNew plugin stored initial sound)
    {before after : ControllerState × PluginState}
    (event : ControllerEvent plugin before after)
    (holds : ExtentsMirrored plugin stored initial sound before.1 before.2) :
    ExtentsMirrored plugin stored initial sound after.1 after.2 := by
  have earlier := names.back (event_calls event)
  refine ⟨holds.reached.trans (event_calls event), ?_, ?_⟩
  · intro fine
    have mirrored := holds.mirrored (earlier fine)
    cases event_effect vendor event with
    | unchanged held same => rwa [held, same]
    | created provided extentReq accepted result held _ _ =>
        have arrived := vendor.created provided extentReq before.2 accepted
        rw [result] at fine ⊢
        have unused := names.fresh provided extentReq before.2 holds.reached
          accepted fine
        exact (mirrored.create unused).congr_perm held.symm arrived.symm
    | deleted key gone held named removal =>
        exact (mirrored.congr_perm held (.refl _)).delete removal named
    | orphaned key held same _ =>
        rw [same]
        exact (mirrored.congr_perm held (.refl _)).forget
  · intro fine reliable
    have counted := holds.counted (earlier fine) reliable
    cases event_effect vendor event with
    | unchanged held same => rwa [held, same]
    | created provided extentReq accepted result held _ _ =>
        have arrived := vendor.created provided extentReq before.2 accepted
        rw [result, arrived.length_eq, held.length_eq, List.length_cons,
          List.length_cons, counted]
    | deleted key gone held _ removal =>
        rw [held.length_eq, removal.length_eq] at counted
        exact Nat.succ_injective counted
    | orphaned key held same kept =>
        -- A listed extent is stored, so a reliable removal would find it.
        rcases kept with unreliable | missing
        · exact (unreliable reliable).elim
        · have mirrored := (holds.mirrored (earlier fine)).congr_perm held
            (.refl _)
          exact (missing (List.mem_map_of_mem mirrored.mem_stored)).elim

theorem extentsMirrored_preserved (vendor : NamespacePlugin plugin stored)
    {initial : PluginState} (names : NamesNew plugin stored initial sound) :
    Preserved plugin (ExtentsMirrored plugin stored initial sound) where
  event _ _ event _ holds := extentsMirrored_event vendor names event holds
  discovered provided _ world holds := by
    have same := vendor.discover provided world
    have called := PluginCall.discover world provided
    have earlier := names.back (.single called)
    exact ⟨holds.reached.tail called,
      fun fine => same ▸ holds.mirrored (earlier fine),
      fun fine => same ▸ holds.counted (earlier fine)⟩
  checked provided _ world ssuId holds := by
    have same := vendor.healthCheck provided ssuId world
    have called := PluginCall.healthCheck world provided ssuId
    have earlier := names.back (.single called)
    exact ⟨holds.reached.tail called,
      fun fine => same ▸ holds.mirrored (earlier fine),
      fun fine => same ▸ holds.counted (earlier fine)⟩
  pooled _ _ _ holds := ⟨holds.reached, holds.mirrored, holds.counted⟩

/-- The extents of one allocation start at different offsets. -/
structure OffsetsDistinct (keys : List ExtentKey) : Prop where
  nonempty : ∀ key ∈ keys, 0 < key.length.toNat
  distinct : keys.Pairwise fun left right =>
    left.allocateId = right.allocateId →
      left.logicalOffset ≠ right.logicalOffset

theorem OffsetsDistinct.perm {left right : List ExtentKey}
    (holds : OffsetsDistinct left) (same : left.Perm right) :
    OffsetsDistinct right := by
  constructor
  · intro key member
    exact holds.nonempty key (same.mem_iff.mpr member)
  · apply (same.pairwise_iff _).mp holds.distinct
    intro first second different shared equal
    exact different shared.symm equal.symm

theorem OffsetsDistinct.tail {key : ExtentKey} {keys : List ExtentKey}
    (holds : OffsetsDistinct (key :: keys)) : OffsetsDistinct keys :=
  ⟨fun other member => holds.nonempty other (List.mem_cons_of_mem _ member),
    (List.pairwise_cons.mp holds.distinct).2⟩

theorem OffsetsDistinct.create {keys : List ExtentKey}
    (holds : OffsetsDistinct keys) {created : ExtentKey}
    (nonempty : 0 < created.length.toNat)
    (behind : ∀ key ∈ keys, key.allocateId = created.allocateId →
      key.logicalOffset.toNat + key.length.toNat ≤
        created.logicalOffset.toNat) :
    OffsetsDistinct (created :: keys) := by
  constructor
  · intro key member
    rcases List.mem_cons.mp member with rfl | old
    · exact nonempty
    · exact holds.nonempty key old
  · refine List.pairwise_cons.mpr ⟨?_, holds.distinct⟩
    intro key member own same
    have order := behind key member own.symm
    have length := holds.nonempty key member
    rw [same] at order
    omega

theorem offsetsDistinct_preserved (vendor : NamespacePlugin plugin stored) :
    Preserved plugin (fun state _ => OffsetsDistinct (heldKeys state)) where
  event _ _ event _ holds := by
    cases event_effect vendor event with
    | unchanged held _ => rwa [held]
    | created provided extentReq accepted _ held nonempty behind =>
        exact (holds.create nonempty behind).perm held.symm
    | deleted key _ held _ _ => exact (holds.perm held).tail
    | orphaned key held _ _ => exact (holds.perm held).tail
  discovered _ _ _ holds := holds
  checked _ _ _ _ holds := holds
  pooled _ _ _ holds := holds

end Invariants

section Views

def loggedMap (row : SsuLogdevInfo) : MapSpec :=
  { physDev := row.physDev
    nsId := row.nsId
    logicalOffset := row.logicalOffset
    length := row.length
    physSector := row.physSector }

/-- The maps that the controller's rows of a path stand for. -/
def recordedMaps (state : ControllerState) (logicalDev : CString) :
    List MapSpec :=
  (state.logdevs.rows.filter (logdevHasDev logicalDev)).map loggedMap

variable (plugin) in
/-- What `plugin->mount` collects for ReqShim, after the controller has
connected the extents. -/
def handedMaps (collect : PluginState → CString → Except SsuErr (List MapSpec))
    (req : SsuMountReq) (state : ControllerState) (world : PluginState) :
    Except SsuErr (List MapSpec) :=
  match plugin.connect with
  | none => .error .invalid
  | some connect =>
      let allocationRows :=
        state.allocations.rows.filter (rowHasId req.allocateId)
      let slots := state.logdevs.freeSlots.take allocationRows.length
      collect (connectExtents connect allocationRows slots world).2
        req.allocateId

variable (plugin) in
/-- A mount leaves the same maps in the controller's rows and with ReqShim. -/
def ViewsAgree (collect : PluginState → CString → Except SsuErr (List MapSpec))
    (req : SsuMountReq) (current : ControllerState × PluginState) : Prop :=
  ∃ specs ∈ (handedMaps plugin collect req current.1 current.2).toOption,
    (recordedMaps (step plugin current (.mount req)).1
      req.logicalDev.chars).Perm specs

instance (collect : PluginState → CString → Except SsuErr (List MapSpec))
    (req : SsuMountReq) (current : ControllerState × PluginState) :
    Decidable (ViewsAgree plugin collect req current) :=
  inferInstanceAs (Decidable (∃ specs ∈ (_ : Option _), _))

/-- The map of an extent when its SSU has one device. -/
def ExtentKey.mapOn (device : CBuf 64 → CBuf 64) (key : ExtentKey) : MapSpec :=
  { physDev := device key.ssuId
    nsId := key.nsId
    logicalOffset := key.logicalOffset
    length := key.length
    physSector := key.physSector }

def keyHasAllocate (allocateId : CString) (key : ExtentKey) : Bool :=
  key.allocateId.chars = allocateId

theorem filter_heldKeys (state : ControllerState) (allocateId : CString) :
    (heldKeys state).filter (keyHasAllocate allocateId) =
      (state.allocations.rows.filter (rowHasId allocateId)).map rowKey := by
  rw [heldKeys, List.filter_map]
  rfl

theorem recordedMaps_recordMount {state : ControllerState} {req : SsuMountReq}
    {connected : List (ControllerAllocation × Nat × CBuf 64)}
    (checked : MountChecked req state connected) (device : CBuf 64 → CBuf 64)
    (devices : ∀ entry ∈ connected, entry.2.2 = device entry.1.info.ssuId) :
    (recordedMaps (recordMount req connected state)
        req.logicalDev.chars).Perm
      (((heldKeys state).filter (keyHasAllocate req.allocateId)).map
        (ExtentKey.mapOn device)) := by
  have logdevs := (recordMount_logdevs checked).filter
    (logdevHasDev req.logicalDev.chars)
  have earlier : state.logdevs.rows.filter
      (logdevHasDev req.logicalDev.chars) = [] := by
    apply List.filter_eq_nil_iff.mpr
    intro logdev member same
    exact checked.unused logdev member
      (BoundedString.chars_inj.mp (of_decide_eq_true same))
  have recorded : (connected.map fun entry =>
        logdevRow req entry.1 entry.2.2).filter
          (logdevHasDev req.logicalDev.chars) =
      connected.map fun entry => logdevRow req entry.1 entry.2.2 := by
    apply List.filter_eq_self.mpr
    intro logdev member
    obtain ⟨entry, _, rfl⟩ := List.mem_map.mp member
    exact decide_eq_true rfl
  rw [List.filter_append, earlier, List.append_nil, recorded] at logdevs
  have maps : (connected.map fun entry =>
        logdevRow req entry.1 entry.2.2).map loggedMap =
      ((connected.map Prod.fst).map rowKey).map (ExtentKey.mapOn device) := by
    simp only [List.map_map]
    apply List.map_congr_left
    intro entry member
    simp only [Function.comp_apply, loggedMap, logdevRow, ExtentKey.mapOn,
      rowKey, devices entry member]
  rw [filter_heldKeys, ← checked.rows, ← maps]
  exact logdevs.map loggedMap

/-- The two sides of a mount that returns `SSU_OK`. -/
theorem mounted_views {connect}
    (provided : plugin.connect = some connect)
    {collect : PluginState → CString → Except SsuErr (List MapSpec)}
    (collects : ∀ {mount}, plugin.mount = some mount →
      ∀ (req : SsuMountReq) world,
        (mount req.allocateId req.hostId req.logicalDev world).1 = .ok →
          ∃ specs, collect world req.allocateId = .ok specs)
    (device : CBuf 64 → CBuf 64) {req : SsuMountReq}
    {current : ControllerState × PluginState}
    (devices : ∀ before ssuId physDev, ConnectReach connect current.2 before →
      (connect ssuId before).1 = (.ok, physDev) → physDev = device ssuId)
    (ok : (exec plugin (.mount req) current.1 current.2).1 = .ok) :
    ∃ middle specs, ConnectReach connect current.2 middle ∧
      collect middle req.allocateId = .ok specs ∧
      (ViewsAgree plugin collect req current ↔
        (((heldKeys current.1).filter (keyHasAllocate req.allocateId)).map
          (ExtentKey.mapOn device)).Perm specs) := by
  have outcome := ssuControllerMount_outcome plugin req current.1 current.2
  simp only [exec] at ok
  unfold ViewsAgree handedMaps
  simp only [step, exec, provided]
  generalize ssuControllerMount plugin req current.1 current.2 = result
    at ok outcome
  cases outcome with
  | refused failed => exact (failed ok).elim
  | unconnected _ _ failed => exact (failed ok).elim
  | rejected _ _ _ _ failed => exact (failed ok).elim
  | @mounted _ mount same mounts connected middle after reached connects
      checked accepted =>
      cases provided.symm.trans same
      obtain ⟨specs, collected⟩ := collects mounts req middle
        (congrArg Prod.fst accepted)
      refine ⟨middle, specs, reached, collected, ?_⟩
      have recorded := recordedMaps_recordMount checked device (by
        intro entry member
        obtain ⟨before, reached, answer⟩ :=
          (connectExtents_ok connects).answers entry member
        exact devices before _ _ reached answer)
      rw [connects]
      simp only [collected, Except.toOption, Option.mem_some_iff,
        exists_eq_left']
      exact ⟨recorded.symm.trans, recorded.trans⟩

end Views

section Vendors

theorem vendorMount_ok {capacity : Nat} {hasNamespace allowMissing : Bool}
    {maps : Except SsuErr (List MapSpec)} {ctl : CtlAnswer}
    {allocateId hostId logicalDev : CString} {tables : MountTables capacity}
    (honest : ∀ err, maps = .error err → err ≠ .ok)
    (ok : (vendorMount hasNamespace maps allowMissing ctl allocateId hostId
      logicalDev tables).1 = .ok) : ∃ specs, maps = .ok specs := by
  have outcome : VendorMountOutcome maps allowMissing ctl allocateId hostId
      logicalDev tables (vendorMount hasNamespace maps allowMissing ctl
        allocateId hostId logicalDev tables) := vendorMount_outcome honest
  generalize vendorMount hasNamespace maps allowMissing ctl allocateId hostId
    logicalDev tables = answer at ok outcome
  cases outcome with
  | refused failed => exact (failed ok).elim
  | rejected _ failed => exact (failed ok).elim
  | accepted _ collected => exact ⟨_, collected⟩

theorem stored_of_connectReach (vendor : NamespacePlugin plugin stored)
    {connect} (provided : plugin.connect = some connect)
    {before after : PluginState} (reached : ConnectReach connect before after) :
    stored after = stored before := by
  induction reached with
  | refl => rfl
  | tail _ called induction =>
      obtain ⟨ssuId, rfl⟩ := called
      exact (vendor.connect provided ssuId _).trans induction

section Mock

variable (host : MockHost)

/-- The one device of a mock SSU. -/
def mockDevice (ssuId : CBuf 64) : CBuf 64 :=
  match parseMockSsuId ssuId.chars with
  | none => .empty
  | some index =>
      if isEmptyString host.backendDir then
        copyCstr 64 ("/dev/nullb".toList ++ decimal index)
      else copyCstr 64 (backendPath host index)

theorem connectDev_ok {time : Nat} {ssuId physDev : CBuf 64}
    (answered : connectDev host time ssuId = (.ok, physDev)) :
    physDev = mockDevice host ssuId := by
  unfold connectDev at answered
  unfold mockDevice
  cases parsed : parseMockSsuId ssuId.chars with
  | none =>
    simp only [parsed] at answered
    cases answered
  | some index =>
    simp only [parsed] at answered ⊢
    split at answered
    · cases answered
    · cases answered
    · unfold mockBackendFile at answered
      simp only at answered
      by_cases unset : isEmptyString host.backendDir = true
      · simp only [unset, if_true] at answered ⊢
        exact (Prod.mk.inj answered).2.symm
      · simp only [unset, if_false, Bool.false_eq_true] at answered ⊢
        split at answered
        · rename_i file
          split at file
          · cases file
          · split at file <;> cases file
        · split at answered
          · cases answered
          · split at answered
            · exact (Prod.mk.inj answered).2.symm
            · cases answered

theorem collectMapsLoop_ok {time : Nat} {rows : List MockNamespace}
    {specs : List MapSpec}
    (collected : collectMapsLoop host time rows = .ok specs) :
    specs = (rows.map MockNamespace.key).map
      (ExtentKey.mapOn (mockDevice host)) := by
  induction rows generalizing specs with
  | nil => exact (Except.ok.inj collected).symm
  | cons ns others induction =>
      simp only [collectMapsLoop] at collected
      split at collected
      · rename_i physDev connected
        split at collected
        · cases collected
        · rename_i rest later
          rw [← Except.ok.inj collected, induction later,
            connectDev_ok host connected]
          rfl
      · cases collected

theorem collectReqshimMaps_ok {world : MockState} {allocateId : CString}
    {specs : List MapSpec}
    (collected : collectReqshimMaps host world allocateId = .ok specs) :
    specs = (world.stored.filter (keyHasAllocate allocateId)).map
      (ExtentKey.mapOn (mockDevice host)) := by
  unfold collectReqshimMaps at collected
  split at collected
  · cases collected
  · rw [MockState.stored, List.filter_map]
    exact collectMapsLoop_ok host collected

/-- The 64-bit counter of the namespace ids has not wrapped. -/
def IdsUnwrapped (world : MockState) : Prop :=
  world.nextNsId ≤ 2 ^ 64

instance (world : MockState) : Decidable (IdsUnwrapped world) :=
  inferInstanceAs (Decidable (_ ≤ _))

theorem mock_namesNew :
    NamesNew (mockPlugin host) MockState.stored .initial
      IdsUnwrapped where
  back calls fine := by
    induction calls with
    | refl => exact fine
    | tail _ call induction =>
        exact induction (Nat.le_trans (mockCall_nextNsId call) fine)
  fresh provided extentReq world reached accepted fine := by
    cases provided
    exact mockCreateNs_newName reached accepted fine

theorem mock_deletesReliably :
    DeletesReliably (mockPlugin host) MockState.stored :=
  ⟨mockDeleteNs, rfl, fun _ _ _ listed => mockDeleteNs_ok listed⟩

theorem mock_viewsAgree {req : SsuMountReq}
    {current : ControllerState × MockState}
    (holds : ExtentsMirrored (mockPlugin host) MockState.stored .initial
      IdsUnwrapped current.1 current.2)
    (unwrapped : IdsUnwrapped current.2)
    (ok : (exec (mockPlugin host) (.mount req) current.1 current.2).1 = .ok) :
    ViewsAgree (mockPlugin host) (collectReqshimMaps host) req current := by
  have vendor := mock_namespacePlugin host
  obtain ⟨middle, specs, reached, collected, iff⟩ := mounted_views rfl
    (fun provided req world accepted => by
      cases provided
      exact vendorMount_ok (collectReqshimMaps_error host world _) accepted)
    (mockDevice host) (fun before ssuId physDev _ answered => by
      unfold mockConnect at answered
      exact connectDev_ok host answered) ok
  rw [iff, collectReqshimMaps_ok host collected,
    stored_of_connectReach vendor rfl reached]
  have whole := holds.counted unwrapped (mock_deletesReliably host)
  have same := (holds.mirrored unwrapped).part.perm_of_length_le whole.le
  exact (same.filter _).map _

end Mock

section Lbc

variable (host : LbcHost)

/-- The device that `connect` finds on an SSU. -/
def connectedDevice (world : LbcState) (ssuId : CBuf 64) : CBuf 64 :=
  match firstDevOn ssuId world with
  | none => .empty
  | some devPath => copyCstr 64 devPath.chars

/-- The plugin holds the namespaces of the allocation's rows and no others for
it, and each one's device is that of the first namespace on its SSU. -/
structure OwnDevicesFirst (allocateId : CString) (state : ControllerState)
    (world : LbcState) : Prop where
  noOrphan : (world.namespaces.rows.filter (lbcHasAllocate allocateId)).length =
    (state.allocations.rows.filter (rowHasId allocateId)).length
  first : ∀ ns ∈ world.namespaces.rows, lbcHasAllocate allocateId ns = true →
    connectedDevice world ns.ssuId = copyCstr 64 ns.devPath.chars

instance (allocateId : CString) (state : ControllerState) (world : LbcState) :
    Decidable (OwnDevicesFirst allocateId state world) :=
  decidable_of_iff
    ((world.namespaces.rows.filter (lbcHasAllocate allocateId)).length =
        (state.allocations.rows.filter (rowHasId allocateId)).length ∧
      ∀ ns ∈ world.namespaces.rows, lbcHasAllocate allocateId ns = true →
        connectedDevice world ns.ssuId = copyCstr 64 ns.devPath.chars)
    ⟨fun both => ⟨both.1, both.2⟩, fun holds => ⟨holds.noOrphan, holds.first⟩⟩

def lbcMap (ns : LbcNamespace) : MapSpec :=
  { physDev := copyCstr 64 ns.devPath.chars
    nsId := ns.nsId
    logicalOffset := ns.logicalOffset
    length := ns.length
    physSector := ns.physSector }

theorem lbcCollectLoop_ok {rows : List LbcNamespace} {specs : List MapSpec}
    (collected : lbcCollectLoop rows = .ok specs) : specs = rows.map lbcMap := by
  induction rows generalizing specs with
  | nil => exact (Except.ok.inj collected).symm
  | cons ns others induction =>
      simp only [lbcCollectLoop] at collected
      split at collected
      · cases collected
      · split at collected
        · cases collected
        · rename_i rest later
          rw [← Except.ok.inj collected, induction later]
          rfl

theorem lbcCollectReqshimMaps_ok {world : LbcState} {allocateId : CString}
    {specs : List MapSpec}
    (collected : lbcCollectReqshimMaps world allocateId = .ok specs) :
    specs = (world.namespaces.rows.filter (lbcHasAllocate allocateId)).map
      lbcMap := by
  unfold lbcCollectReqshimMaps at collected
  split at collected
  · cases collected
  · split at collected
    · cases collected
    · exact lbcCollectLoop_ok collected

theorem lbcConnectReach_namespaces {before after : LbcState}
    (reached : ConnectReach (lbcMockConnect host) before after) :
    after.namespaces = before.namespaces := by
  induction reached with
  | refl => rfl
  | tail _ called induction =>
      obtain ⟨ssuId, rfl⟩ := called
      exact induction

theorem lbcMockConnect_ok {ssuId physDev : CBuf 64} {world : LbcState}
    (answered : (lbcMockConnect host ssuId world).1 = (.ok, physDev)) :
    physDev = connectedDevice world ssuId := by
  unfold lbcMockConnect at answered
  simp only at answered
  split at answered
  · cases answered
  · split at answered
    · cases answered
    · unfold connectedDevice
      cases found : firstDevOn ssuId world with
      | none =>
        simp only [found] at answered
        cases answered
      | some devPath =>
        simp only [found] at answered
        exact (Prod.mk.inj answered).2.symm

theorem lbcMock_namesNew (newIds : NewNsIds host) :
    NamesNew (lbcMockPlugin host) LbcState.stored .initial
      (fun _ => True) where
  back _ _ := trivial
  fresh provided extentReq world reached accepted _ := by
    cases provided
    exact lbcMockCreateNs_newName host newIds reached accepted

theorem filter_stored (world : LbcState) (allocateId : CString) :
    world.stored.filter (keyHasAllocate allocateId) =
      (world.namespaces.rows.filter (lbcHasAllocate allocateId)).map
        LbcNamespace.key := by
  rw [LbcState.stored, List.filter_map]
  rfl

/-- One allocation's extents can be told apart by their offsets. -/
theorem OffsetsDistinct.filter {keys : List ExtentKey}
    (holds : OffsetsDistinct keys) (allocateId : CString) :
    ((keys.filter (keyHasAllocate allocateId)).map
      ExtentKey.logicalOffset).Nodup := by
  apply List.pairwise_map.mpr
  have own := holds.distinct.filter (keyHasAllocate allocateId)
  apply own.imp_of_mem
  intro left right leftMember rightMember different
  have leftOwn := of_decide_eq_true (List.mem_filter.mp leftMember).2
  have rightOwn := of_decide_eq_true (List.mem_filter.mp rightMember).2
  exact different (BoundedString.chars_inj.mp (leftOwn.trans rightOwn.symm))

/-- Once as many namespaces as rows belong to the allocation, both sides show
the same namespaces, each with a device. -/
theorem views_iff_of_count {state : ControllerState} {world : LbcState}
    (allocateId : CString)
    (mirrored : Mirrored ExtentKey.name (heldKeys state) world.stored)
    (offsets : OffsetsDistinct (heldKeys state))
    (count :
      (world.namespaces.rows.filter (lbcHasAllocate allocateId)).length =
        (state.allocations.rows.filter (rowHasId allocateId)).length) :
    (((heldKeys state).filter (keyHasAllocate allocateId)).map
        (ExtentKey.mapOn (connectedDevice world))).Perm
        ((world.namespaces.rows.filter
          (lbcHasAllocate allocateId)).map lbcMap) ↔
      ∀ ns ∈ world.namespaces.rows.filter (lbcHasAllocate allocateId),
        connectedDevice world ns.ssuId = copyCstr 64 ns.devPath.chars := by
  have same := mirrored.filter_perm (keyHasAllocate allocateId) (by
    rw [filter_stored, filter_heldKeys, List.length_map, List.length_map]
    exact count)
  have distinct := (same.map ExtentKey.logicalOffset).nodup_iff.mp
    (offsets.filter allocateId)
  have moved := same.map (ExtentKey.mapOn (connectedDevice world))
  rw [filter_stored, List.map_map] at distinct moved
  have agree := perm_map_iff_of_keys
    (ExtentKey.mapOn (connectedDevice world) ∘ LbcNamespace.key) lbcMap
    MapSpec.logicalOffset (fun _ _ => rfl) distinct
  constructor
  · intro shown ns member
    have equal := agree.mp (moved.symm.trans shown) ns member
    exact congrArg MapSpec.physDev equal
  · intro first
    apply moved.trans
    apply agree.mpr
    intro ns member
    have device := first ns member
    simp only [Function.comp_apply, ExtentKey.mapOn, LbcNamespace.key, device,
      lbcMap]

theorem lbcMock_viewsAgree_iff {req : SsuMountReq}
    {current : ControllerState × LbcState}
    (holds : ExtentsMirrored (lbcMockPlugin host) LbcState.stored .initial
      (fun _ => True) current.1 current.2)
    (offsets : OffsetsDistinct (heldKeys current.1))
    (ok : (exec (lbcMockPlugin host) (.mount req) current.1 current.2).1 =
      .ok) :
    ViewsAgree (lbcMockPlugin host) lbcCollectReqshimMaps req current ↔
      OwnDevicesFirst req.allocateId current.1 current.2 := by
  obtain ⟨middle, specs, reached, collected, iff⟩ := mounted_views rfl
    (fun provided req world accepted => by
      cases provided
      unfold lbcMockMount at accepted
      split at accepted
      · cases accepted
      · exact vendorMount_ok (lbcCollectReqshimMaps_error world _) accepted)
    (connectedDevice current.2)
    (fun before ssuId physDev reached answered => by
      rw [lbcMockConnect_ok host answered, connectedDevice, connectedDevice,
        firstDevOn, firstDevOn, lbcConnectReach_namespaces host reached]) ok
  rw [iff, lbcCollectReqshimMaps_ok collected,
    lbcConnectReach_namespaces host reached]
  have views := views_iff_of_count req.allocateId (holds.mirrored trivial)
    offsets
  constructor
  · intro shown
    have count := shown.length_eq
    rw [filter_heldKeys] at count
    simp only [List.length_map] at count
    refine ⟨count.symm, ?_⟩
    intro ns member own
    apply (views count.symm).mp shown ns
    exact List.mem_filter.mpr ⟨member, own⟩
  · rintro ⟨count, first⟩
    apply (views count).mpr
    intro ns member
    obtain ⟨listed, own⟩ := List.mem_filter.mp member
    exact first ns listed own

end Lbc

theorem heldKeys_initial : heldKeys .initial = [] := by
  simp [heldKeys, ControllerState.initial]

theorem extentsMirrored_initial {initial : PluginState}
    (fresh : stored initial = []) :
    ExtentsMirrored plugin stored initial sound .initial initial := by
  constructor
  · exact .refl
  · intro _
    rw [heldKeys_initial, fresh]
    exact Mirrored.nil _
  · intro _ _
    rw [heldKeys_initial, fresh]

/-- In every reachable state, a mount that returns `SSU_OK` records the maps
that ReqShim is given: always over the mock plugin while fewer than `2 ^ 64`
namespaces have been created, and over the LBC mock plugin if and only if the
allocation's namespaces are those of its rows and each one's device comes
first on its SSU. -/
theorem mount_views_agree_iff (mockHost : MockHost) (lbcHost : LbcHost)
    (ops : List ControllerOp) (req : SsuMountReq) :
    (let current := Transition.run (step (mockPlugin mockHost))
      (.initial, .initial) ops
    IdsUnwrapped current.2 →
      (exec (mockPlugin mockHost) (.mount req) current.1
          current.2).1 = .ok →
        ViewsAgree (mockPlugin mockHost) (collectReqshimMaps mockHost) req
          current) ∧
      (NewNsIds lbcHost →
        let current := Transition.run (step (lbcMockPlugin lbcHost))
          (.initial, .initial) ops
        (exec (lbcMockPlugin lbcHost) (.mount req) current.1
            current.2).1 = .ok →
          (ViewsAgree (lbcMockPlugin lbcHost) lbcCollectReqshimMaps req
              current ↔
            OwnDevicesFirst req.allocateId current.1 current.2)) := by
  constructor
  · intro current unwrapped ok
    have holds := ((extentsMirrored_preserved (mock_namespacePlugin mockHost)
      (mock_namesNew mockHost)).run (extentsMirrored_initial (by
        simp [MockState.stored, MockState.initial])) ops).2
    exact mock_viewsAgree mockHost holds unwrapped ok
  · intro newIds current ok
    have vendor := lbcMock_namespacePlugin lbcHost
    have holds := ((extentsMirrored_preserved vendor
      (lbcMock_namesNew lbcHost newIds)).run (extentsMirrored_initial (by
        simp [LbcState.stored, LbcState.initial])) ops).2
    have initially : OffsetsDistinct (heldKeys .initial) := by
      rw [heldKeys_initial]
      refine ⟨?_, .nil⟩
      intro key held
      cases held
    have offsets : OffsetsDistinct (heldKeys current.1) :=
      ((offsetsDistinct_preserved vendor).run initially ops).2
    exact lbcMock_viewsAgree_iff lbcHost holds offsets ok

/-- One LBC SSU; the scan finds what `scan` says about the namespaces there
are, as a number for the device and the id. -/
def numberingLbcHost (scan : List LbcNamespace → Option Nat) : LbcHost :=
  { resourceCount := 1
    countInRange := oneResource_inRange
    resourceBytes := 1048576
    devDir := "/dev".toList
    configfsDir := "/sys/kernel/config/nvmet/subsystems".toList
    scriptsAvailable := fun _ => true
    setupCommand := fun _ => true
    createCommand := fun _ => true
    deleteCommand := fun _ => true
    createdDev := fun _ namespaces =>
      (scan namespaces).map fun number => "/dev/nvme0n".toList ++ decimal number
    createdNsid := fun _ namespaces => (scan namespaces).map decimal
    ctl := fun _ => { openErrno := none, blockLayer := none } }

/-- The script works as long as there is no namespace. -/
def singleLbcHost : LbcHost :=
  numberingLbcHost fun namespaces => if namespaces = [] then some 1 else none

theorem singleLbcHost_newNsIds : NewNsIds singleLbcHost := by
  intro world _ known path ended ns member
  have occupied : world.namespaces.rows ≠ [] := List.ne_nil_of_mem member
  simp [createdByScript, singleLbcHost, numberingLbcHost, occupied] at ended

def oneAllocation : List ControllerOp :=
  [.refreshPool, .alloc (plainRequest 8192 []) ⟨true, 8⟩]

def mountOnly : SsuMountReq :=
  plainMount "alloc-0".toList "/dev/ssu/ssu0".toList

theorem mount_views_agree_single :
    ViewsAgree (mockPlugin twoMockSsus) (collectReqshimMaps twoMockSsus)
        mountOnly
        (Transition.run (step (mockPlugin twoMockSsus)) (.initial, .initial)
          oneAllocation) ∧
      ViewsAgree (lbcMockPlugin singleLbcHost) lbcCollectReqshimMaps mountOnly
        (Transition.run (step (lbcMockPlugin singleLbcHost))
          (.initial, .initial) oneAllocation) :=
  ⟨(mount_views_agree_iff twoMockSsus singleLbcHost oneAllocation
      mountOnly).1 (by decide +kernel) (by decide +kernel),
    ((mount_views_agree_iff twoMockSsus singleLbcHost oneAllocation
      mountOnly).2 singleLbcHost_newNsIds (by decide +kernel)).mpr
        (by decide +kernel)⟩

/-- Every new namespace gets the next number. -/
def countingLbcHost : LbcHost :=
  numberingLbcHost fun namespaces => some (namespaces.length + 1)

/-- The second allocation on an SSU is mounted on the device of the first. -/
theorem mount_views_differ_second :
    let current := Transition.run (step (lbcMockPlugin countingLbcHost))
      (.initial, .initial)
      [.refreshPool, .alloc (plainRequest 4096 []) ⟨true, 8⟩,
        .alloc (plainRequest 4096 []) ⟨true, 8⟩]
    let req := plainMount "alloc-1".toList "/dev/ssu/ssu1".toList
    (exec (lbcMockPlugin countingLbcHost) (.mount req) current.1
        current.2).1 = .ok ∧
      ¬ViewsAgree (lbcMockPlugin countingLbcHost) lbcCollectReqshimMaps req
        current := by
  decide +kernel

end Vendors

end UbseSsu.System

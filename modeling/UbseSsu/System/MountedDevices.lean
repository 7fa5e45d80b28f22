import UbseSsu.Controller.SystemInvariant
import UbseSsu.Plugin.VendorDevices

/-!
# Mounted paths on three levels

A mounted path is a set of logical-device rows of the controller, one row in
the plugin's mount table and one device of the kernel module.  The plugin only
holds paths of the controller, with the allocation that the controller has for
them, and as long as the control device is there the kernel only has devices
of paths that the plugin holds.
-/

namespace UbseSsu.System

open Controller Plugin Kernel Reqshim

variable {PluginState : Type} {plugin : SsuPluginOps PluginState}
  {capacity : Nat} {tables : PluginState → MountTables capacity}
  {ctl : PluginState → CtlAnswer}

section Effects

/-- What one event does to the logical-device rows and to the tables of the
plugin and the kernel. -/
inductive TablesEffect (tables : PluginState → MountTables capacity)
    (ctl : PluginState → CtlAnswer)
    (before after : ControllerState × PluginState) : Prop where
  | untouched (logdevs : after.1.logdevs = before.1.logdevs)
      (same : tables after.2 = tables before.2)
  | mountRefused (req : SsuMountReq) {err : SsuErr} (failed : err ≠ .ok)
      (logdevs : after.1.logdevs = before.1.logdevs)
      (answered : MountAnswered (ctl before.2) req.allocateId req.hostId
        req.logicalDev.chars (tables before.2) (err, tables after.2))
  | mounted {req : SsuMountReq}
      {connected : List (ControllerAllocation × Nat × CBuf 64)}
      (checked : MountChecked req before.1 connected)
      (result : after.1 = recordMount req connected before.1)
      (answered : MountAnswered (ctl before.2) req.allocateId req.hostId
        req.logicalDev.chars (tables before.2) (.ok, tables after.2))
  | unmountKept (logicalDev : CString) {err : SsuErr}
      (kept : err ≠ .ok ∨ ∀ logdev ∈ before.1.logdevs.rows,
        logdev.logicalDev.chars ≠ logicalDev)
      (logdevs : after.1.logdevs = before.1.logdevs)
      (answered : UnmountAnswered (ctl before.2) logicalDev (tables before.2)
        (err, tables after.2))
  | unmounted (logicalDev allocateId : CString)
      (result : after.1 = recordUnmount logicalDev allocateId before.1)
      (answered : UnmountAnswered (ctl before.2) logicalDev (tables before.2)
        (.ok, tables after.2))

theorem tablesEffect_event (vendor : VendorPlugin plugin tables ctl)
    {before after : ControllerState × PluginState}
    (event : ControllerEvent plugin before after) :
    TablesEffect tables ctl before after := by
  cases event with
  | numbered => exact .untouched rfl rfl
  | extentRefused _ _ provided extentReq _ =>
      exact .untouched rfl (vendor.createNs provided _ _)
  | extentCreated _ _ provided _ answered _ =>
      have after := congrArg (fun result => tables result.2) answered
      exact .untouched rfl (after.symm.trans (vendor.createNs provided _ _))
  | extentUndone state world _ _ =>
      refine .untouched (dropExtent_logdevs _ _ _) ?_
      unfold rollbackDelete
      split
      · rfl
      · rename_i provided
        exact vendor.deleteNs provided _ _ _
  | extentReleased _ _ provided _ _ deleted =>
      have after := congrArg (fun result => tables result.2) deleted
      exact .untouched (dropExtent_logdevs _ _ _)
        (after.symm.trans (vendor.deleteNs provided _ _ _))
  | extentKept _ _ provided _ _ =>
      exact .untouched rfl (vendor.deleteNs provided _ _ _)
  | remembered => exact .untouched (rememberReleasedId_logdevs _ _) rfl
  | connected _ _ provided _ =>
      exact .untouched rfl (vendor.connect provided _ _)
  | mountRefused _ _ provided req refused =>
      exact .mountRefused req refused rfl (vendor.mount provided _ _ _ _)
  | @mounted _ world _ provided req _ checked _ accepted =>
      have answered := vendor.mount provided req.allocateId req.hostId
        req.logicalDev world
      rw [accepted] at answered
      exact .mounted checked rfl answered
  | unmountRefused _ _ provided logicalDev refused =>
      exact .unmountKept logicalDev (.inl refused) rfl
        (vendor.unmount provided _ _)
  | unmountedStale _ _ provided logicalDev _ unknown =>
      exact .unmountKept logicalDev (.inr unknown) rfl
        (vendor.unmount provided _ _)
  | @unmounted _ world _ provided logicalDev logdev _ _ accepted =>
      have answered := vendor.unmount provided logicalDev world
      rw [accepted] at answered
      exact .unmounted logicalDev logdev.allocateId.chars rfl answered

end Effects

section Known

/-- The plugin holds a mount only for paths the controller holds, each path
once. -/
structure MountsKnown (tables : PluginState → MountTables capacity)
    (state : ControllerState) (world : PluginState) : Prop where
  known : ∀ mount ∈ (tables world).mounts.rows,
    ∃ logdev ∈ state.logdevs.rows, logdev.logicalDev = mount.logicalDev
  distinct : ((tables world).mounts.rows.map VendorMount.logicalDev).Nodup

theorem MountsKnown.congr {state after : ControllerState}
    {world next : PluginState} (holds : MountsKnown tables state world)
    (logdevs : after.logdevs = state.logdevs)
    (mounts : (tables next).mounts = (tables world).mounts) :
    MountsKnown tables after next := by
  refine ⟨?_, ?_⟩
  · rw [logdevs, mounts]
    exact holds.known
  · rw [mounts]
    exact holds.distinct

theorem MountsKnown.recordMount {state : ControllerState}
    {world next : PluginState} (holds : MountsKnown tables state world)
    {req : SsuMountReq}
    {connected : List (ControllerAllocation × Nat × CBuf 64)}
    (checked : MountChecked req state connected) {mount : VendorMount}
    (path : mount.logicalDev = req.logicalDev)
    (unused : ∀ mount ∈ (tables world).mounts.rows,
      mount.logicalDev.chars ≠ req.logicalDev.chars)
    (rows : (tables next).mounts.rows.Perm
      (mount :: (tables world).mounts.rows)) :
    MountsKnown tables (recordMount req connected state) next := by
  have logdevs := recordMount_logdevs checked
  refine ⟨fun other member => ?_, ?_⟩
  · rcases List.mem_cons.mp (rows.mem_iff.mp member) with rfl | old
    · obtain ⟨entry, others, listed⟩ :=
        List.exists_cons_of_ne_nil checked.found
      refine ⟨logdevRow req entry.1 entry.2.2, logdevs.mem_iff.mpr ?_,
        path.symm⟩
      rw [listed]
      exact List.mem_cons_self
    · obtain ⟨logdev, logdevMember, same⟩ := holds.known other old
      exact ⟨logdev, logdevs.mem_iff.mpr
        (List.mem_append_right _ logdevMember), same⟩
  · rw [(rows.map _).nodup_iff, List.map_cons]
    refine List.nodup_cons.mpr ⟨fun listed => ?_, holds.distinct⟩
    obtain ⟨old, oldMember, same⟩ := List.mem_map.mp listed
    exact unused old oldMember (congrArg _ (same.trans path))

/-- What an unmount leaves in the plugin's table is under another path. -/
theorem MountsKnown.kept_of_unmount {state : ControllerState}
    {world next : PluginState} (holds : MountsKnown tables state world)
    {logicalDev : CString}
    (after : (tables next).mounts = (tables world).mounts ∧
        (∀ mount ∈ (tables world).mounts.rows,
          mount.logicalDev.chars ≠ logicalDev) ∨
      ∃ mount : VendorMount, mount.logicalDev.chars = logicalDev ∧
        (tables world).mounts.rows.Perm
          (mount :: (tables next).mounts.rows)) :
    ∀ mount ∈ (tables next).mounts.rows,
      mount ∈ (tables world).mounts.rows ∧
        mount.logicalDev.chars ≠ logicalDev := by
  intro mount member
  rcases after with ⟨same, absent⟩ | ⟨gone, path, rows⟩
  · rw [same] at member
    exact ⟨member, absent mount member⟩
  · have distinct := holds.distinct
    rw [(rows.map _).nodup_iff, List.map_cons, List.nodup_cons] at distinct
    refine ⟨rows.mem_iff.mpr (List.mem_cons_of_mem _ member), fun same => ?_⟩
    refine distinct.1 (List.mem_map.mpr ⟨mount, member, ?_⟩)
    exact BoundedString.chars_inj.mp (same.trans path.symm)

/-- The row of another path survives an unmount. -/
theorem mem_recordUnmount_logdevs {state : ControllerState}
    {logicalDev : CString} {logdev : SsuLogdevInfo}
    (member : logdev ∈ state.logdevs.rows)
    (different : logdev.logicalDev.chars ≠ logicalDev)
    (allocateId : CString) :
    logdev ∈ (recordUnmount logicalDev allocateId state).logdevs.rows := by
  rw [recordUnmount_logdevs]
  refine List.mem_filter.mpr ⟨member, ?_⟩
  simpa [logdevHasDev] using different

theorem MountsKnown.recordUnmount {state : ControllerState}
    {world next : PluginState} (holds : MountsKnown tables state world)
    {logicalDev allocateId : CString}
    (after : (tables next).mounts = (tables world).mounts ∧
        (∀ mount ∈ (tables world).mounts.rows,
          mount.logicalDev.chars ≠ logicalDev) ∨
      ∃ mount : VendorMount, mount.logicalDev.chars = logicalDev ∧
        (tables world).mounts.rows.Perm
          (mount :: (tables next).mounts.rows)) :
    MountsKnown tables (recordUnmount logicalDev allocateId state) next := by
  refine ⟨fun mount member => ?_, ?_⟩
  · obtain ⟨old, different⟩ := holds.kept_of_unmount after mount member
    obtain ⟨logdev, logdevMember, same⟩ := holds.known mount old
    rw [← same] at different
    exact ⟨logdev, mem_recordUnmount_logdevs logdevMember different _, same⟩
  · rcases after with ⟨same, _⟩ | ⟨gone, _, rows⟩
    · rw [same]
      exact holds.distinct
    · have distinct := holds.distinct
      rw [(rows.map _).nodup_iff, List.map_cons, List.nodup_cons] at distinct
      exact distinct.2

theorem mountsKnown_event (vendor : VendorPlugin plugin tables ctl)
    {before after : ControllerState × PluginState}
    (event : ControllerEvent plugin before after)
    (holds : MountsKnown tables before.1 before.2) :
    MountsKnown tables after.1 after.2 := by
  cases tablesEffect_event vendor event with
  | untouched logdevs same => exact holds.congr logdevs (congrArg _ same)
  | mountRefused req failed logdevs answered =>
      rcases answered.mounts with ⟨_, same⟩ | ⟨ok, _⟩
      · exact holds.congr logdevs same
      · exact (failed ok).elim
  | mounted checked result answered =>
      rcases answered.mounts with ⟨failed, _⟩ | ⟨_, unused, mount, path, _, rows⟩
      · exact (failed rfl).elim
      · rw [copyCstr_chars_self] at path
        rw [result]
        exact holds.recordMount checked path unused rows
  | unmountKept logicalDev kept logdevs answered =>
      rcases answered.mounts with ⟨same, _⟩ | ⟨ok, mount, path, rows⟩
      · exact holds.congr logdevs same
      · rcases kept with failed | unknown
        · exact (failed ok).elim
        · obtain ⟨logdev, member, same⟩ :=
            holds.known mount (rows.mem_iff.mpr List.mem_cons_self)
          exact (unknown logdev member ((congrArg _ same).trans path)).elim
  | unmounted logicalDev allocateId result answered =>
      rw [result]
      exact holds.recordUnmount
        (answered.mounts.imp (fun kept => ⟨kept.1, kept.2 rfl⟩) And.right)

theorem mountsKnown_preserved (vendor : VendorPlugin plugin tables ctl) :
    Preserved plugin (MountsKnown tables) where
  event _ _ event _ holds := mountsKnown_event vendor event holds
  discovered provided _ world holds :=
    holds.congr rfl (congrArg _ (vendor.discover provided world))
  checked provided _ world ssuId holds :=
    holds.congr rfl (congrArg _ (vendor.healthCheck provided ssuId world))
  pooled _ _ _ holds := holds.congr rfl rfl

theorem mountsKnown_initial (tables : PluginState → MountTables capacity)
    (world : PluginState) (fresh : tables world = .initial capacity) :
    MountsKnown tables .initial world := by
  refine ⟨?_, ?_⟩ <;> simp [fresh, MountTables.initial]

/-- The plugin holds every path of the controller, for the same allocation. -/
def MountsHeld (tables : PluginState → MountTables capacity)
    (state : ControllerState) (world : PluginState) : Prop :=
  ∀ logdev ∈ state.logdevs.rows, ∃ mount ∈ (tables world).mounts.rows,
    mount.logicalDev = logdev.logicalDev ∧
      mount.allocateId = logdev.allocateId

theorem MountsHeld.congr {state after : ControllerState}
    {world next : PluginState} (holds : MountsHeld tables state world)
    (logdevs : after.logdevs = state.logdevs)
    (mounts : (tables next).mounts = (tables world).mounts) :
    MountsHeld tables after next := by
  intro logdev member
  rw [logdevs] at member
  rw [mounts]
  exact holds logdev member

/-- An unmount takes the mount of its own path at most. -/
theorem MountsHeld.kept {state : ControllerState} {world next : PluginState}
    (holds : MountsHeld tables state world) {logicalDev : CString}
    {mount : VendorMount} (path : mount.logicalDev.chars = logicalDev)
    (rows : (tables world).mounts.rows.Perm
      (mount :: (tables next).mounts.rows))
    {logdev : SsuLogdevInfo} (member : logdev ∈ state.logdevs.rows)
    (different : logdev.logicalDev.chars ≠ logicalDev) :
    ∃ mount ∈ (tables next).mounts.rows,
      mount.logicalDev = logdev.logicalDev ∧
        mount.allocateId = logdev.allocateId := by
  obtain ⟨held, heldMember, same, own⟩ := holds logdev member
  rcases List.mem_cons.mp (rows.mem_iff.mp heldMember) with rfl | stays
  · exact (different ((congrArg _ same.symm).trans path)).elim
  · exact ⟨held, stays, same, own⟩

theorem mountsHeld_event (vendor : VendorPlugin plugin tables ctl)
    {before after : ControllerState × PluginState}
    (event : ControllerEvent plugin before after)
    (holds : MountsHeld tables before.1 before.2) :
    MountsHeld tables after.1 after.2 := by
  cases tablesEffect_event vendor event with
  | untouched logdevs same => exact holds.congr logdevs (congrArg _ same)
  | mountRefused req failed logdevs answered =>
      rcases answered.mounts with ⟨_, same⟩ | ⟨ok, _⟩
      · exact holds.congr logdevs same
      · exact (failed ok).elim
  | mounted checked result answered =>
      rcases answered.mounts with ⟨failed, _⟩ | ⟨_, _, mount, path, own, rows⟩
      · exact (failed rfl).elim
      · intro logdev member
        rw [result] at member
        rcases List.mem_append.mp ((recordMount_logdevs checked).mem_iff.mp
          member) with new | old
        · obtain ⟨entry, _, rfl⟩ := List.mem_map.mp new
          rw [copyCstr_chars_self] at path
          exact ⟨mount, rows.mem_iff.mpr List.mem_cons_self, path, own⟩
        · obtain ⟨held, heldMember, same⟩ := holds logdev old
          exact ⟨held, rows.mem_iff.mpr (List.mem_cons_of_mem _ heldMember),
            same⟩
  | unmountKept logicalDev kept logdevs answered =>
      rcases answered.mounts with ⟨same, _⟩ | ⟨ok, mount, path, rows⟩
      · exact holds.congr logdevs same
      · rcases kept with failed | unknown
        · exact (failed ok).elim
        · intro logdev member
          rw [logdevs] at member
          exact holds.kept path rows member (unknown logdev member)
  | unmounted logicalDev allocateId result answered =>
      intro logdev member
      rw [result, recordUnmount_logdevs] at member
      obtain ⟨old, other⟩ := List.mem_filter.mp member
      have different : logdev.logicalDev.chars ≠ logicalDev := by
        simpa [logdevHasDev] using other
      rcases answered.mounts with ⟨same, _⟩ | ⟨_, mount, path, rows⟩
      · rw [same]
        exact holds logdev old
      · exact holds.kept path rows old different

theorem mountsHeld_preserved (vendor : VendorPlugin plugin tables ctl) :
    Preserved plugin (MountsHeld tables) where
  event _ _ event _ holds := mountsHeld_event vendor event holds
  discovered provided _ world holds :=
    holds.congr rfl (congrArg _ (vendor.discover provided world))
  checked provided _ world ssuId holds :=
    holds.congr rfl (congrArg _ (vendor.healthCheck provided ssuId world))
  pooled _ _ _ holds := holds.congr rfl rfl

theorem mountsHeld_initial (tables : PluginState → MountTables capacity)
    (world : PluginState) : MountsHeld tables .initial world := by
  intro logdev member
  simp [ControllerState.initial] at member

end Known

section Mounted

/-- Every path of the plugin is one of the controller, for the same
allocation, and every device of the kernel module is one of the plugin. -/
structure DevicesMounted (tables : PluginState → MountTables capacity)
    (state : ControllerState) (world : PluginState) : Prop extends
    MountsKnown tables state world where
  recorded : ∀ mount ∈ (tables world).mounts.rows,
    ∃ logdev ∈ state.logdevs.rows, logdev.logicalDev = mount.logicalDev ∧
      logdev.allocateId = mount.allocateId
  live : ∀ minor, ((tables world).kernel.logdevs.get minor).isSome = true →
    ∃ mount ∈ (tables world).mounts.rows,
      minorForAllocate mount.logicalDev.chars mount.allocateId.chars =
        some minor
  owned : MapsOwned (tables world).kernel

theorem devicesMounted_event (vendor : VendorPlugin plugin tables ctl)
    (present : ∀ world, (ctl world).openErrno = none)
    {before after : ControllerState × PluginState}
    (event : ControllerEvent plugin before after)
    (holds : DevicesMounted tables before.1 before.2) :
    DevicesMounted tables after.1 after.2 := by
  have known := mountsKnown_event vendor event holds.toMountsKnown
  cases tablesEffect_event vendor event with
  | untouched logdevs same =>
      refine ⟨known, ?_, ?_, ?_⟩
      · rw [logdevs, same]
        exact holds.recorded
      · rw [same]
        exact holds.live
      · rw [same]
        exact holds.owned
  | mountRefused req failed logdevs answered =>
      obtain ⟨owned, live⟩ := answered.devices holds.owned
      rcases answered.mounts with ⟨_, same⟩ | ⟨ok, _⟩
      · refine ⟨known, ?_, ?_, owned⟩
        · rw [logdevs, same]
          exact holds.recorded
        · intro minor now
          rw [same]
          rcases live minor now with old | ⟨ok, _⟩
          · exact holds.live minor old
          · exact (failed ok).elim
      · exact (failed ok).elim
  | @mounted req connected checked result answered =>
      obtain ⟨owned, live⟩ := answered.devices holds.owned
      rcases answered.mounts with ⟨failed, _⟩ | ⟨_, _, mount, path, own, rows⟩
      · exact (failed rfl).elim
      · rw [copyCstr_chars_self] at path
        have logdevs := recordMount_logdevs checked
        refine ⟨known, fun other member => ?_, fun minor now => ?_, owned⟩
        · rw [result]
          rcases List.mem_cons.mp (rows.mem_iff.mp member) with rfl | old
          · obtain ⟨entry, others, listed⟩ :=
              List.exists_cons_of_ne_nil checked.found
            refine ⟨logdevRow req entry.1 entry.2.2, logdevs.mem_iff.mpr ?_,
              path.symm, own.symm⟩
            rw [listed]
            exact List.mem_cons_self
          · obtain ⟨logdev, logdevMember, same⟩ := holds.recorded other old
            exact ⟨logdev, logdevs.mem_iff.mpr
              (List.mem_append_right _ logdevMember), same⟩
        · rcases live minor now with old | ⟨_, new⟩
          · obtain ⟨other, member, same⟩ := holds.live minor old
            exact ⟨other, rows.mem_iff.mpr (List.mem_cons_of_mem _ member),
              same⟩
          · obtain ⟨first, _, whole, _⟩ := checked.owner
            refine ⟨mount, rows.mem_iff.mpr List.mem_cons_self, ?_⟩
            rw [path, own, ← whole, copyCstr_chars_self, whole]
            exact new
  | unmountKept logicalDev kept logdevs answered =>
      obtain ⟨owned, live, _⟩ := answered.devices (present _) holds.owned
      rcases answered.mounts with ⟨same, _⟩ | ⟨ok, mount, path, rows⟩
      · refine ⟨known, ?_, ?_, owned⟩
        · rw [logdevs, same]
          exact holds.recorded
        · rw [same]
          exact fun minor now => holds.live minor (live minor now)
      · rcases kept with failed | unknown
        · exact (failed ok).elim
        · obtain ⟨logdev, member, same⟩ :=
            holds.known mount (rows.mem_iff.mpr List.mem_cons_self)
          exact (unknown logdev member ((congrArg _ same).trans path)).elim
  | unmounted logicalDev allocateId result answered =>
      obtain ⟨owned, live, gone⟩ := answered.devices (present _) holds.owned
      have others := holds.kept_of_unmount
        (answered.mounts.imp (fun kept => ⟨kept.1, kept.2 rfl⟩) And.right)
      refine ⟨known, fun mount member => ?_, fun minor now => ?_, owned⟩
      · obtain ⟨old, different⟩ := others mount member
        obtain ⟨logdev, logdevMember, path, own⟩ := holds.recorded mount old
        rw [← path] at different
        rw [result]
        exact ⟨logdev, mem_recordUnmount_logdevs logdevMember different _,
          path, own⟩
      · obtain ⟨mount, member, same⟩ := holds.live minor (live minor now)
        rcases gone with kept | ⟨removed, rows, unmounted⟩
        · rw [kept]
          exact ⟨mount, member, same⟩
        · rcases List.mem_cons.mp (rows.mem_iff.mp member) with rfl | stays
          · rw [unmounted minor same] at now
            cases now
          · exact ⟨mount, stays, same⟩

theorem devicesMounted_preserved (vendor : VendorPlugin plugin tables ctl)
    (present : ∀ world, (ctl world).openErrno = none) :
    Preserved plugin (DevicesMounted tables) where
  event _ _ event _ holds := devicesMounted_event vendor present event holds
  discovered provided state world holds := by
    have same := vendor.discover provided world
    exact ⟨holds.toMountsKnown.congr rfl (congrArg _ same),
      same ▸ holds.recorded, same ▸ holds.live, same ▸ holds.owned⟩
  checked provided state world ssuId holds := by
    have same := vendor.healthCheck provided ssuId world
    exact ⟨holds.toMountsKnown.congr rfl (congrArg _ same),
      same ▸ holds.recorded, same ▸ holds.live, same ▸ holds.owned⟩
  pooled _ _ _ holds :=
    ⟨holds.toMountsKnown.congr rfl rfl, holds.recorded, holds.live,
      holds.owned⟩

theorem devicesMounted_initial (tables : PluginState → MountTables capacity)
    (world : PluginState) (fresh : tables world = .initial capacity) :
    DevicesMounted tables .initial world := by
  refine ⟨mountsKnown_initial tables world fresh, ?_, ?_, ?_⟩
  · simp [fresh, MountTables.initial]
  · simp [fresh, MountTables.initial, KernelState.loaded]
  · rw [fresh]
    exact mapsOwned_loaded

end Mounted

end UbseSsu.System

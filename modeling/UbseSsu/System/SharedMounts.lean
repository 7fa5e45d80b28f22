import UbseSsu.Plugin.MountRollback
import UbseSsu.System.MountUndone

/-!
# Mounting a shared allocation twice

The controller and the plugin know a mount by its path, the kernel by its
minor, and the minor comes from the number in the allocation id.  Two mounts of
one shared allocation are two devices only when that number gives no minor and
the digits of the two paths do.
-/

namespace UbseSsu.System

open Controller Api Plugin Kernel Reqshim

section Accepted

variable {kernel : KernelState} {logicalDev allocateId : CString}
  {specs : List MapSpec}

/-- What ReqShim and the kernel module ask of the extents of one mount. -/
structure ExtentsFit (specs : List MapSpec) : Prop where
  filled : specs ≠ []
  fits : ∀ spec ∈ specs, SpecFits spec
  distinct : (specs.map MapSpec.logicalOffset).Nodup

/-- With a usable name and room in the kernel, the extents and the minor
decide. -/
theorem mountLogdevForAllocate_accepted_iff (named : NameFits logicalDev)
    (owned : MapsOwned kernel)
    (room : kernel.maps.rows.length + specs.length ≤ maxMaps)
    (allowMissing : Bool) {device : CtlAnswer} (ready : device.Ready)
    (noError : device.blockLayer = none) :
    (mountLogdevForAllocate logicalDev allocateId specs allowMissing device
        kernel).1 = .ok ↔
      ExtentsFit specs ∧ MinorFree kernel logicalDev allocateId := by
  constructor
  · intro accepted
    cases chosen : minorForAllocate logicalDev allocateId with
    | none =>
        simp only [mountLogdevForAllocate, chosen] at accepted
        cases accepted
    | some minor =>
        have ok := accepted
        simp only [mountLogdevForAllocate, chosen] at ok
        obtain ⟨filled, _, entries, _, _, _, built, _, added⟩ :=
          mountLogdevWithMinor_added ready.1 (Prod.ext ok rfl)
        have entriesOf := buildEntries_ok built
        have sectors := (addMaps_distinct (entries_minor entriesOf) added).1
        rw [entries_sectors entriesOf] at sectors
        have distinct : (specs.map MapSpec.logicalOffset).Nodup := by
          apply List.Nodup.of_map (fun offset => offset / Reqshim.sectorSize)
          rwa [List.map_map]
        obtain ⟨fits, free⟩ := (mountLogdevForAllocate_ok_iff filled distinct
          named owned room allowMissing ready noError).mp accepted
        exact ⟨⟨filled, fits, distinct⟩, free⟩
  · rintro ⟨extents, free⟩
    exact (mountLogdevForAllocate_ok_iff extents.filled extents.distinct named
      owned room allowMissing ready noError).mpr ⟨extents.fits, free⟩

end Accepted

section Unmounts

variable {host : MockHost} {state : ControllerState} {world : MockState}
  {requestId path other : CBuf 64}

/-- The allocation has rows under the path. -/
def MountedAt (state : ControllerState) (requestId path : CBuf 64) : Prop :=
  ∃ logdev ∈ state.logdevs.rows,
    logdev.allocateId = requestId ∧ logdev.logicalDev = path

instance (state : ControllerState) (requestId path : CBuf 64) :
    Decidable (MountedAt state requestId path) :=
  inferInstanceAs (Decidable (∃ logdev ∈ state.logdevs.rows, _))

/-- The rows of a mounted path, its device and its maps are as they were. -/
structure LeavesPath (requestId path : CBuf 64)
    (before after : ControllerState × MockState) : Prop where
  rows : after.1.logdevs.rows.filter (logdevHasDev path.chars) =
    before.1.logdevs.rows.filter (logdevHasDev path.chars)
  kernel : ∀ minor ∈ minorForAllocate path.chars requestId.chars,
    SameMinor minor before.2.tables.kernel after.2.tables.kernel

/-- If the unmount of one path succeeds, it leaves the other one alone. -/
def UnmountLeaves (host : MockHost) (requestId path other : CBuf 64)
    (current : ControllerState × MockState) : Prop :=
  let answer := ssuControllerUnmount (mockPlugin host) path.chars current.1
    current.2
  answer.1 = .ok → LeavesPath requestId other current answer.2

/-- The answer and the plugin's state are those of `mock_unmount`. -/
theorem ssuControllerUnmount_mock (host : MockHost) (state : ControllerState)
    (world : MockState) {logicalDev : CString} (named : logicalDev ≠ []) :
    (ssuControllerUnmount (mockPlugin host) logicalDev state world).1 =
        (mockUnmount host logicalDev world).1 ∧
      (ssuControllerUnmount (mockPlugin host) logicalDev state world).2.2 =
        (mockUnmount host logicalDev world).2 := by
  have filled : isEmptyString logicalDev = false :=
    Bool.eq_false_iff.mpr fun unnamed => named ((isEmptyString_iff _).mp unnamed)
  cases found : findLogdevByDev state logicalDev with
  | none =>
      simp only [ssuControllerUnmount, mockPlugin, filled, found,
        Bool.false_eq_true, if_false, and_self]
  | some logdev =>
      simp only [ssuControllerUnmount, mockPlugin, filled, found,
        Bool.false_eq_true, if_false]
      split
      · rename_i answered
        rw [answered]
        exact ⟨rfl, rfl⟩
      · rename_i answered
        rw [answered]
        exact ⟨rfl, rfl⟩

theorem ssuControllerUnmount_others (different : path ≠ other) :
    (ssuControllerUnmount (mockPlugin host) path.chars state
        world).2.1.logdevs.rows.filter (logdevHasDev other.chars) =
      state.logdevs.rows.filter (logdevHasDev other.chars) := by
  have outcome := ssuControllerUnmount_outcome (mockPlugin host) path.chars
    state world
  generalize ssuControllerUnmount (mockPlugin host) path.chars state world =
    result at outcome
  cases outcome with
  | refused => rfl
  | stale => rfl
  | rejected => rfl
  | unmounted =>
      rw [recordUnmount_logdevs, List.filter_filter]
      apply List.filter_congr
      intro logdev _
      by_cases own : logdevHasDev other.chars logdev = true
      · have device : logdev.logicalDev.chars = other.chars :=
          of_decide_eq_true own
        have kept : logdevHasDev path.chars logdev = false := by
          simpa [logdevHasDev, device, BoundedString.chars_inj] using
            different.symm
        simp only [own, kept, Bool.not_false, Bool.and_self]
      · simp only [own, Bool.false_and]

theorem unmountLogdevForAllocate_other {logicalDev allocateId : CString}
    (specs : List MapSpec) (ctl : CtlAnswer) (kernel : KernelState)
    {minor : Nat}
    (different : minorForAllocate logicalDev allocateId ≠ some minor) :
    SameMinor minor kernel (unmountLogdevForAllocate logicalDev allocateId
      specs true ctl kernel).2 := by
  unfold unmountLogdevForAllocate
  cases chosen : minorForAllocate logicalDev allocateId with
  | none => exact .refl minor kernel
  | some target =>
      have only := unmountLogdevWithMinor_only target specs true ctl kernel
      apply only.others
      rintro rfl
      exact different chosen

/-- A mount that the plugin holds is unmounted with the minor of its
allocation and its path. -/
theorem mockUnmount_only (held : MountsHeld MockState.tables state world)
    (known : MountsKnown MockState.tables state world)
    (mounted : MountedAt state requestId path) {minor : Nat}
    (different : minorForAllocate path.chars requestId.chars ≠ some minor) :
    SameMinor minor world.tables.kernel
      (mockUnmount host path.chars world).2.tables.kernel := by
  obtain ⟨logdev, member, rfl, rfl⟩ := mounted
  obtain ⟨mount, stored, device, own⟩ := held logdev member
  have sameMount : ∀ {slot other}, world.tables.mounts.get slot = some other →
      other.logicalDev.chars = logdev.logicalDev.chars → other = mount := by
    intro slot other active path
    apply List.inj_on_of_nodup_map known.distinct
      (SlotTable.mem_rows_of_get active) stored
    exact (BoundedString.ext path).trans device.symm
  have outcome := mockUnmount_outcome host logdev.logicalDev.chars world
  generalize result : ((mockUnmount host logdev.logicalDev.chars world).1,
    (mockUnmount host logdev.logicalDev.chars world).2.tables) = answer
      at outcome
  have tables := congrArg (fun pair => pair.2.kernel) result
  simp only at tables
  rw [tables]
  cases outcome with
  | stale unknown => exact (unknown mount stored (congrArg _ device)).elim
  | refused => exact .refl minor world.tables.kernel
  | @rejected _ other active path specs _ _ unmounted _ =>
      have others := unmountLogdevForAllocate_other specs
        (host.ctl world.clock) world.tables.kernel different
      rw [sameMount active path, own] at unmounted
      rwa [unmounted] at others
  | @unmounted _ other active path specs _ _ unmounted =>
      have others := unmountLogdevForAllocate_other specs
        (host.ctl world.clock) world.tables.kernel different
      rw [sameMount active path, own] at unmounted
      rwa [unmounted] at others

theorem unmountLeaves (held : MountsHeld MockState.tables state world)
    (known : MountsKnown MockState.tables state world)
    (mounted : MountedAt state requestId path) (different : path ≠ other)
    (minors : minorForAllocate path.chars requestId.chars ≠
      minorForAllocate other.chars requestId.chars) :
    UnmountLeaves host requestId path other (state, world) := by
  intro answered
  constructor
  · exact ssuControllerUnmount_others different
  · intro minor chosen
    have named : path.chars ≠ [] := by
      intro unnamed
      rw [unnamed] at answered
      cases answered
    rw [(ssuControllerUnmount_mock host state world named).2]
    apply mockUnmount_only held known mounted
    rwa [← Option.mem_def.mp chosen]

/-- With the control device there, the unmount after a mount succeeds and
leaves nothing of the device that was live. -/
theorem mockUnmount_live {allocateId hostId : CString} {after : MockState}
    (ready : ∀ time, (host.ctl time).Ready)
    (accepted : mockMount host allocateId hostId path world = (.ok, after))
    (fits : (copyCstr 64 allocateId).chars = allocateId)
    (connects : SsusConnect host after allocateId) :
    (mockUnmount host path.chars after).1 = .ok ∧
      ∃ minor ∈ minorForAllocate path.chars allocateId,
        (after.tables.kernel.logdevs.get minor).isSome = true ∧
          Bare minor (mockUnmount host path.chars after).2.tables.kernel := by
  obtain ⟨namespaces, slot, mount, specs, kernel, own, found, _, collected,
    mounted, kept⟩ := mockMount_recorded accepted fits
  have again := collectReqshimMaps_again collected namespaces connects
  cases chosen : minorForAllocate path.chars allocateId with
  | none =>
      simp only [mountLogdevForAllocate, chosen] at mounted
      cases mounted
  | some minor =>
      simp only [mountLogdevForAllocate, chosen] at mounted
      obtain ⟨_, entries, req, added⟩ := mountLogdevWithMinor_ok path.chars
        minor specs true (host.ctl world.clock) world.tables.kernel
        (ready _).1 (congrArg Prod.fst mounted)
      rw [mounted, ← kept] at added
      have live : (after.tables.kernel.logdevs.get minor).isSome = true := by
        rw [added.logdevs, SlotTable.get_put_self added.small]
        rfl
      obtain ⟨ok, bare⟩ := unmountLogdevWithMinor_live true live
        (ready after.clock) (.inr ⟨_, added.built⟩)
      generalize removed : unmountLogdevWithMinor minor specs true
        (host.ctl after.clock) after.tables.kernel = result at ok bare
      obtain ⟨err, last⟩ := result
      obtain rfl : err = .ok := ok
      simp only [mockUnmount, vendorUnmount, found, own, again,
        unmountLogdevForAllocate, chosen, removed]
      exact ⟨trivial, minor, rfl, live, bare⟩

end Unmounts

section Shared

variable {host : MockHost} {current : ControllerState × MockState}
  {requestId first second : CBuf 64}

/-- The extents that the plugin has for the allocation, on their devices. -/
def extentsOf (host : MockHost) (world : MockState) (requestId : CBuf 64) :
    List MapSpec :=
  (world.stored.filter (keyHasAllocate requestId.chars)).map
    (ExtentKey.mapOn (mockDevice host))

theorem extentsOf_ne_nil_iff (host : MockHost) (world : MockState)
    (requestId : CBuf 64) :
    extentsOf host world requestId ≠ [] ↔
      world.namespaces.rows.any (namespaceHasAllocate requestId.chars) =
        true := by
  have same : keyHasAllocate requestId.chars ∘ MockNamespace.key =
      namespaceHasAllocate requestId.chars := rfl
  rw [extentsOf, MockState.stored, List.filter_map, same, ne_eq,
    List.map_eq_nil_iff, List.map_eq_nil_iff, List.any_eq_true]
  simp

/-- A shared allocation is mounted at the first path, the second one is a
valid path that is not in use, every table has free slots, and the SSUs
connect whenever they are asked. -/
structure SecondMountGranted (host : MockHost) (requestId first second : CBuf 64)
    (current : ControllerState × MockState) : Prop where
  shared : ∀ row ∈ rowsOf current.1 requestId, row.info.shareType = .shared
  mounted : MountedAt current.1 requestId first
  unused : ∀ logdev ∈ current.1.logdevs.rows, logdev.logicalDev ≠ second
  valid : NameFits second.chars
  logdevs : (rowsOf current.1 requestId).length ≤
    current.1.logdevs.freeSlots.length
  mounts : current.2.tables.mounts.rows.length < mockMaxMounts
  maps : current.2.tables.kernel.maps.rows.length +
    (extentsOf host current.2 requestId).length ≤ maxMaps
  rowsConnect : ∀ row ∈ rowsOf current.1 requestId, ∀ time,
    (connectDev host time row.info.ssuId).1 = .ok
  extentsConnect : ∀ key ∈ current.2.stored.filter
    (keyHasAllocate requestId.chars), ∀ time,
      (connectDev host time key.ssuId).1 = .ok

def secondMount (requestId second : CBuf 64) (hostId : CString) :
    SsuMountReq :=
  { allocateId := requestId.chars, hostId, logicalDev := second }

/-- The second mount succeeds, and from then on the unmount of either path
leaves the other one alone as long as both are mounted. -/
def MountsIndependently (host : MockHost) (requestId first second : CBuf 64)
    (hostId : CString) (current : ControllerState × MockState) : Prop :=
  let answer := ssuControllerMount (mockPlugin host)
    (secondMount requestId second hostId) current.1 current.2
  answer.1 = .ok ∧ ∀ ops,
    let later := Transition.run (step (mockPlugin host)) answer.2 ops
    MountedAt later.1 requestId first → MountedAt later.1 requestId second →
      UnmountLeaves host requestId first second later ∧
        UnmountLeaves host requestId second first later

namespace SecondMountGranted

variable (granted : SecondMountGranted host requestId first second current)
include granted

theorem ssusConnect {world : MockState}
    (stored : world.stored = current.2.stored) :
    SsusConnect host world requestId.chars := by
  intro ns member
  refine granted.extentsConnect ns.key ?_ world.clock
  rw [← stored, MockState.stored, List.filter_map]
  exact List.mem_map_of_mem member

/-- The extents can be told, if there are any. -/
theorem collected {world : MockState}
    (stored : world.stored = current.2.stored)
    (filled : extentsOf host current.2 requestId ≠ []) :
    collectReqshimMaps host world requestId.chars =
      .ok (extentsOf host current.2 requestId) := by
  obtain ⟨specs, told⟩ := collectMapsLoop_connects world.clock _
    (granted.ssusConnect stored)
  have same : specs = extentsOf host current.2 requestId := by
    rw [collectMapsLoop_ok host told, extentsOf, ← stored, MockState.stored,
      List.filter_map]
    rfl
  rw [same] at told
  exact collectReqshimMaps_eq_ok_iff.mpr ⟨filled, told⟩

theorem differs : first ≠ second := by
  obtain ⟨logdev, member, _, rfl⟩ := granted.mounted
  exact granted.unused logdev member

variable {hostId : CString} (ready : ∀ time, (host.ctl time).Ready)
include ready

/-- While both paths have one minor, the unmount of the second one takes the
device of the first. -/
theorem minors_differ
    (independent : MountsIndependently host requestId first second hostId
      current) :
    minorForAllocate first.chars requestId.chars ≠
      minorForAllocate second.chars requestId.chars := by
  intro same
  obtain ⟨ok, leaves⟩ := independent
  generalize called : ssuControllerMount (mockPlugin host)
    (secondMount requestId second hostId) current.1 current.2 = answer
      at ok leaves
  obtain ⟨err, state, after⟩ := answer
  obtain rfl : err = .ok := ok
  obtain ⟨connected, middle, checked, rfl, connects, mounted⟩ :=
    ssuControllerMount_accepted called
  have provided : (mockPlugin host).connect = some (mockConnect host) := rfl
  have fits := checked_id_fits checked
  obtain ⟨namespaces, _⟩ := mockMount_recorded mounted fits
  have stored : after.stored = current.2.stored := by
    rw [← stored_of_connectReach (mock_namespacePlugin host) provided connects,
      MockState.stored, namespaces, MockState.stored]
  obtain ⟨unmounts, minor, chosen, live, bare⟩ := mockUnmount_live ready mounted
    fits (granted.ssusConnect stored)
  have rows := recordMount_logdevs checked
  have atFirst : MountedAt (recordMount (secondMount requestId second hostId)
      connected current.1) requestId first := by
    obtain ⟨logdev, member, own⟩ := granted.mounted
    exact ⟨logdev, rows.mem_iff.mpr (List.mem_append_right _ member), own⟩
  have atSecond : MountedAt (recordMount (secondMount requestId second hostId)
      connected current.1) requestId second := by
    obtain ⟨entry, listed⟩ := List.exists_mem_of_ne_nil _ checked.found
    exact ⟨_, rows.mem_iff.mpr (List.mem_append_left _
      (List.mem_map_of_mem listed)), copyCstr_chars_self requestId, rfl⟩
  have leaves : UnmountLeaves host requestId second first (recordMount
      (secondMount requestId second hostId) connected current.1, after) :=
    (leaves [] atFirst atSecond).2
  have mock := ssuControllerUnmount_mock host (recordMount
    (secondMount requestId second hostId) connected current.1) after
    granted.valid.path
  have kept := (leaves (mock.1.trans unmounts)).kernel minor (same ▸ chosen)
  have still := kept.logdev
  simp only [mock.2] at still
  have gone : after.tables.kernel.logdevs.get minor = none :=
    still.symm.trans bare.logdev
  rw [gone] at live
  cases live

variable (noError : ∀ time, (host.ctl time).blockLayer = none)
  (reached : ControllerRun (mockPlugin host) (.initial, .initial) current)
  (namedHost : hostId ≠ [])
include noError reached namedHost

/-- The second mount is accepted when ReqShim takes the extents and the minor
of the allocation is free. -/
theorem mount_ok_iff :
    (ssuControllerMount (mockPlugin host) (secondMount requestId second hostId)
        current.1 current.2).1 = .ok ↔
      ExtentsFit (extentsOf host current.2 requestId) ∧
        MinorFree current.2.tables.kernel second.chars requestId.chars := by
  have devices := ControllerRun.invariant
    (devicesMounted_preserved (mock_vendorPlugin host)
      fun world => (ready world.clock).1)
    (devicesMounted_initial MockState.tables .initial rfl) reached
  have ids := ControllerRun.invariant idsNamed_preserved
    (fun row member => by simp [ControllerState.initial] at member) reached
  obtain ⟨logdev, member, own, _⟩ := granted.mounted
  obtain ⟨row, active, same⟩ := reached.mountState.named logdev member
  have rowId : row.info.allocateId = requestId := same.trans own
  have rows : rowsOf current.1 requestId ≠ [] :=
    List.ne_nil_of_mem (List.mem_filter.mpr ⟨active, rowHasId_iff.mpr rowId⟩)
  have provided : (mockPlugin host).connect = some (mockConnect host) := rfl
  obtain ⟨middle, connected, asked⟩ := ssuControllerMount_granted rfl provided
    (secondMount requestId second hostId) current.2 (rowId ▸ ids row active) namedHost granted.valid.path rows
    (fun logdev member same => granted.unused logdev member
      (BoundedString.ext same))
    (.inl granted.shared) granted.logdevs
    fun row member world => granted.rowsConnect row member world.clock
  have tables := tables_of_connectReach connected
  have stored := stored_of_connectReach (mock_namespacePlugin host) provided
    connected
  rw [asked]
  simp only [secondMount, mockMount]
  have listed := extentsOf_ne_nil_iff host middle requestId
  rw [extentsOf, stored] at listed
  by_cases filled : extentsOf host current.2 requestId ≠ []
  · rw [listed.mp filled]
    have unused : ∀ mount ∈ middle.tables.mounts.rows,
        mount.logicalDev.chars ≠ second.chars := by
      rw [tables]
      intro mount held same
      obtain ⟨logdev, known, device⟩ := devices.known mount held
      exact granted.unused logdev known
        (device.trans (BoundedString.ext same))
    rw [granted.collected stored filled, vendorMount_ok_iff hostId true _
      unused (tables ▸ granted.mounts), tables]
    exact mountLogdevForAllocate_accepted_iff granted.valid devices.owned
      granted.maps true (ready _) (noError _)
  · rw [Bool.eq_false_iff.mpr (mt listed.mpr filled)]
    refine iff_of_false ?_ (fun both => filled both.1.filled)
    intro same
    cases same

end SecondMountGranted

/-- With the kernel module there and in every reachable state: a shared
allocation that is mounted at one path can be mounted at a second one, and
each unmounted without the other, if and only if ReqShim takes the extents
that the plugin has for it, the minor of the second mount is free, and it is
not the minor of the first one. -/
theorem shared_mounts_iff (host : MockHost)
    (ready : ∀ time, (host.ctl time).Ready)
    (noError : ∀ time, (host.ctl time).blockLayer = none)
    (ops : List ControllerOp) {requestId first second : CBuf 64}
    {hostId : CString} (namedHost : hostId ≠ []) :
    let current := Transition.run (step (mockPlugin host))
      (.initial, .initial) ops
    SecondMountGranted host requestId first second current →
      (MountsIndependently host requestId first second hostId current ↔
        ExtentsFit (extentsOf host current.2 requestId) ∧
          MinorFree current.2.tables.kernel second.chars requestId.chars ∧
          minorForAllocate first.chars requestId.chars ≠
            minorForAllocate second.chars requestId.chars) := by
  intro current granted
  have reached : ControllerRun (mockPlugin host) (.initial, .initial) current :=
    ⟨ops, rfl⟩
  have accepted := granted.mount_ok_iff ready noError reached namedHost
  constructor
  · intro independent
    obtain ⟨extents, free⟩ := accepted.mp independent.1
    exact ⟨extents, free, granted.minors_differ ready independent⟩
  · rintro ⟨extents, free, minors⟩
    refine ⟨accepted.mpr ⟨extents, free⟩, ?_⟩
    intro laterOps later firstMounted secondMounted
    have vendor := mock_vendorPlugin host
    have run : ControllerRun (mockPlugin host) (.initial, .initial) later :=
      (reached.trans (.call _ current
        (.mount (secondMount requestId second hostId)))).trans ⟨laterOps, rfl⟩
    have held := ControllerRun.invariant (mountsHeld_preserved vendor)
      (mountsHeld_initial MockState.tables .initial) run
    have known := ControllerRun.invariant (mountsKnown_preserved vendor)
      (mountsKnown_initial MockState.tables .initial rfl) run
    constructor
    · exact unmountLeaves held known firstMounted granted.differs minors
    · exact unmountLeaves held known secondMounted granted.differs.symm
        minors.symm

/-- A request for a shared allocation on the one SSU. -/
def sharedRequest (size : UInt64) : SsuAllocReq :=
  { plainRequest size [] with shareType := .shared }

/-- A shared allocation is mounted at `/dev/ssu/ssu0`. -/
def sharedMounted : List ControllerOp :=
  [.refreshPool, .alloc (sharedRequest 8192) ⟨true, 8⟩,
    .mount (plainMount "alloc-0".toList "/dev/ssu/ssu0".toList)]

theorem liveMockHost_connects (time : Nat) :
    (connectDev liveMockHost time (mockSsuId 0)).1 = .ok :=
  rfl

/-- What the run leaves behind, evaluated once. -/
theorem sharedMounted_tables :
    let current := Transition.run (step (mockPlugin liveMockHost))
      (.initial, .initial) sharedMounted
    let requestId := copyCstr 64 "alloc-0".toList
    (∀ row ∈ rowsOf current.1 requestId,
        row.info.shareType = .shared ∧ row.info.ssuId = mockSsuId 0) ∧
      MountedAt current.1 requestId (copyCstr 64 "/dev/ssu/ssu0".toList) ∧
      (∀ logdev ∈ current.1.logdevs.rows,
        logdev.logicalDev ≠ copyCstr 64 "/dev/ssu/ssu1".toList) ∧
      (rowsOf current.1 requestId).length ≤
        current.1.logdevs.freeSlots.length ∧
      current.2.tables.mounts.rows.length < mockMaxMounts ∧
      current.2.tables.kernel.maps.rows.length +
        (extentsOf liveMockHost current.2 requestId).length ≤ maxMaps ∧
      ∀ key ∈ current.2.stored.filter (keyHasAllocate requestId.chars),
        key.ssuId = mockSsuId 0 := by
  decide +kernel

theorem sharedMounted_granted :
    SecondMountGranted liveMockHost (copyCstr 64 "alloc-0".toList)
      (copyCstr 64 "/dev/ssu/ssu0".toList) (copyCstr 64 "/dev/ssu/ssu1".toList)
      (Transition.run (step (mockPlugin liveMockHost)) (.initial, .initial)
        sharedMounted) := by
  obtain ⟨rows, mounted, unused, logdevs, mounts, maps, keys⟩ :=
    sharedMounted_tables
  exact
    { shared := fun row member => (rows row member).1
      mounted
      unused
      valid := ⟨by decide, by decide, by decide, by decide⟩
      logdevs
      mounts
      maps
      rowsConnect := by
        intro row member time
        rw [(rows row member).2]
        exact liveMockHost_connects time
      extentsConnect := by
        intro key member time
        rw [keys key member]
        exact liveMockHost_connects time }

/-- The number 0 is the minor of both mounts. -/
theorem shared_mounts_two :
    ¬MountsIndependently liveMockHost (copyCstr 64 "alloc-0".toList)
      (copyCstr 64 "/dev/ssu/ssu0".toList) (copyCstr 64 "/dev/ssu/ssu1".toList)
      "host1".toList (Transition.run (step (mockPlugin liveMockHost))
        (.initial, .initial) sharedMounted) := by
  intro independent
  obtain ⟨_, _, minors⟩ := (shared_mounts_iff liveMockHost
    (fun _ => ⟨rfl, rfl⟩) (fun _ => rfl) sharedMounted (by decide)
    sharedMounted_granted).mp independent
  exact minors (by decide +kernel)

/-- Only the device of minor 0 is live, and the second mount is refused. -/
theorem second_mount_busy :
    let current := Transition.run (step (mockPlugin liveMockHost))
      (.initial, .initial) sharedMounted
    SecondMountGranted liveMockHost (copyCstr 64 "alloc-0".toList)
        (copyCstr 64 "/dev/ssu/ssu0".toList)
        (copyCstr 64 "/dev/ssu/ssu1".toList) current ∧
      current.2.tables.kernel.logdevs.get 1 = none ∧
      (ssuControllerMount (mockPlugin liveMockHost)
        (secondMount (copyCstr 64 "alloc-0".toList)
          (copyCstr 64 "/dev/ssu/ssu1".toList) "host1".toList)
        current.1 current.2).1 = .busy :=
  ⟨sharedMounted_granted, by decide +kernel, by decide +kernel⟩

end Shared

end UbseSsu.System

import UbseSsu.Controller.Operations
import UbseSsu.Library.Transition
import Mathlib.Logic.Relation

/-!
# Atomic events of the controller

An event is one plugin call together with the table update that follows it,
or one update without a plugin call.  Its constructor lists every fact the
source has checked at that point.  Every operation but the pool refresh is a
chain of events, so an invariant of the controller and its plugin is proved
once for each event instead of once for each path through the loops, their
error exits and the rollback.
-/

namespace UbseSsu.Controller

open Relation (ReflTransGen)

variable {PluginState : Type}

section ExtentArithmetic

/-- Where extent `index` starts when no 64-bit sum wraps. -/
def extentOffset (baseLength remainder : UInt64) (index : Nat) : Nat :=
  index * baseLength.toNat + min index remainder.toNat

@[simp] theorem extentOffset_zero (baseLength remainder : UInt64) :
    extentOffset baseLength remainder 0 = 0 := by
  simp [extentOffset]

theorem extentOffset_mono (baseLength remainder : UInt64)
    {first second : Nat} (order : first ≤ second) :
    extentOffset baseLength remainder first ≤
      extentOffset baseLength remainder second := by
  have scaled := Nat.mul_le_mul_right baseLength.toNat order
  unfold extentOffset
  omega

theorem extentOffset_add_length {baseLength remainder : UInt64}
    {index : Nat}
    (bounded : extentOffset baseLength remainder (index + 1) < 2 ^ 64) :
    extentOffset baseLength remainder index +
        (extentLength baseLength remainder index).toNat =
      extentOffset baseLength remainder (index + 1) := by
  have product : (index + 1) * baseLength.toNat =
      index * baseLength.toNat + baseLength.toNat := Nat.succ_mul _ _
  unfold extentOffset at bounded ⊢
  unfold extentLength
  rw [product] at bounded ⊢
  split
  · rename_i longer
    have added : (baseLength + 1).toNat = baseLength.toNat + 1 := by
      rw [UInt64.toNat_add]
      exact Nat.mod_eq_of_lt (by simp; omega)
    rw [added]
    omega
  · rename_i shorter
    have added : (baseLength + 0).toNat = baseLength.toNat := by simp
    rw [added]
    omega

theorem extentLength_ge (baseLength remainder : UInt64) {index : Nat}
    (bounded : extentOffset baseLength remainder (index + 1) < 2 ^ 64) :
    baseLength.toNat ≤ (extentLength baseLength remainder index).toNat := by
  have stepped := extentOffset_add_length bounded
  have product : (index + 1) * baseLength.toNat =
      index * baseLength.toNat + baseLength.toNat := Nat.succ_mul _ _
  unfold extentOffset at stepped
  rw [product] at stepped
  omega

/-- Dividing a size over `count` disks loses nothing. -/
theorem extentOffset_total (size : UInt64) {count : Nat}
    (positive : 0 < count) (small : count < 2 ^ 64) :
    extentOffset (size / UInt64.ofNat count) (size % UInt64.ofNat count)
      count = size.toNat := by
  have countValue : (UInt64.ofNat count).toNat = count :=
    UInt64.toNat_ofNat_of_lt' small
  have division := Nat.div_add_mod size.toNat count
  have remainderSmall := Nat.mod_lt size.toNat positive
  unfold extentOffset
  rw [UInt64.toNat_div, UInt64.toNat_mod, countValue,
    Nat.min_eq_right (Nat.le_of_lt remainderSmall)]
  exact division

end ExtentArithmetic

section Events

/-- A row that the running allocation has written. -/
structure WrittenBy (ctx : AllocContext) (row : ControllerAllocation) :
    Prop where
  allocateId : row.info.allocateId = ctx.allocateId
  diskName : row.info.diskName = copyCstr 64 ctx.req.diskName
  tenant : row.info.tenant = copyCstr 64 ctx.req.tenant
  policy : row.info.policy = ctx.req.reliability
  shareType : row.info.shareType = ctx.req.shareType
  state : row.info.state = activeState
  hostKey : row.hostKey = ctx.hostKey

theorem writtenBy_row (ctx : AllocContext) (extentReq : SsuExtentCreateReq)
    (answer : CreateNsAnswer) : WrittenBy ctx (ctx.row extentReq answer) :=
  ⟨rfl, rfl, rfl, rfl, rfl, rfl, rfl⟩

/-- What holds whenever the extent loop is about to place an extent at
`offset`: the id is new to every table but for the rows of this loop. -/
structure AllocReady (ctx : AllocContext) (state : ControllerState)
    (offset : UInt64) : Prop where
  idNumber : ∃ number, ctx.allocateId = autoAllocateId number
  stripe : ctx.req.reliability = .stripe
  validName : ctx.req.diskName = [] ∨
    allocationNameIsValid ctx.req.diskName = true
  unmounted : ∀ logdev ∈ state.logdevs.rows,
    logdev.allocateId ≠ ctx.allocateId
  ownId : ∀ row ∈ state.allocations.rows,
    row.info.allocateId = ctx.allocateId →
      WrittenBy ctx row ∧
        row.info.logicalOffset.toNat + row.info.length.toNat ≤ offset.toNat
  ownName : ctx.req.diskName ≠ [] → ∀ row ∈ state.allocations.rows,
    row.info.diskName.chars = ctx.req.diskName →
      row.info.allocateId = ctx.allocateId

/-- The checks of one successful round of the extent loop. -/
structure ExtentChecked (ctx : AllocContext) (state : ControllerState)
    (slot poolIndex index : Nat) (resource : SsuResourceInfo) : Prop where
  free : state.allocations.firstFree = some slot
  pooled : state.pool.items[poolIndex]? = some resource
  counted : resource.usedBytes ≤ resource.totalBytes
  fits : extentLength ctx.baseLength ctx.remainder index ≤
    resource.totalBytes - resource.usedBytes
  aligned : resource.usedBytes % sectorSize = 0

/-- A successful round together with what the rounds before it left. -/
structure ExtentPlaced (ctx : AllocContext) (state : ControllerState)
    (slot poolIndex index : Nat) (offset : UInt64)
    (resource : SsuResourceInfo) : Prop extends
    ExtentChecked ctx state slot poolIndex index resource where
  ready : AllocReady ctx state offset
  nonempty : 0 < (extentLength ctx.baseLength ctx.remainder index).toNat
  progress : offset.toNat +
    (extentLength ctx.baseLength ctx.remainder index).toNat < 2 ^ 64

/-- The checks of a mount up to its row fill. -/
structure MountChecked (req : SsuMountReq) (state : ControllerState)
    (connected : List (ControllerAllocation × Nat × CBuf 64)) : Prop where
  namedHost : req.hostId ≠ []
  namedDev : req.logicalDev.chars ≠ []
  rows : connected.map Prod.fst =
    state.allocations.rows.filter (rowHasId req.allocateId)
  found : connected ≠ []
  slots : connected.map (fun entry => entry.2.1) =
    state.logdevs.freeSlots.take connected.length
  unused : ∀ logdev ∈ state.logdevs.rows, logdev.logicalDev ≠ req.logicalDev
  shared : (∀ row ∈ (state.allocations.rows.filter
      (rowHasId req.allocateId)).head?, row.info.shareType = .shared) ∨
    allocationHasLogdev state req.allocateId = false

inductive ControllerEvent (plugin : SsuPluginOps PluginState) :
    ControllerState × PluginState → ControllerState × PluginState →
      Prop where
  | numbered (state : ControllerState) (world : PluginState)
      (number : UInt64) :
      ControllerEvent plugin (state, world)
        ({ state with nextAllocationId := number }, world)
  | extentRefused (state : ControllerState) (world : PluginState)
      {createNs} (provided : plugin.createNs = some createNs)
      (extentReq : SsuExtentCreateReq)
      (refused : (createNs extentReq world).1.err ≠ .ok) :
      ControllerEvent plugin (state, world)
        (state, (createNs extentReq world).2)
  | extentCreated (state : ControllerState) (world : PluginState)
      {createNs} (provided : plugin.createNs = some createNs)
      {ctx : AllocContext} {slot poolIndex index : Nat} {offset : UInt64}
      {resource : SsuResourceInfo}
      (placed : ExtentPlaced ctx state slot poolIndex index offset resource)
      {answer : CreateNsAnswer} {after : PluginState}
      (answered : createNs (ctx.extentReq resource index offset) world =
        (answer, after))
      (accepted : answer.err = .ok) :
      ControllerEvent plugin (state, world)
        (addExtent state slot poolIndex
          (ctx.row (ctx.extentReq resource index offset) answer), after)
  | extentUndone (state : ControllerState) (world : PluginState)
      {slot : Nat} {row : ControllerAllocation}
      (active : state.allocations.get slot = some row)
      (unmounted : ∀ logdev ∈ state.logdevs.rows,
        logdev.allocateId ≠ row.info.allocateId) :
      ControllerEvent plugin (state, world)
        (dropExtent state slot row, rollbackDelete plugin row world)
  | extentReleased (state : ControllerState) (world : PluginState)
      {deleteNs} (provided : plugin.deleteNs = some deleteNs)
      {slot : Nat} {row : ControllerAllocation}
      (active : state.allocations.get slot = some row)
      (unmounted : ∀ logdev ∈ state.logdevs.rows,
        logdev.allocateId ≠ row.info.allocateId)
      {after : PluginState}
      (deleted : deleteNs row.info.ssuId row.info.nsId world = (.ok, after)) :
      ControllerEvent plugin (state, world)
        (dropExtent state slot row, after)
  | extentKept (state : ControllerState) (world : PluginState)
      {deleteNs} (provided : plugin.deleteNs = some deleteNs)
      {row : ControllerAllocation} (active : row ∈ state.allocations.rows)
      (refused : (deleteNs row.info.ssuId row.info.nsId world).1 ≠ .ok) :
      ControllerEvent plugin (state, world)
        (state, (deleteNs row.info.ssuId row.info.nsId world).2)
  | remembered (state : ControllerState) (world : PluginState)
      (allocateId : CString) :
      ControllerEvent plugin (state, world)
        (rememberReleasedId state allocateId, world)
  | connected (state : ControllerState) (world : PluginState)
      {connect} (provided : plugin.connect = some connect)
      (ssuId : CBuf 64) :
      ControllerEvent plugin (state, world) (state, (connect ssuId world).2)
  | mountRefused (state : ControllerState) (world : PluginState)
      {mount} (provided : plugin.mount = some mount) (req : SsuMountReq)
      (refused : (mount req.allocateId req.hostId req.logicalDev world).1 ≠
        .ok) :
      ControllerEvent plugin (state, world)
        (state, (mount req.allocateId req.hostId req.logicalDev world).2)
  | mounted (state : ControllerState) (world : PluginState)
      {mount} (provided : plugin.mount = some mount) {req : SsuMountReq}
      {connected : List (ControllerAllocation × Nat × CBuf 64)}
      (checked : MountChecked req state connected) {after : PluginState}
      (accepted : mount req.allocateId req.hostId req.logicalDev world =
        (.ok, after)) :
      ControllerEvent plugin (state, world)
        (recordMount req connected state, after)
  | unmountRefused (state : ControllerState) (world : PluginState)
      {unmount} (provided : plugin.unmount = some unmount)
      (logicalDev : CString) (refused : (unmount logicalDev world).1 ≠ .ok) :
      ControllerEvent plugin (state, world)
        (state, (unmount logicalDev world).2)
  | unmountedStale (state : ControllerState) (world : PluginState)
      {unmount} (provided : plugin.unmount = some unmount)
      (logicalDev : CString) (named : logicalDev ≠ [])
      (unknown : ∀ logdev ∈ state.logdevs.rows,
        logdev.logicalDev.chars ≠ logicalDev) :
      ControllerEvent plugin (state, world)
        (state, (unmount logicalDev world).2)
  | unmounted (state : ControllerState) (world : PluginState)
      {unmount} (provided : plugin.unmount = some unmount)
      {logicalDev : CString} {logdev : SsuLogdevInfo}
      (found : findLogdevByDev state logicalDev = some logdev)
      {after : PluginState} (accepted : unmount logicalDev world = (.ok, after)) :
      ControllerEvent plugin (state, world)
        (recordUnmount logicalDev logdev.allocateId.chars state, after)

abbrev ControllerChain (plugin : SsuPluginOps PluginState) :=
  ReflTransGen (ControllerEvent plugin)

end Events

end UbseSsu.Controller

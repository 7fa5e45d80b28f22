import UbseSsu.Kernel.Ioctls

/-!
# From module_init to module_exit

`reqshim_main.c` registers the block major and then the control device, and
takes back what it has when a later step fails; `reqshim_blk.c` does the same
with the tag set and the disk of a slot.  The world around the module keeps
what it was given, across any number of loads: at every time this is a disk
and a tag set for each live device, and nothing at all when the module is not
loaded.
-/

namespace UbseSsu.Kernel.Lifecycle

inductive Disk where
  | none
  | allocated
  | added
deriving DecidableEq

/-- What the block layer holds for a slot. -/
structure Held where
  tagSet : Bool
  disk : Disk
deriving DecidableEq

def Held.nothing : Held := ⟨false, .none⟩

def Held.whole : Held := ⟨true, .added⟩

/-- The module's tables and `reqshim_major`, and what the kernel keeps for
it. -/
structure World where
  kernel : KernelState
  major : Int
  held : Nat → Held
  majors : List Int
  misc : Bool
  loaded : Bool

def World.booted : World :=
  { kernel := .loaded
    major := 0
    held := fun _ => .nothing
    majors := []
    misc := false
    loaded := false }

/-- The answers of `blk_mq_alloc_tag_set`, `blk_mq_alloc_disk` and
`add_disk`. -/
structure CreateAnswers where
  tagSet : Option Errno
  allocDisk : Option Errno
  addDisk : Option Errno

inductive Request where
  | logdevCreate (req : LogdevReq) (answers : CreateAnswers)
  | logdevDestroy (minor : Nat)
  | mapAdd (entry : MapEntry)
  | mapDel (entry : MapEntry)

/-- The first of the three that fails. -/
def CreateAnswers.blockLayer (answers : CreateAnswers) : Option Errno :=
  answers.tagSet <|> answers.allocDisk <|> answers.addDisk

/-- The request as the tables see it. -/
def Request.toIoctl : Request → Ioctl
  | .logdevCreate req answers => .logdevCreate req answers.blockLayer
  | .logdevDestroy minor => .logdevDestroy minor
  | .mapAdd entry => .mapAdd entry
  | .mapDel entry => .mapDel entry

inductive Event where
  | load (registerBlkdev : Int) (miscRegister : Option Errno)
  | unload
  | ioctl (request : Request)

section BlockLayer

def World.hold (minor : Nat) (change : Held → Held) (world : World) : World :=
  { world with
    held := Function.update world.held minor (change (world.held minor)) }

def allocTagSet (minor : Nat) : World → World :=
  World.hold minor fun held => { held with tagSet := true }

def freeTagSet (minor : Nat) : World → World :=
  World.hold minor fun held => { held with tagSet := false }

def setDisk (disk : Disk) (minor : Nat) : World → World :=
  World.hold minor fun held => { held with disk }

def allocDisk : Nat → World → World := setDisk .allocated

def addDisk : Nat → World → World := setDisk .added

def delGendisk : Nat → World → World := setDisk .allocated

def putDisk : Nat → World → World := setDisk .none

end BlockLayer

section Code

/-- `ssu_reqshim_logdev_create`. -/
def logdevCreate (answers : CreateAnswers) (req : LogdevReq) (world : World) :
    Except Errno Unit × World :=
  if !validateLogdevReq req then (.error .einval, world)
  else if world.major ≤ 0 then (.error .enodev, world)
  else if (world.kernel.logdevs.get req.minor).isSome then
    (.error .ebusy, world)
  else
    match answers.tagSet with
    | some errno => (.error errno, world)
    | none =>
        let tagged := allocTagSet req.minor world
        match answers.allocDisk with
        | some errno => (.error errno, freeTagSet req.minor tagged)
        | none =>
            let allocated := allocDisk req.minor tagged
            match answers.addDisk with
            | some errno =>
                (.error errno,
                  freeTagSet req.minor (putDisk req.minor allocated))
            | none =>
                (.ok (), { addDisk req.minor allocated with
                  kernel := { world.kernel with
                    logdevs := world.kernel.logdevs.put req.minor req } })

/-- `ssu_reqshim_logdev_destroy`. -/
def logdevDestroy (minor : Nat) (world : World) : Except Errno Unit × World :=
  if maxLogdevs ≤ minor then (.error .einval, world)
  else if (world.kernel.logdevs.get minor).isNone then (.error .enoent, world)
  else
    let detached := { world with
      kernel := { world.kernel with
        logdevs := world.kernel.logdevs.clear minor } }
    let bare := freeTagSet minor (putDisk minor (delGendisk minor detached))
    (.ok (), { bare with kernel := mapClearMinor minor bare.kernel })

/-- `ssu_reqshim_blk_init`, with what `register_blkdev` returns. -/
def blkInit (registerBlkdev : Int) (world : World) :
    Except Errno Unit × World :=
  let registered := { world with
    major := registerBlkdev
    majors :=
      if 0 < registerBlkdev then registerBlkdev :: world.majors
      else world.majors }
  if registerBlkdev ≤ 0 then
    (.error (if registerBlkdev = 0 then .ebusy
      else .other registerBlkdev.natAbs), registered)
  else (.ok (), registered)

/-- The loop of `ssu_reqshim_blk_exit` over the minors. -/
def destroyAll (minors : List Nat) (world : World) : World :=
  minors.foldl (fun world minor =>
    if logdevExists world.kernel minor then (logdevDestroy minor world).2
    else world) world

def blkExit (world : World) : World :=
  let cleared := destroyAll (List.range maxLogdevs) world
  if 0 < cleared.major then
    { cleared with
      majors := cleared.majors.erase cleared.major
      major := 0 }
  else cleared

/-- `ssu_reqshim_init`. -/
def init (registerBlkdev : Int) (miscRegister : Option Errno)
    (world : World) : Except Errno Unit × World :=
  match blkInit registerBlkdev world with
  | (.error errno, registered) => (.error errno, registered)
  | (.ok (), registered) =>
      match miscRegister with
      | some errno => (.error errno, blkExit registered)
      | none => (.ok (), { registered with misc := true })

/-- `ssu_reqshim_exit`. -/
def exit (world : World) : World :=
  blkExit { world with misc := false }

def serve (request : Request) (world : World) : World :=
  match request with
  | .logdevCreate req answers => (logdevCreate answers req world).2
  | .logdevDestroy minor => (logdevDestroy minor world).2
  | .mapAdd entry =>
      { world with kernel := ioctlStep world.kernel (.mapAdd entry) }
  | .mapDel entry =>
      { world with kernel := ioctlStep world.kernel (.mapDel entry) }

/-- A module is loaded with fresh tables, and there are no ioctls without the
control device. -/
def step (world : World) : Event → World
  | .load registerBlkdev miscRegister =>
      if world.loaded then world
      else
        let result := init registerBlkdev miscRegister
          { world with kernel := .loaded, major := 0 }
        { result.2 with loaded := result.1.isOk }
  | .unload => if world.loaded then { exit world with loaded := false } else world
  | .ioctl request => if world.misc then serve request world else world

end Code

section Accounts

/-- The block layer holds a disk and a tag set for each live device. -/
structure Accounted (world : World) : Prop where
  held : ∀ minor, world.held minor =
    if (world.kernel.logdevs.get minor).isSome then .whole else .nothing
  owned : MapsOwned world.kernel

/-- What an operation on one slot leaves as it was. -/
structure SameModule (before after : World) : Prop where
  major : after.major = before.major
  majors : after.majors = before.majors
  misc : after.misc = before.misc
  loaded : after.loaded = before.loaded

theorem SameModule.refl (world : World) : SameModule world world :=
  ⟨rfl, rfl, rfl, rfl⟩

theorem SameModule.trans {first second third : World}
    (left : SameModule first second) (right : SameModule second third) :
    SameModule first third :=
  ⟨right.major.trans left.major, right.majors.trans left.majors,
    right.misc.trans left.misc, right.loaded.trans left.loaded⟩

variable {world : World} {req : LogdevReq} {answers : CreateAnswers}
  {minor : Nat}

theorem hold_held (minor : Nat) (change : Held → Held) (world : World)
    (other : Nat) :
    (world.hold minor change).held other =
      if other = minor then change (world.held minor)
      else world.held other := by
  simp only [World.hold, Function.update_apply]

/-- Where nothing was held, an allocation that is taken back leaves nothing. -/
theorem Accounted.takenBack (accounted : Accounted world)
    (free : world.kernel.logdevs.get minor = none) {after : World}
    (same : after.kernel = world.kernel)
    (own : after.held minor = .nothing)
    (others : ∀ other, other ≠ minor →
      after.held other = world.held other) : Accounted after := by
  constructor
  · intro other
    rw [same]
    by_cases isMinor : other = minor
    · subst isMinor
      rw [own, free]
      rfl
    · rw [others other isMinor]
      exact accounted.held other
  · rw [same]
    exact accounted.owned

theorem Accounted.nothing (accounted : Accounted world)
    (free : world.kernel.logdevs.get minor = none) :
    world.held minor = .nothing := by
  rw [accounted.held, free]
  rfl

/-- A create answers as the tables do, and leaves nothing behind when it
fails, wherever that is. -/
theorem Accounted.create (accounted : Accounted world) :
    Accounted (logdevCreate answers req world).2 ∧
      SameModule world (logdevCreate answers req world).2 := by
  unfold logdevCreate
  split
  · exact ⟨accounted, .refl world⟩
  · rename_i valid
    split
    · exact ⟨accounted, .refl world⟩
    · split
      · exact ⟨accounted, .refl world⟩
      · rename_i busy
        have free : world.kernel.logdevs.get req.minor = none := by
          simpa using busy
        have before := accounted.nothing free
        split
        · exact ⟨accounted, .refl world⟩
        · simp only
          split
          · refine ⟨accounted.takenBack free rfl ?_ ?_, ⟨rfl, rfl, rfl, rfl⟩⟩
            · simp only [freeTagSet, allocTagSet, hold_held, if_true, before]
              rfl
            · intro other different
              simp only [freeTagSet, allocTagSet, hold_held,
                if_neg different]
          · split
            · refine ⟨accounted.takenBack free rfl ?_ ?_,
                ⟨rfl, rfl, rfl, rfl⟩⟩
              · simp only [freeTagSet, putDisk, allocDisk, setDisk,
                  allocTagSet, hold_held, if_true, before]
                rfl
              · intro other different
                simp only [freeTagSet, putDisk, allocDisk, setDisk,
                  allocTagSet, hold_held, if_neg different]
            · refine ⟨⟨?_, ?_⟩, ⟨rfl, rfl, rfl, rfl⟩⟩
              · intro other
                simp only [addDisk, allocDisk, setDisk, allocTagSet,
                  hold_held]
                by_cases isMinor : other = req.minor
                · subst isMinor
                  have bound : req.minor < maxLogdevs :=
                    validateLogdevReq_minor (by simpa using valid)
                  rw [SlotTable.get_put_self bound]
                  simp only [if_true, before]
                  rfl
                · rw [SlotTable.get_put_other (Ne.symm isMinor)]
                  simp only [if_neg isMinor]
                  exact accounted.held other
              · have created : Kernel.logdevCreate none req world.kernel =
                    .ok { world.kernel with
                      logdevs := world.kernel.logdevs.put req.minor req } := by
                  simp only [Kernel.logdevCreate, valid, busy]
                  rfl
                exact logdevCreate_owned accounted.owned created

theorem Accounted.destroy (accounted : Accounted world) (minor : Nat) :
    Accounted (logdevDestroy minor world).2 ∧
      SameModule world (logdevDestroy minor world).2 := by
  unfold logdevDestroy
  split
  · exact ⟨accounted, .refl world⟩
  · rename_i bound
    split
    · exact ⟨accounted, .refl world⟩
    · rename_i live
      refine ⟨⟨?_, ?_⟩, ⟨rfl, rfl, rfl, rfl⟩⟩
      · intro other
        simp only [freeTagSet, putDisk, delGendisk, setDisk, hold_held]
        by_cases isMinor : other = minor
        · subst isMinor
          have gone : ((mapClearMinor other
              { world.kernel with
                logdevs := world.kernel.logdevs.clear other }).logdevs.get
              other).isSome = false := by
            simp [mapClearMinor]
          simp only [if_true]
          exact (if_neg (Bool.eq_false_iff.mp gone)).symm
        · have kept : (world.kernel.logdevs.clear minor).get other =
              world.kernel.logdevs.get other :=
            SlotTable.get_clear_other (Ne.symm isMinor)
          simp only [if_neg isMinor]
          rw [accounted.held other, ← kept]
          rfl
      · have destroyed : Kernel.logdevDestroy minor world.kernel =
            .ok (mapClearMinor minor
              { world.kernel with
                logdevs := world.kernel.logdevs.clear minor }) := by
          rw [Kernel.logdevDestroy, if_neg bound, if_neg live]
        exact logdevDestroy_owned accounted.owned destroyed

end Accounts

section Teardown

variable {world : World} {minor : Nat}

theorem logdevDestroy_gone (present : logdevExists world.kernel minor = true)
    {other : Nat} :
    (logdevDestroy minor world).2.kernel.logdevs.get other =
      if other = minor then none else world.kernel.logdevs.get other := by
  simp only [logdevExists, Bool.and_eq_true, decide_eq_true_eq] at present
  have bound : ¬maxLogdevs ≤ minor := by omega
  have live : ¬(world.kernel.logdevs.get minor).isNone = true := by
    rw [Option.isNone_iff_eq_none]
    exact Option.isSome_iff_ne_none.mp present.2
  rw [logdevDestroy, if_neg bound, if_neg live]
  by_cases same : other = minor
  · subst same
    simp [mapClearMinor, freeTagSet, putDisk, delGendisk, setDisk,
      World.hold]
  · rw [if_neg same]
    exact SlotTable.get_clear_other (Ne.symm same)

/-- The loop leaves none of its minors live. -/
theorem Accounted.destroyAll (accounted : Accounted world)
    (minors : List Nat) :
    Accounted (destroyAll minors world) ∧
      SameModule world (destroyAll minors world) ∧
      ∀ other, (Lifecycle.destroyAll minors world).kernel.logdevs.get other =
        if other ∈ minors ∧ other < maxLogdevs then none
        else world.kernel.logdevs.get other := by
  induction minors generalizing world with
  | nil =>
      refine ⟨accounted, .refl world, fun other => ?_⟩
      rw [if_neg (fun both => by cases both.1)]
      rfl
  | cons minor minors induction =>
      rw [Lifecycle.destroyAll, List.foldl_cons]
      by_cases present : logdevExists world.kernel minor = true
      · rw [if_pos present]
        obtain ⟨afterwards, same⟩ := accounted.destroy minor
        obtain ⟨rest, sameRest, gone⟩ := induction afterwards
        refine ⟨rest, same.trans sameRest, fun other => ?_⟩
        have bound : minor < maxLogdevs := by
          simp only [logdevExists, Bool.and_eq_true,
            decide_eq_true_eq] at present
          exact present.1
        refine (gone other).trans ?_
        rw [logdevDestroy_gone present]
        by_cases isMinor : other = minor
        · subst isMinor
          simp [bound]
        · simp [isMinor]
      · rw [if_neg present]
        obtain ⟨rest, same, gone⟩ := induction accounted
        refine ⟨rest, same, fun other => (gone other).trans ?_⟩
        by_cases isMinor : other = minor
        · subst isMinor
          simp only [logdevExists, Bool.and_eq_true, decide_eq_true_eq,
            not_and] at present
          by_cases bound : other < maxLogdevs
          · have none : world.kernel.logdevs.get other = none := by
              simpa using present bound
            simp [none]
          · simp [bound]
        · simp [isMinor]

theorem Accounted.blkExit (accounted : Accounted world) :
    Accounted (blkExit world) ∧
      (∀ minor, (Lifecycle.blkExit world).kernel.logdevs.get minor = none) ∧
      (Lifecycle.blkExit world).misc = world.misc ∧
      (Lifecycle.blkExit world).majors =
        if 0 < world.major then world.majors.erase world.major
        else world.majors := by
  obtain ⟨cleared, same, gone⟩ :=
    accounted.destroyAll (List.range maxLogdevs)
  have none : ∀ minor, (Lifecycle.destroyAll (List.range maxLogdevs)
      world).kernel.logdevs.get minor = none := by
    intro minor
    rw [gone]
    by_cases bound : minor < maxLogdevs
    · rw [if_pos ⟨List.mem_range.mpr bound, bound⟩]
    · rw [if_neg fun both => bound both.2]
      cases live : world.kernel.logdevs.get minor with
      | none => rfl
      | some req =>
          exact (bound (SlotTable.lt_size_of_get_eq_some live)).elim
  unfold Lifecycle.blkExit
  generalize Lifecycle.destroyAll (List.range maxLogdevs) world = after
    at cleared same none ⊢
  simp only [same.major]
  split
  · refine ⟨⟨cleared.held, cleared.owned⟩, none, same.misc, ?_⟩
    rw [same.majors]
  · exact ⟨cleared, none, same.misc, same.majors⟩

end Teardown

section Loads

/-- What holds of the world at every time. -/
structure Balanced (world : World) : Prop where
  accounted : Accounted world
  majors : world.majors = if world.loaded then [world.major] else []
  major : world.loaded = true → 0 < world.major
  misc : world.misc = world.loaded
  bare : world.loaded = false →
    ∀ minor, world.kernel.logdevs.get minor = none

theorem accounted_of_nothing {world : World}
    (held : ∀ minor, world.held minor = .nothing)
    (fresh : world.kernel = .loaded) : Accounted world := by
  constructor
  · intro minor
    rw [held, fresh]
    simp [KernelState.loaded]
  · rw [fresh]
    exact mapsOwned_loaded

theorem balanced_booted : Balanced .booted := by
  constructor
  · exact accounted_of_nothing (fun _ => rfl) rfl
  · rfl
  · intro loaded
    cases loaded
  · rfl
  · intro _ minor
    simp [World.booted, KernelState.loaded]

variable {world : World}

theorem Balanced.load (balanced : Balanced world)
    (unloaded : world.loaded = false) (registerBlkdev : Int)
    (miscRegister : Option Errno) :
    Balanced (step world (.load registerBlkdev miscRegister)) := by
  have held : ∀ minor, world.held minor = .nothing := by
    intro minor
    exact balanced.accounted.nothing (balanced.bare unloaded minor)
  have majors : world.majors = [] := by
    rw [balanced.majors, unloaded]
    rfl
  have misc : world.misc = false := balanced.misc.trans unloaded
  have none : ∀ minor, KernelState.loaded.logdevs.get minor = none := by
    simp [KernelState.loaded]
  simp only [step, unloaded, Bool.false_eq_true, if_false, init, blkInit,
    majors]
  by_cases failed : registerBlkdev ≤ 0
  · have notPositive : ¬0 < registerBlkdev := by omega
    simp only [if_pos failed, if_neg notPositive]
    constructor
    · exact accounted_of_nothing held rfl
    · rfl
    · intro loaded
      cases loaded
    · exact misc
    · exact fun _ => none
  · have positive : 0 < registerBlkdev := by omega
    simp only [if_neg failed, if_pos positive]
    have fresh : Accounted { world with
        kernel := .loaded
        major := registerBlkdev
        majors := [registerBlkdev]
        loaded := false } := accounted_of_nothing held rfl
    cases miscRegister with
    | some errno =>
        obtain ⟨accounted, bare, sameMisc, freed⟩ := fresh.blkExit
        simp only
        generalize Lifecycle.blkExit _ = after
          at accounted bare sameMisc freed ⊢
        constructor
        · exact ⟨accounted.held, accounted.owned⟩
        · refine freed.trans ?_
          simp only [if_pos positive, List.erase_cons_head]
          rfl
        · intro loaded
          cases loaded
        · exact sameMisc.trans misc
        · exact fun _ => bare
    | none =>
        constructor
        · exact ⟨fresh.held, fresh.owned⟩
        · rfl
        · exact fun _ => positive
        · rfl
        · intro unloaded
          cases unloaded

theorem Balanced.unload (balanced : Balanced world) :
    Balanced (step world .unload) := by
  rw [step]
  split
  · rename_i loaded
    have open_ : Accounted { world with misc := false } :=
      ⟨balanced.accounted.held, balanced.accounted.owned⟩
    obtain ⟨accounted, bare, misc, freed⟩ := open_.blkExit
    have positive := balanced.major loaded
    rw [exit]
    generalize Lifecycle.blkExit _ = after at accounted bare misc freed ⊢
    constructor
    · exact ⟨accounted.held, accounted.owned⟩
    · refine freed.trans ?_
      rw [if_pos positive, balanced.majors, loaded]
      simp
    · intro loaded
      cases loaded
    · exact misc
    · exact fun _ => bare
  · exact balanced

theorem Accounted.serve (accounted : Accounted world) (request : Request) :
    Accounted (serve request world) ∧ SameModule world (serve request world) := by
  cases request with
  | logdevCreate req answers => exact accounted.create
  | logdevDestroy minor => exact accounted.destroy minor
  | mapAdd entry =>
      refine ⟨?_, ⟨rfl, rfl, rfl, rfl⟩⟩
      cases added : Kernel.mapAdd entry world.kernel with
      | error errno =>
          simp only [Lifecycle.serve, ioctlStep, ioctl, added,
            ioctl.answered]
          exact ⟨accounted.held, accounted.owned⟩
      | ok after =>
          simp only [Lifecycle.serve, ioctlStep, ioctl, added,
            ioctl.answered]
          have owned := mapAdd_owned accounted.owned added
          obtain ⟨_, _, slot, _, rfl⟩ := mapAdd_ok added
          exact ⟨accounted.held, owned⟩
  | mapDel entry =>
      refine ⟨?_, ⟨rfl, rfl, rfl, rfl⟩⟩
      cases deleted : Kernel.mapDel entry world.kernel with
      | error errno =>
          simp only [Lifecycle.serve, ioctlStep, ioctl, deleted,
            ioctl.answered]
          exact ⟨accounted.held, accounted.owned⟩
      | ok after =>
          simp only [Lifecycle.serve, ioctlStep, ioctl, deleted,
            ioctl.answered]
          have owned := mapDel_owned accounted.owned deleted
          obtain ⟨slot, _, rfl⟩ := mapDel_ok deleted
          exact ⟨accounted.held, owned⟩

theorem Balanced.step (balanced : Balanced world) (event : Event) :
    Balanced (step world event) := by
  cases event with
  | load registerBlkdev miscRegister =>
      cases loaded : world.loaded with
      | true =>
          simp only [Lifecycle.step, loaded, if_true]
          exact balanced
      | false => exact balanced.load loaded registerBlkdev miscRegister
  | unload => exact balanced.unload
  | ioctl request =>
      rw [Lifecycle.step]
      split
      · rename_i ready
        have loaded : world.loaded = true := balanced.misc.symm.trans ready
        obtain ⟨accounted, same⟩ := balanced.accounted.serve request
        constructor
        · exact accounted
        · rw [same.majors, same.loaded, same.major, balanced.majors]
        · intro _
          rw [same.major]
          exact balanced.major loaded
        · rw [same.misc, same.loaded, balanced.misc]
        · intro unloaded
          rw [same.loaded, loaded] at unloaded
          cases unloaded
      · exact balanced

theorem balanced_run (events : List Event) :
    Balanced (Transition.run step .booted events) :=
  Transition.run_invariant_always Balanced
    (fun _ event balanced => balanced.step event) balanced_booted events

/-- A module with a major answers as its tables do. -/
theorem serve_kernel (positive : 0 < world.major) (request : Request) :
    (serve request world).kernel =
      ioctlStep world.kernel request.toIoctl := by
  have registered : ¬world.major ≤ 0 := by omega
  cases request with
  | logdevCreate req answers =>
      simp only [serve, logdevCreate, if_neg registered, Request.toIoctl,
        ioctlStep, ioctl, Kernel.logdevCreate, CreateAnswers.blockLayer]
      split
      · rfl
      · split
        · rfl
        · cases answers.tagSet with
          | some errno => rfl
          | none =>
              cases answers.allocDisk with
              | some errno => rfl
              | none => cases answers.addDisk <;> rfl
  | logdevDestroy minor =>
      simp only [serve, logdevDestroy, Request.toIoctl, ioctlStep, ioctl,
        Kernel.logdevDestroy]
      split
      · rfl
      · split <;> rfl
  | mapAdd entry => rfl
  | mapDel entry => rfl

theorem Balanced.served (balanced : Balanced world)
    (loaded : world.loaded = true) (requests : List Request) :
    (Transition.run Lifecycle.step world (requests.map Event.ioctl)).kernel =
      Transition.run ioctlStep world.kernel
        (requests.map Request.toIoctl) := by
  induction requests generalizing world with
  | nil => rfl
  | cons request requests induction =>
      have ready : world.misc = true := balanced.misc.trans loaded
      have stepped : Lifecycle.step world (.ioctl request) = serve request world := by
        rw [Lifecycle.step, if_pos ready]
      have next := balanced.step (.ioctl request)
      rw [stepped] at next
      obtain ⟨_, same⟩ := balanced.accounted.serve request
      rw [List.map_cons, List.map_cons, Transition.run_cons,
        Transition.run_cons, stepped,
        induction next (same.loaded.trans loaded),
        serve_kernel (balanced.major loaded)]

/-- Nothing leaks.  Over any number of loads, whatever fails on the way, the
kernel holds a disk and a tag set for each live device and the major and the
control device of a loaded module, and of a module that is not loaded it holds
nothing.  A loaded module serves its requests as the tables do. -/
theorem module_leaks_nothing (events : List Event) :
    let world := Transition.run step .booted events
    (∀ minor, world.held minor =
      if (world.kernel.logdevs.get minor).isSome then .whole else .nothing) ∧
    world.majors = (if world.loaded then [world.major] else []) ∧
    world.misc = world.loaded ∧
    (world.loaded = false → (∀ minor, world.held minor = .nothing) ∧
      world.kernel.maps.rows = []) ∧
    (world.loaded = true → ∀ requests : List Request,
      (Transition.run step world (requests.map Event.ioctl)).kernel =
        Transition.run ioctlStep world.kernel
          (requests.map Request.toIoctl)) := by
  intro world
  have balanced : Balanced world := balanced_run events
  refine ⟨balanced.accounted.held, balanced.majors, balanced.misc, ?_,
    balanced.served⟩
  intro unloaded
  have bare := balanced.bare unloaded
  refine ⟨fun minor => balanced.accounted.nothing (bare minor), ?_⟩
  apply List.eq_nil_iff_forall_not_mem.mpr
  intro entry member
  have live := balanced.accounted.owned entry member
  rw [bare] at live
  cases live

end Loads

end UbseSsu.Kernel.Lifecycle

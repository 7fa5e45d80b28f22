import Mathlib.Logic.Function.Basic
import UbseSsu.Kernel.Ioctls

/-!
# Concurrent ioctls

The two tables have a mutex each, and no ioctl holds both.  A thread runs an
ioctl section by section: the existence check of `MAP_ADD` and its insertion
are two sections, and `LOGDEV_DESTROY` first deactivates the slot under
`logdev_lock`, then takes the disk down and clears the slot without the lock,
then clears the maps of the minor.  `slot->disk` is a number that `add_disk`
never gives out twice.
-/

namespace UbseSsu.Kernel.Concurrent

/-- Where a thread stands between two sections. -/
inductive Thread where
  | idle
  | mapAddChecked (entry : MapEntry)
  | destroyDetached (minor : Nat)
  | destroyWiped (minor : Nat)
deriving DecidableEq

inductive Event where
  | logdevCreated (req : LogdevReq) (disk : Nat)
  | logdevDestroyStarted (minor : Nat)
deriving DecidableEq

/-- The tables, the threads, and what they answered so far, latest first. -/
structure Machine where
  kernel : KernelState
  disks : Nat → Option Nat
  nextDisk : Nat
  threads : Nat → Thread
  log : List Event

def Machine.loaded : Machine :=
  { kernel := .loaded
    disks := fun _ => none
    nextDisk := 0
    threads := fun _ => .idle
    log := [] }

inductive Action where
  | logdevCreate (req : LogdevReq) (blockLayer : Option Errno)
  | logdevDestroy (minor : Nat)
  | destroyWipe
  | destroyClear
  | mapAddCheck (entry : MapEntry)
  | mapAddInsert
  | mapDel (entry : MapEntry)
deriving DecidableEq

section Sections

/-- `ssu_reqshim_map_add` up to `map_lock`. -/
def mapAddCheck (entry : MapEntry) (kernel : KernelState) :
    Except Errno Unit :=
  if entry.lengthSectors = 0 ∨ entry.physDev.chars = [] then .error .einval
  else if !logdevExists kernel entry.logicalMinor then .error .enoent
  else .ok ()

/-- `ssu_reqshim_map_add` under `map_lock`. -/
def mapAddInsert (entry : MapEntry) (kernel : KernelState) :
    Except Errno KernelState :=
  if kernel.maps.rows.any (mapHasKey entry) then .error .eexist
  else
    match kernel.maps.firstFree with
    | none => .error .enospc
    | some slot => .ok { kernel with maps := kernel.maps.put slot entry }

theorem mapAdd_eq_sections (entry : MapEntry) (kernel : KernelState) :
    mapAdd entry kernel =
      match mapAddCheck entry kernel with
      | .error errno => .error errno
      | .ok () => mapAddInsert entry kernel := by
  unfold mapAdd mapAddCheck mapAddInsert
  split
  · rfl
  · split <;> rfl

def clearLogdev (minor : Nat) (machine : Machine) : Machine :=
  { machine with
    kernel := { machine.kernel with
      logdevs := machine.kernel.logdevs.clear minor }
    disks := Function.update machine.disks minor none }

def goTo (thread : Nat) (place : Thread) (machine : Machine) : Machine :=
  { machine with threads := Function.update machine.threads thread place }

def report (event : Event) (machine : Machine) : Machine :=
  { machine with log := event :: machine.log }

def create (req : LogdevReq) (blockLayer : Option Errno)
    (machine : Machine) : Machine :=
  match logdevCreate blockLayer req machine.kernel with
  | .error _ => machine
  | .ok kernel =>
      report (.logdevCreated req machine.nextDisk)
        { machine with
          kernel
          disks := Function.update machine.disks req.minor
            (some machine.nextDisk)
          nextDisk := machine.nextDisk + 1 }

/-- `LOGDEV_DESTROY` under `logdev_lock`. -/
def detach (thread minor : Nat) (machine : Machine) : Machine :=
  let started := report (.logdevDestroyStarted minor) machine
  if maxLogdevs ≤ minor then started
  else if (machine.kernel.logdevs.get minor).isNone then started
  else goTo thread (.destroyDetached minor) (clearLogdev minor started)

/-- `del_gendisk` to the `memset` of the slot, whoever uses it by now. -/
def wipe (thread minor : Nat) (machine : Machine) : Machine :=
  goTo thread (.destroyWiped minor) (clearLogdev minor machine)

def clear (thread minor : Nat) (machine : Machine) : Machine :=
  goTo thread .idle
    { machine with kernel := mapClearMinor minor machine.kernel }

def check (thread : Nat) (entry : MapEntry) (machine : Machine) : Machine :=
  match mapAddCheck entry machine.kernel with
  | .error _ => machine
  | .ok () => goTo thread (.mapAddChecked entry) machine

def insert (thread : Nat) (entry : MapEntry) (machine : Machine) : Machine :=
  match mapAddInsert entry machine.kernel with
  | .error _ => goTo thread .idle machine
  | .ok kernel => goTo thread .idle { machine with kernel }

def delete (entry : MapEntry) (machine : Machine) : Machine :=
  match mapDel entry machine.kernel with
  | .error _ => machine
  | .ok kernel => { machine with kernel }

/-- A thread starts an ioctl when it is idle and goes on where it stands. -/
def step (machine : Machine) (turn : Nat × Action) : Machine :=
  match machine.threads turn.1, turn.2 with
  | .idle, .logdevCreate req blockLayer => create req blockLayer machine
  | .idle, .logdevDestroy minor => detach turn.1 minor machine
  | .destroyDetached minor, .destroyWipe => wipe turn.1 minor machine
  | .destroyWiped minor, .destroyClear => clear turn.1 minor machine
  | .idle, .mapAddCheck entry => check turn.1 entry machine
  | .mapAddChecked entry, .mapAddInsert => insert turn.1 entry machine
  | .idle, .mapDel entry => delete entry machine
  | _, _ => machine

end Sections

section Sequential

/-- The sections of an ioctl that one thread runs from start to end. -/
def actionsOf : Ioctl → List Action
  | .logdevCreate req blockLayer => [.logdevCreate req blockLayer]
  | .logdevDestroy minor => [.logdevDestroy minor, .destroyWipe, .destroyClear]
  | .mapAdd entry => [.mapAddCheck entry, .mapAddInsert]
  | .mapDel entry => [.mapDel entry]
  | .mapQuery _ _ => []

variable {machine : Machine} {thread : Nat}

@[simp] theorem goTo_threads_self (place : Thread) :
    (goTo thread place machine).threads thread = place :=
  Function.update_self ..

theorem goTo_threads_other {other : Nat} (place : Thread)
    (different : other ≠ thread) :
    (goTo thread place machine).threads other = machine.threads other :=
  Function.update_of_ne different ..

@[simp] theorem goTo_kernel (place : Thread) :
    (goTo thread place machine).kernel = machine.kernel := rfl

theorem step_detach (free : machine.threads thread = .idle) (minor : Nat) :
    step machine (thread, .logdevDestroy minor) =
      detach thread minor machine := by
  simp only [step, free]

theorem step_wipe {minor : Nat}
    (place : machine.threads thread = .destroyDetached minor) :
    step machine (thread, .destroyWipe) = wipe thread minor machine := by
  simp only [step, place]

theorem step_clear {minor : Nat}
    (place : machine.threads thread = .destroyWiped minor) :
    step machine (thread, .destroyClear) = clear thread minor machine := by
  simp only [step, place]

theorem step_wipe_idle (free : machine.threads thread = .idle) :
    step machine (thread, .destroyWipe) = machine := by
  simp only [step, free]

theorem step_clear_idle (free : machine.threads thread = .idle) :
    step machine (thread, .destroyClear) = machine := by
  simp only [step, free]

theorem clear_clear {size slot : Nat} {α : Type}
    (table : SlotTable α size) :
    (table.clear slot).clear slot = table.clear slot := by
  simp [SlotTable.clear, List.set_set]

/-- A turn moves no other thread. -/
theorem step_threads_other {other : Nat} (action : Action)
    (different : other ≠ thread) :
    (step machine (thread, action)).threads other = machine.threads other := by
  unfold step
  split
  · unfold create
    split <;> rfl
  · unfold detach
    simp only
    split
    · rfl
    · split
      · rfl
      · exact goTo_threads_other _ different
  · exact goTo_threads_other _ different
  · exact goTo_threads_other _ different
  · unfold check
    split
    · rfl
    · exact goTo_threads_other _ different
  · unfold insert
    split
    · exact goTo_threads_other _ different
    · exact goTo_threads_other _ different
  · unfold delete
    split <;> rfl
  · rfl

theorem run_threads_other {turns : List (Nat × Action)}
    (absent : ∀ turn ∈ turns, turn.1 ≠ thread) :
    (Transition.run step machine turns).threads thread =
      machine.threads thread := by
  induction turns generalizing machine with
  | nil => rfl
  | cons turn turns induction =>
      obtain ⟨first, others⟩ := List.forall_mem_cons.mp absent
      exact (induction others).trans (step_threads_other turn.2 first.symm)

/-- Undisturbed, the sections of an ioctl are the ioctl. -/
theorem sections_eq_ioctl (free : machine.threads thread = .idle)
    (request : Ioctl) :
    (Transition.run step machine
        ((actionsOf request).map fun action => (thread, action))).kernel =
      ioctlStep machine.kernel request := by
  cases request with
  | logdevCreate req blockLayer =>
      simp only [actionsOf, List.map_cons, List.map_nil, Transition.run_cons,
        Transition.run_nil, step, free, create, ioctlStep, ioctl]
      cases logdevCreate blockLayer req machine.kernel <;> rfl
  | logdevDestroy minor =>
      simp only [actionsOf, List.map_cons, List.map_nil, Transition.run_cons,
        Transition.run_nil, step_detach free, ioctlStep, ioctl]
      by_cases large : maxLogdevs ≤ minor
      · have idle : (detach thread minor machine).threads thread = .idle := by
          rw [detach, if_pos large]
          exact free
        rw [step_wipe_idle idle, step_clear_idle idle, detach, if_pos large,
          logdevDestroy, if_pos large]
        rfl
      · by_cases missing : (machine.kernel.logdevs.get minor).isNone = true
        · have idle : (detach thread minor machine).threads thread = .idle := by
            rw [detach, if_neg large, if_pos missing]
            exact free
          rw [step_wipe_idle idle, step_clear_idle idle, detach, if_neg large,
            if_pos missing, logdevDestroy, if_neg large, if_pos missing]
          rfl
        · have detached : detach thread minor machine =
              goTo thread (.destroyDetached minor) (clearLogdev minor
                (report (.logdevDestroyStarted minor) machine)) := by
            rw [detach, if_neg large, if_neg missing]
          rw [detached, step_wipe (goTo_threads_self _), wipe,
            step_clear (goTo_threads_self _), logdevDestroy, if_neg large,
            if_neg missing]
          simp [clear, clearLogdev, report, ioctl.answered, clear_clear]
  | mapAdd entry =>
      simp only [actionsOf, List.map_cons, List.map_nil, Transition.run_cons,
        Transition.run_nil, step, free, check, ioctlStep, ioctl,
        mapAdd_eq_sections]
      cases mapAddCheck entry machine.kernel with
      | error errno =>
          simp only [free]
          rfl
      | ok _ =>
          simp only [goTo_threads_self, insert, goTo_kernel]
          cases mapAddInsert entry machine.kernel <;> rfl
  | mapDel entry =>
      simp only [actionsOf, List.map_cons, List.map_nil, Transition.run_cons,
        Transition.run_nil, step, free, delete, ioctlStep, ioctl]
      cases mapDel entry machine.kernel <;> rfl
  | mapQuery logicalMinor logicalSector => rfl

end Sequential

section Consistency

/-- No ioctl is in progress. -/
def Machine.Quiescent (machine : Machine) : Prop :=
  ∀ thread, machine.threads thread = .idle

/-- A thread that does not act in a run is idle. -/
theorem run_threads_listed {turns : List (Nat × Action)}
    (condition : Thread → Prop) (idle : condition .idle)
    (listed : ∀ turn ∈ turns,
      condition ((Transition.run step .loaded turns).threads turn.1))
    (thread : Nat) :
    condition ((Transition.run step .loaded turns).threads thread) := by
  by_cases acts : ∃ turn ∈ turns, turn.1 = thread
  · obtain ⟨turn, member, rfl⟩ := acts
    exact listed turn member
  · have still : (Transition.run step .loaded turns).threads thread =
        Machine.loaded.threads thread := by
      apply run_threads_other
      intro turn member same
      exact acts ⟨turn, member, same⟩
    rw [still]
    exact idle

theorem quiescent_iff {turns : List (Nat × Action)} :
    (Transition.run step .loaded turns).Quiescent ↔
      ∀ turn ∈ turns,
        (Transition.run step .loaded turns).threads turn.1 = .idle :=
  ⟨fun quiescent turn _ => quiescent turn.1,
    run_threads_listed (· = .idle) rfl⟩

/-- The create was answered with 0 and no destroy of its minor started
since. -/
def Standing (log : List Event) (req : LogdevReq) (disk : Nat) : Prop :=
  ∃ later earlier, log = later ++ .logdevCreated req disk :: earlier ∧
    .logdevDestroyStarted req.minor ∉ later

def Live (machine : Machine) (req : LogdevReq) (disk : Nat) : Prop :=
  machine.kernel.logdevs.get req.minor = some req ∧
    machine.disks req.minor = some disk

structure Consistent (machine : Machine) : Prop where
  owned : MapsOwned machine.kernel
  standing : ∀ req disk, Standing machine.log req disk →
    Live machine req disk

/-- The thread has yet to clear the maps of the minor. -/
def Clears (minor : Nat) (thread : Thread) : Prop :=
  thread = .destroyDetached minor ∨ thread = .destroyWiped minor

/-- No device is created on a minor whose slot a destroy has yet to clear, and
no map is added to a minor without a device, unless a destroy of it has yet to
clear the maps. -/
def Serialized (machine : Machine) : Nat × Action → Prop
  | (thread, .logdevCreate req blockLayer) =>
      machine.threads thread = .idle → validateLogdevReq req = true →
        machine.kernel.logdevs.get req.minor = none → blockLayer = none →
          ∀ other, machine.threads other ≠ .destroyDetached req.minor
  | (thread, .mapAddInsert) =>
      ∀ entry, machine.threads thread = .mapAddChecked entry →
        machine.kernel.maps.rows.any (mapHasKey entry) = false →
        machine.kernel.maps.firstFree.isSome = true →
          (machine.kernel.logdevs.get entry.logicalMinor).isSome = true ∨
            ∃ other, Clears entry.logicalMinor (machine.threads other)
  | _ => True

/-- What the sections preserve in runs of that kind. -/
structure Guarded (machine : Machine) : Prop where
  owned : ∀ entry ∈ machine.kernel.maps.rows,
    (machine.kernel.logdevs.get entry.logicalMinor).isSome = true ∨
      ∃ thread, Clears entry.logicalMinor (machine.threads thread)
  live : ∀ req disk, Standing machine.log req disk → Live machine req disk
  untouched : ∀ req disk, Standing machine.log req disk →
    ∀ thread, machine.threads thread ≠ .destroyDetached req.minor

theorem Guarded.consistent {machine : Machine} (guarded : Guarded machine)
    (quiescent : machine.Quiescent) : Consistent machine := by
  constructor
  · intro entry member
    rcases guarded.owned entry member with live | ⟨thread, clears⟩
    · exact live
    · rcases clears with busy | busy
      · rw [quiescent thread] at busy
        cases busy
      · rw [quiescent thread] at busy
        cases busy
  · exact guarded.live

theorem guarded_loaded : Guarded .loaded := by
  have nothing : ∀ req disk, ¬Standing Machine.loaded.log req disk := by
    rintro req disk ⟨later, earlier, split, _⟩
    cases later <;> cases split
  constructor
  · intro entry member
    have none : Machine.loaded.kernel.maps.rows = [] := SlotTable.rows_empty
    rw [none] at member
    cases member
  · intro req disk standing
    exact (nothing req disk standing).elim
  · intro req disk standing
    exact (nothing req disk standing).elim

section Log

variable {log : List Event} {req other : LogdevReq} {disk number minor : Nat}

theorem standing_created
    (standing : Standing (.logdevCreated other number :: log) req disk) :
    (req = other ∧ disk = number) ∨ Standing log req disk := by
  obtain ⟨later, earlier, split, untouched⟩ := standing
  cases later with
  | nil =>
      cases split
      exact .inl ⟨rfl, rfl⟩
  | cons event later =>
      cases split
      exact .inr ⟨later, earlier, rfl,
        fun member => untouched (List.mem_cons_of_mem _ member)⟩

theorem standing_destroyed
    (standing : Standing (.logdevDestroyStarted minor :: log) req disk) :
    req.minor ≠ minor ∧ Standing log req disk := by
  obtain ⟨later, earlier, split, untouched⟩ := standing
  cases later with
  | nil => cases split
  | cons event later =>
      cases split
      constructor
      · rintro rfl
        exact untouched List.mem_cons_self
      · exact ⟨later, earlier, rfl,
          fun member => untouched (List.mem_cons_of_mem _ member)⟩

end Log

section Steps

variable {machine : Machine} {thread minor : Nat} {place : Thread}

theorem clears_goTo (apart : ¬Clears minor (machine.threads thread))
    (clears : ∃ other, Clears minor (machine.threads other)) :
    ∃ other, Clears minor ((goTo thread place machine).threads other) := by
  obtain ⟨other, busy⟩ := clears
  have different : other ≠ thread := by
    rintro rfl
    exact apart busy
  refine ⟨other, ?_⟩
  rw [goTo_threads_other place different]
  exact busy

theorem untouched_goTo (apart : place ≠ .destroyDetached minor)
    (untouched : ∀ other, machine.threads other ≠ .destroyDetached minor)
    (other : Nat) :
    (goTo thread place machine).threads other ≠ .destroyDetached minor := by
  by_cases same : other = thread
  · subst same
    rw [goTo_threads_self]
    exact apart
  · rw [goTo_threads_other place same]
    exact untouched other

theorem not_clears_idle (free : machine.threads thread = .idle) :
    ¬Clears minor (machine.threads thread) := by
  rw [free]
  rintro (busy | busy) <;> cases busy

theorem Guarded.create (guarded : Guarded machine) {req : LogdevReq}
    {blockLayer : Option Errno}
    (alone : validateLogdevReq req = true →
      machine.kernel.logdevs.get req.minor = none → blockLayer = none →
        ∀ other, machine.threads other ≠ .destroyDetached req.minor) :
    Guarded (create req blockLayer machine) := by
  unfold Concurrent.create
  cases result : logdevCreate blockLayer req machine.kernel with
  | error errno => exact guarded
  | ok kernel =>
      have noError := logdevCreate_blockLayer result
      obtain ⟨valid, free, rfl⟩ := logdevCreate_ok result
      have small := validateLogdevReq_minor valid
      have elsewhere : ∀ old disk, Standing machine.log old disk →
          req.minor ≠ old.minor := by
        intro old disk standing same
        have present := (guarded.live old disk standing).1
        rw [← same, free] at present
        cases present
      constructor
      · intro entry member
        rcases guarded.owned entry member with live | clears
        · left
          by_cases same : req.minor = entry.logicalMinor
          · simp only [report, ← same, SlotTable.get_put_self small]
            rfl
          · simp only [report, SlotTable.get_put_other same]
            exact live
        · exact .inr clears
      · intro old disk standing
        rcases standing_created standing with ⟨rfl, rfl⟩ | standing
        · exact ⟨SlotTable.get_put_self small, Function.update_self ..⟩
        · have different := elsewhere old disk standing
          obtain ⟨present, itsDisk⟩ := guarded.live old disk standing
          exact ⟨(SlotTable.get_put_other different).trans present,
            (Function.update_of_ne different.symm ..).trans itsDisk⟩
      · intro old disk standing
        rcases standing_created standing with ⟨rfl, rfl⟩ | standing
        · exact alone valid free noError
        · exact guarded.untouched old disk standing

theorem Guarded.started (guarded : Guarded machine) (minor : Nat) :
    Guarded (report (.logdevDestroyStarted minor) machine) := by
  constructor
  · exact guarded.owned
  · intro req disk standing
    exact guarded.live req disk (standing_destroyed standing).2
  · intro req disk standing
    exact guarded.untouched req disk (standing_destroyed standing).2

/-- Clearing a slot is harmless to the devices of the other minors. -/
theorem live_clearLogdev {req : LogdevReq} {disk : Nat}
    (different : req.minor ≠ minor) (live : Live machine req disk) :
    Live (clearLogdev minor machine) req disk :=
  ⟨(SlotTable.get_clear_other different.symm).trans live.1,
    (Function.update_of_ne different ..).trans live.2⟩

theorem owned_clearLogdev {entry : MapEntry}
    (moves : ¬Clears entry.logicalMinor (machine.threads thread) ∨
      entry.logicalMinor = minor)
    (place_clears : Clears minor place)
    (owned : (machine.kernel.logdevs.get entry.logicalMinor).isSome = true ∨
      ∃ other, Clears entry.logicalMinor (machine.threads other)) :
    ((clearLogdev minor machine).kernel.logdevs.get
        entry.logicalMinor).isSome = true ∨
      ∃ other, Clears entry.logicalMinor
        ((goTo thread place (clearLogdev minor machine)).threads other) := by
  by_cases same : entry.logicalMinor = minor
  · right
    refine ⟨thread, ?_⟩
    rw [goTo_threads_self, same]
    exact place_clears
  · have apart := moves.resolve_right same
    rcases owned with live | clears
    · left
      rw [clearLogdev, SlotTable.get_clear_other (Ne.symm same)]
      exact live
    · exact .inr (clears_goTo apart clears)

theorem Guarded.detach (guarded : Guarded machine)
    (free : machine.threads thread = .idle) :
    Guarded (detach thread minor machine) := by
  have started := guarded.started minor
  unfold Concurrent.detach
  simp only
  split
  · exact started
  · split
    · exact started
    · constructor
      · intro entry member
        exact owned_clearLogdev (.inl (not_clears_idle free)) (.inl rfl)
          (started.owned entry member)
      · intro req disk standing
        exact live_clearLogdev (standing_destroyed standing).1
          (started.live req disk standing)
      · intro req disk standing
        obtain ⟨different, _⟩ := standing_destroyed standing
        apply untouched_goTo
        · intro same
          cases same
          exact different rfl
        · exact started.untouched req disk standing

theorem Guarded.wipe (guarded : Guarded machine)
    (at' : machine.threads thread = .destroyDetached minor) :
    Guarded (wipe thread minor machine) := by
  constructor
  · intro entry member
    apply owned_clearLogdev _ (.inr rfl) (guarded.owned entry member)
    by_cases same : entry.logicalMinor = minor
    · exact .inr same
    · left
      rw [at']
      rintro (busy | busy)
      · cases busy
        exact same rfl
      · cases busy
  · intro req disk standing
    apply live_clearLogdev _ (guarded.live req disk standing)
    rintro rfl
    exact guarded.untouched req disk standing thread at'
  · intro req disk standing
    apply untouched_goTo
    · nofun
    · exact guarded.untouched req disk standing

/-- A thread moves on and the maps change; the devices stay. -/
theorem Guarded.moved (guarded : Guarded machine) (kernel : KernelState)
    (logdevs : kernel.logdevs = machine.kernel.logdevs)
    (idle : ∀ minor, place ≠ .destroyDetached minor)
    (owned : ∀ entry ∈ kernel.maps.rows,
      ¬Clears entry.logicalMinor (machine.threads thread) ∧
        ((machine.kernel.logdevs.get entry.logicalMinor).isSome = true ∨
          ∃ other, Clears entry.logicalMinor (machine.threads other))) :
    Guarded (goTo thread place { machine with kernel }) := by
  constructor
  · intro entry member
    obtain ⟨apart, live | clears⟩ := owned entry member
    · left
      rw [goTo_kernel, logdevs]
      exact live
    · exact .inr (clears_goTo apart clears)
  · intro req disk standing
    obtain ⟨present, itsDisk⟩ := guarded.live req disk standing
    refine ⟨?_, itsDisk⟩
    rw [goTo_kernel, logdevs]
    exact present
  · intro req disk standing
    exact untouched_goTo (idle _) (guarded.untouched req disk standing)

theorem Guarded.clear (guarded : Guarded machine)
    (at' : machine.threads thread = .destroyWiped minor) :
    Guarded (clear thread minor machine) := by
  apply guarded.moved (mapClearMinor minor machine.kernel) rfl (by nofun)
  intro entry member
  rw [mapClearMinor_rows] at member
  obtain ⟨old, kept⟩ := List.mem_filter.mp member
  refine ⟨?_, guarded.owned entry old⟩
  rw [at']
  rintro (busy | busy)
  · cases busy
  · cases busy
    simp [mapHasMinor] at kept

theorem Guarded.check (guarded : Guarded machine) {entry : MapEntry}
    (free : machine.threads thread = .idle) :
    Guarded (check thread entry machine) := by
  unfold Concurrent.check
  split
  · exact guarded
  · apply guarded.moved machine.kernel rfl (by nofun)
    intro old member
    exact ⟨not_clears_idle free, guarded.owned old member⟩

theorem Guarded.insert (guarded : Guarded machine) {entry : MapEntry}
    (at' : machine.threads thread = .mapAddChecked entry)
    (attached : machine.kernel.maps.rows.any (mapHasKey entry) = false →
      machine.kernel.maps.firstFree.isSome = true →
        (machine.kernel.logdevs.get entry.logicalMinor).isSome = true ∨
          ∃ other, Clears entry.logicalMinor (machine.threads other)) :
    Guarded (insert thread entry machine) := by
  have apart : ∀ minor, ¬Clears minor (machine.threads thread) := by
    intro minor
    rw [at']
    rintro (busy | busy) <;> cases busy
  unfold Concurrent.insert mapAddInsert
  split
  · apply guarded.moved machine.kernel rfl (by nofun)
    intro old member
    exact ⟨apart _, guarded.owned old member⟩
  · rename_i kernel added
    split at added
    · cases added
    · rename_i unused
      split at added
      · cases added
      · rename_i slot found
        cases added
        obtain ⟨bound, isFree⟩ := SlotTable.get_firstFree found
        have grown : (machine.kernel.maps.put slot entry).rows.Perm
            (entry :: machine.kernel.maps.rows) :=
          SlotTable.rows_put_perm bound isFree
        apply guarded.moved
          { machine.kernel with maps := machine.kernel.maps.put slot entry }
          rfl (by nofun)
        intro other member
        refine ⟨apart _, ?_⟩
        rcases List.mem_cons.mp (grown.mem_iff.mp member) with rfl | old
        · apply attached (Bool.eq_false_iff.mpr unused)
          rw [found]
          rfl
        · exact guarded.owned other old

theorem Guarded.delete (guarded : Guarded machine) {entry : MapEntry} :
    Guarded (delete entry machine) := by
  unfold Concurrent.delete
  split
  · exact guarded
  · rename_i kernel deleted
    obtain ⟨slot, found, rfl⟩ := mapDel_ok deleted
    obtain ⟨row, active, _⟩ := SlotTable.get_findSlot found
    constructor
    · intro other member
      exact guarded.owned other
        ((SlotTable.rows_clear_sublist active).subset member)
    · exact guarded.live
    · exact guarded.untouched

theorem Guarded.step (guarded : Guarded machine) (turn : Nat × Action)
    (serialized : Serialized machine turn) :
    Guarded (step machine turn) := by
  obtain ⟨thread, action⟩ := turn
  unfold Concurrent.step
  split
  · rename_i req blockLayer free act
    subst act
    exact guarded.create (serialized free)
  · rename_i minor free act
    subst act
    exact guarded.detach free
  · rename_i minor at' act
    subst act
    exact guarded.wipe at'
  · rename_i minor at' act
    subst act
    exact guarded.clear at'
  · rename_i entry free act
    subst act
    exact guarded.check free
  · rename_i entry at' act
    subst act
    exact guarded.insert at' (serialized entry at')
  · exact guarded.delete
  · exact guarded

end Steps

/-- In runs of that kind the tables are consistent whenever no ioctl is in
progress. -/
theorem consistent_when_quiescent (turns : List (Nat × Action))
    (serialized : Transition.Admissible step Serialized .loaded turns)
    (quiescent : (Transition.run step .loaded turns).Quiescent) :
    Consistent (Transition.run step .loaded turns) := by
  have guarded : Guarded (Transition.run step .loaded turns) :=
    Transition.run_invariant Guarded
      (fun _ turn guarded allowed => guarded.step turn allowed)
      guarded_loaded serialized
  exact guarded.consistent quiescent

/-- Between the sections of a `LOGDEV_DESTROY` another device is created, and a
map is added that was checked before. -/
def busyDestroy : List (Nat × Action) :=
  [(0, .logdevCreate eightSectors none), (1, .mapAddCheck eightSectorMap),
    (0, .logdevDestroy 0),
    (2, .logdevCreate { eightSectors with minor := 1 } none),
    (0, .destroyWipe), (1, .mapAddInsert), (0, .destroyClear)]

theorem consistent_after_busyDestroy :
    Consistent (Transition.run step .loaded busyDestroy) := by
  apply consistent_when_quiescent
  · refine ⟨?_, trivial, trivial, ?_, trivial, ?_, trivial, trivial⟩
    · intro _ _ _ _ other busy
      cases busy
    · intro _ _ _ _
      exact run_threads_listed (· ≠ .destroyDetached 1) (by decide)
        (show ∀ turn ∈ busyDestroy.take 3, (Transition.run step .loaded
          (busyDestroy.take 3)).threads turn.1 ≠ .destroyDetached 1 by
            decide +kernel)
    · intro entry checked _ _
      have place : (Transition.run step .loaded
          (busyDestroy.take 5)).threads 1 = .mapAddChecked eightSectorMap := by
        decide +kernel
      have destroys : (Transition.run step .loaded
          (busyDestroy.take 5)).threads 0 = .destroyWiped 0 := by
        decide +kernel
      obtain rfl := Thread.mapAddChecked.inj (place.symm.trans checked)
      exact .inr ⟨0, .inr destroys⟩
  · rw [quiescent_iff]
    decide +kernel

/-- The check of a `MAP_ADD`, a whole `LOGDEV_DESTROY`, the insertion. -/
def orphanedMap : List (Nat × Action) :=
  [(0, .logdevCreate eightSectors none), (1, .mapAddCheck eightSectorMap),
    (0, .logdevDestroy 0), (0, .destroyWipe), (0, .destroyClear),
    (1, .mapAddInsert)]

/-- A `LOGDEV_CREATE` between the sections of a `LOGDEV_DESTROY`. -/
def wipedDevice : List (Nat × Action) :=
  [(0, .logdevCreate eightSectors none), (0, .logdevDestroy 0),
    (1, .logdevCreate eightSectors none), (0, .destroyWipe), (0, .destroyClear)]

theorem inconsistent_when_quiescent :
    ((Transition.run step .loaded orphanedMap).Quiescent ∧
      ¬Consistent (Transition.run step .loaded orphanedMap)) ∧
    ((Transition.run step .loaded wipedDevice).Quiescent ∧
      ¬Consistent (Transition.run step .loaded wipedDevice)) := by
  refine ⟨⟨?_, ?_⟩, ?_, ?_⟩
  · rw [quiescent_iff]
    decide +kernel
  · intro consistent
    have orphan := consistent.owned eightSectorMap (by decide +kernel)
    exact absurd orphan (by decide +kernel)
  · rw [quiescent_iff]
    decide +kernel
  · intro consistent
    have live := consistent.standing eightSectors 1
      ⟨[], [.logdevDestroyStarted 0, .logdevCreated eightSectors 0], by
        decide +kernel, List.not_mem_nil⟩
    exact absurd live.1 (by decide +kernel)

end Consistency

end UbseSsu.Kernel.Concurrent

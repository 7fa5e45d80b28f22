import UbseSsu.Plugin.ReqshimIface

/-!
# What the ReqShim sequences do to the kernel tables

A mount and an unmount work on the tables of one minor only, a failed mount
leaves that minor as it was too, and a mount succeeds when the kernel has room
and the minor is free.
-/

namespace UbseSsu.Reqshim

open Kernel

variable {kernel after : KernelState} {minor : Nat}

/-- The step works on one minor and keeps maps and devices together. -/
structure OnlyMinor (minor : Nat) (before after : KernelState) : Prop where
  others : ∀ other ≠ minor, SameMinor other before after
  owned : MapsOwned before → MapsOwned after

theorem OnlyMinor.refl (minor : Nat) (kernel : KernelState) :
    OnlyMinor minor kernel kernel :=
  ⟨fun other _ => .refl other kernel, id⟩

theorem OnlyMinor.trans {first second third : KernelState}
    (left : OnlyMinor minor first second)
    (right : OnlyMinor minor second third) : OnlyMinor minor first third where
  others other different :=
    (left.others other different).trans (right.others other different)
  owned := right.owned ∘ left.owned

section Requests

variable {entry : MapEntry} {entries : List MapEntry}

theorem logdevCreate_only {blockLayer : Option Errno} {req : LogdevReq}
    (created : logdevCreate blockLayer req kernel = .ok after) :
    OnlyMinor req.minor kernel after where
  others _ different := logdevCreate_sameMinor created different.symm
  owned owned := logdevCreate_owned owned created

theorem logdevDestroy_only
    (destroyed : logdevDestroy minor kernel = .ok after) :
    OnlyMinor minor kernel after where
  others _ different := logdevDestroy_sameMinor destroyed different.symm
  owned owned := logdevDestroy_owned owned destroyed

theorem mapAdd_only (added : mapAdd entry kernel = .ok after) :
    OnlyMinor entry.logicalMinor kernel after where
  others _ different := mapAdd_sameMinor added different.symm
  owned owned := mapAdd_owned owned added

theorem mapDel_only (deleted : mapDel entry kernel = .ok after) :
    OnlyMinor entry.logicalMinor kernel after where
  others _ different := mapDel_sameMinor deleted different.symm
  owned owned := mapDel_owned owned deleted

theorem attempt_only {request : KernelState → Except Errno KernelState}
    (only : ∀ after, request kernel = .ok after →
      OnlyMinor minor kernel after) :
    OnlyMinor minor kernel (attempt request kernel) := by
  unfold attempt
  split
  · rename_i after accepted
    exact only after accepted
  · exact .refl minor kernel

theorem deleteMaps_only
    (sameMinor : ∀ entry ∈ entries, entry.logicalMinor = minor)
    (kernel : KernelState) :
    OnlyMinor minor kernel (deleteMaps entries kernel) := by
  induction entries generalizing kernel with
  | nil => exact .refl minor kernel
  | cons entry entries induction =>
      obtain ⟨first, others⟩ := List.forall_mem_cons.mp sameMinor
      have one : OnlyMinor minor kernel (attempt (mapDel entry) kernel) :=
        attempt_only fun after deleted => first ▸ mapDel_only deleted
      exact one.trans (induction others _)

theorem addMaps_only
    {added : List MapEntry}
    (sameMinor : ∀ entry ∈ entries, entry.logicalMinor = minor)
    (addedMinor : ∀ entry ∈ added, entry.logicalMinor = minor)
    (kernel : KernelState) :
    OnlyMinor minor kernel (addMaps minor entries added kernel).2 := by
  induction entries generalizing added kernel with
  | nil => exact .refl minor kernel
  | cons entry entries induction =>
      obtain ⟨first, others⟩ := List.forall_mem_cons.mp sameMinor
      simp only [addMaps]
      split
      · rename_i next accepted
        have one : OnlyMinor minor kernel next := first ▸ mapAdd_only accepted
        exact one.trans (induction others
          (List.forall_mem_cons.mpr ⟨first, addedMinor⟩) next)
      · exact (deleteMaps_only addedMinor kernel).trans
          (attempt_only fun after destroyed => logdevDestroy_only destroyed)

end Requests

section Entries

variable {spec : MapSpec} {specs : List MapSpec} {entry : MapEntry}
  {entries : List MapEntry} {capacity total : UInt64}

/-- The checks of one extent, and its entry. -/
structure EntryOf (minor : Nat) (spec : MapSpec) (entry : MapEntry) :
    Prop where
  minor : entry.logicalMinor = minor
  sector : entry.logicalSector = spec.logicalOffset / sectorSize
  lengthSectors : entry.lengthSectors = spec.length / sectorSize
  physDev : entry.physDev.chars = spec.physDev.chars
  physSector : entry.physSector = spec.physSector

theorem buildMapEntry_ok (built : buildMapEntry spec minor = .ok entry) :
    EntryOf minor spec entry := by
  unfold buildMapEntry at built
  split at built
  · contradiction
  · split at built
    · contradiction
    · have same := Except.ok.inj built
      subst same
      exact ⟨rfl, rfl, rfl, rfl, rfl⟩

theorem buildEntriesLoop_ok
    (built : buildEntriesLoop minor specs capacity = .ok (entries, total)) :
    List.Forall₂ (EntryOf minor) specs entries := by
  induction specs generalizing capacity total entries with
  | nil =>
      simp only [buildEntriesLoop, Except.ok.injEq, Prod.mk.injEq] at built
      exact built.1 ▸ .nil
  | cons spec specs induction =>
      simp only [buildEntriesLoop] at built
      split at built
      · contradiction
      · split at built
        · contradiction
        · rename_i entry first
          split at built
          · contradiction
          · rename_i rest _ others
            simp only [Except.ok.injEq, Prod.mk.injEq] at built
            rw [← built.1]
            exact .cons (buildMapEntry_ok first) (induction others)

theorem buildEntries_ok
    (built : buildEntries specs minor = .ok (entries, total)) :
    List.Forall₂ (EntryOf minor) specs entries := by
  unfold buildEntries at built
  split at built
  · contradiction
  · rename_i loop
    split at built
    · contradiction
    · simp only [Except.ok.injEq, Prod.mk.injEq] at built
      exact built.1 ▸ buildEntriesLoop_ok loop

theorem entries_minor (built : List.Forall₂ (EntryOf minor) specs entries) :
    ∀ entry ∈ entries, entry.logicalMinor = minor := by
  induction built with
  | nil => nofun
  | cons first _ induction =>
      exact List.forall_mem_cons.mpr ⟨first.minor, induction⟩

end Entries

section Control

variable {allowMissing : Bool} {ctl : CtlAnswer}

theorem errnoToSsuErr_ne_ok (errno : Errno) : errnoToSsuErr errno ≠ .ok := by
  cases errno <;> simp [errnoToSsuErr]

/-- The control device opens and speaks the same version. -/
def CtlAnswer.Ready (ctl : CtlAnswer) : Prop :=
  ctl.openErrno = none ∧ ctl.version = .ok uapiVersion

instance (ctl : CtlAnswer) : Decidable ctl.Ready :=
  inferInstanceAs (Decidable (_ ∧ _))

theorem checkVersion_ready (ready : ctl.Ready) : checkVersion ctl = .ok := by
  simp [checkVersion, ready.2]

theorem version_of_checkVersion (agreed : checkVersion ctl = .ok) :
    ctl.version = .ok uapiVersion := by
  unfold checkVersion at agreed
  split at agreed
  · exact (errnoToSsuErr_ne_ok _ agreed).elim
  · rename_i version answered
    split at agreed
    · rename_i same
      rw [answered, same]
    · cases agreed

theorem openErrno_of_opened
    (opened : openReqshimCtl allowMissing ctl = .opened) :
    ctl.openErrno = none := by
  unfold openReqshimCtl at opened
  split at opened
  · assumption
  · split at opened <;> cases opened
  · split at opened <;> cases opened
  · cases opened

end Control

section Sequences

variable {logicalDev : CString} {specs : List MapSpec} {allowMissing : Bool}
  {ctl : CtlAnswer}

theorem mountLogdevWithMinor_only (logicalDev : CString) (minor : Nat)
    (specs : List MapSpec) (allowMissing : Bool) (ctl : CtlAnswer)
    (kernel : KernelState) :
    OnlyMinor minor kernel
      (mountLogdevWithMinor logicalDev minor specs allowMissing ctl kernel).2 := by
  have unchanged := OnlyMinor.refl minor kernel
  unfold mountLogdevWithMinor
  split
  · exact unchanged
  · split
    · exact unchanged
    · rename_i entries capacity built
      have sameMinor := entries_minor (buildEntries_ok built)
      split
      · exact unchanged
      · split
        · exact unchanged
        · exact unchanged
        · split
          · simp only
            split
            · exact unchanged
            · rename_i created accepted
              exact (logdevCreate_only accepted).trans
                (addMaps_only sameMinor (by simp) created)
          · exact unchanged

theorem unmountLogdevWithMinor_only (minor : Nat) (specs : List MapSpec)
    (allowMissing : Bool) (ctl : CtlAnswer) (kernel : KernelState) :
    OnlyMinor minor kernel
      (unmountLogdevWithMinor minor specs allowMissing ctl kernel).2 := by
  have unchanged := OnlyMinor.refl minor kernel
  unfold unmountLogdevWithMinor
  simp only
  split
  · exact unchanged
  · rename_i entries _ built
    have sameMinor : ∀ entry ∈ entries, entry.logicalMinor = minor := by
      split at built
      · simp only [Except.ok.injEq, Prod.mk.injEq] at built
        rw [← built.1]
        nofun
      · exact entries_minor (buildEntries_ok built)
    split
    · exact unchanged
    · exact unchanged
    · split
      · have deleted := deleteMaps_only sameMinor kernel
        split
        · rename_i destroyed
          exact deleted.trans (logdevDestroy_only destroyed)
        · exact deleted
      · exact unchanged

theorem attempt_mapDel_logdevs (entry : MapEntry) (kernel : KernelState) :
    (attempt (mapDel entry) kernel).logdevs = kernel.logdevs := by
  unfold attempt
  split
  · rename_i deleted
    obtain ⟨_, _, rfl⟩ := mapDel_ok deleted
    rfl
  · rfl

theorem deleteMaps_logdevs (entries : List MapEntry) (kernel : KernelState) :
    (deleteMaps entries kernel).logdevs = kernel.logdevs := by
  induction entries generalizing kernel with
  | nil => rfl
  | cons entry entries induction =>
      exact (induction _).trans (attempt_mapDel_logdevs entry kernel)

/-- The minor has no device and no map. -/
structure Bare (minor : Nat) (kernel : KernelState) : Prop where
  logdev : kernel.logdevs.get minor = none
  maps : kernel.maps.rows.filter (mapHasMinor minor) = []

theorem bare_of_free (owned : MapsOwned kernel)
    (free : kernel.logdevs.get minor = none) : Bare minor kernel := by
  refine ⟨free, ?_⟩
  apply List.filter_eq_nil_iff.mpr
  intro entry member found
  have owner := owned entry member
  rw [of_decide_eq_true found, free] at owner
  cases owner

theorem Bare.sameMinor (first : Bare minor kernel) (second : Bare minor after) :
    SameMinor minor kernel after :=
  ⟨second.logdev.trans first.logdev.symm, second.maps.trans first.maps.symm⟩

/-- The destroyed minor shows nothing any more. -/
theorem attempt_logdevDestroy_minor
    (present : (kernel.logdevs.get minor).isSome = true) :
    Bare minor (attempt (logdevDestroy minor) kernel) := by
  obtain ⟨req, active⟩ := Option.isSome_iff_exists.mp present
  have bound := SlotTable.lt_size_of_get_eq_some active
  have destroyed : logdevDestroy minor kernel =
      .ok (mapClearMinor minor
        { kernel with logdevs := kernel.logdevs.clear minor }) := by
    unfold logdevDestroy
    rw [if_neg (Nat.not_le.mpr bound), active]
    rfl
  rw [attempt, destroyed]
  refine ⟨SlotTable.get_clear_self, ?_⟩
  rw [mapClearMinor_rows, List.filter_filter]
  exact List.filter_eq_nil_iff.mpr (by simp)

/-- A refused `MAP_ADD` ends with the destruction of the new device. -/
theorem addMaps_failed {entries added : List MapEntry}
    (failed : (addMaps minor entries added kernel).1 ≠ .ok) :
    ∃ middle, middle.logdevs = kernel.logdevs ∧
      (addMaps minor entries added kernel).2 =
        attempt (logdevDestroy minor) middle := by
  induction entries generalizing added kernel with
  | nil => exact (failed rfl).elim
  | cons entry entries induction =>
      simp only [addMaps] at failed ⊢
      split
      · rename_i next accepted
        rw [accepted] at failed
        obtain ⟨middle, same, result⟩ := induction failed
        obtain ⟨_, _, _, _, rfl⟩ := mapAdd_ok accepted
        exact ⟨middle, same, result⟩
      · exact ⟨_, deleteMaps_logdevs added kernel, rfl⟩

/-- A failed mount leaves no trace on any minor. -/
theorem mountLogdevWithMinor_failed (owned : MapsOwned kernel)
    (failed : (mountLogdevWithMinor logicalDev minor specs allowMissing ctl
      kernel).1 ≠ .ok) (other : Nat) :
    SameMinor other kernel (mountLogdevWithMinor logicalDev minor specs
      allowMissing ctl kernel).2 := by
  by_cases different : other ≠ minor
  · exact (mountLogdevWithMinor_only logicalDev minor specs allowMissing ctl
      kernel).others other different
  · obtain rfl := not_not.mp different
    have unchanged := SameMinor.refl other kernel
    revert failed
    unfold mountLogdevWithMinor
    split
    · exact fun _ => unchanged
    · split
      · exact fun _ => unchanged
      · split
        · exact fun _ => unchanged
        · split
          · exact fun _ => unchanged
          · exact fun _ => unchanged
          · split
            · simp only
              split
              · exact fun _ => unchanged
              · rename_i created accepted
                intro failed
                obtain ⟨valid, free, rfl⟩ := logdevCreate_ok accepted
                obtain ⟨middle, same, result⟩ := addMaps_failed failed
                have present : (middle.logdevs.get other).isSome = true := by
                  rw [same,
                    SlotTable.get_put_self (validateLogdevReq_minor valid)]
                  rfl
                rw [result]
                exact (bare_of_free owned free).sameMinor
                  (attempt_logdevDestroy_minor present)
            · exact fun _ => unchanged

/-- The unmount of a path without any known extent: one `LOGDEV_DESTROY`. -/
theorem unmountLogdevWithMinor_nil (minor : Nat) (allowMissing : Bool)
    (ctl : CtlAnswer) (kernel : KernelState) :
    (unmountLogdevWithMinor minor [] allowMissing ctl kernel).2 =
      if ctl.Ready then attempt (logdevDestroy minor) kernel
      else kernel := by
  by_cases ready : ctl.Ready
  · rw [if_pos ready]
    simp only [unmountLogdevWithMinor, openReqshimCtl, ready.1,
      checkVersion_ready ready, deleteMaps, List.foldl_nil, if_true, attempt]
    split <;> rfl
  · rw [if_neg ready]
    simp only [unmountLogdevWithMinor, if_true]
    split
    · rfl
    · rfl
    · rename_i opened
      have present := openErrno_of_opened opened
      split
      · rename_i agreed
        exact (ready ⟨present, version_of_checkVersion agreed⟩).elim
      · rfl

end Sequences

end UbseSsu.Reqshim

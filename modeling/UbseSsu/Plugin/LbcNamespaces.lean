import UbseSsu.Library.Transition
import UbseSsu.Plugin.LbcScans

/-!
# What the LBC mock plugin knows of its namespaces

A scan that sees the whole directory before the script tells the new entries
from the old ones.  A record then names what its own script has made.  The
plugin loses track where the script has made only one of device and namespace,
and where a scan fails.
-/

namespace UbseSsu.Plugin

section Sets

variable {text entry : CString} {texts before : List CString}
  {scans : Nat → List CString}

theorem mem_insertString :
    entry ∈ insertString text texts ↔ entry = text ∨ entry ∈ texts := by
  induction texts with
  | nil => simp [insertString]
  | cons first others induction =>
      simp only [insertString]
      split
      · rename_i same
        subst same
        simp
      · split
        · simp
        · rw [List.mem_cons, induction, List.mem_cons]
          tauto

theorem mem_stringSet : entry ∈ stringSet texts ↔ entry ∈ texts := by
  have folded : ∀ sorted : List CString,
      entry ∈ texts.foldl (fun sorted text => insertString text sorted) sorted ↔
        entry ∈ sorted ∨ entry ∈ texts := by
    induction texts with
    | nil => simp
    | cons text texts induction =>
        intro sorted
        rw [List.foldl_cons, induction, mem_insertString, List.mem_cons]
        tauto
  have whole := folded []
  rw [stringSet, whole]
  simp

theorem firstNewEntry_some (chosen : firstNewEntry before scans = some entry) :
    ∃ attempt, entry ∈ scans attempt ∧ entry ∉ before := by
  obtain ⟨attempt, _, found⟩ := List.exists_of_findSome?_eq_some chosen
  refine ⟨attempt, List.mem_of_find?_eq_some found, ?_⟩
  simpa using List.find?_some found

theorem firstNewEntry_none (missing : firstNewEntry before scans = none)
    {attempt : Nat} (bound : attempt < maxScans)
    (present : entry ∈ scans attempt) : entry ∈ before := by
  have scan := List.findSome?_eq_none_iff.mp missing attempt
    (List.mem_range.mpr bound)
  simpa using List.find?_eq_none.mp scan entry present

/-- The fall-back of `choose_created_dev` finds nothing that the scans have
not found. -/
theorem chooseCreatedDev_eq (before : List CString)
    (scans : Nat → List CString) :
    chooseCreatedDev before scans = firstNewEntry before scans := by
  unfold chooseCreatedDev
  split
  · rename_i path found
    exact found.symm
  · rename_i missing
    rw [missing]
    split
    · rename_i empty
      cases last : scans (maxScans - 1) with
      | nil => rfl
      | cons first others =>
          have known : first ∈ before := by
            apply firstNewEntry_none missing (show maxScans - 1 < maxScans by decide)
            rw [last]
            exact List.mem_cons_self
          rw [List.isEmpty_iff.mp empty] at known
          cases known
    · rfl

end Sets

section Seen

variable (host : LbcScanHost)

/-- The path of the device node, as the scans of the plugin see it. -/
def seenDevice (space : Space) : Option CString :=
  (space.device.filter isNvmeNamespaceName).bind (checkedJoin 512 host.devDir)

def seenNsid (space : Space) : Option CString :=
  (namespaceRootPath host).bind fun _ => space.nsid.filter isNamespaceIdName

/-- A scan that opens its directory sees what is there to see. -/
def Shows (seen : Space → Option CString) (scan : List CString) (opens : Bool)
    (spaces : List Space) : Prop :=
  ∀ entry, entry ∈ scan ↔ opens = true ∧ ∃ space ∈ spaces,
    seen space = some entry

theorem scanNvmeNamespaces_shows (opens : Bool) (spaces : List Space) :
    Shows (seenDevice host)
      (scanNvmeNamespaces host (entriesOf opens (devices spaces))) opens
        spaces := by
  intro entry
  cases opens with
  | false => simp [scanNvmeNamespaces, entriesOf, stringSet]
  | true =>
      simp only [scanNvmeNamespaces, entriesOf, if_true, Option.getD_some,
        mem_stringSet, List.mem_filterMap, List.mem_filter, devices,
        seenDevice, true_and]
      constructor
      · rintro ⟨name, ⟨⟨space, member, device⟩, valid⟩, joined⟩
        refine ⟨space, member, ?_⟩
        rw [device, Option.filter_some_pos valid, Option.bind_some, joined]
      · rintro ⟨space, member, seen⟩
        obtain ⟨name, kept, joined⟩ := Option.bind_eq_some_iff.mp seen
        obtain ⟨device, valid⟩ := Option.filter_eq_some_iff.mp kept
        exact ⟨name, ⟨⟨space, member, device⟩, valid⟩, joined⟩

theorem scanConfigfsNamespaceIds_shows (opens : Bool) (spaces : List Space) :
    Shows (seenNsid host)
      (scanConfigfsNamespaceIds host (entriesOf opens (nsids spaces))) opens
        spaces := by
  intro entry
  unfold scanConfigfsNamespaceIds seenNsid
  cases namespaceRootPath host with
  | none => simp
  | some root =>
      cases opens with
      | false => simp [entriesOf, stringSet]
      | true =>
          simp only [entriesOf, if_true, Option.getD_some, mem_stringSet,
            List.mem_filter, nsids, List.mem_filterMap, Option.bind_some,
            true_and]
          constructor
          · rintro ⟨⟨space, member, nsid⟩, valid⟩
            refine ⟨space, member, ?_⟩
            rw [nsid, Option.filter_some_pos valid]
          · rintro ⟨space, member, seen⟩
            obtain ⟨nsid, valid⟩ := Option.filter_eq_some_iff.mp seen
            exact ⟨⟨space, member, nsid⟩, valid⟩

variable {seen : Space → Option CString} {spaces : List Space} {made : Space}
  {before : List CString} {scans : Nat → List CString} {opensBefore : Bool}
  {opensAfter : Nat → Bool} {entry : CString}

/-- The scan before the script has missed nothing. -/
def MissesNothing (seen : Space → Option CString) (opens : Bool)
    (spaces : List Space) : Prop :=
  opens = true ∨ ∀ space ∈ spaces, seen space = none

/-- What is found is what the script has made. -/
theorem firstNewEntry_made (earlier : Shows seen before opensBefore spaces)
    (complete : MissesNothing seen opensBefore spaces)
    (later : ∀ attempt, Shows seen (scans attempt) (opensAfter attempt)
      (spaces ++ [made]))
    (chosen : firstNewEntry before scans = some entry) :
    seen made = some entry ∧ ∀ space ∈ spaces, seen space ≠ some entry := by
  obtain ⟨attempt, present, new⟩ := firstNewEntry_some chosen
  have fresh : ∀ space ∈ spaces, seen space ≠ some entry := by
    intro space member same
    rcases complete with opens | nothing
    · exact new ((earlier entry).mpr ⟨opens, space, member, same⟩)
    · rw [nothing space member] at same
      cases same
  obtain ⟨_, space, member, same⟩ := (later attempt entry).mp present
  rcases List.mem_append.mp member with old | last
  · exact (fresh space old same).elim
  · rw [List.mem_singleton.mp last] at same
    exact ⟨same, fresh⟩

/-- What the script has made is found by a scan that opens the directory. -/
theorem firstNewEntry_found (earlier : Shows seen before opensBefore spaces)
    (later : ∀ attempt, Shows seen (scans attempt) (opensAfter attempt)
      (spaces ++ [made]))
    (new : seen made = some entry)
    (fresh : ∀ space ∈ spaces, seen space ≠ some entry) {attempt : Nat}
    (bound : attempt < maxScans) (opens : opensAfter attempt = true) :
    firstNewEntry before scans ≠ none := by
  intro missing
  have present : entry ∈ scans attempt := by
    rw [later attempt entry]
    exact ⟨opens, made, List.mem_append_right _ List.mem_cons_self, new⟩
  have old := firstNewEntry_none missing bound present
  obtain ⟨_, space, member, same⟩ := (earlier entry).mp old
  exact fresh space member same

end Seen

section Create

variable {host : LbcScanHost} {run : CreateRun} {spaces : List Space}

theorem copyCstr_chars_iff {size : Nat} {text : CString} :
    (copyCstr size text).chars = text ↔ text.length ≤ size - 1 :=
  ⟨fun same => same ▸ (copyCstr size text).fits, copyCstr_chars_of_fits⟩

theorem checkedJoin_some {size : Nat} {lead name joined : CString}
    (done : checkedJoin size lead name = some joined) :
    joined = (if lead.getLast? = some '/' then lead else lead ++ ['/']) ++
      name := by
  unfold checkedJoin at done
  by_cases slash : lead.getLast? = some '/'
  · simp only [if_pos slash] at done ⊢
    split at done
    · cases done
    · split at done
      · exact (Option.some.inj done).symm
      · cases done
  · simp only [if_neg slash] at done ⊢
    split at done
    · cases done
    · split at done
      · rw [← Option.some.inj done, List.append_assoc, List.singleton_append]
      · cases done

theorem checkedJoin_injective {size : Nat} {lead left right joined : CString}
    (first : checkedJoin size lead left = some joined)
    (second : checkedJoin size lead right = some joined) : left = right :=
  List.append_cancel_left
    ((checkedJoin_some first).symm.trans (checkedJoin_some second))

/-- What the script makes was not there before, and the scans can see it. -/
structure Appears (host : LbcScanHost) (made : Space) (spaces : List Space) :
    Prop where
  device : ∀ name ∈ made.device,
    (seenDevice host made).isSome = true ∧ name ∉ devices spaces
  nsid : ∀ nsId ∈ made.nsid,
    seenNsid host made = some nsId ∧ nsId ∉ nsids spaces

theorem seenDevice_some {space : Space} {path : CString}
    (seen : seenDevice host space = some path) :
    ∃ name, space.device = some name ∧
      checkedJoin 512 host.devDir name = some path := by
  obtain ⟨name, kept, joined⟩ := Option.bind_eq_some_iff.mp seen
  exact ⟨name, (Option.filter_eq_some_iff.mp kept).1, joined⟩

theorem seenNsid_some {space : Space} {nsId : CString}
    (seen : seenNsid host space = some nsId) : space.nsid = some nsId := by
  obtain ⟨_, _, kept⟩ := Option.bind_eq_some_iff.mp seen
  exact (Option.filter_eq_some_iff.mp kept).1

theorem Appears.freshDevice (appears : Appears host run.made spaces)
    {path : CString} (seen : seenDevice host run.made = some path) :
    ∀ space ∈ spaces, seenDevice host space ≠ some path := by
  intro space member same
  obtain ⟨name, device, joined⟩ := seenDevice_some seen
  obtain ⟨other, otherDevice, otherJoined⟩ := seenDevice_some same
  have equal := checkedJoin_injective joined otherJoined
  apply (appears.device name device).2
  exact List.mem_filterMap.mpr ⟨space, member, equal ▸ otherDevice⟩

theorem Appears.freshNsid (appears : Appears host run.made spaces)
    {nsId : CString} (seen : seenNsid host run.made = some nsId) :
    ∀ space ∈ spaces, seenNsid host space ≠ some nsId := by
  intro space member same
  apply (appears.nsid nsId (seenNsid_some seen)).2
  exact List.mem_filterMap.mpr ⟨space, member, seenNsid_some same⟩

theorem Appears.seenNsid_eq (appears : Appears host run.made spaces) :
    seenNsid host run.made = run.made.nsid := by
  cases nsid : run.made.nsid with
  | some nsId => exact (appears.nsid nsId nsid).1
  | none =>
      cases seen : seenNsid host run.made with
      | none => rfl
      | some nsId =>
          rw [seenNsid_some seen] at nsid
          cases nsid

theorem Appears.seenDevice_isSome (appears : Appears host run.made spaces) :
    (seenDevice host run.made).isSome = run.made.device.isSome := by
  cases device : run.made.device with
  | some name => exact (appears.device name device).1
  | none => simp [seenDevice, device]

/-- The scans open their directories: before the script, and once after it. -/
structure ScansOpen (run : CreateRun) : Prop where
  devBefore : run.devBefore = true
  nsidBefore : run.nsidBefore = true
  devAfter : ∃ attempt < maxScans, run.devAfter attempt = true
  nsidAfter : ∃ attempt < maxScans, run.nsidAfter attempt = true

/-- A device that the scans find is the script's own. -/
theorem createdDevOf_made
    (complete : MissesNothing (seenDevice host) run.devBefore spaces)
    {path : CString} (chosen : createdDevOf host run spaces = some path) :
    seenDevice host run.made = some path ∧
      ∀ space ∈ spaces, seenDevice host space ≠ some path := by
  rw [createdDevOf, chooseCreatedDev_eq] at chosen
  exact firstNewEntry_made (scanNvmeNamespaces_shows host _ _) complete
    (fun _ => scanNvmeNamespaces_shows host _ _) chosen

theorem createdNsidOf_made
    (complete : MissesNothing (seenNsid host) run.nsidBefore spaces)
    {nsId : CString} (chosen : createdNsidOf host run spaces = some nsId) :
    seenNsid host run.made = some nsId ∧
      ∀ space ∈ spaces, seenNsid host space ≠ some nsId :=
  firstNewEntry_made (scanConfigfsNamespaceIds_shows host _ _) complete
    (fun _ => scanConfigfsNamespaceIds_shows host _ _) chosen

theorem createdDevOf_found (appears : Appears host run.made spaces)
    {path : CString} (seen : seenDevice host run.made = some path)
    {attempt : Nat} (bound : attempt < maxScans)
    (opens : run.devAfter attempt = true) :
    createdDevOf host run spaces ≠ none := by
  rw [createdDevOf, chooseCreatedDev_eq]
  exact firstNewEntry_found (scanNvmeNamespaces_shows host _ _)
    (fun _ => scanNvmeNamespaces_shows host _ _) seen
    (appears.freshDevice seen) bound opens

theorem createdNsidOf_found (appears : Appears host run.made spaces)
    {nsId : CString} (seen : seenNsid host run.made = some nsId)
    {attempt : Nat} (bound : attempt < maxScans)
    (opens : run.nsidAfter attempt = true) :
    createdNsidOf host run spaces ≠ none :=
  firstNewEntry_found (scanConfigfsNamespaceIds_shows host _ _)
    (fun _ => scanConfigfsNamespaceIds_shows host _ _) seen
    (appears.freshNsid seen) bound opens

theorem createdDevOf_eq (appears : Appears host run.made spaces)
    (scans : ScansOpen run) :
    createdDevOf host run spaces = seenDevice host run.made := by
  cases chosen : createdDevOf host run spaces with
  | some path => exact (createdDevOf_made (.inl scans.devBefore) chosen).1.symm
  | none =>
      cases seen : seenDevice host run.made with
      | none => rfl
      | some path =>
          obtain ⟨attempt, bound, opens⟩ := scans.devAfter
          exact (createdDevOf_found appears seen bound opens chosen).elim

theorem createdNsidOf_eq (appears : Appears host run.made spaces)
    (scans : ScansOpen run) :
    createdNsidOf host run spaces = run.made.nsid := by
  rw [← appears.seenNsid_eq]
  cases chosen : createdNsidOf host run spaces with
  | some nsId =>
      exact (createdNsidOf_made (.inl scans.nsidBefore) chosen).1.symm
  | none =>
      cases seen : seenNsid host run.made with
      | none => rfl
      | some nsId =>
          obtain ⟨attempt, bound, opens⟩ := scans.nsidAfter
          exact (createdNsidOf_found appears seen bound opens chosen).elim

end Create

section Clean

variable {host : LbcScanHost} {extentReq : SsuExtentCreateReq}
  {run : CreateRun} {world : LbcWorld}

/-- A failed call leaves no namespace of its own and no record; a successful
one adds one record, of the device and the namespace that its script made. -/
structure CreateClean (host : LbcScanHost) (run : CreateRun)
    (world : LbcWorld) (result : CreateNsAnswer × LbcWorld) : Prop where
  failed : result.1.err ≠ .ok →
    result.2.plugin.namespaces = world.plugin.namespaces ∧
      ∀ nsId ∈ nsids result.2.spaces, nsId ∈ nsids world.spaces
  recorded : result.1.err = .ok → ∃ slot ns,
    world.plugin.namespaces.firstFree = some slot ∧
      result.2.plugin.namespaces = world.plugin.namespaces.put slot ns ∧
        run.made.nsid = some ns.nsId.chars ∧
          seenDevice host run.made = some ns.devPath.chars

/-- A script that succeeds makes both or neither, and what is recorded or
cleaned up fits its field. -/
structure WholeOutcome (host : LbcScanHost) (run : CreateRun) : Prop where
  whole : run.succeeds = true → run.made.device.isSome = run.made.nsid.isSome
  nsidFits : ∀ nsId ∈ run.made.nsid, nsId.length < 32
  deviceFits : run.made.nsid.isSome = true →
    ∀ path ∈ seenDevice host run.made, path.length < 256

theorem mem_nsids_append {spaces : List Space} {made : Space}
    {nsId : CString} :
    nsId ∈ nsids (spaces ++ [made]) ↔
      nsId ∈ nsids spaces ∨ made.nsid = some nsId := by
  simp only [nsids, List.filterMap_append, List.mem_append, List.mem_filterMap,
    List.mem_singleton, exists_eq_left]

theorem mem_nsids_cleanup {spaces : List Space} {cleaned nsId : CString} :
    nsId ∈ nsids (cleanupConfigfsNamespaceId cleaned spaces) ↔
      nsId ∈ nsids spaces ∧ nsId ≠ cleaned := by
  simp only [nsids, cleanupConfigfsNamespaceId, List.filterMap_map,
    List.mem_filterMap, Function.comp_apply]
  constructor
  · rintro ⟨space, member, kept⟩
    split at kept
    · cases kept
    · rename_i other
      exact ⟨⟨space, member, kept⟩, fun same => other (same ▸ kept)⟩
  · rintro ⟨⟨space, member, kept⟩, other⟩
    refine ⟨space, member, ?_⟩
    rw [if_neg]
    · exact kept
    · intro same
      exact other (Option.some.inj (kept.symm.trans same))

/-- The namespace of the script is gone after the call where the cleanup was
called, with the whole id. -/
theorem spacesAfterScript_clean_iff
    (appears : Appears host run.made world.spaces) (scans : ScansOpen run) :
    (∀ nsId ∈ nsids (spacesAfterScript host run world.spaces),
        nsId ∈ nsids world.spaces) ↔
      ∀ nsId ∈ run.made.nsid, run.succeeds = false ∧
        createdDevOf host run world.spaces = none ∧ nsId.length < 32 := by
  unfold spacesAfterScript
  rw [createdNsidOf_eq appears scans]
  cases nsid : run.made.nsid with
  | none => simp [mem_nsids_append, nsid]
  | some made =>
      have fresh := (appears.nsid made nsid).2
      simp only [Option.mem_some_iff, forall_eq']
      by_cases cleaned : (!run.succeeds &&
          (createdDevOf host run world.spaces).isNone) = true
      · rw [if_pos cleaned]
        obtain ⟨failed, missing⟩ := (Bool.and_eq_true _ _).mp cleaned
        rw [Bool.not_eq_true'] at failed
        simp only [mem_nsids_cleanup, mem_nsids_append, nsid, and_imp, failed,
          Option.isNone_iff_eq_none.mp missing, true_and]
        constructor
        · intro clean
          by_contra large
          apply fresh
          apply clean made (.inr rfl)
          intro same
          have fits := copyCstr_chars_iff.mp same.symm
          omega
        · intro fits nsId member other
          rcases member with old | new
          · exact old
          · apply (other _).elim
            rw [copyCstr_chars_of_fits (by omega), Option.some.inj new]
      · rw [if_neg cleaned]
        simp only [mem_nsids_append, nsid]
        constructor
        · intro clean
          exact (fresh (clean made (.inr rfl))).elim
        · rintro ⟨failed, missing, _⟩
          simp [failed, missing] at cleaned

theorem createdDevOf_isSome (appears : Appears host run.made world.spaces)
    (scans : ScansOpen run) :
    (createdDevOf host run world.spaces).isSome = run.made.device.isSome := by
  rw [createdDevOf_eq appears scans, appears.seenDevice_isSome]

/-- Exactly when a call that has reached its script records nothing. -/
theorem recordedTexts_eq_none_iff
    (appears : Appears host run.made world.spaces) (scans : ScansOpen run) :
    recordedTexts host run world = none ↔
      createdDevOf host run world.spaces = none ∨
        run.succeeds = false ∧ run.made.nsid = none := by
  unfold recordedTexts
  rw [createdNsidOf_eq appears scans]
  cases createdDevOf host run world.spaces with
  | none => simp
  | some path =>
      cases run.made.nsid with
      | some nsId => simp
      | none => simp

theorem clean_of_unrecorded (appears : Appears host run.made world.spaces)
    (scans : ScansOpen run)
    (unrecorded : recordedTexts host run world = none) :
    (∀ nsId ∈ nsids (spacesAfterScript host run world.spaces),
        nsId ∈ nsids world.spaces) ↔ WholeOutcome host run := by
  rw [spacesAfterScript_clean_iff appears scans]
  rw [recordedTexts_eq_none_iff appears scans] at unrecorded
  have seen := createdDevOf_isSome appears scans
  have device := createdDevOf_eq appears scans
  constructor
  · intro gone
    cases nsid : run.made.nsid with
    | some made =>
        obtain ⟨failed, missing, fits⟩ := gone made nsid
        refine ⟨?_, ?_, ?_⟩
        · intro succeeds
          rw [failed] at succeeds
          cases succeeds
        · intro nsId same
          rw [nsid] at same
          cases same
          exact fits
        · intro _ path present
          rw [← device, missing] at present
          cases present
    | none =>
        refine ⟨?_, ?_, ?_⟩
        · intro succeeds
          rcases unrecorded with missing | ⟨failed, _⟩
          · rw [← seen, missing, nsid]
          · rw [failed] at succeeds
            cases succeeds
        · intro nsId same
          rw [nsid] at same
          cases same
        · intro present
          rw [nsid] at present
          cases present
  · intro outcome nsId made
    have missing : createdDevOf host run world.spaces = none := by
      rcases unrecorded with missing | ⟨_, absent⟩
      · exact missing
      · rw [absent] at made
        cases made
    refine ⟨?_, missing, outcome.nsidFits nsId made⟩
    by_contra succeeds
    have both := outcome.whole (by simpa using succeeds)
    rw [← seen, missing, Option.mem_def.mp made] at both
    cases both

/-- The record of a call names what its script has made. -/
theorem recordedTexts_made_iff
    (appears : Appears host run.made world.spaces) (scans : ScansOpen run)
    {path nsId : CString}
    (texts : recordedTexts host run world = some (path, nsId)) :
    (run.made.nsid = some (copyCstr 32 nsId).chars ∧
        seenDevice host run.made = some (copyCstr 256 path).chars) ↔
      WholeOutcome host run := by
  have seen := createdDevOf_isSome appears scans
  have device := createdDevOf_eq appears scans
  unfold recordedTexts at texts
  rw [createdNsidOf_eq appears scans] at texts
  cases chosen : createdDevOf host run world.spaces with
  | none => simp [chosen] at texts
  | some devPath =>
      rw [chosen] at seen device
      cases nsid : run.made.nsid with
      | some made =>
          simp only [chosen, nsid, Option.some.injEq, Prod.mk.injEq] at texts
          obtain ⟨rfl, rfl⟩ := texts
          rw [← device, Option.some.injEq, Option.some.injEq, eq_comm,
            copyCstr_chars_iff, eq_comm, copyCstr_chars_iff]
          constructor
          · rintro ⟨nsidFits, deviceFits⟩
            refine ⟨?_, ?_, ?_⟩
            · intro _
              rw [← seen, nsid]
              rfl
            · intro nsId same
              rw [nsid] at same
              cases same
              omega
            · intro _ path same
              rw [← device] at same
              cases same
              omega
          · intro outcome
            have nsidFits := outcome.nsidFits made nsid
            have deviceFits := outcome.deviceFits (by rw [nsid]; rfl) devPath
              device.symm
            omega
      | none =>
          constructor
          · rintro ⟨same, _⟩
            cases same
          · intro outcome
            simp only [chosen, nsid] at texts
            split at texts
            · rename_i succeeds
              have both := outcome.whole succeeds
              rw [← seen, nsid] at both
              cases both
            · cases texts

/-- A call leaves nothing of its own behind, and records what it has made, as
long as its script makes both of device and namespace or none. -/
theorem create_clean_iff (host : LbcScanHost) (extentReq : SsuExtentCreateReq)
    (run : CreateRun) (world : LbcWorld)
    (appears : Appears host run.made world.spaces) (scans : ScansOpen run) :
    CreateClean host run world (createNsOn host extentReq run world) ↔
      (reachesScript host extentReq world.plugin = true →
        WholeOutcome host run) := by
  have outcome := createNsOn_outcome host extentReq run world
  generalize createNsOn host extentReq run world = result at outcome ⊢
  cases outcome with
  | early unreached failed namespaces spaces =>
      rw [unreached]
      refine iff_of_true ⟨fun _ => ⟨namespaces, ?_⟩, ?_⟩ (fun same => by cases same)
      · intro nsId member
        rw [← spaces]
        exact member
      · intro ok
        exact (failed ok).elim
  | failed reached unrecorded failed namespaces spaces =>
      rw [← clean_of_unrecorded appears scans unrecorded, reached]
      constructor
      · intro clean _ nsId member
        rw [← spaces] at member
        exact (clean.failed failed).2 nsId member
      · intro gone
        refine ⟨fun _ => ⟨namespaces, ?_⟩, fun ok => (failed ok).elim⟩
        intro nsId member
        rw [spaces] at member
        exact gone rfl nsId member
  | recorded reached texts ok free namespaces spaces =>
      rw [← recordedTexts_made_iff appears scans texts, reached]
      constructor
      · intro clean _
        obtain ⟨slot, ns, sameFree, put, nsid, device⟩ := clean.recorded ok
        rw [free] at sameFree
        cases sameFree
        have same : recordOf extentReq _ _ = ns :=
          SlotTable.put_inj (SlotTable.get_firstFree free).1
            (namespaces.symm.trans put)
        rw [← same] at nsid device
        exact ⟨nsid, device⟩
      · intro made
        refine ⟨fun failed => (failed ok).elim, fun _ => ?_⟩
        exact ⟨_, _, free, namespaces, made rfl⟩

def defaultScanHost : LbcScanHost :=
  { resourceCount := 1
    countInRange := oneResource_inRange
    resourceBytes := 1048576
    devDir := "/dev".toList
    configfsDir := "/sys/kernel/config/nvmet/subsystems".toList
    subnqn := "nqn.mock".toList
    scriptsAvailable := fun _ => true
    setupCommand := fun _ => true
    createCommand := fun _ => true
    deleteCommand := fun _ => true
    createdDev := fun _ _ => none
    createdNsid := fun _ _ => none
    ctl := fun _ => { openErrno := none, blockLayer := none } }

def extentOf (allocateId : CString) : SsuExtentCreateReq :=
  { allocateId := copyCstr 64 allocateId
    ssuId := copyCstr 64 "lbc-mock-ssu0".toList
    logicalOffset := 0
    length := 4096
    physOffsetHint := 0
    policy := .stripe
    roleIndex := 0
    tenant := [] }

/-- The script succeeds and every scan opens its directory. -/
def succeedsWith (made : Space) : CreateRun :=
  { succeeds := true
    made
    devBefore := true
    nsidBefore := true
    devAfter := fun _ => true
    nsidAfter := fun _ => true }

theorem succeedsWith_scansOpen (made : Space) :
    ScansOpen (succeedsWith made) :=
  ⟨rfl, rfl, ⟨0, by decide, rfl⟩, ⟨0, by decide, rfl⟩⟩

def emptyWorld : LbcWorld := { plugin := .initial, spaces := [] }

def firstSpace : Space :=
  { device := some "nvme0n1".toList, nsid := some "1".toList }

theorem firstSpace_appears : Appears defaultScanHost firstSpace [] := by
  refine ⟨?_, ?_⟩
  · rintro name ⟨⟩
    decide
  · rintro nsId ⟨⟩
    decide

theorem create_clean_first :
    CreateClean defaultScanHost (succeedsWith firstSpace) emptyWorld
      (createNsOn defaultScanHost (extentOf "alloc-0".toList)
        (succeedsWith firstSpace) emptyWorld) := by
  refine (create_clean_iff defaultScanHost (extentOf "alloc-0".toList)
    (succeedsWith firstSpace) emptyWorld firstSpace_appears
    (succeedsWith_scansOpen firstSpace)).mpr fun _ => ?_
  refine ⟨fun _ => rfl, ?_, ?_⟩
  · rintro nsId ⟨⟩
    decide
  · rintro _ path ⟨⟩
    decide

/-- The namespace appears and its device does not. -/
def namespaceOnly : Space := { device := none, nsid := some "1".toList }

/-- The call fails and the namespace stays. -/
theorem create_unclean_namespaceOnly :
    Appears defaultScanHost namespaceOnly [] ∧
      ScansOpen (succeedsWith namespaceOnly) ∧
        ¬CreateClean defaultScanHost (succeedsWith namespaceOnly) emptyWorld
          (createNsOn defaultScanHost (extentOf "alloc-0".toList)
            (succeedsWith namespaceOnly) emptyWorld) := by
  refine ⟨⟨?_, ?_⟩, succeedsWith_scansOpen _, ?_⟩
  · rintro name ⟨⟩
  · rintro nsId ⟨⟩
    decide
  · intro clean
    have gone := (clean.failed (by decide +kernel)).2 "1".toList
      (by decide +kernel)
    cases gone

end Clean

end UbseSsu.Plugin

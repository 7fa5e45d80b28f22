import UbseSsu.Library.Mirror
import UbseSsu.Plugin.LbcMock
import UbseSsu.Plugin.Mock
import Mathlib.Logic.Relation

/-!
# What both vendor plugins do to their namespace tables

`NamespacePlugin` says that a plugin adds a namespace in `create_ns`, removes
one in `delete_ns`, and leaves its table alone everywhere else.  Both vendors
satisfy it.  They differ in the ids they hand out, and in whether a deletion
can fail.
-/

namespace UbseSsu.Plugin

open Relation (ReflTransGen)

/-- What a namespace and an allocation row say about one extent. -/
structure ExtentKey where
  allocateId : CBuf 64
  ssuId : CBuf 64
  nsId : CBuf 32
  logicalOffset : UInt64
  length : UInt64
  physSector : UInt64
deriving DecidableEq

/-- By what `delete_ns` finds a namespace. -/
def ExtentKey.name (key : ExtentKey) : CBuf 64 × CBuf 32 :=
  (key.ssuId, key.nsId)

def MockNamespace.key (ns : MockNamespace) : ExtentKey :=
  { allocateId := ns.allocateId
    ssuId := ns.ssuId
    nsId := ns.nsId
    logicalOffset := ns.logicalOffset
    length := ns.length
    physSector := ns.physSector }

def LbcNamespace.key (ns : LbcNamespace) : ExtentKey :=
  { allocateId := ns.allocateId
    ssuId := ns.ssuId
    nsId := ns.nsId
    logicalOffset := ns.logicalOffset
    length := ns.length
    physSector := ns.physSector }

def createdKey (extentReq : SsuExtentCreateReq) (answer : CreateNsAnswer) :
    ExtentKey :=
  { allocateId := extentReq.allocateId
    ssuId := extentReq.ssuId
    nsId := answer.nsId
    logicalOffset := extentReq.logicalOffset
    length := extentReq.length
    physSector := answer.physSector }

def MockState.stored (world : MockState) : List ExtentKey :=
  world.namespaces.rows.map MockNamespace.key

def LbcState.stored (world : LbcState) : List ExtentKey :=
  world.namespaces.rows.map LbcNamespace.key

section Calls

variable {PluginState : Type}

/-- One call of a plugin function, with any arguments. -/
inductive PluginCall (plugin : SsuPluginOps PluginState) :
    PluginState → PluginState → Prop where
  | discover (world : PluginState) {discover}
      (provided : plugin.discover = some discover) :
      PluginCall plugin world (discover world).2
  | connect (world : PluginState) {connect}
      (provided : plugin.connect = some connect) (ssuId : CBuf 64) :
      PluginCall plugin world (connect ssuId world).2
  | healthCheck (world : PluginState) {healthCheck}
      (provided : plugin.healthCheck = some healthCheck) (ssuId : CBuf 64) :
      PluginCall plugin world (healthCheck ssuId world).2
  | createNs (world : PluginState) {createNs}
      (provided : plugin.createNs = some createNs)
      (extentReq : SsuExtentCreateReq) :
      PluginCall plugin world (createNs extentReq world).2
  | deleteNs (world : PluginState) {deleteNs}
      (provided : plugin.deleteNs = some deleteNs) (ssuId : CBuf 64)
      (nsId : CBuf 32) :
      PluginCall plugin world (deleteNs ssuId nsId world).2
  | mount (world : PluginState) {mount} (provided : plugin.mount = some mount)
      (allocateId hostId : CString) (logicalDev : CBuf 64) :
      PluginCall plugin world (mount allocateId hostId logicalDev world).2
  | unmount (world : PluginState) {unmount}
      (provided : plugin.unmount = some unmount) (logicalDev : CString) :
      PluginCall plugin world (unmount logicalDev world).2

abbrev PluginReach (plugin : SsuPluginOps PluginState) :
    PluginState → PluginState → Prop :=
  ReflTransGen (PluginCall plugin)

structure NamespacePlugin (plugin : SsuPluginOps PluginState)
    (stored : PluginState → List ExtentKey) : Prop where
  discover : ∀ {discover}, plugin.discover = some discover →
    ∀ world, stored (discover world).2 = stored world
  connect : ∀ {connect}, plugin.connect = some connect →
    ∀ ssuId world, stored (connect ssuId world).2 = stored world
  healthCheck : ∀ {healthCheck}, plugin.healthCheck = some healthCheck →
    ∀ ssuId world, stored (healthCheck ssuId world).2 = stored world
  mount : ∀ {mount}, plugin.mount = some mount →
    ∀ allocateId hostId logicalDev world,
      stored (mount allocateId hostId logicalDev world).2 = stored world
  unmount : ∀ {unmount}, plugin.unmount = some unmount →
    ∀ logicalDev world, stored (unmount logicalDev world).2 = stored world
  refused : ∀ {createNs}, plugin.createNs = some createNs →
    ∀ extentReq world, (createNs extentReq world).1.err ≠ .ok →
      stored (createNs extentReq world).2 = stored world
  created : ∀ {createNs}, plugin.createNs = some createNs →
    ∀ extentReq world, (createNs extentReq world).1.err = .ok →
      (stored (createNs extentReq world).2).Perm
        (createdKey extentReq (createNs extentReq world).1 :: stored world)
  kept : ∀ {deleteNs}, plugin.deleteNs = some deleteNs →
    ∀ ssuId nsId world, (deleteNs ssuId nsId world).1 ≠ .ok →
      stored (deleteNs ssuId nsId world).2 = stored world
  deleted : ∀ {deleteNs}, plugin.deleteNs = some deleteNs →
    ∀ ssuId nsId world, (deleteNs ssuId nsId world).1 = .ok →
      ∃ gone : ExtentKey, gone.name = (ssuId, nsId) ∧
        (stored world).Perm (gone :: stored (deleteNs ssuId nsId world).2)

end Calls

section Mock

/-- The namespace that `mock_create_ns` puts into its table. -/
def mockNamespace (extentReq : SsuExtentCreateReq) (world : MockState) :
    MockNamespace :=
  { allocateId := extentReq.allocateId
    ssuId := extentReq.ssuId
    nsId := mockNsId world.nextNsId
    logicalOffset := extentReq.logicalOffset
    length := extentReq.length
    physSector := extentReq.physOffsetHint }

theorem mockCreateNs_cases (extentReq : SsuExtentCreateReq)
    (world : MockState) :
    (∃ err, err ≠ SsuErr.ok ∧ mockCreateNs extentReq world =
        ({ err := err, nsId := .empty, physSector := 0 }, world.tick)) ∨
      ∃ slot, world.namespaces.firstFree = some slot ∧
        mockCreateNs extentReq world =
          ({ err := .ok
             nsId := mockNsId world.nextNsId
             physSector := extentReq.physOffsetHint },
            { world.tick with
              namespaces := world.namespaces.put slot
                (mockNamespace extentReq world)
              nextNsId := world.nextNsId + 1 }) := by
  unfold mockCreateNs
  split
  · exact .inl ⟨_, by decide, rfl⟩
  · split
    · exact .inl ⟨_, by decide, rfl⟩
    · rename_i slot free
      exact .inr ⟨slot, free, rfl⟩

theorem mockDeleteNs_cases (ssuId : CBuf 64) (nsId : CBuf 32)
    (world : MockState) :
    ((mockDeleteNs ssuId nsId world).1 ≠ .ok ∧
        (mockDeleteNs ssuId nsId world).2 = world.tick ∧
        (ssuId, nsId) ∉ world.stored.map ExtentKey.name) ∨
      (mockDeleteNs ssuId nsId world).1 = .ok ∧
        ∃ ns : MockNamespace, ns.key.name = (ssuId, nsId) ∧
          world.namespaces.rows.Perm
            (ns :: (mockDeleteNs ssuId nsId world).2.namespaces.rows) ∧
          (mockDeleteNs ssuId nsId world).2.nextNsId = world.nextNsId := by
  unfold mockDeleteNs
  split
  · rename_i missing
    refine .inl ⟨nofun, rfl, ?_⟩
    intro listed
    obtain ⟨key, keyMember, same⟩ := List.mem_map.mp listed
    obtain ⟨ns, member, rfl⟩ := List.mem_map.mp keyMember
    have other := SlotTable.findRow_eq_none_iff.mp missing ns member
    obtain ⟨sameSsu, sameNs⟩ := Prod.mk.inj same
    simp only [namespaceIs, Bool.and_eq_false_iff, decide_eq_false_iff_not]
      at other
    exact other.elim (· sameSsu) (· sameNs)
  · rename_i slot ns found
    obtain ⟨active, named⟩ := SlotTable.findRow_eq_some found
    simp only [namespaceIs, Bool.and_eq_true, decide_eq_true_eq] at named
    refine .inr ⟨rfl, ns, ?_, SlotTable.rows_perm_clear active, rfl⟩
    exact Prod.ext named.1 named.2

theorem mock_namespacePlugin (host : MockHost) :
    NamespacePlugin (mockPlugin host) MockState.stored where
  discover provided world := by cases provided; rfl
  connect provided ssuId world := by cases provided; rfl
  healthCheck provided ssuId world := by cases provided; rfl
  mount provided allocateId hostId logicalDev world := by cases provided; rfl
  unmount provided logicalDev world := by cases provided; rfl
  refused provided extentReq world failed := by
    cases provided
    rcases mockCreateNs_cases extentReq world with ⟨_, _, result⟩ |
      ⟨_, _, result⟩
    · rw [result]
      rfl
    · rw [result] at failed
      exact (failed rfl).elim
  created provided extentReq world accepted := by
    cases provided
    rcases mockCreateNs_cases extentReq world with ⟨_, failed, result⟩ |
      ⟨slot, free, result⟩
    · rw [result] at accepted
      exact (failed accepted).elim
    · obtain ⟨bound, isFree⟩ := SlotTable.get_firstFree free
      rw [result]
      exact (SlotTable.rows_put_perm bound isFree).map MockNamespace.key
  kept provided ssuId nsId world failed := by
    cases provided
    rcases mockDeleteNs_cases ssuId nsId world with ⟨_, same, _⟩ | ⟨ok, _⟩
    · exact (congrArg MockState.stored same).trans rfl
    · exact (failed ok).elim
  deleted provided ssuId nsId world ok := by
    cases provided
    rcases mockDeleteNs_cases ssuId nsId world with ⟨failed, _⟩ |
      ⟨_, ns, named, rows, _⟩
    · exact (failed ok).elim
    · exact ⟨ns.key, named, rows.map _⟩

/-- A mock deletion only fails when there is nothing under the name. -/
theorem mockDeleteNs_ok {ssuId : CBuf 64} {nsId : CBuf 32} {world : MockState}
    (listed : (ssuId, nsId) ∈ world.stored.map ExtentKey.name) :
    (mockDeleteNs ssuId nsId world).1 = .ok := by
  rcases mockDeleteNs_cases ssuId nsId world with ⟨_, _, missing⟩ | ⟨ok, _⟩
  · exact (missing listed).elim
  · exact ok

theorem mockNsId_chars (number : Nat) :
    (mockNsId number).chars =
      "mock-ns".toList ++ decimal (number % 2 ^ 64) := by
  apply copyCstr_chars_of_fits
  have small : number % 2 ^ 64 < 10 ^ 20 :=
    Nat.lt_of_lt_of_le (Nat.mod_lt _ (by decide)) (by decide)
  have digits := length_decimal_le 20 (by decide) small
  have lead : "mock-ns".toList.length = 7 := by decide
  rw [List.length_append, lead]
  omega

theorem mockNsId_injOn {left right : Nat} (leftSmall : left < 2 ^ 64)
    (rightSmall : right < 2 ^ 64) (same : mockNsId left = mockNsId right) :
    left = right := by
  have texts := congrArg BoundedString.chars same
  rw [mockNsId_chars, mockNsId_chars, List.append_cancel_left_eq,
    Nat.mod_eq_of_lt leftSmall, Nat.mod_eq_of_lt rightSmall] at texts
  exact decimal_injective texts

/-- Every namespace has one of the ids handed out so far. -/
def MockNumbered (world : MockState) : Prop :=
  ∀ ns ∈ world.namespaces.rows, ∃ number < world.nextNsId,
    ns.nsId = mockNsId number

theorem mockCall_nextNsId {host : MockHost} {before after : MockState}
    (call : PluginCall (mockPlugin host) before after) :
    before.nextNsId ≤ after.nextNsId := by
  cases call with
  | discover provided => cases provided; exact Nat.le_refl _
  | connect provided ssuId => cases provided; exact Nat.le_refl _
  | healthCheck provided ssuId => cases provided; exact Nat.le_refl _
  | mount provided allocateId hostId logicalDev =>
      cases provided
      exact Nat.le_refl _
  | unmount provided logicalDev => cases provided; exact Nat.le_refl _
  | createNs provided extentReq =>
      cases provided
      rcases mockCreateNs_cases extentReq before with ⟨_, _, result⟩ |
        ⟨_, _, result⟩
      · rw [result]
        exact Nat.le_refl _
      · rw [result]
        exact Nat.le_succ _
  | deleteNs provided ssuId nsId =>
      cases provided
      rcases mockDeleteNs_cases ssuId nsId before with ⟨_, same, _⟩ |
        ⟨_, _, _, _, same⟩
      · rw [same]
        exact Nat.le_refl _
      · exact Nat.le_of_eq same.symm

theorem mockNumbered_call {host : MockHost} {before after : MockState}
    (call : PluginCall (mockPlugin host) before after)
    (numbered : MockNumbered before) : MockNumbered after := by
  cases call with
  | discover provided => cases provided; exact numbered
  | connect provided ssuId => cases provided; exact numbered
  | healthCheck provided ssuId => cases provided; exact numbered
  | mount provided allocateId hostId logicalDev => cases provided; exact numbered
  | unmount provided logicalDev => cases provided; exact numbered
  | createNs provided extentReq =>
      cases provided
      rcases mockCreateNs_cases extentReq before with ⟨_, _, result⟩ |
        ⟨slot, free, result⟩
      · rw [result]
        exact numbered
      · obtain ⟨bound, isFree⟩ := SlotTable.get_firstFree free
        rw [result]
        intro ns member
        rcases List.mem_cons.mp
            ((SlotTable.rows_put_perm bound isFree).mem_iff.mp member) with
          rfl | old
        · exact ⟨before.nextNsId, Nat.lt_succ_self _, rfl⟩
        · obtain ⟨number, used, same⟩ := numbered ns old
          exact ⟨number, Nat.lt_succ_of_lt used, same⟩
  | deleteNs provided ssuId nsId =>
      cases provided
      rcases mockDeleteNs_cases ssuId nsId before with ⟨_, same, _⟩ |
        ⟨_, ns, _, rows, same⟩
      · rw [same]
        exact numbered
      · intro other member
        rw [same]
        exact numbered other (rows.mem_iff.mpr (List.mem_cons_of_mem _ member))

theorem mockNumbered_reach {host : MockHost} {world : MockState}
    (reached : PluginReach (mockPlugin host) .initial world) :
    MockNumbered world := by
  induction reached with
  | refl => intro ns member; simp [MockState.initial] at member
  | tail _ call induction => exact mockNumbered_call call induction

/-- While the 64-bit counter has not wrapped, a new namespace has a new id. -/
theorem mockCreateNs_newName {host : MockHost} {world : MockState}
    (reached : PluginReach (mockPlugin host) .initial world)
    {extentReq : SsuExtentCreateReq}
    (accepted : (mockCreateNs extentReq world).1.err = .ok)
    (unwrapped : (mockCreateNs extentReq world).2.nextNsId ≤ 2 ^ 64) :
    (createdKey extentReq (mockCreateNs extentReq world).1).name ∉
      world.stored.map ExtentKey.name := by
  intro listed
  obtain ⟨key, keyMember, same⟩ := List.mem_map.mp listed
  obtain ⟨ns, member, rfl⟩ := List.mem_map.mp keyMember
  obtain ⟨number, used, named⟩ := mockNumbered_reach reached ns member
  rcases mockCreateNs_cases extentReq world with ⟨_, failed, result⟩ |
    ⟨slot, free, result⟩
  · rw [result] at accepted
    exact failed accepted
  · rw [result] at same unwrapped
    have ids : ns.nsId = mockNsId world.nextNsId := (Prod.mk.inj same).2
    rw [named] at ids
    have counted : world.nextNsId < 2 ^ 64 := unwrapped
    have equal := mockNsId_injOn (used.trans counted) counted ids
    exact (Nat.ne_of_lt used) equal

end Mock

section Lbc

variable (host : LbcHost)

theorem createdByScript_error {world : LbcState} {err : SsuErr}
    (failed : createdByScript host world = .error err) : err ≠ .ok := by
  unfold createdByScript at failed
  simp only at failed
  split at failed
  · split at failed
    · exact Except.error.inj failed ▸ nofun
    · cases failed
  · split at failed
    · exact Except.error.inj failed ▸ nofun
    · exact Except.error.inj failed ▸ nofun
    · cases failed

theorem lbcMockCreateNs_cases (extentReq : SsuExtentCreateReq)
    (world : LbcState) :
    ((lbcMockCreateNs host extentReq world).1.err ≠ .ok ∧
        (lbcMockCreateNs host extentReq world).2.namespaces =
          world.namespaces) ∨
      (lbcMockCreateNs host extentReq world).1.err = .ok ∧
        ∃ slot known path, world.namespaces.firstFree = some slot ∧
          createdByScript host world = .ok (known, path) ∧
          (lbcMockCreateNs host extentReq world).1.nsId = copyCstr 32
            (chooseNsId host world known (copyCstr 256 path).chars) ∧
          (lbcMockCreateNs host extentReq world).2.namespaces =
            world.namespaces.put slot
              { allocateId := extentReq.allocateId
                ssuId := extentReq.ssuId
                nsId := (lbcMockCreateNs host extentReq world).1.nsId
                devPath := copyCstr 256 path
                logicalOffset := extentReq.logicalOffset
                length := extentReq.length
                physSector :=
                  (lbcMockCreateNs host extentReq world).1.physSector } := by
  unfold lbcMockCreateNs
  split
  · exact .inl ⟨nofun, rfl⟩
  · split
    · exact .inl ⟨nofun, rfl⟩
    · split
      · exact .inl ⟨nofun, rfl⟩
      · split
        · exact .inl ⟨nofun, rfl⟩
        · split
          · exact .inl ⟨nofun, rfl⟩
          · rename_i slot free _
            split
            · exact .inl ⟨nofun, rfl⟩
            · split
              · rename_i err failed
                exact .inl ⟨createdByScript_error host failed, rfl⟩
              · rename_i known path ended
                exact .inr ⟨rfl, slot, known, path, free, ended, rfl, rfl⟩
          · rename_i failed
            exact .inl ⟨failed, rfl⟩

theorem lbcMockDeleteNs_cases (ssuId : CBuf 64) (nsId : CBuf 32)
    (world : LbcState) :
    ((lbcMockDeleteNs host ssuId nsId world).1 ≠ .ok ∧
        (lbcMockDeleteNs host ssuId nsId world).2 = world.tick) ∨
      (lbcMockDeleteNs host ssuId nsId world).1 = .ok ∧
        ∃ ns : LbcNamespace, ns.key.name = (ssuId, nsId) ∧
          world.namespaces.rows.Perm
            (ns :: (lbcMockDeleteNs host ssuId nsId world).2.namespaces.rows)
    := by
  unfold lbcMockDeleteNs
  split
  · exact .inl ⟨nofun, rfl⟩
  · split
    · exact .inl ⟨nofun, rfl⟩
    · rename_i slot ns found
      obtain ⟨active, named⟩ := SlotTable.findRow_eq_some found
      simp only [lbcNamespaceIs, Bool.and_eq_true, decide_eq_true_eq] at named
      split
      · refine .inr ⟨rfl, ns, ?_, SlotTable.rows_perm_clear active⟩
        exact Prod.ext named.1 named.2
      · exact .inl ⟨nofun, rfl⟩

theorem lbcMock_namespacePlugin :
    NamespacePlugin (lbcMockPlugin host) LbcState.stored where
  discover provided world := by cases provided; rfl
  connect provided ssuId world := by cases provided; rfl
  healthCheck provided ssuId world := by cases provided; rfl
  mount provided allocateId hostId logicalDev world := by
    cases provided
    unfold lbcMockMount
    split <;> rfl
  unmount provided logicalDev world := by
    cases provided
    unfold lbcMockUnmount
    split <;> rfl
  refused provided extentReq world failed := by
    cases provided
    rcases lbcMockCreateNs_cases host extentReq world with ⟨_, same⟩ | ⟨ok, _⟩
    · simp only [LbcState.stored, same]
    · exact (failed ok).elim
  created provided extentReq world accepted := by
    cases provided
    rcases lbcMockCreateNs_cases host extentReq world with ⟨failed, _⟩ |
      ⟨_, slot, known, path, free, _, _, rows⟩
    · exact (failed accepted).elim
    · obtain ⟨bound, isFree⟩ := SlotTable.get_firstFree free
      simp only [LbcState.stored, rows]
      exact (SlotTable.rows_put_perm bound isFree).map LbcNamespace.key
  kept provided ssuId nsId world failed := by
    cases provided
    rcases lbcMockDeleteNs_cases host ssuId nsId world with ⟨_, same⟩ | ⟨ok, _⟩
    · exact (congrArg LbcState.stored same).trans rfl
    · exact (failed ok).elim
  deleted provided ssuId nsId world ok := by
    cases provided
    rcases lbcMockDeleteNs_cases host ssuId nsId world with ⟨failed, _⟩ |
      ⟨_, ns, named, rows⟩
    · exact (failed ok).elim
    · exact ⟨ns.key, named, rows.map _⟩

/-- The id of a new namespace is not the id of an active one: the scans of the
scripts' directories only report new entries. -/
def NewNsIds : Prop :=
  ∀ world, PluginReach (lbcMockPlugin host) .initial world →
    ∀ known path, createdByScript host world = .ok (known, path) →
      ∀ ns ∈ world.namespaces.rows, ns.nsId ≠
        copyCstr 32 (chooseNsId host world known (copyCstr 256 path).chars)

theorem lbcMockCreateNs_newName (newIds : NewNsIds host) {world : LbcState}
    (reached : PluginReach (lbcMockPlugin host) .initial world)
    {extentReq : SsuExtentCreateReq}
    (accepted : (lbcMockCreateNs host extentReq world).1.err = .ok) :
    (createdKey extentReq (lbcMockCreateNs host extentReq world).1).name ∉
      world.stored.map ExtentKey.name := by
  rcases lbcMockCreateNs_cases host extentReq world with ⟨failed, _⟩ |
    ⟨_, slot, known, path, _, ended, chosen, _⟩
  · exact (failed accepted).elim
  · intro listed
    obtain ⟨key, keyMember, same⟩ := List.mem_map.mp listed
    obtain ⟨ns, member, rfl⟩ := List.mem_map.mp keyMember
    apply newIds world reached known path ended ns member
    rw [← chosen]
    exact (Prod.mk.inj same).2

end Lbc

end UbseSsu.Plugin

import UbseSsu.Controller.Capacity
import UbseSsu.Plugin.Mock

/-!
# The mock plugin discovers honestly

Whatever the environment holds, a discovery answer of the mock plugin lists
distinct SSUs with nothing used.
-/

namespace UbseSsu.Plugin

open Controller

theorem mem_insertSorted {index other : Nat} {indexes : List Nat} :
    other ∈ insertSorted index indexes ↔ other = index ∨ other ∈ indexes := by
  induction indexes with
  | nil => simp [insertSorted]
  | cons first others induction =>
      unfold insertSorted
      split
      · rename_i same
        simp [← same]
      · split
        · simp
        · simp [induction, or_left_comm]

theorem insertSorted_sorted {index : Nat} {indexes : List Nat}
    (sorted : indexes.Pairwise (· < ·)) :
    (insertSorted index indexes).Pairwise (· < ·) := by
  induction indexes with
  | nil => simp [insertSorted]
  | cons first others induction =>
      obtain ⟨least, rest⟩ := List.pairwise_cons.mp sorted
      unfold insertSorted
      split
      · exact sorted
      · split
        · rename_i smaller
          refine List.pairwise_cons.mpr ⟨?_, sorted⟩
          intro other member
          rcases List.mem_cons.mp member with rfl | later
          · exact smaller
          · exact smaller.trans (least other later)
        · refine List.pairwise_cons.mpr ⟨?_, induction rest⟩
          intro other member
          rcases mem_insertSorted.mp member with rfl | later
          · omega
          · exact least other later

/-- The scan keeps its indexes sorted without repetition, and each of them is
a parsed `uint32_t`. -/
theorem scanNullblkIndexes_sorted (host : MockHost) (time : Nat) :
    (scanNullblkIndexes host time).Pairwise (· < ·) ∧
      ∀ index ∈ scanNullblkIndexes host time, index < 2 ^ 32 := by
  unfold scanNullblkIndexes
  have parsed : ∀ index ∈ (host.sysBlock time).filterMap fun name =>
      (skipLead "nullb".toList name).bind parseUint32Tail,
        index < 2 ^ 32 := by
    intro index member
    obtain ⟨name, _, found⟩ := List.mem_filterMap.mp member
    obtain ⟨tail, _, value⟩ := Option.bind_eq_some_iff.mp found
    unfold parseUint32Tail at value
    split at value
    · contradiction
    · exact strtoulU32_lt value
  generalize (host.sysBlock time).filterMap _ = found at parsed
  have walk : ∀ sofar : List Nat,
      (sofar.Pairwise (· < ·) ∧ ∀ index ∈ sofar, index < 2 ^ 32) →
        (found.foldl insertIndex sofar).Pairwise (· < ·) ∧
          ∀ index ∈ found.foldl insertIndex sofar, index < 2 ^ 32 := by
    induction found with
    | nil => exact fun _ => id
    | cons index found induction =>
        obtain ⟨small, others⟩ := List.forall_mem_cons.mp parsed
        rintro sofar ⟨sorted, bounded⟩
        refine induction others _ ?_
        unfold insertIndex
        split
        · exact ⟨sorted, bounded⟩
        · refine ⟨insertSorted_sorted sorted, fun other member => ?_⟩
          rcases mem_insertSorted.mp member with rfl | old
          · exact small
          · exact bounded other old
  exact walk [] (by simp)

theorem mockSsuId_chars {index : Nat} (small : index < 2 ^ 32) :
    (mockSsuId index).chars = "mock-ssu".toList ++ decimal index := by
  apply copyCstr_chars_of_fits
  have digits := length_decimal_le 10 (by decide)
    (Nat.lt_of_lt_of_le small (by decide))
  have lead : "mock-ssu".toList.length = 8 := by decide
  rw [List.length_append, lead]
  omega

theorem mockSsuId_injective {left right : Nat} (leftSmall : left < 2 ^ 32)
    (rightSmall : right < 2 ^ 32) (same : mockSsuId left = mockSsuId right) :
    left = right := by
  have texts := congrArg BoundedString.chars same
  rw [mockSsuId_chars leftSmall, mockSsuId_chars rightSmall,
    List.append_cancel_left_eq] at texts
  exact decimal_injective texts

theorem discovered_distinct {indexes : List Nat} {totalBytes : Nat → UInt64}
    (sorted : indexes.Pairwise (· < ·))
    (small : ∀ index ∈ indexes, index < 2 ^ 32) :
    (ssuIds (indexes.map fun index =>
      fillResource index (totalBytes index))).Nodup := by
  rw [ssuIds, List.map_map]
  refine List.Nodup.map_on ?_ (sorted.imp Nat.ne_of_lt)
  intro left leftMember right rightMember same
  exact mockSsuId_injective (small left leftMember) (small right rightMember)
    same

theorem mockDiscover_honest (host : MockHost) (world : MockState)
    {discovered : List SsuResourceInfo}
    (reported : (mockDiscover host world).1 = (.ok, discovered)) :
    (ssuIds discovered).Nodup ∧
      ∀ resource ∈ discovered, resource.usedBytes = 0 := by
  have unused : ∀ (indexes : List Nat) (totalBytes : Nat → UInt64),
      ∀ resource ∈ indexes.map (fun index =>
        fillResource index (totalBytes index)), resource.usedBytes = 0 := by
    intro indexes totalBytes resource member
    obtain ⟨index, _, rfl⟩ := List.mem_map.mp member
    rfl
  simp only [mockDiscover] at reported
  split at reported
  · simp at reported
  · unfold discoverConfigured at reported
    split at reported
    · simp at reported
    · rename_i count fits
      simp only [Prod.mk.injEq, true_and] at reported
      subst reported
      refine ⟨discovered_distinct List.pairwise_lt_range ?_, unused _ _⟩
      intro index member
      have := List.mem_range.mp member
      omega
  · unfold discoverNullblk at reported
    simp only at reported
    split at reported
    · simp at reported
    · simp only [Prod.mk.injEq, true_and] at reported
      subst reported
      obtain ⟨sorted, small⟩ := scanNullblkIndexes_sorted host world.clock
      exact ⟨discovered_distinct sorted small, unused _ _⟩

theorem mock_honestDiscovery (host : MockHost)
    (current : ControllerState × MockState) (op : ControllerOp) :
    HonestDiscovery (mockPlugin host) current op := by
  cases op with
  | refreshPool =>
      intro discovered reported
      simp only [discoveredResources, mockPlugin, Option.bind_some,
        Option.mem_def] at reported
      split at reported
      · rename_i resources answered
        simp only [Option.some.injEq] at reported
        subst reported
        obtain ⟨distinct, unused⟩ := mockDiscover_honest host _ answered
        exact ⟨distinct, fun resource member _ => unused resource member⟩
      · contradiction
  | alloc _ _ | release _ | mount _ | unmount _ => trivial

end UbseSsu.Plugin

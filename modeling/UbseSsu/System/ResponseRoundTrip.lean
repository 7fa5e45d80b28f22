import UbseSsu.Api.Outcomes
import UbseSsu.Sdk.Responses
import UbseSsu.System.AllocateRoundTrip

/-!
# A response on its way to the SDK

The manager prints its rows into one text and the SDK scans them back.  A
response that does not fit into the SDK's buffer loses its end, and where the
cut falls behind a digit of a row's last number the SDK takes what is left of
the number for the number itself.
-/

namespace UbseSsu.System

open Framing UbseSsu.Api UbseSsu.Controller UbseSsu.Runtime UbseSsu.Sdk

section Rows

/-- The fields of a row that are printed with `%s`. -/
structure ResourceWords (resource : SsuResourceInfo) : Prop where
  ssuId : Word resource.ssuId.chars
  hostId : Word resource.hostId.chars
  state : Word resource.state.chars

structure ExtentWords (extent : ApiPhysicalLba) : Prop where
  ssuId : Word extent.ssuId.chars
  nsId : Word extent.nsId.chars

def resourcePieces (resource : SsuResourceInfo)
    (words : ResourceWords resource) : List Piece :=
  [.word resource.ssuId words.ssuId, .blank, .word resource.hostId words.hostId,
    .blank, .word resource.state words.state, .blank,
    .number resource.usedBytes.toNat resource.usedBytes.toNat_lt,
    .text "/".toList]

theorem resourceLine_eq {resource : SsuResourceInfo}
    (words : ResourceWords resource) :
    resourceLine resource =
      Piece.joined (resourcePieces resource words) ++
        decimal resource.totalBytes.toNat := by
  unfold resourceLine resourcePieces
  simp only [Piece.joined_cons, List.append_assoc]
  rfl

theorem linked_resource {resource : SsuResourceInfo}
    (words : ResourceWords resource) (tail : CString) :
    Piece.Linked (resourcePieces resource words) tail := by
  refine ⟨Piece.word_then_blank _, ?_, Piece.word_then_blank _, ?_,
    Piece.word_then_blank _, ?_, ?_, Piece.text_then _ _, trivial⟩
  · rw [Piece.joined_cons, List.append_assoc]
    exact Piece.blank_then_word _ _ words.hostId
  · rw [Piece.joined_cons, List.append_assoc]
    exact Piece.blank_then_word _ _ words.state
  · rw [Piece.joined_cons, List.append_assoc]
    exact Piece.blank_then_number _ _
  · exact Piece.number_then _ (by decide)

theorem rowScan_resource {resource : SsuResourceInfo}
    (words : ResourceWords resource) :
    RowScan scanResource (resourceLine resource) resource.totalBytes.toNat
      fun total => { resource with totalBytes := UInt64.ofNat total } := by
  rw [resourceLine_eq words]
  apply rowScan_of_stem (linked_resource words _) resource.totalBytes.toNat_lt
  · intro line total scanned
    have read : sscanf resourceFormat line =
        Piece.values (resourcePieces resource words) ++ [.number total] :=
      scanned
    unfold scanResource
    rw [read]
    simp [resourcePieces, Piece.word, Piece.blank, Piece.number, Piece.text,
      Piece.values]
  · intro line few
    have short : (sscanf resourceFormat line).length ≤ 4 := few
    unfold scanResource
    split
    · rename_i all
      rw [all] at short
      exact absurd short (by simp)
    · rfl

def physicalPieces (index : Nat) (small : index < 2 ^ 64)
    (extent : ApiPhysicalLba) (words : ExtentWords extent) : List Piece :=
  [.text "physical".toList, .blank, .number index small, .blank,
    .word extent.ssuId words.ssuId, .blank, .word extent.nsId words.nsId,
    .blank, .number extent.logicalOffset.toNat extent.logicalOffset.toNat_lt,
    .blank, .number extent.length.toNat extent.length.toNat_lt, .blank,
    .text "lba=".toList]

theorem physicalLine_eq {index : Nat} (small : index < 2 ^ 64)
    {extent : ApiPhysicalLba} (words : ExtentWords extent) :
    physicalLine index extent =
      Piece.joined (physicalPieces index small extent words) ++
        decimal extent.lba.toNat := by
  have lead : "physical ".toList = "physical".toList ++ [' '] := by
    decide +kernel
  have lba : " lba=".toList = [' '] ++ "lba=".toList := by decide +kernel
  have blank : " ".toList = [' '] := by decide +kernel
  unfold physicalLine physicalPieces
  rw [lead, lba, blank]
  simp only [Piece.joined_cons, List.append_assoc]
  rfl

theorem linked_physical {index : Nat} (small : index < 2 ^ 64)
    {extent : ApiPhysicalLba} (words : ExtentWords extent) (tail : CString) :
    Piece.Linked (physicalPieces index small extent words) tail := by
  refine ⟨Piece.text_then _ _, ?_, Piece.number_then _ (by decide), ?_,
    Piece.word_then_blank _, ?_, Piece.word_then_blank _, ?_,
    Piece.number_then _ (by decide), ?_, Piece.number_then _ (by decide), ?_,
    Piece.text_then _ _, trivial⟩
  · rw [Piece.joined_cons, List.append_assoc]
    exact Piece.blank_then_number _ _
  · rw [Piece.joined_cons, List.append_assoc]
    exact Piece.blank_then_word _ _ words.ssuId
  · rw [Piece.joined_cons, List.append_assoc]
    exact Piece.blank_then_word _ _ words.nsId
  · rw [Piece.joined_cons, List.append_assoc]
    exact Piece.blank_then_number _ _
  · rw [Piece.joined_cons, List.append_assoc]
    exact Piece.blank_then_number _ _
  · exact Piece.ends_of_visible _ (by decide)

theorem rowScan_physical {index : Nat} (small : index < 2 ^ 64)
    {extent : ApiPhysicalLba} (words : ExtentWords extent) :
    RowScan scanPhysical (physicalLine index extent) extent.lba.toNat
      fun lba => (UInt32.ofNat index,
        { extent with lba := UInt64.ofNat lba }) := by
  rw [physicalLine_eq small words]
  apply rowScan_of_stem (linked_physical small words _) extent.lba.toNat_lt
  · intro line lba scanned
    have read : sscanf physicalFormat line =
        Piece.values (physicalPieces index small extent words) ++
          [.number lba] :=
      scanned
    unfold scanPhysical
    rw [read]
    simp [physicalPieces, Piece.word, Piece.blank, Piece.number, Piece.text,
      Piece.values]
  · intro line few
    have short : (sscanf physicalFormat line).length ≤ 5 := few
    unfold scanPhysical
    split
    · rename_i all
      rw [all] at short
      exact absurd short (by simp)
    · rfl

end Rows

theorem ofNat_ne_of_lt {value : UInt64} {shorter : Nat}
    (smaller : shorter < value.toNat) : UInt64.ofNat shorter ≠ value := by
  rintro rfl
  have range : shorter % 2 ^ 64 ≤ shorter := Nat.mod_le _ _
  rw [UInt64.toNat_ofNat'] at smaller
  omega

/-- The characters of the lines with a newline behind each. -/
def linesSize (lines : List CString) : Nat :=
  (lines.map fun line => line.length + 1).sum

@[simp] theorem linesSize_cons (line : CString) (lines : List CString) :
    linesSize (line :: lines) = line.length + 1 + linesSize lines := by
  simp [linesSize]

section Pool

/-- The text of the rows has lost nothing but its last newline, or it ends
before the last number. -/
def LastWhole (items : List SsuResourceInfo) (count : Nat) : Prop :=
  ∀ last ∈ items.getLast?,
    linesSize (items.map resourceLine) ≤ count + 1 ∨
      count + (decimal last.totalBytes.toNat).length <
        linesSize (items.map resourceLine)

theorem digits_lt_linesSize {items : List SsuResourceInfo}
    (words : ∀ item ∈ items, ResourceWords item) {last : SsuResourceInfo}
    (isLast : last ∈ items.getLast?) :
    (decimal last.totalBytes.toNat).length <
      linesSize (items.map resourceLine) := by
  induction items with
  | nil => cases isLast
  | cons item items induction =>
      rw [List.map_cons, linesSize_cons]
      have fits := (rowScan_resource (words item List.mem_cons_self)).ends
      cases items with
      | nil =>
          obtain rfl : item = last := Option.some.inj isLast
          omega
      | cons next items =>
          have later := induction
            (fun other member => words other (List.mem_cons_of_mem _ member))
            isLast
          omega

theorem lastWhole_cons_iff {item : SsuResourceInfo}
    {items : List SsuResourceInfo} {count : Nat}
    (behind : (resourceLine item).length < count) :
    LastWhole (item :: items) count ↔
      LastWhole items (count - ((resourceLine item).length + 1)) := by
  unfold LastWhole
  rw [List.map_cons, linesSize_cons]
  cases items with
  | nil =>
      apply iff_of_true
      · intro last isLast
        left
        simp only [List.map_nil, linesSize, List.sum_nil]
        omega
      · intro last isLast
        cases isLast
  | cons next items =>
      rw [List.getLast?_cons_cons]
      apply forall_congr'
      intro last
      apply imp_congr_right
      intro isLast
      omega

theorem io_ne_ok : ssuErrCode .io ≠ ssuErrCode .ok := by
  decide

/-- One more row than the loop has seen is missing. -/
theorem parseResources_short {reported : Nat} {out : List SsuResourceInfo}
    (missing : out.length < reported) :
    (parseResources reported [] out).1 ≠ ssuErrCode .ok := by
  have incomplete : out.length ≠ reported := missing.ne
  unfold parseResources
  rw [if_neg incomplete]
  exact io_ne_ok

theorem parseResources_one_short {reported : Nat} {out : List SsuResourceInfo}
    (missing : out.length + 1 < reported) (line : CString) :
    (parseResources reported [line] out).1 ≠ ssuErrCode .ok := by
  rw [parseResources, if_pos (by omega)]
  cases scanResource line with
  | none => exact io_ne_ok
  | some item =>
      apply parseResources_short
      simpa using missing

/-- The last row, of which something is there. -/
theorem parseResources_last {item : SsuResourceInfo}
    (words : ResourceWords item) {count : Nat}
    (within : count ≤ (resourceLine item).length) (out : List SsuResourceInfo) :
    ((parseResources (out.length + 1) [(resourceLine item).take count]
        out).1 = ssuErrCode .ok →
      (parseResources (out.length + 1) [(resourceLine item).take count]
        out).2 = out ++ [item]) ↔
      LastWhole [item] count := by
  have scan := rowScan_resource words
  have lastOnly : LastWhole [item] count ↔
      (resourceLine item).length ≤ count ∨
        count + (decimal item.totalBytes.toNat).length ≤
          (resourceLine item).length := by
    simp only [LastWhole, List.getLast?_singleton, Option.mem_some_iff,
      forall_eq', List.map_cons, linesSize_cons, List.map_nil]
    simp only [linesSize, List.map_nil, List.sum_nil]
    omega
  rw [lastOnly, parseResources, if_pos (Nat.lt_succ_self _)]
  by_cases refused : count + (decimal item.totalBytes.toNat).length ≤
      (resourceLine item).length
  · rw [scan.refused count refused]
    apply iff_of_true
    · intro complete
      exact absurd complete io_ne_ok
    · exact .inr refused
  · by_cases whole : count = (resourceLine item).length
    · rw [whole, List.take_length, scan.whole]
      apply iff_of_true
      · intro _
        simp [parseResources]
      · exact .inl (Nat.le_refl _)
    · obtain ⟨shorter, smaller, scanned⟩ :=
        scan.shortened count (by omega) (by omega)
      rw [scanned]
      apply iff_of_false
      · intro holds
        have same := holds (by simp [parseResources])
        have total : UInt64.ofNat shorter = item.totalBytes := by
          simpa [parseResources] using
            congrArg SsuResourceInfo.totalBytes
              (List.singleton_inj.mp (List.append_cancel_left same))
        exact ofNat_ne_of_lt smaller total
      · omega

theorem parseResources_cut {items : List SsuResourceInfo}
    (words : ∀ item ∈ items, ResourceWords item) (count : Nat)
    (out : List SsuResourceInfo) :
    ((parseResources (out.length + items.length)
        (cutLines count (items.map resourceLine)) out).1 = ssuErrCode .ok →
      (parseResources (out.length + items.length)
        (cutLines count (items.map resourceLine)) out).2 = out ++ items) ↔
      LastWhole items count := by
  induction items generalizing count out with
  | nil =>
      apply iff_of_true
      · intro _
        simp [cutLines, parseResources]
      · intro last isLast
        cases isLast
  | cons item items induction =>
      obtain ⟨itemWords, otherWords⟩ := List.forall_mem_cons.mp words
      have scan := rowScan_resource itemWords
      have more : out.length < out.length + (item :: items).length := by simp
      rw [List.map_cons, cutLines]
      by_cases none : count = 0
      · rw [if_pos none]
        apply iff_of_true
        · intro complete
          exact absurd complete (parseResources_short more)
        · intro last isLast
          right
          rw [none, Nat.zero_add]
          exact digits_lt_linesSize words isLast
      rw [if_neg none]
      by_cases within : count ≤ (resourceLine item).length
      · rw [if_pos within]
        cases items with
        | nil => exact parseResources_last itemWords within out
        | cons next items =>
            apply iff_of_true
            · intro complete
              exact absurd complete (parseResources_one_short (by simp) _)
            · intro last isLast
              right
              have later := digits_lt_linesSize otherWords isLast
              rw [List.map_cons, linesSize_cons]
              omega
      · have later := induction otherWords
          (count - ((resourceLine item).length + 1)) (out ++ [item])
        have same : { item with
            totalBytes := UInt64.ofNat item.totalBytes.toNat } = item := by
          rw [UInt64.ofNat_toNat]
        rw [if_neg within, parseResources, if_pos more, scan.whole,
          lastWhole_cons_iff (by omega), ← later]
        simp only [same, List.length_append, List.length_cons, List.length_nil,
          List.append_assoc, List.cons_append, List.nil_append,
          Nat.add_assoc, Nat.add_comm 1]

end Pool

section AllocateResult

def physicalLines (start : Nat) (disks : List ApiPhysicalLba) : List CString :=
  disks.mapIdx fun index disk => physicalLine (start + index) disk

@[simp] theorem physicalLines_nil (start : Nat) :
    physicalLines start [] = [] :=
  rfl

@[simp] theorem physicalLines_cons (start : Nat) (disk : ApiPhysicalLba)
    (disks : List ApiPhysicalLba) :
    physicalLines start (disk :: disks) =
      physicalLine start disk :: physicalLines (start + 1) disks := by
  have shifted : (fun index other => physicalLine (start + (index + 1)) other) =
      fun index other => physicalLine (start + 1 + index) other := by
    funext index other
    rw [Nat.add_comm index, Nat.add_assoc]
  unfold physicalLines
  rw [List.mapIdx_cons, Nat.add_zero, shifted]

/-- The text of the rows has lost nothing but its last newline, or it ends
inside a row and before its `lba`. -/
def NoneLost (start : Nat) (disks : List ApiPhysicalLba) (count : Nat) : Prop :=
  linesSize (physicalLines start disks) ≤ count + 1 ∨
    ∃ index, ∃ disk ∈ disks[index]?,
      linesSize ((physicalLines start disks).take index) < count ∧
        count + (decimal disk.lba.toNat).length <
          linesSize ((physicalLines start disks).take (index + 1))

variable {disk : ApiPhysicalLba} {disks : List ApiPhysicalLba}
  {start count : Nat}

theorem noneLost_behind_iff
    (behind : (physicalLine start disk).length < count) :
    NoneLost start (disk :: disks) count ↔
      NoneLost (start + 1) disks
        (count - ((physicalLine start disk).length + 1)) := by
  unfold NoneLost
  rw [physicalLines_cons, linesSize_cons]
  apply or_congr
  · omega
  · constructor
    · rintro ⟨index, found, listed, opens, closes⟩
      cases index with
      | zero =>
          simp only [linesSize, List.take_succ_cons, List.take_zero,
            List.map_cons, List.map_nil, List.sum_cons, List.sum_nil] at closes
          omega
      | succ index =>
          rw [List.take_succ_cons, linesSize_cons] at opens closes
          exact ⟨index, found, listed, by omega, by omega⟩
    · rintro ⟨index, found, listed, opens, closes⟩
      refine ⟨index + 1, found, listed, ?_, ?_⟩
      · rw [List.take_succ_cons, linesSize_cons]
        omega
      · rw [List.take_succ_cons, linesSize_cons]
        omega

theorem noneLost_within_iff
    (within : count ≤ (physicalLine start disk).length) :
    NoneLost start (disk :: disks) count ↔
      (count = (physicalLine start disk).length ∧ disks = []) ∨
        (0 < count ∧ count + (decimal disk.lba.toNat).length ≤
          (physicalLine start disk).length) := by
  unfold NoneLost
  rw [physicalLines_cons, linesSize_cons]
  apply or_congr
  · cases disks with
    | nil =>
        simp only [physicalLines_nil, linesSize, List.map_nil, List.sum_nil,
          and_true]
        omega
    | cons next disks =>
        rw [physicalLines_cons, linesSize_cons]
        simp only [reduceCtorEq, and_false, iff_false]
        omega
  · constructor
    · rintro ⟨index, found, listed, opens, closes⟩
      cases index with
      | zero =>
          obtain rfl : disk = found := Option.some.inj listed
          simp only [linesSize, List.take_succ_cons, List.take_zero,
            List.map_cons, List.map_nil, List.sum_cons, List.sum_nil]
            at opens closes
          exact ⟨opens, by omega⟩
      | succ index =>
          rw [List.take_succ_cons, linesSize_cons] at opens
          omega
    · rintro ⟨opens, closes⟩
      refine ⟨0, disk, rfl, opens, ?_⟩
      simp only [linesSize, List.take_succ_cons, List.take_zero,
        List.map_cons, List.map_nil, List.sum_cons, List.sum_nil]
      omega

/-- Where the rows so far end at the count, the stored row is the next one. -/
theorem SdkResultInfo.listed_store {out : SdkResultInfo}
    (filled : out.physicalDiskCount = start) (item : ApiPhysicalLba)
    (small : start < maxPhysicalDisks) :
    (out.store start item small).physicalDiskCount = start + 1 ∧
      (out.store start item small).listed = out.listed ++ [item] := by
  have counted : max out.physicalDiskCount (start + 1) = start + 1 := by
    omega
  refine ⟨counted, ?_⟩
  have room : start < (out.physicalDisks.set start item small).toList.length := by
    rw [Vector.length_toList]
    exact small
  unfold SdkResultInfo.listed SdkResultInfo.store
  simp only [counted]
  rw [filled, List.take_succ_eq_append_getElem room]
  simp [Vector.toList_set, List.take_set_of_le]

theorem parsePhysicals_next {line : CString} {item : ApiPhysicalLba}
    (scanned : scanPhysical line = some (UInt32.ofNat start, item))
    (small : start < maxPhysicalDisks) (lines : List CString)
    (out : SdkResultInfo) :
    parsePhysicals (line :: lines) out =
      parsePhysicals lines (out.store start item small) := by
  have index : (UInt32.ofNat start).toNat = start := by
    rw [UInt32.toNat_ofNat']
    simp only [maxPhysicalDisks] at small
    omega
  rw [parsePhysicals, scanned]
  simp only [index, dif_pos small]

/-- The text ends inside the first row that is left. -/
theorem parsePhysicals_within (words : ExtentWords disk)
    {out : SdkResultInfo} (ready : out.status = ssuErrCode .ok)
    (filled : out.physicalDiskCount = start) (small : start < maxPhysicalDisks)
    (within : count ≤ (physicalLine start disk).length) :
    let lines :=
      if count = 0 then [] else [(physicalLine start disk).take count]
    ((parsePhysicals lines out).status = ssuErrCode .ok →
      (parsePhysicals lines out).devicePath = out.devicePath ∧
        (parsePhysicals lines out).physicalDiskCount =
            start + (disk :: disks).length ∧
          (parsePhysicals lines out).listed = out.listed ++ disk :: disks) ↔
      NoneLost start (disk :: disks) count := by
  intro lines
  have wide : start < 2 ^ 64 := by
    simp only [maxPhysicalDisks] at small
    omega
  have scan := rowScan_physical wide words
  have digits := List.length_pos_iff.mpr (decimal_ne_nil disk.lba.toNat)
  have ends := scan.ends
  rw [noneLost_within_iff within]
  by_cases none : count = 0
  · have empty : lines = [] := if_pos none
    rw [empty, parsePhysicals]
    apply iff_of_false
    · intro holds
      have counted := (holds ready).2.1
      rw [List.length_cons] at counted
      omega
    · omega
  have single : lines = [(physicalLine start disk).take count] := if_neg none
  rw [single]
  by_cases refused : count + (decimal disk.lba.toNat).length ≤
      (physicalLine start disk).length
  · rw [parsePhysicals, scan.refused count refused]
    apply iff_of_true
    · intro complete
      exact absurd complete io_ne_ok
    · exact .inr ⟨by omega, refused⟩
  by_cases whole : count = (physicalLine start disk).length
  · have scanned := scan.whole
    rw [UInt64.ofNat_toNat] at scanned
    obtain ⟨counted, listed⟩ := SdkResultInfo.listed_store filled disk small
    rw [whole, List.take_length, parsePhysicals_next scanned small,
      parsePhysicals]
    constructor
    · intro holds
      have all := (holds ready).2.1
      rw [counted, List.length_cons] at all
      exact .inl ⟨rfl, List.length_eq_zero_iff.mp (by omega)⟩
    · rintro (⟨_, rfl⟩ | refused)
      · intro _
        exact ⟨rfl, counted, listed⟩
      · omega
  · obtain ⟨shorter, smaller, scanned⟩ :=
      scan.shortened count (by omega) (by omega)
    have listed := (SdkResultInfo.listed_store filled
      { disk with lba := UInt64.ofNat shorter } small).2
    rw [parsePhysicals_next scanned small, parsePhysicals]
    apply iff_of_false
    · intro holds
      have same := (holds ready).2.2
      rw [listed] at same
      have first := List.cons.inj (List.append_cancel_left same)
      exact ofNat_ne_of_lt smaller (congrArg ApiPhysicalLba.lba first.1)
    · omega

theorem parsePhysicals_cut (words : ∀ disk ∈ disks, ExtentWords disk)
    {out : SdkResultInfo} (ready : out.status = ssuErrCode .ok)
    (filled : out.physicalDiskCount = start)
    (room : start + disks.length ≤ maxPhysicalDisks) :
    ((parsePhysicals (cutLines count (physicalLines start disks)) out).status =
        ssuErrCode .ok →
      (parsePhysicals (cutLines count (physicalLines start disks))
          out).devicePath = out.devicePath ∧
        (parsePhysicals (cutLines count (physicalLines start disks))
            out).physicalDiskCount = start + disks.length ∧
          (parsePhysicals (cutLines count (physicalLines start disks))
              out).listed = out.listed ++ disks) ↔
      NoneLost start disks count := by
  induction disks generalizing start count out with
  | nil =>
      apply iff_of_true
      · intro _
        simp [cutLines, parsePhysicals, filled]
      · left
        simp [linesSize]
  | cons disk disks induction =>
      obtain ⟨diskWords, otherWords⟩ := List.forall_mem_cons.mp words
      rw [List.length_cons] at room
      have small : start < maxPhysicalDisks := by omega
      rw [physicalLines_cons, cutLines]
      by_cases within : count ≤ (physicalLine start disk).length
      · rw [if_pos within]
        exact parsePhysicals_within diskWords ready filled small within
      · have some : count ≠ 0 := by omega
        obtain ⟨counted, listed⟩ := SdkResultInfo.listed_store filled disk small
        have wide : start < 2 ^ 64 := by
          simp only [maxPhysicalDisks] at small
          omega
        have whole := (rowScan_physical wide diskWords).whole
        rw [UInt64.ofNat_toNat] at whole
        have later := @induction (start + 1)
          (count - ((physicalLine start disk).length + 1)) otherWords
          (out.store start disk small) ready counted (by omega)
        rw [if_neg some, if_neg within, noneLost_behind_iff (by omega),
          ← later, parsePhysicals_next whole small, listed]
        simp only [SdkResultInfo.store, List.append_assoc, List.cons_append,
          List.nil_append, List.length_cons, Nat.add_assoc, Nat.add_comm 1]

end AllocateResult

section Transport

/-- The characters of a body that arrive behind `OK\n`. -/
def bodyRoom : Nat := responseSize - 1 - 3

theorem take_take_append (count : Nat) (text more : CString) :
    (text.take count ++ more).take count = (text ++ more).take count := by
  have left : count - min count text.length = count - text.length := by omega
  rw [List.take_append, List.take_append, List.take_take, Nat.min_self,
    List.length_take, left]

theorem linesBody_chars (first : CString) (rows : List CString) :
    (linesBody first rows).chars =
      ((first :: rows).flatMap (· ++ ['\n'])).take (bodySize - 1) := by
  have printed : ∀ (lines : List CString) (body : Body) (text : CString),
      body.chars = text.take (bodySize - 1) →
        (lines.foldl (fun body line => appendf body (line ++ "\n".toList))
          body).chars =
            (text ++ lines.flatMap (· ++ ['\n'])).take (bodySize - 1) := by
    intro lines
    induction lines with
    | nil =>
        intro body text holds
        rw [List.flatMap_nil, List.append_nil]
        exact holds
    | cons line lines induction =>
        intro body text holds
        have next : (appendf body (line ++ "\n".toList)).chars =
            (text ++ (line ++ ['\n'])).take (bodySize - 1) := by
          unfold appendf copyCstr
          simp only [holds]
          exact take_take_append _ _ _
        rw [List.foldl_cons, induction _ _ next, List.flatMap_cons,
          List.append_assoc]
  exact printed _ _ [] rfl

/-- The lines of an `OK` response whose body was written line by line. -/
theorem bodyLines_delivered {first : CString} {rows : List CString}
    (plain : ∀ line ∈ first :: rows, line ≠ [] ∧ '\n' ∉ line)
    (short : first.length < bodyRoom) :
    ∃ body, requestOkBody
        (.ok (delivered (responseText .ok (linesBody first rows).chars))) =
          (ssuErrCode .ok, body) ∧
        bodyLines body =
          first :: cutLines (bodyRoom - (first.length + 1)) rows := by
  have status : "OK\n".toList.length = 3 := by decide +kernel
  have room : bodyRoom = 8188 := rfl
  have arrived : delivered
      (responseText .ok (linesBody first rows).chars) =
        "OK\n".toList ++
          ((first :: rows).flatMap (· ++ ['\n'])).take bodyRoom := by
    rw [delivered, responseText, if_pos rfl, linesBody_chars,
      List.take_append, List.take_take, status, room,
      List.take_of_length_le (by rw [status]; decide)]
    rfl
  have answered : responseStatus ("OK\n".toList ++
      ((first :: rows).flatMap (· ++ ['\n'])).take bodyRoom) =
        (ssuErrCode .ok,
          some (((first :: rows).flatMap (· ++ ['\n'])).take bodyRoom)) := by
    rw [responseStatus, skipLead_append]
  refine ⟨copyCstr responseSize
    (((first :: rows).flatMap (· ++ ['\n'])).take bodyRoom), ?_, ?_⟩
  · rw [arrived, requestOkBody]
    simp only [answered]
  · have kept : (copyCstr responseSize
        (((first :: rows).flatMap (· ++ ['\n'])).take bodyRoom)).chars =
          ((first :: rows).flatMap (· ++ ['\n'])).take bodyRoom := by
      apply copyCstr_chars_of_fits
      apply (List.length_take_le _ _).trans
      decide +kernel
    rw [bodyLines, kept, strtokAll_eq_runs (Nat.le_refl _),
      runs_take_lines plain, cutLines, if_neg (by omega), if_neg (by omega)]

theorem code_ne_ok {err : SsuErr} (failed : err ≠ .ok) :
    (Int32.ofInt (ssuErrCode err)).toInt ≠ ssuErrCode .ok := by
  cases err with
  | ok => exact absurd rfl failed
  | _ => decide

/-- An error of the manager never becomes `SSU_OK`. -/
theorem requestOkBody_error {err : SsuErr} (failed : err ≠ .ok)
    (body : CString) :
    (requestOkBody (.ok (delivered (responseText err body)))).1 ≠
      ssuErrCode .ok := by
  have short : ("ERR ".toList ++ decimalInt (ssuErrCode err) ++
      "\n".toList).length ≤ responseSize - 1 := by
    cases err <;> decide +kernel
  obtain ⟨rest, arrived⟩ : ∃ rest, delivered (responseText err body) =
      "ERR ".toList ++ (decimalInt (ssuErrCode err) ++ '\n' :: rest) := by
    refine ⟨body.take (responseSize - 1 - ("ERR ".toList ++
      decimalInt (ssuErrCode err) ++ "\n".toList).length), ?_⟩
    rw [delivered, responseText, if_neg failed, List.take_append,
      List.take_of_length_le short]
    simp only [List.append_assoc]
    rfl
  have value : (strtol (decimalInt (ssuErrCode err) ++ '\n' :: rest)).value =
      ssuErrCode err := by
    apply strtol_decimalInt
    · cases err <;> decide
    · cases err <;> decide
    · intro char head
      cases head
      decide
  have lead : skipLead "OK\n".toList ("ERR ".toList ++
      (decimalInt (ssuErrCode err) ++ '\n' :: rest)) = none := by
    rfl
  have status : (responseStatus ("ERR ".toList ++
      (decimalInt (ssuErrCode err) ++ '\n' :: rest))).1 ≠ ssuErrCode .ok := by
    rw [responseStatus, lead]
    simp only [skipLead_append]
    split
    · exact io_ne_ok
    · rw [value]
      exact code_ne_ok failed
  rw [arrived, requestOkBody]
  revert status
  generalize responseStatus _ = answer
  obtain ⟨code, text⟩ := answer
  cases text <;> exact id

theorem ubseSsuSdkList_error {present : Bool} {capacity : UInt32}
    {transport : Except SsuErr CString}
    (failed : (requestOkBody transport).1 ≠ ssuErrCode .ok) :
    (ubseSsuSdkList present capacity transport).err ≠ ssuErrCode .ok := by
  unfold ubseSsuSdkList
  simp only [if_pos failed]
  exact failed

theorem ubseSsuSdkAllocateResultGet_error {transport : Except SsuErr CString}
    (failed : (requestOkBody transport).1 ≠ ssuErrCode .ok) :
    (ubseSsuSdkAllocateResultGet transport).status ≠ ssuErrCode .ok := by
  unfold ubseSsuSdkAllocateResultGet
  simp only [if_pos failed]
  exact failed

end Transport

section Answers

theorem resourceLine_plain {resource : SsuResourceInfo}
    (words : ResourceWords resource) :
    resourceLine resource ≠ [] ∧ '\n' ∉ resourceLine resource := by
  have blank : '\n' ∉ " ".toList := by decide
  have slash : '\n' ∉ "/".toList := by decide
  have noDigit : Char.isDigit '\n' = false := by decide
  unfold resourceLine
  constructor
  · exact List.append_ne_nil_of_right_ne_nil _ (decimal_ne_nil _)
  · simp only [List.mem_append, not_or, blank, slash, not_mem_decimal noDigit,
      words.ssuId.noNewline, words.hostId.noNewline, words.state.noNewline,
      not_false_eq_true, and_self]

theorem physicalLine_plain {disk : ApiPhysicalLba} (words : ExtentWords disk)
    (index : Nat) :
    physicalLine index disk ≠ [] ∧ '\n' ∉ physicalLine index disk := by
  have name : '\n' ∉ "physical ".toList := by decide
  have blank : '\n' ∉ " ".toList := by decide
  have lba : '\n' ∉ " lba=".toList := by decide
  have noDigit : Char.isDigit '\n' = false := by decide
  unfold physicalLine
  constructor
  · exact List.append_ne_nil_of_right_ne_nil _ (decimal_ne_nil _)
  · simp only [List.mem_append, not_or, name, blank, lba,
      not_mem_decimal noDigit, words.ssuId.noNewline, words.nsId.noNewline,
      not_false_eq_true, and_self]

/-- `"pool entries: %u"`. -/
def poolHeader (count : Nat) : CString :=
  "pool entries: ".toList ++ decimal count

theorem sscanf_poolHeader {count : Nat} (small : count < 2 ^ 64) :
    sscanf poolFormat (poolHeader count) = [.number count] := by
  let stem : List Piece :=
    [.text "pool".toList, .blank, .text "entries:".toList, .blank]
  have printed : "pool entries: ".toList = Piece.joined stem := by
    decide +kernel
  have linked : Piece.Linked stem (decimal count) := by
    refine ⟨Piece.text_then _ _, Piece.ends_of_visible _ (by decide),
      Piece.text_then _ _, ?_, trivial⟩
    have digits := Piece.blank_then_number [] count
    rw [List.append_nil] at digits
    exact digits
  have format : poolFormat = stem.map Piece.directive ++ [.number] := rfl
  have scanned := sscanf_last linked small
  rw [← format, ← printed] at scanned
  exact scanned

theorem poolHeader_plain (count : Nat) :
    poolHeader count ≠ [] ∧ '\n' ∉ poolHeader count := by
  have name : '\n' ∉ "pool entries: ".toList := by decide
  have noDigit : Char.isDigit '\n' = false := by decide
  unfold poolHeader
  constructor
  · exact List.append_ne_nil_of_right_ne_nil _ (decimal_ne_nil _)
  · simp only [List.mem_append, not_or, name, not_mem_decimal noDigit,
      not_false_eq_true, and_self]

/-- The lines of a `LIST` response. -/
def poolLines (rows : List SsuResourceInfo) : List CString :=
  poolHeader rows.length :: rows.map resourceLine

/-- The text of the pool has lost nothing but its last newline, or it ends
before the last number. -/
def PoolArrives (rows : List SsuResourceInfo) : Prop :=
  ∀ last ∈ rows.getLast?,
    linesSize (poolLines rows) ≤ bodyRoom + 1 ∨
      bodyRoom + (decimal last.totalBytes.toNat).length <
        linesSize (poolLines rows)

instance (resource : SsuResourceInfo) : Decidable (ResourceWords resource) :=
  decidable_of_iff
    (Word resource.ssuId.chars ∧ Word resource.hostId.chars ∧
      Word resource.state.chars)
    ⟨fun words => ⟨words.1, words.2.1, words.2.2⟩,
      fun words => ⟨words.ssuId, words.hostId, words.state⟩⟩

instance (rows : List SsuResourceInfo) : Decidable (PoolArrives rows) :=
  inferInstanceAs (Decidable (∀ last ∈ rows.getLast?, _ ∨ _))

theorem length_poolHeader {count : Nat} (few : count ≤ 128) :
    (poolHeader count).length < bodyRoom := by
  have name : "pool entries: ".toList.length = 14 := by decide +kernel
  have digits : (decimal count).length ≤ 3 :=
    length_decimal_le 3 (by decide) (by omega)
  unfold poolHeader
  simp only [List.length_append, name, bodyRoom, responseSize]
  omega

theorem poolArrives_iff {rows : List SsuResourceInfo}
    (few : rows.length ≤ 128) :
    PoolArrives rows ↔
      LastWhole rows (bodyRoom - ((poolHeader rows.length).length + 1)) := by
  have short := length_poolHeader few
  unfold PoolArrives LastWhole poolLines
  rw [linesSize_cons]
  apply forall_congr'
  intro last
  apply imp_congr_right
  intro isLast
  omega

theorem buildPoolBody_eq (state : ControllerState) :
    buildPoolBody state =
      (.ok, linesBody (poolHeader state.pool.items.length)
        (state.pool.items.map resourceLine)) := by
  have fits := state.pool.fits
  have room : state.pool.items.length ≤ (128 : UInt32).toNat := fits
  have count : (UInt32.ofNat state.pool.items.length).toNat =
      state.pool.items.length := by
    rw [UInt32.toNat_ofNat']
    simp only [maxResources] at fits
    omega
  unfold buildPoolBody buildBody
  rw [ssuControllerQueryPool, queryRows_present, if_pos room]
  simp only [count]
  rfl

/-- `ubse_ssu_sdk_list` on what `build_pool_body` wrote. -/
theorem ubseSsuSdkList_poolBody {rows : List SsuResourceInfo}
    (words : ∀ resource ∈ rows, ResourceWords resource)
    (few : rows.length ≤ 128) {capacity : UInt32}
    (enough : rows.length ≤ capacity.toNat) :
    let answer := ubseSsuSdkList true capacity
      (.ok (delivered (responseText .ok
        (linesBody (poolHeader rows.length)
          (rows.map resourceLine)).chars)))
    (answer.err = ssuErrCode .ok →
      answer.count.toNat = rows.length ∧ answer.out = rows) ↔
        PoolArrives rows := by
  intro answer
  have plain : ∀ line ∈ poolLines rows, line ≠ [] ∧ '\n' ∉ line := by
    intro line member
    rcases List.mem_cons.mp member with rfl | row
    · exact poolHeader_plain _
    · obtain ⟨resource, listed, rfl⟩ := List.mem_map.mp row
      exact resourceLine_plain (words resource listed)
  obtain ⟨body, accepted, lines⟩ :=
    bodyLines_delivered plain (length_poolHeader few)
  have count : (UInt32.ofNat rows.length).toNat = rows.length := by
    rw [UInt32.toNat_ofNat']
    omega
  have read : sscanf poolFormat (poolHeader rows.length) =
      [.number rows.length] :=
    sscanf_poolHeader (by omega)
  have found : answer =
      if UInt32.ofNat rows.length = 0 then
        { err := ssuErrCode .ok, count := UInt32.ofNat rows.length, out := [] }
      else if !true || decide (capacity < UInt32.ofNat rows.length) then
        { err := ssuErrCode .bufferTooSmall
          count := UInt32.ofNat rows.length, out := [] }
      else
        let parsed := parseResources (UInt32.ofNat rows.length).toNat
          (cutLines (bodyRoom - ((poolHeader rows.length).length + 1))
            (rows.map resourceLine)) []
        { err := parsed.1, count := UInt32.ofNat rows.length
          out := parsed.2 } := by
    unfold answer ubseSsuSdkList
    rw [accepted]
    simp only [ne_eq, not_true_eq_false, if_false]
    rw [lines]
    simp only [read]
  rw [found, count]
  clear found answer accepted lines plain read
  cases rows with
  | nil =>
      apply iff_of_true
      · intro _
        exact ⟨rfl, rfl⟩
      · intro last isLast
        cases isLast
  | cons first others =>
      have some : UInt32.ofNat (first :: others).length ≠ 0 := by
        intro zero
        rw [zero] at count
        simp at count
      have room : ¬capacity < UInt32.ofNat (first :: others).length := by
        rw [UInt32.lt_iff_toNat_lt, count]
        omega
      have fits : ¬(!true ||
          decide (capacity < UInt32.ofNat (first :: others).length)) = true := by
        rw [decide_eq_false room]
        decide
      rw [if_neg some, if_neg fits, poolArrives_iff few,
        ← parseResources_cut words _ []]
      simp only [List.length_nil, Nat.zero_add, List.nil_append, count,
        true_and]

/-- The fields of an allocation row that reach a response; the disk name is
optional. -/
structure AllocationWords (info : SsuAllocationInfo) : Prop where
  ssuId : Word info.ssuId.chars
  nsId : Word info.nsId.chars
  diskName : ∀ char ∈ info.diskName.chars, isCSpace char = false

instance (info : SsuAllocationInfo) : Decidable (AllocationWords info) :=
  -- Along the name, not over the type of all characters.
  have : Decidable (∀ char ∈ info.diskName.chars, isCSpace char = false) :=
    List.decidableBAll _ _
  decidable_of_iff
    (Word info.ssuId.chars ∧ Word info.nsId.chars ∧
      ∀ char ∈ info.diskName.chars, isCSpace char = false)
    ⟨fun words => ⟨words.1, words.2.1, words.2.2⟩,
      fun words => ⟨words.ssuId, words.nsId, words.diskName⟩⟩

theorem word_copied {text : CString} (named : text ≠ [])
    (plain : ∀ char ∈ text, isCSpace char = false) :
    Word (copyCstr 64 text).chars := by
  constructor
  · simp [copyCstr, List.take_eq_nil_iff, named]
  · exact fun char member => plain char (List.mem_of_mem_take member)

theorem word_defaultDevicePath {diskName : CString}
    (plain : ∀ char ∈ diskName, isCSpace char = false) (requestId : CString)
    (nextDeviceIndex : UInt32) :
    Word (defaultDevicePathForRequest requestId diskName
      nextDeviceIndex).1.chars := by
  have visible : ∀ char ∈ "/dev/ssu/ssu".toList, isCSpace char = false :=
    Word.plain (by decide +kernel)
  have directory : ∀ char ∈ "/dev/ssu/".toList, isCSpace char = false :=
    Word.plain (by decide +kernel)
  have numbered : ∀ value, Word
      (copyCstr 64 ("/dev/ssu/ssu".toList ++ decimal value)).chars := by
    intro value
    apply word_copied
    · exact List.append_ne_nil_of_right_ne_nil _ (decimal_ne_nil _)
    · intro char member
      rcases List.mem_append.mp member with lead | digit
      · exact visible char lead
      · exact isCSpace_of_isDigit (isDigit_of_mem_decimal digit)
  unfold defaultDevicePathForRequest
  split
  · apply word_copied
    · exact List.append_ne_nil_of_left_ne_nil (by decide) _
    · intro char member
      rcases List.mem_append.mp member with lead | name
      · exact directory char lead
      · exact plain char name
  · split
    · exact numbered _
    · exact numbered _

variable {state : ControllerState}

theorem allocationDiskName_plain
    (words : ∀ row ∈ state.allocations.rows, AllocationWords row.info)
    (requestId : CString) :
    ∀ char ∈ allocationDiskName state requestId, isCSpace char = false := by
  unfold allocationDiskName
  split
  · nofun
  · split
    · nofun
    · rename_i info found
      have listed := List.mem_of_find?_eq_some found
      rw [queriedAllocations_eq] at listed
      obtain ⟨row, active, rfl⟩ := List.mem_map.mp listed
      exact (words row active).diskName

theorem word_registerRequestPath
    (words : ∀ row ∈ state.allocations.rows, AllocationWords row.info)
    {requestId : CString} {cache after : ApiCache} {devicePath : CBuf 64}
    (registered : registerRequestPath state requestId cache =
      (some devicePath, after)) : Word devicePath.chars := by
  have name := allocationDiskName_plain words requestId
  have path := word_defaultDevicePath name requestId cache.nextDeviceIndex
  unfold registerRequestPath registerRequestPathWithName at registered
  have unnamed : isEmptyString [] = true := rfl
  simp only [unnamed, if_true] at registered
  split at registered
  · obtain ⟨same, _⟩ := Prod.mk.inj registered
    rw [← Option.some.inj same]
    exact path
  · split at registered
    · obtain ⟨same, _⟩ := Prod.mk.inj registered
      rw [← Option.some.inj same]
      exact path
    · cases (Prod.mk.inj registered).1

theorem fillAllocationLbas_words
    (words : ∀ row ∈ state.allocations.rows, AllocationWords row.info)
    {requestId : CString} {disks : List ApiPhysicalLba}
    (filled : fillAllocationLbas state requestId = .ok disks) :
    (∀ disk ∈ disks, ExtentWords disk) ∧
      disks.length ≤ state.allocations.rows.length := by
  have room : (state.allocations.rows.map
      ControllerAllocation.info).length ≤ (128 : UInt32).toNat := by
    rw [List.length_map]
    exact state.allocations.length_rows_le
  have owned := List.length_filter_le (infoHasId requestId)
    (state.allocations.rows.map ControllerAllocation.info)
  simp only [fillAllocationLbas, ssuControllerQueryAllocations,
    queryRows_present, if_pos room, ne_eq, not_true_eq_false, if_false,
    Option.getD_some] at filled
  split at filled
  · cases filled
  · rename_i first others matching
    obtain rfl := Except.ok.inj filled
    constructor
    · intro disk member
      obtain ⟨info, listed, rfl⟩ := List.mem_map.mp member
      rw [List.mem_mergeSort, ← matching] at listed
      obtain ⟨row, active, rfl⟩ :=
        List.mem_map.mp (List.mem_of_mem_filter listed)
      exact ⟨(words row active).ssuId, (words row active).nsId⟩
    · rw [List.length_map, List.length_mergeSort, ← matching]
      rw [List.length_map] at owned
      exact owned

theorem fillAllocationLbas_error {requestId : CString} {err : SsuErr}
    (failed : fillAllocationLbas state requestId = .error err) : err ≠ .ok := by
  unfold fillAllocationLbas at failed
  simp only at failed
  split at failed
  · rename_i reported
    obtain rfl := Except.error.inj failed
    exact reported
  · split at failed
    · obtain rfl := Except.error.inj failed
      decide
    · cases failed

theorem ssuApiAllocateResultGet_words {PluginState : Type}
    {current : ApiState PluginState}
    (words : ∀ row ∈ current.controller.allocations.rows,
      AllocationWords row.info)
    {requestId : CString} {info : ApiAllocateResultInfo}
    {after : ApiState PluginState}
    (answer : ssuApiAllocateResultGet requestId current = (info, after))
    (ok : info.status = .ok) :
    Word info.devicePath.chars ∧
      (∀ disk ∈ info.physicalDisks, ExtentWords disk) ∧
        info.physicalDisks.length ≤
          current.controller.allocations.rows.length := by
  unfold ssuApiAllocateResultGet at answer
  split at answer
  · obtain ⟨rfl, _⟩ := Prod.mk.inj answer
    cases ok
  · split at answer
    · obtain ⟨rfl, _⟩ := Prod.mk.inj answer
      cases ok
    · split at answer
      · obtain ⟨rfl, _⟩ := Prod.mk.inj answer
        cases ok
      · rename_i devicePath cache registered
        split at answer
        · rename_i err failed
          obtain ⟨rfl, _⟩ := Prod.mk.inj answer
          exact absurd ok (fillAllocationLbas_error failed)
        · rename_i disks filled
          obtain ⟨rfl, _⟩ := Prod.mk.inj answer
          exact ⟨word_registerRequestPath words registered,
            fillAllocationLbas_words words filled⟩

/-- The lines of an `ALLOCATE_RESULT` response. -/
def resultLines (info : ApiAllocateResultInfo) : List CString :=
  info.devicePath.chars :: info.physicalDisks.mapIdx physicalLine

/-- The text of the result has lost nothing but its last newline, or it ends
inside a row and before its `lba`. -/
def ResultArrives (info : ApiAllocateResultInfo) : Prop :=
  linesSize (resultLines info) ≤ bodyRoom + 1 ∨
    ∃ index, ∃ disk ∈ info.physicalDisks[index]?,
      linesSize ((resultLines info).take (index + 1)) < bodyRoom ∧
        bodyRoom + (decimal disk.lba.toNat).length <
          linesSize ((resultLines info).take (index + 2))

theorem resultArrives_iff (info : ApiAllocateResultInfo) :
    ResultArrives info ↔
      NoneLost 0 info.physicalDisks
        (bodyRoom - (info.devicePath.chars.length + 1)) := by
  have short := info.devicePath.fits
  have rows : physicalLines 0 info.physicalDisks =
      info.physicalDisks.mapIdx physicalLine := by
    unfold physicalLines
    simp only [Nat.zero_add]
  have room : info.devicePath.chars.length + 1 ≤ bodyRoom := by
    simp only [bodyRoom, responseSize]
    omega
  unfold ResultArrives NoneLost resultLines
  rw [rows, linesSize_cons]
  apply or_congr
  · omega
  · apply exists_congr
    intro index
    apply exists_congr
    intro disk
    rw [List.take_succ_cons, List.take_succ_cons, linesSize_cons,
      linesSize_cons]
    apply and_congr_right
    intro listed
    omega

theorem linesSize_le {lines : List CString} {bound : Nat}
    (short : ∀ line ∈ lines, line.length < bound) :
    linesSize lines ≤ lines.length * bound := by
  have each : ∀ size ∈ lines.map (fun line => line.length + 1),
      size ≤ bound := by
    intro size member
    obtain ⟨line, listed, rfl⟩ := List.mem_map.mp member
    exact short line listed
  have total := List.sum_le_card_nsmul _ bound each
  rw [List.length_map] at total
  exact total

/-- The names, the offsets and the index of a row are of bounded length. -/
theorem length_physicalLine_lt {index : Nat} (small : index < 1000)
    (disk : ApiPhysicalLba) : (physicalLine index disk).length < 176 := by
  have number : ∀ value : UInt64, (decimal value.toNat).length ≤ 20 := by
    intro value
    have fits := value.toNat_lt
    exact length_decimal_le 20 (by decide) (by omega)
  have order : (decimal index).length ≤ 3 :=
    length_decimal_le 3 (by decide) small
  have ssu := disk.ssuId.fits
  have ns := disk.nsId.fits
  have offset := number disk.logicalOffset
  have length := number disk.length
  have lba := number disk.lba
  have texts : "physical ".toList.length = 9 ∧ " ".toList.length = 1 ∧
      " lba=".toList.length = 5 := by decide +kernel
  unfold physicalLine
  simp only [List.length_append, texts]
  omega

/-- A result of at most 46 disks is short enough, whatever its rows hold. -/
theorem resultArrives_of_few {info : ApiAllocateResultInfo}
    (few : info.physicalDisks.length ≤ 46) : ResultArrives info := by
  have path := info.devicePath.fits
  have rows := @linesSize_le (info.physicalDisks.mapIdx physicalLine) 176
    (by
      intro line member
      obtain ⟨index, listed, rfl⟩ := List.mem_mapIdx.mp member
      exact length_physicalLine_lt (by omega) _)
  rw [List.length_mapIdx] at rows
  refine .inl ?_
  unfold resultLines
  rw [linesSize_cons]
  simp only [bodyRoom, responseSize]
  omega

/-- While at most 46 rows are active, every result arrives. -/
theorem resultArrives_of_fewRows {PluginState : Type}
    {current : ApiState PluginState}
    (words : ∀ row ∈ current.controller.allocations.rows,
      AllocationWords row.info)
    (few : current.controller.allocations.rows.length ≤ 46)
    {requestId : CString}
    (ok : (ssuApiAllocateResultGet requestId current).1.status = .ok) :
    ResultArrives (ssuApiAllocateResultGet requestId current).1 := by
  obtain ⟨_, _, listed⟩ := ssuApiAllocateResultGet_words words rfl ok
  exact resultArrives_of_few (listed.trans few)

/-- `ubse_ssu_sdk_allocate_result_get` on what `handle_allocate_result`
wrote. -/
theorem ubseSsuSdkAllocateResultGet_body {info : ApiAllocateResultInfo}
    (path : Word info.devicePath.chars)
    (words : ∀ disk ∈ info.physicalDisks, ExtentWords disk)
    (few : info.physicalDisks.length ≤ maxPhysicalDisks) :
    let answer := ubseSsuSdkAllocateResultGet
      (.ok (delivered (responseText .ok
        (linesBody info.devicePath.chars
          (info.physicalDisks.mapIdx physicalLine)).chars)))
    (answer.status = ssuErrCode .ok →
      answer.devicePath = info.devicePath ∧
        answer.physicalDiskCount = info.physicalDisks.length ∧
          answer.listed = info.physicalDisks) ↔
      ResultArrives info := by
  intro answer
  have plain : ∀ line ∈ resultLines info, line ≠ [] ∧ '\n' ∉ line := by
    intro line member
    rcases List.mem_cons.mp member with rfl | row
    · exact ⟨path.named, path.noNewline⟩
    · obtain ⟨index, small, rfl⟩ := List.mem_mapIdx.mp row
      exact physicalLine_plain (words _ (List.getElem_mem small)) index
  have short : info.devicePath.chars.length < bodyRoom := by
    have fits := info.devicePath.fits
    simp only [bodyRoom, responseSize]
    omega
  have rows : info.physicalDisks.mapIdx physicalLine =
      physicalLines 0 info.physicalDisks := by
    unfold physicalLines
    simp only [Nat.zero_add]
  obtain ⟨body, accepted, lines⟩ := bodyLines_delivered plain short
  let ready : SdkResultInfo :=
    { SdkResultInfo.zero with
      status := ssuErrCode .ok
      devicePath := info.devicePath }
  have found : answer = parsePhysicals
      (cutLines (bodyRoom - (info.devicePath.chars.length + 1))
        (physicalLines 0 info.physicalDisks)) ready := by
    unfold answer ubseSsuSdkAllocateResultGet
    rw [accepted]
    simp only [ne_eq, not_true_eq_false, if_false]
    rw [lines, rows]
    simp only [copyCstr_chars_self]
    rfl
  have parsed := @parsePhysicals_cut info.physicalDisks 0
    (bodyRoom - (info.devicePath.chars.length + 1)) words ready rfl rfl
    (by omega)
  rw [← found, Nat.zero_add] at parsed
  rw [resultArrives_iff, ← parsed]
  rfl

end Answers

section Commands

variable {PluginState : Type} (plugin : SsuPluginOps PluginState)
  (pluginName : CString) (current : ApiState PluginState)

theorem handleCommand_list :
    handleCommand plugin pluginName "LIST".toList current =
      (responseText (handleList plugin current).1.1
        (handleList plugin current).1.2.chars,
          (handleList plugin current).2) := by
  have whole : cutLine "LIST".toList = "LIST".toList := by decide +kernel
  have found : strtok ' ' "LIST".toList = some ("LIST".toList, []) := by
    decide +kernel
  rw [handleCommand, whole, found]
  rfl

theorem allocateResultCommand_some {requestId command : CString}
    (built : allocateResultCommand requestId = some command) :
    SafeToken requestId ∧ command = "ALLOCATE_RESULT ".toList ++ requestId := by
  unfold allocateResultCommand at built
  simp only [Option.ite_none_left_eq_some, Bool.not_eq_true',
    Bool.not_eq_false, Option.some.injEq] at built
  exact ⟨safeToken_of_tokenIsSafe built.1, built.2.2.symm⟩

theorem handleCommand_allocateResult {requestId command : CString}
    (built : allocateResultCommand requestId = some command) :
    handleCommand plugin pluginName command current =
      (responseText (handleAllocateResult pluginName requestId current).1.1
        (handleAllocateResult pluginName requestId current).1.2.chars,
          (handleAllocateResult pluginName requestId current).2) := by
  obtain ⟨safe, rfl⟩ := allocateResultCommand_some built
  have named : "ALLOCATE_RESULT ".toList ++ requestId =
      "ALLOCATE_RESULT".toList ++ ' ' :: requestId := by
    have blank : "ALLOCATE_RESULT ".toList =
        "ALLOCATE_RESULT".toList ++ [' '] := by
      decide +kernel
    rw [blank, List.append_assoc]
    rfl
  have whole : cutLine ("ALLOCATE_RESULT ".toList ++ requestId) =
      "ALLOCATE_RESULT ".toList ++ requestId := by
    apply cutLine_eq_self
    · rw [List.mem_append, not_or]
      exact ⟨by decide +kernel, safe.noNewline⟩
    · rw [List.mem_append, not_or]
      exact ⟨by decide +kernel, safe.noReturn⟩
  have found : strtok ' ' ("ALLOCATE_RESULT".toList ++ ' ' :: requestId) =
      some ("ALLOCATE_RESULT".toList, requestId) :=
    strtok_plain (by decide +kernel) (by decide +kernel)
  rw [handleCommand, whole, named, found]
  rfl

theorem handleAllocateResult_eq {requestId : CString}
    (token : SafeToken requestId) :
    handleAllocateResult pluginName requestId current =
      let answer := ssuApiAllocateResultGet requestId current
      if answer.1.status ≠ .ok then
        ((answer.1.status,
          formatOperationError pluginName "allocate-result-get".toList
            answer.1.status), answer.2)
      else
        ((.ok, linesBody answer.1.devicePath.chars
          (answer.1.physicalDisks.mapIdx physicalLine)), answer.2) := by
  unfold handleAllocateResult
  rw [token.last]

/-- The pool that `LIST` refreshes and then prints. -/
def listedPool : List SsuResourceInfo :=
  (ssuControllerRefreshPool plugin current.controller
    current.world).2.1.pool.items

/-- The text fields that reach a response are words. -/
structure ManagerWords : Prop where
  pool : ∀ resource ∈ listedPool plugin current, ResourceWords resource
  allocations : ∀ row ∈ current.controller.allocations.rows,
    AllocationWords row.info

/-- Where `ubse_ssu_sdk_list` has room and returns `SSU_OK`, it returned the
controller's pool. -/
def ListDecodes : Prop :=
  ∀ capacity : UInt32, (listedPool plugin current).length ≤ capacity.toNat →
    let (response, after) :=
      handleCommand plugin pluginName "LIST".toList current
    let answer := ubseSsuSdkList true capacity (.ok (delivered response))
    answer.err = ssuErrCode .ok →
      answer.count.toNat = after.controller.pool.items.length ∧
        answer.out = after.controller.pool.items

/-- Where `ubse_ssu_sdk_allocate_result_get` returns `SSU_OK`, it returned what
the API answered in the manager. -/
def ResultDecodes (requestId command : CString) : Prop :=
  let (response, _) := handleCommand plugin pluginName command current
  let info := (ssuApiAllocateResultGet requestId current).1
  let answer := ubseSsuSdkAllocateResultGet (.ok (delivered response))
  answer.status = ssuErrCode .ok →
    answer.devicePath = info.devicePath ∧
      answer.physicalDiskCount = info.physicalDisks.length ∧
        answer.listed = info.physicalDisks

variable {plugin current}

theorem listDecodes_iff (words : ManagerWords plugin current) :
    ListDecodes plugin pluginName current ↔
      ((ssuControllerRefreshPool plugin current.controller
          current.world).1 = .ok → PoolArrives (listedPool plugin current)) := by
  have few : (listedPool plugin current).length ≤ 128 :=
    (ssuControllerRefreshPool plugin current.controller
      current.world).2.1.pool.fits
  have whole := words.pool
  unfold ListDecodes
  rw [handleCommand_list]
  unfold handleList withController
  unfold listedPool at few whole ⊢
  generalize ssuControllerRefreshPool plugin current.controller
    current.world = refreshed at few whole ⊢
  obtain ⟨err, controller, world⟩ := refreshed
  by_cases ok : err = .ok
  · subst ok
    simp only [ne_eq, not_true_eq_false, if_false, buildPoolBody_eq,
      forall_const] at few whole ⊢
    constructor
    · intro decodes
      have enough : controller.pool.items.length ≤ (128 : UInt32).toNat := few
      exact (ubseSsuSdkList_poolBody whole few enough).mp (decodes 128 enough)
    · intro arrives capacity enough
      exact (ubseSsuSdkList_poolBody whole few enough).mpr arrives
  · apply iff_of_true
    · intro capacity _
      simp only [ne_eq, ok, not_false_eq_true, if_true]
      intro complete
      exact absurd complete
        (ubseSsuSdkList_error (requestOkBody_error (by decide) _))
    · intro refreshed
      exact absurd refreshed ok

theorem resultDecodes_iff (words : ManagerWords plugin current)
    {requestId command : CString}
    (built : allocateResultCommand requestId = some command) :
    ResultDecodes plugin pluginName current requestId command ↔
      ((ssuApiAllocateResultGet requestId current).1.status = .ok →
        ResultArrives (ssuApiAllocateResultGet requestId current).1) := by
  have handled := handleAllocateResult_eq pluginName current
    (allocateResultCommand_some built).1
  unfold ResultDecodes
  rw [handleCommand_allocateResult plugin pluginName current built, handled]
  cases answered : ssuApiAllocateResultGet requestId current with
  | mk info after =>
      by_cases ok : info.status = .ok
      · obtain ⟨path, disks, few⟩ :=
          ssuApiAllocateResultGet_words words.allocations answered ok
        have decodes := ubseSsuSdkAllocateResultGet_body path disks
          (few.trans current.controller.allocations.length_rows_le)
        simp only [ok, ne_eq, not_true_eq_false, if_false, forall_const]
        exact decodes
      · have failed := requestOkBody_error ok (formatOperationError pluginName
          "allocate-result-get".toList info.status).chars
        simp only [ok, ne_eq, not_false_eq_true, if_true]
        apply iff_of_true
        · intro complete
          exact absurd complete (ubseSsuSdkAllocateResultGet_error failed)
        · exact nofun

/-- An `SSU_OK` of the SDK means what the manager answered exactly when the
end of the text that does not arrive is nothing but the last newline, or
reaches back to where a row is refused. -/
theorem responses_decode_iff {PluginState : Type}
    (plugin : SsuPluginOps PluginState) (pluginName : CString)
    (current : ApiState PluginState) (words : ManagerWords plugin current) :
    (ListDecodes plugin pluginName current ↔
      ((ssuControllerRefreshPool plugin current.controller
          current.world).1 = .ok →
        PoolArrives (listedPool plugin current))) ∧
      ∀ requestId command, allocateResultCommand requestId = some command →
        (ResultDecodes plugin pluginName current requestId command ↔
          ((ssuApiAllocateResultGet requestId current).1.status = .ok →
            ResultArrives (ssuApiAllocateResultGet requestId current).1)) :=
  ⟨listDecodes_iff pluginName words,
    fun _ _ built => resultDecodes_iff pluginName words built⟩

/-- A rack of SSUs of 1 TB each. -/
def rack (size : Nat) : List SsuResourceInfo :=
  (List.range size).map fun index =>
    { ssuId := copyCstr 64
        ("nqn.2024-01.com.example:ssu-".toList ++ decimal (100 + index))
      totalBytes := 1000000000000
      usedBytes := 0
      state := onlineState
      hostId := copyCstr 64 "host-rack12-node034".toList }

def rackPlugin (size : Nat) : SsuPluginOps Unit :=
  { discover := some fun world => ((.ok, rack size), world)
    connect := none
    healthCheck := none
    createNs := some fun extentReq world =>
      ({ err := .ok, nsId := copyCstr 32 "1".toList
         physSector := extentReq.physOffsetHint }, world)
    deleteNs := none
    mount := none
    unmount := none }

theorem rack_words {size : Nat}
    (pool : ∀ resource ∈ listedPool (rackPlugin size) (.initial ()),
      ResourceWords resource) :
    ManagerWords (rackPlugin size) (.initial ()) := by
  refine ⟨pool, ?_⟩
  intro row active
  have none : (ApiState.initial ()).controller.allocations.rows = [] := rfl
  rw [none] at active
  cases active

/-- Two SSUs that share a disk of 4096 bytes. -/
def sharedRack : ApiState Unit :=
  (ssuApiAllocate (rackPlugin 2)
    { (dataDiskReq "tenantA" "data-a").apiReq with physicalDiskCount := 2 }
    (.initial ())).2

theorem sharedRack_words : ManagerWords (rackPlugin 2) sharedRack := by
  refine ⟨?_, ?_⟩
  · decide +kernel
  · decide +kernel

/-- The pool arrives, and the two extents of the disk. -/
theorem responses_decode_sharedRack :
    ListDecodes (rackPlugin 2) "rack".toList sharedRack ∧
      sharedRack.controller.allocations.rows.length = 2 ∧
      ResultDecodes (rackPlugin 2) "rack".toList sharedRack
        "alloc-0".toList "ALLOCATE_RESULT alloc-0".toList := by
  obtain ⟨list, result⟩ := responses_decode_iff (rackPlugin 2) "rack".toList
    sharedRack sharedRack_words
  have built : allocateResultCommand "alloc-0".toList =
      some "ALLOCATE_RESULT alloc-0".toList := by decide +kernel
  have rows : sharedRack.controller.allocations.rows.length = 2 := by
    decide +kernel
  have pool : PoolArrives (listedPool (rackPlugin 2) sharedRack) := by
    decide +kernel
  refine ⟨?_, rows, ?_⟩
  · rw [list]
    intro _
    exact pool
  · rw [result _ _ built]
    exact resultArrives_of_fewRows sharedRack_words.allocations
      (rows.trans_le (by decide))

/-- With 109 SSUs the last of them has 100 MB, and the SDK says `SSU_OK`. -/
theorem list_shortens_the_last_number :
    ¬ListDecodes (rackPlugin 109) "rack".toList (.initial ()) := by
  rw [listDecodes_iff "rack".toList (rack_words (by decide +kernel))]
  decide +kernel

end Commands

end UbseSsu.System

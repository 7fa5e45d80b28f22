import UbseSsu.Dataplane.Operations
import UbseSsu.Library.ZeroFile

/-!
# What the data plane does to the devices

The loops around `pwrite` and `pread` over zero-extended files.  A call may be
interrupted or transfer fewer bytes than it was asked for; as long as the
interruptions come to an end, a write ends with its buffer in the file and a
read with the bytes of the file.
-/

namespace UbseSsu.Dataplane

open ZeroFile Schedule

section Calls

abbrev WriteAnswer : Type := Except IoFailure Nat

abbrev ReadAnswer : Type := Except IoFailure (List UInt8)

/-- What `pwrite` may answer: `EINTR`, or that it has written at least one
byte. -/
def HonestWrite (call : WriteCall) (answer : WriteAnswer) : Prop :=
  answer = .error .interrupted ∨
    ∃ count, 0 < count ∧ count ≤ call.bytes.length ∧ answer = .ok count

/-- What `pread` may answer: `EINTR`, or the bytes of the file for a count of
at least one, of which there are none behind the end. -/
def HonestRead (file : List UInt8) (call : ReadCall) (answer : ReadAnswer) :
    Prop :=
  answer = .error .interrupted ∨
    ∃ count, 0 < count ∧ count ≤ call.length ∧
      answer = .ok (pread file call.offset.toInt.toNat count)

def interrupts {Answer : Type} : Except IoFailure Answer → Bool
  | .error .interrupted => true
  | _ => false

/-- The file after the calls with their answers. -/
def applyWrites (file : List UInt8) :
    List WriteCall → List WriteAnswer → List UInt8
  | call :: calls, .ok count :: answers =>
      applyWrites (pwrite file call.offset.toInt.toNat (call.bytes.take count))
        calls answers
  | _ :: calls, .error _ :: answers => applyWrites file calls answers
  | _, _ => file

end Calls

section Loops

variable {buf : List UInt8} {offset : Int64} {base done : Nat}
  {file : List UInt8}

/-- The loop of `write_all` has written the rest of the buffer, or it is still
running and every answer but `EINTR` has brought it on. -/
theorem writeAll_served
    (offsets : ∀ written < buf.length,
      (offsetPlus offset written).toInt = base + written)
    {answers : List WriteAnswer} (inside : done ≤ buf.length)
    (suits : Suits HonestWrite (writeAll buf offset done answers).2 answers) :
    ((writeAll buf offset done answers).1 = some .ok ∧
      applyWrites file (writeAll buf offset done answers).2 answers =
        pwrite file (base + done) (buf.drop done)) ∨
    ((writeAll buf offset done answers).1 = none ∧
      done + answers.countP (fun answer => !interrupts answer) <
        buf.length) := by
  induction answers generalizing done file with
  | nil =>
      by_cases ended : buf.length ≤ done
      · left
        rw [writeAll, if_pos ended, List.drop_of_length_le ended, pwrite_nil]
        exact ⟨rfl, rfl⟩
      · right
        rw [writeAll, if_neg ended]
        exact ⟨rfl, Nat.not_le.mp ended⟩
  | cons answer answers induction =>
      by_cases ended : buf.length ≤ done
      · left
        rw [writeAll, if_pos ended, List.drop_of_length_le ended, pwrite_nil]
        exact ⟨rfl, rfl⟩
      · rw [writeAll, if_neg ended] at suits ⊢
        cases answer with
        | error failure =>
            cases failure with
            | interrupted =>
                simpa [applyWrites, interrupts] using
                  induction inside suits.2
            | other =>
                rcases suits.1 with same | ⟨_, _, _, same⟩ <;> cases same
        | ok count =>
            have honest : HonestWrite ⟨offsetPlus offset done, buf.drop done⟩
                (.ok count) := by
              cases count with
              | zero => exact suits.1
              | succ count => exact suits.1
            obtain ⟨written, positive, most, same⟩ := honest.resolve_left
              (fun same => by cases same)
            cases same
            rw [List.length_drop] at most
            obtain ⟨fewer, rfl⟩ := Nat.exists_eq_succ_of_ne_zero positive.ne'
            have start : (offsetPlus offset done).toInt.toNat = base + done := by
              rw [offsets done (Nat.not_le.mp ended)]
              rfl
            have piece : ((buf.drop done).take (fewer + 1)).length =
                fewer + 1 := by
              rw [List.length_take, List.length_drop]
              omega
            have whole := pwrite_append file ((buf.drop done).take (fewer + 1))
              (buf.drop (done + (fewer + 1))) (base + done)
            rw [piece, ← List.drop_drop, List.take_append_drop, List.drop_drop,
              Nat.add_assoc] at whole
            rcases @induction (done + (fewer + 1)) (pwrite file (base + done)
              ((buf.drop done).take (fewer + 1))) (by omega) suits.2 with
              ⟨status, written⟩ | ⟨status, left⟩
            · left
              refine ⟨status, ?_⟩
              simp only [applyWrites, start]
              rw [written, whole]
            · right
              refine ⟨status, ?_⟩
              rw [List.countP_cons_of_pos (by rfl)]
              omega

theorem readAll_finished {len : Nat} {filled : List UInt8}
    (ended : len ≤ filled.length) (answers : List ReadAnswer) :
    (readAll len offset filled answers).1 =
      some (.ok (filled ++
        window file (base + filled.length) (len - filled.length))) := by
  have none : len - filled.length = 0 := by omega
  rw [readAll, if_pos ended, none]
  simp [window]

/-- The loop of `read_all` has filled the rest of the buffer, or it is still
running and every answer but `EINTR` has brought it on. -/
theorem readAll_served {len : Nat} {filled : List UInt8}
    (offsets : ∀ read < len, (offsetPlus offset read).toInt = base + read)
    {answers : List ReadAnswer} (inside : filled.length ≤ len)
    (suits : Suits (HonestRead file) (readAll len offset filled answers).2
      answers) :
    (readAll len offset filled answers).1 =
      some (.ok (filled ++
        window file (base + filled.length) (len - filled.length))) ∨
    ((readAll len offset filled answers).1 = none ∧
      filled.length + answers.countP (fun answer => !interrupts answer) <
        len) := by
  induction answers generalizing filled with
  | nil =>
      by_cases ended : len ≤ filled.length
      · exact .inl (readAll_finished ended [])
      · right
        rw [readAll, if_neg ended]
        exact ⟨rfl, Nat.not_le.mp ended⟩
  | cons answer answers induction =>
      by_cases ended : len ≤ filled.length
      · exact .inl (readAll_finished ended _)
      rw [readAll, if_neg ended] at suits ⊢
      cases answer with
      | error failure =>
          cases failure with
          | interrupted => simpa [interrupts] using induction inside suits.2
          | other => rcases suits.1 with same | ⟨_, _, _, same⟩ <;> cases same
      | ok bytes =>
          have honest : HonestRead file
              ⟨offsetPlus offset filled.length, len - filled.length⟩
              (.ok bytes) := by
            cases bytes with
            | nil => exact suits.1
            | cons byte bytes => exact suits.1
          obtain ⟨count, positive, most, same⟩ := honest.resolve_left
            (fun same => by cases same)
          have start : (offsetPlus offset filled.length).toInt.toNat =
              base + filled.length := by
            rw [offsets filled.length (Nat.not_le.mp ended)]
            rfl
          simp only [start, Except.ok.injEq] at same most
          cases bytes with
          | nil =>
              left
              have behind := (pread_eq_nil positive).mp same.symm
              simp only
              rw [window_of_length_le behind]
              rfl
          | cons byte bytes =>
              have read : byte :: bytes = window file (base + filled.length)
                  (byte :: bytes).length := by
                have whole : pread file (base + filled.length) count =
                    window file (base + filled.length)
                      (pread file (base + filled.length) count).length :=
                  pread_eq_window
                rwa [← same] at whole
              have fits : (filled ++ byte :: bytes).length ≤ len := by
                have short := congrArg List.length same
                rw [length_pread] at short
                rw [List.length_append]
                omega
              rcases induction fits suits.2 with finished | ⟨status, left⟩
              · left
                simp only
                rw [finished, List.append_assoc, List.length_append]
                have rest : len - filled.length = (byte :: bytes).length +
                    (len - (filled.length + (byte :: bytes).length)) := by
                  rw [List.length_append] at fits
                  omega
                rw [rest, window_append, ← read, Nat.add_assoc]
              · right
                refine ⟨status, ?_⟩
                rw [List.countP_cons_of_pos (by rfl)]
                rw [List.length_append, List.length_cons] at left
                omega

end Loops

section Operations

variable {logdev : SsuLogdevInfo} {logicalOffset len : UInt64}
  {buf : Option (List UInt8)} {file : List UInt8}

/-- `translate_offset` accepts the range, which ends below `2^63`. -/
structure Accepted (logdev : SsuLogdevInfo) (logicalOffset len : UInt64) :
    Prop where
  translated : ∃ offset, translateOffset logdev logicalOffset len = .ok offset
  near : lastOffset logdev logicalOffset len < 2 ^ 63

theorem Accepted.translation (accepted : Accepted logdev logicalOffset len) :
    translateOffset logdev logicalOffset len =
      .ok (UInt64.ofNat (physOffset logdev logicalOffset)).toInt64 := by
  obtain ⟨offset, translated⟩ := accepted.translated
  have named : logdev.physDev.chars ≠ [] := by
    intro unnamed
    have empty : isEmptyString logdev.physDev.chars = true := by
      rw [unnamed]
      rfl
    rw [translateOffset, if_pos empty] at translated
    cases translated
  rw [translateOffset_eq named] at translated ⊢
  split at translated
  · rename_i both
    rw [if_pos both]
  · cases translated

/-- A schedule for the `pwrite` calls of one write: it answers each as it may
be answered, and not with `EINTR` for ever. -/
structure WriteServed (logdev : SsuLogdevInfo) (logicalOffset : UInt64)
    (buf : Option (List UInt8)) (len : UInt64)
    (schedule : Nat → WriteAnswer) : Prop where
  suits : ∀ count, Suits HonestWrite
    (ssuDataplaneWrite logdev logicalOffset buf len true
      (upTo schedule count)).2 (upTo schedule count)
  finite : {index | interrupts (schedule index) = true}.Finite

/-- The same for the `pread` calls of one read of the file. -/
structure ReadServed (file : List UInt8) (logdev : SsuLogdevInfo)
    (logicalOffset : UInt64) (buf : Option Unit) (len : UInt64)
    (schedule : Nat → ReadAnswer) : Prop where
  suits : ∀ count, Suits (HonestRead file)
    (ssuDataplaneRead logdev logicalOffset buf len true
      (upTo schedule count)).2 (upTo schedule count)
  finite : {index | interrupts (schedule index) = true}.Finite

/-- A write ends with `SSU_OK` and its buffer in the file. -/
theorem ssuDataplaneWrite_served (accepted : Accepted logdev logicalOffset len)
    (sized : (buf.getD []).length = len.toNat)
    {schedule : Nat → WriteAnswer}
    (served : WriteServed logdev logicalOffset buf len schedule)
    (file : List UInt8) :
    ∃ count,
      let answers := upTo schedule count
      let result := ssuDataplaneWrite logdev logicalOffset buf len true answers
      result.1 = some .ok ∧
        applyWrites file result.2 answers =
          pwrite file (physOffset logdev logicalOffset) (buf.getD []) := by
  have present : ¬(buf.isNone ∧ len > 0) := by
    rintro ⟨missing, some⟩
    rw [Option.isNone_iff_eq_none] at missing
    rw [missing, Option.getD_none, List.length_nil] at sized
    have positive := UInt64.lt_iff_toNat_lt.mp some
    omega
  have whole : (buf.getD []).take len.toNat = buf.getD [] :=
    List.take_of_length_le sized.le
  have called : ∀ answers,
      ssuDataplaneWrite logdev logicalOffset buf len true answers =
        writeAll (buf.getD [])
          (UInt64.ofNat (physOffset logdev logicalOffset)).toInt64 0
            answers := by
    intro answers
    simp only [ssuDataplaneWrite, if_neg present, accepted.translation, whole,
      if_true]
  have offsets : ∀ written < (buf.getD []).length,
      (offsetPlus (UInt64.ofNat (physOffset logdev logicalOffset)).toInt64
        written).toInt = (physOffset logdev logicalOffset : Int) + written :=
    fun written inside => toInt_offsetPlus (sized ▸ inside) accepted.near
  obtain ⟨count, enough⟩ := exists_countP schedule interrupts served.finite
    (buf.getD []).length
  refine ⟨count, ?_⟩
  have suits := served.suits count
  rw [called] at suits
  simp only [called]
  have outcome := @writeAll_served (buf.getD []) _ _ _ file offsets _
    (Nat.zero_le _) suits
  rcases outcome with ⟨status, written⟩ | ⟨_, left⟩
  · rw [Nat.add_zero, List.drop_zero] at written
    exact ⟨status, written⟩
  · rw [Nat.zero_add] at left
    exact (Nat.not_lt.mpr enough left).elim

/-- A read ends with `SSU_OK` and the bytes of the file. -/
theorem ssuDataplaneRead_served (accepted : Accepted logdev logicalOffset len)
    {schedule : Nat → ReadAnswer}
    (served : ReadServed file logdev logicalOffset (some ()) len schedule) :
    ∃ count,
      (ssuDataplaneRead logdev logicalOffset (some ()) len true
        (upTo schedule count)).1 =
          some (.ok (window file (physOffset logdev logicalOffset)
            len.toNat)) := by
  have called : ∀ answers,
      ssuDataplaneRead logdev logicalOffset (some ()) len true answers =
        readAll len.toNat
          (UInt64.ofNat (physOffset logdev logicalOffset)).toInt64 []
            answers := by
    intro answers
    simp [ssuDataplaneRead, accepted.translation]
  have offsets : ∀ read < len.toNat,
      (offsetPlus (UInt64.ofNat (physOffset logdev logicalOffset)).toInt64
        read).toInt = (physOffset logdev logicalOffset : Int) + read :=
    fun read inside => toInt_offsetPlus inside accepted.near
  obtain ⟨count, enough⟩ := exists_countP schedule interrupts served.finite
    len.toNat
  refine ⟨count, ?_⟩
  have suits := served.suits count
  rw [called] at suits ⊢
  rcases readAll_served offsets (Nat.zero_le _) suits with
    finished | ⟨_, left⟩
  · rw [List.nil_append, List.length_nil, Nat.add_zero, Nat.sub_zero]
      at finished
    exact finished
  · rw [List.length_nil, Nat.zero_add] at left
    exact (Nat.not_lt.mpr enough left).elim

end Operations

section Devices

variable {Device : Type} [DecidableEq Device]

/-- The files behind the devices, `none` where there is no file yet. -/
abbrev Storage (Device : Type) : Type := Device → Option (List UInt8)

def contents (storage : Storage Device) (device : Device) : List UInt8 :=
  (storage device).getD []

variable (resolve : CString → Device)

/-- The device that the path of a row leads to. -/
def deviceOf (logdev : SsuLogdevInfo) : Device :=
  resolve logdev.physDev.chars

/-- The storage after a write that has opened its device, with `O_CREAT`. -/
def afterWrite (storage : Storage Device) (logdev : SsuLogdevInfo)
    (calls : List WriteCall) (answers : List WriteAnswer) : Storage Device :=
  Function.update storage (deviceOf resolve logdev)
    (some (applyWrites (contents storage (deviceOf resolve logdev)) calls
      answers))

/-- The range starts at this byte of the device and has this length. -/
structure Range where
  logdev : SsuLogdevInfo
  logicalOffset : UInt64
  len : UInt64

def Range.start (range : Range) : Nat :=
  physOffset range.logdev range.logicalOffset

def Range.Accepted (range : Range) : Prop :=
  Dataplane.Accepted range.logdev range.logicalOffset range.len

def Range.bytes (range : Range) (storage : Storage Device) : List UInt8 :=
  window (contents storage (deviceOf resolve range.logdev)) range.start
    range.len.toNat

/-- Reading the range gives the bytes, whatever the schedule. -/
def Range.Reads (range : Range) (storage : Storage Device)
    (bytes : List UInt8) : Prop :=
  ∀ schedule, ReadServed (contents storage (deviceOf resolve range.logdev))
      range.logdev range.logicalOffset (some ()) range.len schedule →
    ∃ count, (ssuDataplaneRead range.logdev range.logicalOffset (some ())
      range.len (storage (deviceOf resolve range.logdev)).isSome
        (upTo schedule count)).1 = some (.ok bytes)

/-- Two ranges without a common byte. -/
def Range.Apart (range other : Range) : Prop :=
  deviceOf resolve range.logdev ≠ deviceOf resolve other.logdev ∨
    range.start + range.len.toNat ≤ other.start ∨
      other.start + other.len.toNat ≤ range.start

/-- All bytes of the other range are bytes of this one. -/
structure Range.Covers (range other : Range) : Prop where
  device : deviceOf resolve other.logdev = deviceOf resolve range.logdev
  starts : range.start ≤ other.start
  ends : other.start + other.len.toNat ≤ range.start + range.len.toNat

/-- What a write of the range leaves in the storage. -/
structure RoundTrip (before after : Storage Device) (range : Range)
    (bytes : List UInt8) : Prop where
  changed : ∀ index,
    byteAt (contents after (deviceOf resolve range.logdev)) index =
      if range.start ≤ index ∧ index < range.start + range.len.toNat then
        byteAt bytes (index - range.start)
      else byteAt (contents before (deviceOf resolve range.logdev)) index
  others : ∀ device ≠ deviceOf resolve range.logdev,
    after device = before device
  reads : ∀ other : Range, other.Accepted →
    deviceOf resolve other.logdev = deviceOf resolve range.logdev →
      other.Reads resolve after (other.bytes resolve after)
  readsBack : ∀ other : Range, other.Accepted → range.Covers resolve other →
    other.Reads resolve after
      ((bytes.drop (other.start - range.start)).take other.len.toNat)
  apart : ∀ other : Range, range.Apart resolve other →
    other.bytes resolve after = other.bytes resolve before

variable {resolve} {storage : Storage Device} {range : Range}
  {bytes : List UInt8}

omit [DecidableEq Device] in
theorem Range.reads_of_present {other : Range} (accepted : other.Accepted)
    (present : (storage (deviceOf resolve other.logdev)).isSome = true) :
    other.Reads resolve storage (other.bytes resolve storage) := by
  intro schedule served
  rw [present]
  exact ssuDataplaneRead_served accepted served

/-- Writing the bytes of a range into its device. -/
theorem roundTrip_pwrite (sized : bytes.length = range.len.toNat) :
    RoundTrip resolve storage
      (Function.update storage (deviceOf resolve range.logdev)
        (some (pwrite (contents storage (deviceOf resolve range.logdev))
          range.start bytes))) range bytes := by
  have own : contents (Function.update storage
      (deviceOf resolve range.logdev)
      (some (pwrite (contents storage (deviceOf resolve range.logdev))
        range.start bytes))) (deviceOf resolve range.logdev) =
        pwrite (contents storage (deviceOf resolve range.logdev)) range.start
          bytes := by
    simp [contents]
  have others : ∀ device ≠ deviceOf resolve range.logdev,
      Function.update storage (deviceOf resolve range.logdev)
        (some (pwrite (contents storage (deviceOf resolve range.logdev))
          range.start bytes)) device = storage device :=
    fun device different => Function.update_of_ne different ..
  have present : (Function.update storage (deviceOf resolve range.logdev)
      (some (pwrite (contents storage (deviceOf resolve range.logdev))
        range.start bytes)) (deviceOf resolve range.logdev)).isSome = true := by
    simp
  generalize Function.update storage (deviceOf resolve range.logdev)
    (some (pwrite (contents storage (deviceOf resolve range.logdev))
      range.start bytes)) = after at own others present ⊢
  constructor
  · intro index
    rw [own, byteAt_pwrite, sized]
  · exact others
  · intro other accepted same
    exact Range.reads_of_present accepted (same ▸ present)
  · intro other accepted covers
    have inside := window_pwrite_inside
      (contents storage (deviceOf resolve range.logdev)) bytes covers.starts
      (sized ▸ covers.ends)
    rw [← own, ← covers.device] at inside
    rw [← inside]
    exact Range.reads_of_present accepted (covers.device ▸ present)
  · intro other apart
    by_cases same :
        deviceOf resolve other.logdev = deviceOf resolve range.logdev
    · have outside : other.start + other.len.toNat ≤ range.start ∨
          range.start + bytes.length ≤ other.start := by
        rw [sized]
        exact (apart.resolve_left (not_not.mpr same.symm)).symm
      rw [Range.bytes, Range.bytes, same, own]
      exact window_pwrite_apart _ _ outside
    · rw [Range.bytes, Range.bytes, contents, contents, others _ same]

/-- Every write of an accepted range returns `SSU_OK` and leaves its buffer
there, whatever counts its calls transfer and as long as `EINTR` ends. -/
theorem dataplane_round_trip (resolve : CString → Device)
    (storage : Storage Device) {range : Range} (accepted : range.Accepted)
    {buf : Option (List UInt8)} (sized : (buf.getD []).length = range.len.toNat)
    {schedule : Nat → WriteAnswer}
    (served : WriteServed range.logdev range.logicalOffset buf range.len
      schedule) :
    ∃ count,
      let answers := upTo schedule count
      let result := ssuDataplaneWrite range.logdev range.logicalOffset buf
        range.len true answers
      result.1 = some .ok ∧
        RoundTrip resolve storage
          (afterWrite resolve storage range.logdev result.2 answers) range
          (buf.getD []) := by
  obtain ⟨count, status, written⟩ := ssuDataplaneWrite_served accepted sized
    served (contents storage (deviceOf resolve range.logdev))
  refine ⟨count, status, ?_⟩
  rw [afterWrite, written]
  exact roundTrip_pwrite sized

/-- Every `pwrite` transfers one byte. -/
theorem writeAll_bytewise (buf : List UInt8) (offset : Int64) (done count : Nat) :
    Suits HonestWrite
      (writeAll buf offset done (List.replicate count (.ok 1))).2
      (List.replicate count (.ok 1)) := by
  induction count generalizing done with
  | zero =>
      rw [List.replicate_zero, writeAll]
      split <;> trivial
  | succ count induction =>
      rw [List.replicate_succ, writeAll]
      split
      · trivial
      · rename_i left
        refine ⟨.inr ⟨1, Nat.one_pos, ?_, rfl⟩, induction (done + 1)⟩
        rw [List.length_drop]
        omega

def twoSectors : Range :=
  { logdev := rowAtSector 4, logicalOffset := 512, len := 1024 }

theorem dataplane_round_trip_bytewise :
    ∃ count,
      let answers := upTo (fun _ => .ok 1) count
      let result := ssuDataplaneWrite (rowAtSector 4) 512
        (some (List.replicate 1024 0x5a)) 1024 true answers
      result.1 = some .ok ∧
        RoundTrip id (fun _ => none)
          (afterWrite id (fun _ => none) (rowAtSector 4) result.2 answers)
          twoSectors (List.replicate 1024 0x5a) := by
  have accepted : twoSectors.Accepted :=
    ⟨⟨2560, by decide +kernel⟩, by decide +kernel⟩
  apply dataplane_round_trip id (fun _ => none) accepted
  · rw [Option.getD_some, List.length_replicate]
    rfl
  · constructor
    · intro count
      have called : ∀ answers, ssuDataplaneWrite (rowAtSector 4) 512
          (some (List.replicate 1024 0x5a)) 1024 true answers =
            writeAll (List.replicate 1024 0x5a) 2560 0 answers := by
        intro answers
        have translated : translateOffset (rowAtSector 4) 512 1024 =
            .ok 2560 := by
          decide +kernel
        have whole : (List.replicate 1024 (0x5a : UInt8)).take
            (1024 : UInt64).toNat = List.replicate 1024 0x5a :=
          List.take_of_length_le (by rw [List.length_replicate]; rfl)
        simp only [ssuDataplaneWrite, translated, Option.getD_some, whole]
        rfl
      have replicated : upTo (fun _ => (.ok 1 : WriteAnswer)) count =
          List.replicate count (.ok 1) := by
        rw [upTo, List.map_const', List.length_range]
      rw [replicated, twoSectors, called]
      exact writeAll_bytewise ..
    · simp [interrupts]

end Devices

end UbseSsu.Dataplane

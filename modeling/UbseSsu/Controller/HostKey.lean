import Mathlib.Data.Char
import Mathlib.Data.List.Lex
import Mathlib.Data.List.Sort
import UbseSsu.Controller.State
import UbseSsu.Library.Framing

/-!
# Host keys

The key of a host list is its hosts in `strcmp` order, joined with commas.  No
host is empty or has a comma, so two lists have one key exactly when they are
permutations of each other.
-/

namespace UbseSsu.Controller

theorem strcmpGreater_iff (left right : CString) :
    strcmpGreater left right = true ↔ right < left := by
  induction left generalizing right with
  | nil => simp [strcmpGreater]
  | cons char left induction =>
      cases right with
      | nil => simp [strcmpGreater]
      | cons other right =>
          rw [List.cons_lt_cons_iff, strcmpGreater]
          by_cases same : char = other
          · subst same
            simp [induction]
          · have codes : other.toNat < char.toNat ↔ other < char := Iff.rfl
            simp [same, Ne.symm same, codes]

/-- The sort holds its sorted part with the greatest host first. -/
theorem insertHost_eq (host : CString) (sorted : List CString) :
    insertHost host sorted = sorted.orderedInsert (· ≥ ·) host := by
  induction sorted with
  | nil => rfl
  | cons last earlier induction =>
      rw [insertHost, List.orderedInsert_cons, induction]
      by_cases greater : strcmpGreater last host = true
      · have less : ¬host ≥ last :=
          not_le.mpr ((strcmpGreater_iff last host).mp greater)
        rw [if_pos greater, if_neg less]
      · have atLeast : host ≥ last :=
          not_lt.mp (mt (strcmpGreater_iff last host).mpr greater)
        rw [if_neg greater, if_pos atLeast]

theorem foldl_insertHost_perm (hosts sorted : List CString) :
    (hosts.foldl (fun sorted host => insertHost host sorted) sorted).Perm
      (hosts ++ sorted) := by
  induction hosts generalizing sorted with
  | nil => exact .refl _
  | cons host hosts induction =>
      apply (induction (insertHost host sorted)).trans
      rw [insertHost_eq]
      exact ((List.perm_orderedInsert _ host sorted).append_left hosts).trans
        List.perm_middle

theorem foldl_insertHost_sorted (hosts : List CString)
    {sorted : List CString} (inOrder : sorted.Pairwise (· ≥ ·)) :
    (hosts.foldl (fun sorted host => insertHost host sorted)
      sorted).Pairwise (· ≥ ·) := by
  induction hosts generalizing sorted with
  | nil => exact inOrder
  | cons host hosts induction =>
      apply induction
      simp only [insertHost_eq]
      exact inOrder.orderedInsert host sorted

theorem sortHosts_perm (hosts : List CString) :
    (sortHosts hosts).Perm hosts := by
  have sorted := foldl_insertHost_perm hosts []
  rw [List.append_nil] at sorted
  exact (List.reverse_perm _).trans sorted

/-- The order of the hosts is forgotten, and nothing else. -/
theorem sortHosts_eq_iff (left right : List CString) :
    sortHosts left = sortHosts right ↔ left.Perm right := by
  constructor
  · intro same
    have sorted := sortHosts_perm left
    rw [same] at sorted
    exact sorted.symm.trans (sortHosts_perm right)
  · intro permuted
    apply congrArg List.reverse
    have all : (left.foldl (fun sorted host => insertHost host sorted)
        []).Perm
        (right.foldl (fun sorted host => insertHost host sorted) []) := by
      apply (foldl_insertHost_perm left []).trans
      apply (permuted.append_right []).trans
      exact (foldl_insertHost_perm right []).symm
    exact all.eq_of_pairwise' (foldl_insertHost_sorted left .nil)
      (foldl_insertHost_sorted right .nil)

section InPlace

/-- The inner loop of the sort: `j` falls while the host in front of it is
greater than `host`, which moves up by one place. -/
def placeHost (host : CString) : Nat → List CString → List CString
  | 0, ordered => ordered.set 0 host
  | j + 1, ordered =>
      let earlier := ordered.getD j []
      if strcmpGreater earlier host then
        placeHost host j (ordered.set (j + 1) earlier)
      else ordered.set (j + 1) host

/-- The outer loop from place `i` on, with the rounds that are left. -/
def orderFrom : Nat → Nat → List CString → List CString
  | 0, _, ordered => ordered
  | rounds + 1, i, ordered =>
      orderFrom rounds (i + 1) (placeHost (ordered.getD i []) i ordered)

def orderHosts (hosts : List CString) : List CString :=
  orderFrom (hosts.length - 1) 1 hosts

/-- The host of the round leaves a gap behind the sorted part, which the inner
loop moves down to the place of the host. -/
theorem placeHost_eq (host gap : CString) (sorted rest : List CString) :
    placeHost host sorted.length (sorted.reverse ++ gap :: rest) =
      (insertHost host sorted).reverse ++ rest := by
  induction sorted generalizing gap rest with
  | nil => rfl
  | cons last earlier induction =>
      have shape : (last :: earlier).reverse ++ gap :: rest =
          earlier.reverse ++ last :: gap :: rest := by simp
      have front : (earlier.reverse ++ last :: gap :: rest).getD
          earlier.length [] = last := by
        simp [List.getD_eq_getElem?_getD]
      have behind : ∀ other : CString,
          (earlier.reverse ++ last :: gap :: rest).set (earlier.length + 1)
            other = earlier.reverse ++ last :: other :: rest := by
        intro other
        simp
      rw [shape, List.length_cons, placeHost, insertHost]
      simp only [front, behind]
      split
      · rw [induction]
        simp
      · simp

theorem orderFrom_eq (hosts sorted : List CString) :
    orderFrom hosts.length sorted.length (sorted.reverse ++ hosts) =
      (hosts.foldl (fun sorted host => insertHost host sorted)
        sorted).reverse := by
  induction hosts generalizing sorted with
  | nil => simp [orderFrom]
  | cons host hosts induction =>
      have next : (sorted.reverse ++ host :: hosts).getD sorted.length [] =
          host := by
        simp [List.getD_eq_getElem?_getD]
      have grown : (insertHost host sorted).length = sorted.length + 1 := by
        rw [insertHost_eq, List.orderedInsert_length]
      rw [List.length_cons, orderFrom, next, placeHost_eq, ← grown, induction]
      rfl

/-- The loops over the array sort it. -/
theorem orderHosts_eq_sortHosts (hosts : List CString) :
    orderHosts hosts = sortHosts hosts := by
  cases hosts with
  | nil => rfl
  | cons host hosts => exact orderFrom_eq hosts [host]

/-- `build_host_key` with its sort in place. -/
theorem buildHostKey_inPlace (hosts : List CString) :
    buildHostKey hosts =
      if hosts.length > maxHosts then none
      else if hosts.any fun host =>
          isEmptyString host || host.contains ',' then none
      else (joinHosts (orderHosts hosts) [] false).map
        (copyCstr hostKeySize) := by
  rw [orderHosts_eq_sortHosts]
  rfl

end InPlace

section Joined

theorem appendHostKey_eq_some_iff {key host text : CString}
    {needsComma : Bool} :
    appendHostKey key host needsComma = some text ↔
      text = key ++ ((if needsComma then [','] else []) ++ host) ∧
        host ≠ [] ∧ ',' ∉ host ∧ text.length < hostKeySize := by
  unfold appendHostKey
  generalize (if needsComma then [','] else []) ++ host = written
  constructor
  · intro appended
    split at appended
    · cases appended
    · rename_i valid
      rw [not_or, isEmptyString_iff] at valid
      split at appended
      · cases appended
      · simp only [Option.ite_none_right_eq_some, Option.some.injEq]
          at appended
        obtain ⟨room, rfl⟩ := appended
        refine ⟨rfl, valid.1, valid.2, ?_⟩
        rw [List.length_append]
        omega
  · rintro ⟨rfl, nonempty, plain, fits⟩
    rw [List.length_append] at fits
    have valid : ¬(isEmptyString host = true ∨ ',' ∈ host) := by
      rw [isEmptyString_iff]
      exact not_or.mpr ⟨nonempty, plain⟩
    rw [if_neg valid, if_neg (by omega)]
    exact if_pos (by omega)

theorem joinHosts_some {hosts : List CString} {key text : CString}
    (joined : joinHosts hosts key true = some text)
    (short : key.length < hostKeySize) :
    text = key ++ hosts.flatMap (',' :: ·) ∧ (∀ host ∈ hosts, ',' ∉ host) ∧
      text.length < hostKeySize := by
  induction hosts generalizing key with
  | nil =>
      cases joined
      exact ⟨by simp, by simp, short⟩
  | cons host hosts induction =>
      unfold joinHosts at joined
      split at joined
      · cases joined
      · rename_i longer appended
        obtain ⟨same, _, plain, fits⟩ :=
          appendHostKey_eq_some_iff.mp appended
        obtain ⟨whole, others, bounded⟩ := induction joined fits
        refine ⟨?_, List.forall_mem_cons.mpr ⟨plain, others⟩, bounded⟩
        rw [whole, same]
        simp

theorem joinHosts_intercalate {hosts : List CString} {text : CString}
    (joined : joinHosts hosts [] false = some text) :
    text = [','].intercalate hosts ∧ (∀ host ∈ hosts, ',' ∉ host) ∧
      text.length < hostKeySize ∧ (hosts ≠ [] → text ≠ []) := by
  cases hosts with
  | nil =>
      cases joined
      simp
  | cons host hosts =>
      unfold joinHosts at joined
      split at joined
      · cases joined
      · rename_i key appended
        obtain ⟨same, nonempty, plain, fits⟩ :=
          appendHostKey_eq_some_iff.mp appended
        obtain ⟨whole, others, bounded⟩ := joinHosts_some joined fits
        refine ⟨?_, List.forall_mem_cons.mpr ⟨plain, others⟩, bounded, ?_⟩
        · rw [whole, same, Framing.intercalate_cons]
          simp
        · intro _ empty
          rw [whole, same] at empty
          simp [nonempty] at empty

/-- A joined list can be taken apart again. -/
theorem joinHosts_injective {left right : List CString} {text : CString}
    (fromLeft : joinHosts left [] false = some text)
    (fromRight : joinHosts right [] false = some text) : left = right := by
  obtain ⟨leftText, leftPlain, _, leftSome⟩ := joinHosts_intercalate fromLeft
  obtain ⟨rightText, rightPlain, _, rightSome⟩ :=
    joinHosts_intercalate fromRight
  by_cases noLeft : left = []
  · by_cases noRight : right = []
    · rw [noLeft, noRight]
    · rw [noLeft] at leftText
      exact (rightSome noRight (leftText.trans List.intercalate_nil)).elim
  · by_cases noRight : right = []
    · rw [noRight] at rightText
      exact (leftSome noLeft (rightText.trans List.intercalate_nil)).elim
    · rw [← List.splitOn_intercalate ',' leftPlain noLeft,
        ← List.splitOn_intercalate ',' rightPlain noRight, ← leftText,
        ← rightText]

end Joined

/-- The keys of two accepted lists agree exactly for the same hosts. -/
theorem buildHostKey_eq_iff {left right : List CString}
    {leftKey rightKey : CBuf hostKeySize}
    (ofLeft : buildHostKey left = some leftKey)
    (ofRight : buildHostKey right = some rightKey) :
    leftKey = rightKey ↔ left.Perm right := by
  have joined : ∀ {hosts : List CString} {key : CBuf hostKeySize},
      buildHostKey hosts = some key →
        joinHosts (sortHosts hosts) [] false = some key.chars := by
    intro hosts key built
    unfold buildHostKey at built
    split at built
    · cases built
    · split at built
      · cases built
      · obtain ⟨text, whole, copied⟩ := Option.map_eq_some_iff.mp built
        obtain ⟨_, _, fits, _⟩ := joinHosts_intercalate whole
        have exact : (copyCstr hostKeySize text).chars = text :=
          copyCstr_chars_of_fits (by omega)
        rw [whole, ← copied, exact]
  have leftJoined := joined ofLeft
  have rightJoined := joined ofRight
  rw [← sortHosts_eq_iff]
  constructor
  · rintro rfl
    exact joinHosts_injective leftJoined rightJoined
  · intro same
    rw [same, rightJoined] at leftJoined
    exact BoundedString.ext (Option.some.inj leftJoined).symm

section Accepted

variable {hosts left right : List CString}

/-- What `build_host_key` accepts: every name needs room for itself and the
comma or the NUL behind it. -/
structure HostsAccepted (hosts : List CString) : Prop where
  few : hosts.length ≤ maxHosts
  named : ∀ host ∈ hosts, host ≠ [] ∧ ',' ∉ host
  fits : (hosts.map fun host => host.length + 1).sum ≤ hostKeySize

theorem HostsAccepted.of_perm (permuted : left.Perm right)
    (accepted : HostsAccepted left) : HostsAccepted right := by
  obtain ⟨few, named, fits⟩ := accepted
  constructor
  · rwa [← permuted.length_eq]
  · exact fun host member => named host (permuted.mem_iff.mpr member)
  · rwa [← (permuted.map _).sum_nat]

theorem joinHosts_cons_isSome_iff {key host : CString} {needsComma : Bool} :
    (joinHosts (host :: hosts) key needsComma).isSome = true ↔
      ∃ text, text = key ++ ((if needsComma then [','] else []) ++ host) ∧
        (host ≠ [] ∧ ',' ∉ host) ∧ text.length < hostKeySize ∧
        (joinHosts hosts text true).isSome = true := by
  rw [joinHosts]
  constructor
  · intro joined
    cases appended : appendHostKey key host needsComma with
    | none =>
        rw [appended] at joined
        cases joined
    | some text =>
        rw [appended] at joined
        obtain ⟨same, nonempty, plain, fits⟩ :=
          appendHostKey_eq_some_iff.mp appended
        exact ⟨text, same, ⟨nonempty, plain⟩, fits, joined⟩
  · rintro ⟨text, same, ⟨nonempty, plain⟩, fits, joined⟩
    rw [appendHostKey_eq_some_iff.mpr ⟨same, nonempty, plain, fits⟩]
    exact joined

theorem joinHosts_isSome_iff {key : CString}
    (short : key.length < hostKeySize) :
    (joinHosts hosts key true).isSome = true ↔
      (∀ host ∈ hosts, host ≠ [] ∧ ',' ∉ host) ∧
        key.length + (hosts.map fun host => host.length + 1).sum <
          hostKeySize := by
  induction hosts generalizing key with
  | nil => simpa [joinHosts] using short
  | cons host hosts induction =>
      have longer : (key ++ ([','] ++ host)).length =
          key.length + (host.length + 1) := by simp
      rw [joinHosts_cons_isSome_iff, List.forall_mem_cons, List.map_cons,
        List.sum_cons]
      constructor
      · rintro ⟨text, rfl, valid, fits, joined⟩
        obtain ⟨others, room⟩ := (induction fits).mp joined
        rw [if_pos rfl, longer] at room
        exact ⟨⟨valid, others⟩, by omega⟩
      · rintro ⟨⟨valid, others⟩, room⟩
        have fits : (key ++ ([','] ++ host)).length < hostKeySize := by omega
        refine ⟨_, rfl, valid, fits, (induction fits).mpr ⟨others, ?_⟩⟩
        rw [longer]
        omega

/-- From the empty key on there is no comma in front of the first name. -/
theorem joinHosts_nil_isSome_iff :
    (joinHosts hosts [] false).isSome = true ↔
      (∀ host ∈ hosts, host ≠ [] ∧ ',' ∉ host) ∧
        (hosts.map fun host => host.length + 1).sum ≤ hostKeySize := by
  cases hosts with
  | nil => simp [joinHosts]
  | cons host hosts =>
      rw [joinHosts_cons_isSome_iff, List.forall_mem_cons, List.map_cons,
        List.sum_cons]
      constructor
      · rintro ⟨text, rfl, valid, fits, joined⟩
        obtain ⟨others, room⟩ := (joinHosts_isSome_iff fits).mp joined
        exact ⟨⟨valid, others⟩, by omega⟩
      · rintro ⟨⟨valid, others⟩, room⟩
        have fits : host.length < hostKeySize := by omega
        exact ⟨host, rfl, valid, fits,
          (joinHosts_isSome_iff fits).mpr ⟨others, by omega⟩⟩

theorem buildHostKey_isSome_iff :
    (buildHostKey hosts).isSome = true ↔ HostsAccepted hosts := by
  have sorted := sortHosts_perm hosts
  have names : (∀ host ∈ sortHosts hosts, host ≠ [] ∧ ',' ∉ host) ↔
      ∀ host ∈ hosts, host ≠ [] ∧ ',' ∉ host := by
    simp only [sorted.mem_iff]
  have room : ((sortHosts hosts).map fun host => host.length + 1).sum =
      (hosts.map fun host => host.length + 1).sum :=
    (sorted.map _).sum_nat
  unfold buildHostKey
  constructor
  · intro built
    split at built
    · cases built
    · rename_i few
      split at built
      · cases built
      · rw [Option.isSome_map, joinHosts_nil_isSome_iff, names, room] at built
        exact ⟨Nat.le_of_not_lt few, built.1, built.2⟩
  · rintro ⟨few, named, fits⟩
    have valid : ¬(hosts.any fun host =>
        isEmptyString host || host.contains ',') = true := by
      simpa [isEmptyString] using named
    rw [if_neg (Nat.not_lt.mpr few), if_neg valid, Option.isSome_map,
      joinHosts_nil_isSome_iff, names, room]
    exact ⟨named, fits⟩

/-- What the key says about two host lists. -/
structure HostKeyCanonical (left right : List CString) : Prop where
  /-- Names without commas, at most 32, that fit the 256 bytes. -/
  accepted : (buildHostKey left).isSome = true ↔ HostsAccepted left
  orderFree : left.Perm right →
    ((buildHostKey left).isSome = true ↔
      (buildHostKey right).isSome = true)
  canonical : ∀ leftKey rightKey, buildHostKey left = some leftKey →
    buildHostKey right = some rightKey →
      (leftKey = rightKey ↔ left.Perm right)

theorem host_key_canonical (left right : List CString) :
    HostKeyCanonical left right := by
  constructor
  · exact buildHostKey_isSome_iff
  · intro permuted
    rw [buildHostKey_isSome_iff, buildHostKey_isSome_iff]
    exact ⟨.of_perm permuted, .of_perm permuted.symm⟩
  · intro leftKey rightKey ofLeft ofRight
    exact buildHostKey_eq_iff ofLeft ofRight

example : (buildHostKey ["host-b".toList, "host-a".toList]).map (·.chars) =
    some "host-a,host-b".toList := by
  decide +kernel

end Accepted

end UbseSsu.Controller

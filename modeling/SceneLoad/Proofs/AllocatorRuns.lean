import Mathlib.Algebra.GroupWithZero.Nat
import SceneLoad.Proofs.RuntimeIds

/-!
# Runs of an allocator

A call on an allocator answers with an id or, when all are used up, with nothing (`call`). A run is
any number of calls, one after another (`calls`), and it may well go on after the last id.

Where an allocator stands is a matter of its first id and of the number of calls alone
(`afterCalls`). The `n`-th call answers with the number `n` places after the first id, if 64 bits
hold it (`call_afterCalls`), so a run reads off these answers one by one (`calls_afterCalls`). What
it hands out is an interval of numbers (`issued_answers`), and how many they are is what the
allocator counts (`allocated_afterCalls`).
-/

namespace SceneLoad

namespace IdAllocator

/-- The answer to a call, and the allocator after it. A call that gets nothing changes nothing. -/
def call (allocator : IdAllocator) : Option EntityId × IdAllocator :=
  match allocator.allocate with
  | none => (none, allocator)
  | some (id, next) => (some id, next)

/-- The answers to so many calls in a row, and the allocator after them. -/
def calls : (count : Nat) → IdAllocator → List (Option EntityId) × IdAllocator
  | 0, allocator => ([], allocator)
  | count + 1, allocator =>
    let (answer, next) := allocator.call
    let (answers, after) := calls count next
    (answer :: answers, after)

/-- The id `n` places after the first, unless it is beyond 64 bits. -/
def idAt? (first : UInt64) (n : Nat) : Option EntityId :=
  if first.toNat + n < UInt64.size then some ⟨.ofNat (first.toNat + n)⟩ else none

/-- The allocator that started at `first`, after `n` calls. -/
def afterCalls (first : UInt64) (n : Nat) : IdAllocator :=
  ⟨first, (idAt? first n).map EntityId.value⟩

/-- The ids among the answers, in order. -/
def issued (answers : List (Option EntityId)) : List EntityId := answers.filterMap id

theorem issued_some (id : EntityId) (answers : List (Option EntityId)) :
    issued (some id :: answers) = id :: issued answers := rfl

theorem issued_none (answers : List (Option EntityId)) :
    issued (none :: answers) = issued answers := rfl

variable {first : UInt64} {n : Nat}

theorem idAt?_of_lt (h : first.toNat + n < UInt64.size) :
    idAt? first n = some ⟨.ofNat (first.toNat + n)⟩ := if_pos h

theorem idAt?_eq_none_iff : idAt? first n = none ↔ UInt64.size ≤ first.toNat + n := by
  simp [idAt?]

theorem idAt?_of_le (h : UInt64.size ≤ first.toNat + n) : idAt? first n = none :=
  idAt?_eq_none_iff.2 h

theorem startingAt_eq (first : UInt64) : startingAt first = afterCalls first 0 := by
  simp [startingAt, afterCalls, idAt?_of_lt (n := 0) first.toNat_lt_size]

/-! ## One call -/

/-- The step : the next number is handed out, and nothing from the first on that 64 bits do not
hold. -/
theorem call_afterCalls (first : UInt64) (n : Nat) :
    (afterCalls first n).call = (idAt? first n, afterCalls first (n + 1)) := by
  have hsize : last.toNat + 1 = UInt64.size := rfl
  by_cases hn : first.toNat + n < UInt64.size
  · have hvalue := UInt64.toNat_ofNat_of_lt' hn
    by_cases hnext : first.toNat + (n + 1) < UInt64.size
    · have hlast : UInt64.ofNat (first.toNat + n) ≠ last := by
        intro heq
        rw [heq] at hvalue
        omega
      have hsucc : UInt64.ofNat (first.toNat + n) + 1 = .ofNat (first.toNat + (n + 1)) := by
        rw [← UInt64.toNat_inj, toNat_succ hlast, hvalue, UInt64.toNat_ofNat_of_lt' hnext,
          Nat.add_assoc]
      simp only [call, allocate, afterCalls, idAt?_of_lt hn, idAt?_of_lt hnext, Option.map_some,
        if_neg hlast, hsucc]
    · have hlast : UInt64.ofNat (first.toNat + n) = last := by
        rw [← UInt64.toNat_inj, hvalue]
        omega
      simp only [call, allocate, afterCalls, idAt?_of_lt hn, idAt?_of_le (Nat.not_lt.1 hnext),
        Option.map_some, Option.map_none, if_pos hlast]
  · have hend : UInt64.size ≤ first.toNat + n := Nat.not_lt.1 hn
    have hnext : UInt64.size ≤ first.toNat + (n + 1) := Nat.le_succ_of_le hend
    simp only [call, allocate, afterCalls, idAt?_of_le hend, idAt?_of_le hnext, Option.map_none]

/-- How many ids have been handed out after `n` calls, as far as the allocator can count them. -/
theorem allocated_afterCalls (first : UInt64) (n : Nat) :
    (afterCalls first n).allocated = min (min n (2 ^ 64 - first.toNat)) (2 ^ 64 - 1) := by
  have hfirst : first.toNat < 2 ^ 64 := first.toNat_lt_size
  by_cases hn : first.toNat + n < UInt64.size
  · have hvalue : (UInt64.ofNat (first.toNat + n)).toNat = first.toNat + n :=
      UInt64.toNat_ofNat_of_lt' hn
    have hn' : first.toNat + n < 2 ^ 64 := hn
    simp only [allocated, afterCalls, idAt?_of_lt hn, Option.map_some, hvalue]
    omega
  · have hn' : ¬first.toNat + n < 2 ^ 64 := hn
    have hlast : last.toNat = 2 ^ 64 - 1 := rfl
    simp only [allocated, afterCalls, idAt?_of_le (Nat.not_lt.1 hn), Option.map_none, hlast]
    omega

theorem isExhausted_afterCalls (first : UInt64) (n : Nat) :
    (afterCalls first n).isExhausted = true ↔ 2 ^ 64 ≤ first.toNat + n := by
  by_cases hn : first.toNat + n < UInt64.size
  · simpa [isExhausted, afterCalls, idAt?_of_lt hn] using hn
  · simpa [isExhausted, afterCalls, idAt?_of_le (Nat.not_lt.1 hn)] using hn

/-- What is to be handed out next is not below the first id. -/
theorem first_le_of_next {next : UInt64} (h : (afterCalls first n).next = some next) :
    first ≤ next := by
  obtain ⟨id, hid, rfl⟩ := Option.map_eq_some_iff.1 h
  by_cases hn : first.toNat + n < UInt64.size
  · rw [idAt?_of_lt hn] at hid
    obtain rfl := Option.some.inj hid
    rw [UInt64.le_iff_toNat_le, UInt64.toNat_ofNat_of_lt' hn]
    exact Nat.le_add_right ..
  · rw [idAt?_of_le (Nat.not_lt.1 hn)] at hid
    cases hid

/-! ## Runs -/

/-- A run gets the answers in turn. -/
theorem calls_afterCalls (first : UInt64) : ∀ count n : Nat,
    calls count (afterCalls first n) =
      ((List.range' n count).map (idAt? first), afterCalls first (n + count))
  | 0, _ => rfl
  | count + 1, n => by
    rw [calls, call_afterCalls]
    simp only [calls_afterCalls first count (n + 1)]
    rw [List.range'_succ, List.map_cons, Nat.add_right_comm, Nat.add_assoc]

theorem calls_startingAt_eq (first : UInt64) (count : Nat) :
    calls count (startingAt first) =
      ((List.range count).map (idAt? first), afterCalls first count) := by
  rw [startingAt_eq, calls_afterCalls, Nat.zero_add, List.range_eq_range']

/-- What a run hands out are the numbers from one on, as far as 64 bits go. -/
theorem issued_answers (first : UInt64) : ∀ count n : Nat,
    (issued ((List.range' n count).map (idAt? first))).map (fun id => id.value.toNat) =
      List.range' (first.toNat + n) (min count (2 ^ 64 - (first.toNat + n)))
  | 0, _ => by simp [issued]
  | count + 1, n => by
    have ih := issued_answers first count (n + 1)
    rw [List.range'_succ, List.map_cons]
    by_cases hn : first.toNat + n < UInt64.size
    · have hn' : first.toNat + n < 2 ^ 64 := hn
      have hcount : min (count + 1) (2 ^ 64 - (first.toNat + n)) =
        min count (2 ^ 64 - (first.toNat + (n + 1))) + 1 := by omega
      rw [idAt?_of_lt hn, issued_some, List.map_cons, ih, hcount, List.range'_succ,
        UInt64.toNat_ofNat_of_lt' hn, Nat.add_assoc]
    · have hn' : ¬first.toNat + n < 2 ^ 64 := hn
      have hcount : min (count + 1) (2 ^ 64 - (first.toNat + n)) = 0 := by omega
      have hcount' : min count (2 ^ 64 - (first.toNat + (n + 1))) = 0 := by omega
      rw [idAt?_of_le (Nat.not_lt.1 hn), issued_none, ih, hcount, hcount']
      rfl

/-- The answers as numbers. -/
theorem map_toNat_idAt? (first : UInt64) (n : Nat) :
    (idAt? first n).map (fun id => id.value.toNat) =
      if first.toNat + n ≤ 2 ^ 64 - 1 then some (first.toNat + n) else none := by
  by_cases hn : first.toNat + n < UInt64.size
  · have hle : first.toNat + n ≤ 2 ^ 64 - 1 := Nat.le_sub_one_of_lt hn
    rw [idAt?_of_lt hn, if_pos hle, Option.map_some, UInt64.toNat_ofNat_of_lt' hn]
  · have hnot : ¬first.toNat + n ≤ 2 ^ 64 - 1 := fun hle =>
      hn (Nat.lt_of_le_sub_one (by decide) hle)
    rw [idAt?_of_le (Nat.not_lt.1 hn), if_neg hnot, Option.map_none]

/-- A run of any length from `first` on. The `n`-th call gets the number `n` places after `first`
as long as that is within 64 bits, and nothing otherwise. So what is handed out are consecutive
numbers, each greater than all before it, and once a call gets nothing no later one gets anything.
The allocator is exhausted when all ids from `first` on have been handed out. How many were is
counted by subtracting `first` from the next id, which is never below it, and the count is right
unless every 64-bit number was handed out : these are one more than 64 bits can count. -/
theorem calls_startingAt (first : UInt64) (count : Nat) {answers : List (Option EntityId)}
    {after : IdAllocator} (hrun : calls count (startingAt first) = (answers, after)) :
    answers.map (Option.map fun id => id.value.toNat) =
        ((List.range count).map fun n =>
          if first.toNat + n ≤ 2 ^ 64 - 1 then some (first.toNat + n) else none) ∧
      (issued answers).map (fun id => id.value.toNat) =
        List.range' first.toNat (min count (2 ^ 64 - first.toNat)) ∧
      (issued answers).Pairwise (fun earlier later => earlier.value < later.value) ∧
      (∀ n m, n ≤ m → m < count → answers[n]? = some none → answers[m]? = some none) ∧
      (after.isExhausted = true ↔ (issued answers).length = 2 ^ 64 - first.toNat) ∧
      (after.first = first ∧ ∀ next, after.next = some next → after.first ≤ next) ∧
      after.allocated = min (issued answers).length (2 ^ 64 - 1) ∧
      (after.allocated ≠ (issued answers).length ↔
        first = 0 ∧ (issued answers).length = 2 ^ 64) := by
  rw [calls_startingAt_eq] at hrun
  obtain ⟨rfl, rfl⟩ := Prod.mk.inj hrun
  have hfirst : first.toNat < 2 ^ 64 := first.toNat_lt_size
  have hissued := issued_answers first count 0
  rw [← List.range_eq_range', Nat.add_zero] at hissued
  have hlength := congrArg List.length hissued
  rw [List.length_map, List.length_range'] at hlength
  have hallocated := allocated_afterCalls first count
  refine ⟨?_, hissued, ?_, fun n m hnm hm hnone => ?_, ?_, ⟨rfl, fun next => first_le_of_next⟩, ?_,
    ?_⟩
  · rw [List.map_map]
    exact List.map_congr_left fun n _ => map_toNat_idAt? first n
  · have hascending : (List.range' first.toNat (min count (2 ^ 64 - first.toNat))).Pairwise
      (· < ·) := List.pairwise_lt_range'
    rw [← hissued, List.pairwise_map] at hascending
    exact hascending.imp UInt64.lt_iff_toNat_lt.2
  · rw [List.getElem?_map, List.getElem?_range (by omega)] at hnone ⊢
    have hend := idAt?_eq_none_iff.1 (Option.some.inj hnone)
    exact congrArg some (idAt?_of_le (Nat.le_trans hend (Nat.add_le_add_left hnm _)))
  · rw [isExhausted_afterCalls, hlength]
    omega
  · rw [hallocated, hlength]
  · rw [hallocated, hlength, ← UInt64.toNat_inj, UInt64.toNat_zero]
    omega

/-- Four calls where two ids are left. -/
theorem calls_startingAt_end :
    calls 4 (startingAt (last - 1)) =
        ([some ⟨last - 1⟩, some ⟨last⟩, none, none], ⟨last - 1, none⟩) ∧
      IdAllocator.allocated ⟨last - 1, none⟩ = 2 ∧
      IdAllocator.isExhausted ⟨last - 1, none⟩ = true := by
  have hrun : calls 4 (startingAt (last - 1)) =
    ([some ⟨last - 1⟩, some ⟨last⟩, none, none], ⟨last - 1, none⟩) := by decide
  obtain ⟨-, -, -, -, hexhausted, -, hallocated, -⟩ := calls_startingAt (last - 1) 4 hrun
  exact ⟨hrun, hallocated.trans (by decide), hexhausted.2 (by decide)⟩

end IdAllocator

end SceneLoad

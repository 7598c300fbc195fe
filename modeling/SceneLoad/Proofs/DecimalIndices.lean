import Mathlib.Tactic.SplitIfs
import SceneLoad.Text.Index

/-!
# What decimal indices denote

An index has many written forms : `1`, `01` and `+1` are the same one. `Text.Denotes` says which
texts denote which index, by the value of their digits, and `Text.parseIndex` reads exactly those
(`parseIndex_eq_some_iff`). The form without sign and leading zeros is always among them
(`parseIndex_toString`).
-/

namespace SceneLoad.Text

/-- A run of decimal digits whose value fits in 64 bits. -/
structure Digits (digits : List Char) (value : Nat) : Prop where
  ne_nil : digits ≠ []
  isDigit : ∀ c ∈ digits, c.isDigit = true
  value_eq : Nat.ofDigitChars 10 digits 0 = value
  le : value ≤ maxIndex

/-- The text is a run of digits with at most one `+` before it. -/
def Denotes (text : String) (index : Nat) : Prop :=
  ∃ digits, (text.toList = digits ∨ text.toList = '+' :: digits) ∧ Digits digits index

theorem digitsValue_eq_some_iff {digits : List Char} {value : Nat} :
    digitsValue digits = some value ↔
      (∀ c ∈ digits, c.isDigit = true) ∧ Nat.ofDigitChars 10 digits 0 = value := by
  unfold digitsValue
  split_ifs with hdigits
  · exact Option.some_inj.trans (and_iff_right (List.all_eq_true.1 hdigits)).symm
  · exact iff_of_false nofun fun h => hdigits (List.all_eq_true.2 h.1)

/-- What is read after the sign. -/
theorem digits_iff {digits : List Char} {index : Nat} :
    (if digits.isEmpty then none
      else
        match digitsValue digits with
        | some value => if value ≤ maxIndex then some value else none
        | none => none) = some index ↔ Digits digits index := by
  constructor
  · intro h
    split_ifs at h with hempty
    split at h
    · next value hvalue =>
      split_ifs at h with hle
      obtain rfl := Option.some.inj h
      obtain ⟨hdigits, hvalue⟩ := digitsValue_eq_some_iff.1 hvalue
      exact ⟨mt List.isEmpty_iff.2 hempty, hdigits, hvalue, hle⟩
    · cases h
  · rintro ⟨hne, hdigits, hvalue, hle⟩
    rw [if_neg (mt List.isEmpty_iff.1 hne), digitsValue_eq_some_iff.2 ⟨hdigits, hvalue⟩]
    exact if_pos hle

/-- The sign is no digit. -/
theorem not_digits_plus (rest : List Char) (index : Nat) : ¬Digits ('+' :: rest) index :=
  fun h => absurd (h.isDigit '+' List.mem_cons_self) (by decide)

theorem parseIndex_eq_some_iff {text : String} {index : Nat} :
    parseIndex text = some index ↔ Denotes text index := by
  refine digits_iff.trans ?_
  unfold Denotes
  generalize text.toList = cs
  split
  · next rest =>
    refine ⟨fun h => ⟨rest, .inr rfl, h⟩, ?_⟩
    rintro ⟨digits, rfl | heq, h⟩
    · exact absurd h (not_digits_plus rest index)
    · rwa [(List.cons.inj heq).2]
  · next hplus =>
    refine ⟨fun h => ⟨cs, .inl rfl, h⟩, ?_⟩
    rintro ⟨digits, rfl | heq, h⟩
    · exact h
    · exact absurd heq (hplus digits)

instance (text : String) (index : Nat) : Decidable (Denotes text index) :=
  decidable_of_iff _ parseIndex_eq_some_iff

theorem parseIndex_eq_none_iff {text : String} :
    parseIndex text = none ↔ ∀ index, ¬Denotes text index := by
  simp only [Option.eq_none_iff_forall_ne_some, ne_eq, parseIndex_eq_some_iff]

theorem toList_toString (index : Nat) : (toString index).toList = Nat.toDigits 10 index := by
  rw [Nat.toString_eq_ofList_toDigits, String.toList_ofList]

/-- The digits of an index determine it, whether it fits or not. -/
theorem toString_injective {index index' : Nat} (h : toString index = toString index') :
    index = index' := by
  have hdigits := congrArg (fun text => Nat.ofDigitChars 10 (String.toList text) 0) h
  rwa [toList_toString, toList_toString, Nat.ofDigitChars_ten_toDigits,
    Nat.ofDigitChars_ten_toDigits] at hdigits

/-- Every index that fits has a written form. -/
theorem parseIndex_toString {index : Nat} (h : index ≤ maxIndex) :
    parseIndex (toString index) = some index := by
  refine parseIndex_eq_some_iff.2 ⟨_, .inl (toList_toString index), Nat.toDigits_ne_nil, ?_,
    Nat.ofDigitChars_ten_toDigits, h⟩
  exact fun c hc => Nat.isDigit_of_mem_toDigits (by decide) (by decide) hc

example : Denotes "1" 1 ∧ Denotes "01" 1 ∧ Denotes "+1" 1 ∧ ¬Denotes "-1" 1 := by decide

end SceneLoad.Text

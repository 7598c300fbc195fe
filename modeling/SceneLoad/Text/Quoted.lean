import SceneLoad.Text.Shown

/-!
# Quoted text

Messages and reports show a text between double quotes on one line: quotes, backslashes and the
common controls as two-character escapes, other characters that are not shown as themselves by
their number.
-/

namespace SceneLoad.Text

/-- Lower-case hexadecimal digits of a natural, without leading zeros. -/
def hexDigits (n : Nat) : String := String.ofList (Nat.toDigits 16 n)

/-- A character inside quoted text. -/
def escapeChar (c : Char) : String :=
  match c with
  | '"' => "\\\""
  | '\\' => "\\\\"
  | '\n' => "\\n"
  | '\r' => "\\r"
  | '\t' => "\\t"
  | c =>
    if c.toNat == 0 then "\\0"
    else if isShown c then String.singleton c
    else "\\u\x7b" ++ hexDigits c.toNat ++ "\x7d"

theorem escapeChar_of_notMem {c : Char} (h : c ∉ ['"', '\\', '\n', '\r', '\t']) :
    escapeChar c =
      if c.toNat == 0 then "\\0"
      else if isShown c then String.singleton c
      else "\\u\x7b" ++ hexDigits c.toNat ++ "\x7d" := by
  unfold escapeChar
  split <;> first | rfl | exact absurd (by decide) h

/-- A character is a two-character escape, stands for itself or is given by its number. -/
theorem escapeChar_cases (c : Char) :
    escapeChar c ∈ ["\\\"", "\\\\", "\\n", "\\r", "\\t", "\\0"] ∨
      (c ≠ '\n' ∧ escapeChar c = String.singleton c) ∨
      escapeChar c = "\\u\x7b" ++ hexDigits c.toNat ++ "\x7d" := by
  by_cases hcommon : c ∈ ['"', '\\', '\n', '\r', '\t']
  · simp only [List.mem_cons, List.not_mem_nil, or_false] at hcommon
    rcases hcommon with rfl | rfl | rfl | rfl | rfl <;> exact .inl (by decide)
  · have hne : c ≠ '\n' := by
      rintro rfl
      exact hcommon (by decide)
    rw [escapeChar_of_notMem hcommon]
    split
    · exact .inl (by decide)
    · split
      · exact .inr (.inl ⟨hne, rfl⟩)
      · exact .inr (.inr rfl)

/-- Text between double quotes. -/
def quoted (text : String) : String :=
  "\"" ++ String.join (text.toList.map escapeChar) ++ "\""

end SceneLoad.Text

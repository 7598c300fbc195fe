import SceneLoad.Json.Lexeme
import Mathlib.Data.List.TakeWhile

/-!
# The grammar of JSON

`Derives` is the grammar : a value is a word, a number, a string, or a bracket with what follows it
(`Nonterminal.body`). `JsonText` is a value with blanks around it.

Functions that read text from the front are compared with it in two directions. Such a function
`Takes` the texts of a class if whatever it reads belongs to the class, and is read the same with
something else behind it. It `Accepts` them if it reads every text of the class. A number ends only
where something else begins, so both are stated for what may follow. `Takes.made` and `Takes.map`
carry the first over to a function that makes something else of what is read.
-/

namespace SceneLoad.Grammar

open Lexeme

/-! ## Productions -/

/-- Nothing but blanks. -/
def Blank (text : List Char) : Prop := ∀ c ∈ text, isBlank c = true

/-- At least one digit. -/
structure Digits (text : List Char) : Prop where
  nonempty : text ≠ []
  digit : ∀ c ∈ text, c.isDigit = true

/-- Digits without a leading zero. -/
structure Whole (text : List Char) : Prop where
  digits : Digits text
  unpadded : ∀ c rest, text ≠ '0' :: c :: rest

/-- A point and digits, or nothing. -/
inductive Fraction : List Char → Prop where
  | absent : Fraction []
  | present {digits : List Char} : Digits digits → Fraction ('.' :: digits)

/-- A mark, a sign if there is one, and digits; or nothing. -/
inductive Exponent : List Char → Prop where
  | absent : Exponent []
  | present {mark : Char} {sign digits : List Char} : mark = 'e' ∨ mark = 'E' →
      sign ∈ [[], ['+'], ['-']] → Digits digits → Exponent (mark :: (sign ++ digits))

/-- A text of one class and then one of another. -/
def Then (First Second : List Char → Prop) (text : List Char) : Prop :=
  ∃ first second, First first ∧ Second second ∧ text = first ++ second

/-- A number after its sign. -/
def Unsigned : List Char → Prop := Then Whole (Then Fraction Exponent)

/-- A digit of a character code. -/
def isHex (c : Char) : Prop := c.isDigit = true ∨ 'a' ≤ c ∧ c ≤ 'f' ∨ 'A' ≤ c ∧ c ≤ 'F'

/-- The four digits of a character code. -/
structure HexCode (text : List Char) : Prop where
  length : text.length = 4
  hex : ∀ c ∈ text, isHex c

/-- What stands between the quotes of a string. -/
inductive Characters : List Char → Prop where
  | nil : Characters []
  | plain {c : Char} {rest : List Char} : c ≠ '"' → c ≠ '\\' → 0x20 ≤ c.toNat →
      Characters rest → Characters (c :: rest)
  | escape {c : Char} {rest : List Char} : c ∈ "\"\\/bfnrt".toList →
      Characters rest → Characters ('\\' :: c :: rest)
  | code {code rest : List Char} : HexCode code →
      Characters rest → Characters ('\\' :: 'u' :: (code ++ rest))

/-- What the body of a bracket has before an item : nothing, or the key of the item. -/
inductive Label : Frame → List Char → Prop where
  | list : Label .list []
  | object {key blank blank' : List Char} : Characters key → Blank blank → Blank blank' →
      Label .object ('"' :: (key ++ '"' :: (blank ++ ':' :: blank')))

/-- What the body of a bracket has between items, and before the first. -/
inductive Separator : (first : Bool) → List Char → Prop where
  | blank {blank : List Char} : Blank blank → Separator true blank
  | comma {blank blank' : List Char} : Blank blank → Blank blank' →
      Separator false (blank ++ ',' :: blank')

/-- The bracket that opens an array or object. -/
def opening : Frame → Char
  | .list => '['
  | .object => '\x7b'

/-- The bracket that closes an array or object. -/
def closing : Frame → Char
  | .list => ']'
  | .object => '\x7d'

inductive Nonterminal where
  | value
  /-- What follows an opening bracket, or, if not `first`, an item, up to the closing bracket. -/
  | body (frame : Frame) (first : Bool)

/-- The texts of each nonterminal. -/
inductive Derives : Nonterminal → List Char → Prop where
  | word {text : List Char} : text ∈ ["null".toList, "true".toList, "false".toList] →
      Derives .value text
  | number {text : List Char} : Unsigned text → Derives .value text
  | negative {text : List Char} : Unsigned text → Derives .value ('-' :: text)
  | string {text : List Char} : Characters text → Derives .value ('"' :: (text ++ ['"']))
  | bracket {frame : Frame} {text : List Char} : Derives (.body frame true) text →
      Derives .value (opening frame :: text)
  | close {frame : Frame} {first : Bool} {blank : List Char} : Blank blank →
      Derives (.body frame first) (blank ++ [closing frame])
  | item {frame : Frame} {first : Bool} {separator label value rest : List Char} :
      Separator first separator → Label frame label → Derives .value value →
      Derives (.body frame false) rest →
        Derives (.body frame first) (separator ++ (label ++ (value ++ rest)))

/-- One value with blanks around it. -/
def JsonText : List Char → Prop := Then Blank (Then (Derives .value) Blank)

/-! ## Reading from the front -/

section Reading

variable {ε α : Type}

/-- What is read of a text belongs to a class, and is read the same before any other text that may
follow. -/
def Taken (Front Follow : List Char → Prop) (scan : List Char → Except ε (α × List Char))
    (text : List Char) (value : α) (rest : List Char) : Prop :=
  ∃ front, Front front ∧ text = front ++ rest ∧
    ∀ rest', Follow rest' → scan (front ++ rest') = .ok (value, rest')

/-- Whatever is read belongs to a class, and is read the same before any other text that may
follow. -/
def Takes (Front Follow : List Char → Prop) (scan : List Char → Except ε (α × List Char)) : Prop :=
  ∀ ⦃text value rest⦄, scan text = .ok (value, rest) → Taken Front Follow scan text value rest

/-- Every text of a class is read, before any text that may follow. -/
def Accepts (Front Follow : List Char → Prop) (scan : List Char → Except ε (α × List Char)) :
    Prop :=
  ∀ ⦃front rest⦄, Front front → Follow rest → ∃ value, scan (front ++ rest) = .ok (value, rest)

variable {Front Follow : List Char → Prop} {scan : List Char → Except ε (α × List Char)}

theorem toOption_eq_some {result : Except ε α} {value : α} :
    result.toOption = some value ↔ result = .ok value := by
  cases result <;> simp [Except.toOption]

/-- Making something of what is read, or refusing it, takes nothing more. -/
theorem Takes.made {ε' β : Type} {scan' : List Char → Except ε' (β × List Char)}
    (hscan : Takes Front Follow scan) (make : α → Option β)
    (hmake : ∀ text, (scan' text).toOption =
      (scan text).toOption.bind fun (found, rest) => (make found).map fun value => (value, rest)) :
    Takes Front Follow scan' := by
  intro text value rest h
  rw [← toOption_eq_some, hmake, Option.bind_eq_some_iff] at h
  obtain ⟨⟨found, after⟩, hfound, hvalue⟩ := h
  obtain ⟨made, hmade, hpair⟩ := Option.map_eq_some_iff.1 hvalue
  obtain ⟨rfl, rfl⟩ := Prod.mk.inj hpair
  obtain ⟨front, hfront, htext, hsame⟩ := hscan (toOption_eq_some.1 hfound)
  refine ⟨front, hfront, htext, fun rest' hrest' => ?_⟩
  rw [← toOption_eq_some, hmake, toOption_eq_some.2 (hsame rest' hrest')]
  simp only [Option.bind_some, hmade, Option.map_some]

theorem Takes.map {β : Type} (hscan : Takes Front Follow scan) (convert : α → β) :
    Takes Front Follow fun text =>
      (scan text).map fun (value, rest) => (convert value, rest) := by
  refine hscan.made (fun found => some (convert found)) fun text => ?_
  rcases scan text with reason | ⟨found, rest⟩ <;> rfl

theorem Takes.mono {Front' Follow' : List Char → Prop} (hscan : Takes Front Follow scan)
    (hfront : ∀ front, Front front → Front' front) (hfollow : ∀ rest, Follow' rest → Follow rest) :
    Takes Front' Follow' scan := by
  intro text value rest h
  obtain ⟨front, hfrontOk, htext, hsame⟩ := hscan h
  exact ⟨front, hfront front hfrontOk, htext,
    fun rest' hrest' => hsame rest' (hfollow rest' hrest')⟩

end Reading

/-! ## Blanks and words -/

theorem Blank.append {blank blank' : List Char} (h : Blank blank) (h' : Blank blank') :
    Blank (blank ++ blank') := List.forall_mem_append.2 ⟨h, h'⟩

theorem skipBlank_append {blank : List Char} (h : Blank blank) (text : List Char) :
    skipBlank (blank ++ text) = skipBlank text := by
  induction blank with
  | nil => rfl
  | cons c rest ih =>
    obtain ⟨hc, hrest⟩ := List.forall_mem_cons.1 h
    rw [List.cons_append, skipBlank, List.dropWhile_cons_of_pos hc]
    exact ih hrest

theorem exists_blank (text : List Char) : ∃ blank, Blank blank ∧ text = blank ++ skipBlank text :=
  ⟨text.takeWhile isBlank, fun _ hc => List.mem_takeWhile_imp hc,
    (List.takeWhile_append_dropWhile ..).symm⟩

/-- After the blanks of a text comes something else. -/
theorem skipBlank_eq_cons {text rest : List Char} {c : Char} :
    skipBlank text = c :: rest ↔
      isBlank c = false ∧ ∃ blank, Blank blank ∧ text = blank ++ c :: rest := by
  refine ⟨fun h => ⟨?_, ?_⟩, ?_⟩
  · have hhead := List.head?_dropWhile_not isBlank text
    rw [← skipBlank, h] at hhead
    simpa using hhead
  · obtain ⟨blank, hblank, htext⟩ := exists_blank text
    exact ⟨blank, hblank, h ▸ htext⟩
  · rintro ⟨hc, blank, hblank, rfl⟩
    rw [skipBlank_append hblank, skipBlank, List.dropWhile_cons_of_neg (by simp [hc])]

theorem word_eq_ok : ∀ {letters text rest : List Char},
    word letters text = .ok rest ↔ text = letters ++ rest
  | [], text, rest => by simp [word]
  | c :: letters, [], rest => by simp [word]
  | c :: letters, d :: text, rest => by
    rw [word, List.cons_append, List.cons.injEq]
    split_ifs with hcd
    · rw [word_eq_ok, hcd]
      simp
    · simp [Ne.symm hcd]

end SceneLoad.Grammar

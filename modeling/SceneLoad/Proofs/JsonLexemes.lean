import SceneLoad.Proofs.JsonGrammar

/-!
# Numbers, strings and separators of JSON text

The pieces of a value, each against its production. A number may be followed by whatever does not go
on with one (`Ends`), and each of its three parts ends where the next begins, so that reading it
takes what is written (`takes_literal`) and every number is read (`accepts_literal`). A string ends
at its closing quote, whatever follows (`takes_string`), and what is skipped as a string is exactly
the strings (`skipString_eq_ok`). A string or number that is read, and not only skipped, must also
have a value : codes that come in pairs are paired, and numbers are in range.

Between the items of a list and the entries of an object the separators of the grammar are found,
and no others (`nextItem_eq_ok_true`, `nextKey_eq_ok_some`).
-/

namespace SceneLoad.Grammar

open Lexeme

/-! ## Numbers -/

/-- The text is empty or begins with a character of another class. -/
def Avoids (p : Char → Prop) (text : List Char) : Prop := ∀ c rest, text = c :: rest → ¬p c

/-- The text does not go on with digits. -/
def EndsDigits : List Char → Prop := Avoids fun c => c.isDigit = true

/-- The text goes on with neither digits nor a fraction. -/
def EndsFraction : List Char → Prop := Avoids fun c => c.isDigit = true ∨ c = '.'

/-- The text does not go on with a number. -/
def Ends : List Char → Prop := Avoids fun c => c.isDigit = true ∨ c = '.' ∨ c = 'e' ∨ c = 'E'

theorem endsDigits_dropWhile (text : List Char) : EndsDigits (text.dropWhile Char.isDigit) := by
  intro c rest h
  have hhead := List.head?_dropWhile_not Char.isDigit text
  rw [h] at hhead
  simpa using hhead

/-- Digits are read up to where they end. -/
theorem digits_append {found rest : List Char} (hfound : ∀ c ∈ found, c.isDigit = true)
    (hrest : EndsDigits rest) : digits (found ++ rest) = (found, rest) := by
  have hnone : rest.takeWhile Char.isDigit = [] ∧ rest.dropWhile Char.isDigit = rest := by
    cases rest with
    | nil => exact ⟨rfl, rfl⟩
    | cons c rest =>
      have hc := hrest c rest rfl
      exact ⟨List.takeWhile_cons_of_neg hc, List.dropWhile_cons_of_neg hc⟩
  rw [digits, List.takeWhile_append_of_pos hfound, List.dropWhile_append_of_pos hfound, hnone.1,
    hnone.2, List.append_nil]

theorem someDigits_eq_ok {atEnd : Malformed} {text found rest : List Char} :
    someDigits atEnd text = .ok (found, rest) ↔
      Digits found ∧ text = found ++ rest ∧ EndsDigits rest := by
  constructor
  · intro h
    unfold someDigits at h
    split at h
    · cases h
    · cases h
    · next hnotEnd hnotBad =>
      obtain ⟨rfl, rfl⟩ := Prod.mk.inj (Except.ok.inj h)
      exact ⟨⟨fun hnil => hnotBad _ (by rw [digits, hnil]), fun c hc => List.mem_takeWhile_imp hc⟩,
        (List.takeWhile_append_dropWhile ..).symm, endsDigits_dropWhile text⟩
  · rintro ⟨⟨hne, hdigit⟩, rfl, hrest⟩
    rw [someDigits, digits_append hdigit hrest]
    obtain ⟨c, found, rfl⟩ := List.exists_cons_of_ne_nil hne
    rfl

theorem wholePart_eq_ok {atEnd : Malformed} {text found rest : List Char} :
    wholePart atEnd text = .ok (found, rest) ↔
      Whole found ∧ text = found ++ rest ∧ EndsDigits rest := by
  constructor
  · intro h
    unfold wholePart at h
    split at h
    · cases h
    · cases h
    · next hunpadded hfound =>
      obtain rfl := Except.ok.inj h
      obtain ⟨hdigits, htext, hrest⟩ := someDigits_eq_ok.1 hfound
      exact ⟨⟨hdigits, fun c more heq => hunpadded c more rest (by rw [heq])⟩, htext, hrest⟩
  · rintro ⟨⟨hdigits, hunpadded⟩, htext, hrest⟩
    rw [wholePart, someDigits_eq_ok.2 ⟨hdigits, htext, hrest⟩]
    split
    · next heq => cases heq
    · next c more after heq =>
      obtain ⟨hfound, -⟩ := Prod.mk.inj (Except.ok.inj heq)
      exact absurd hfound (hunpadded c more)
    · next heq => exact heq.symm

theorem takes_wholePart (atEnd : Malformed) : Takes Whole EndsDigits (wholePart atEnd) := by
  intro text found rest h
  obtain ⟨hfound, htext, -⟩ := wholePart_eq_ok.1 h
  exact ⟨found, hfound, htext, fun rest' hrest' => wholePart_eq_ok.2 ⟨hfound, rfl, hrest'⟩⟩

theorem accepts_wholePart (atEnd : Malformed) : Accepts Whole EndsDigits (wholePart atEnd) :=
  fun _ _ hfront hrest => ⟨_, wholePart_eq_ok.2 ⟨hfront, rfl, hrest⟩⟩

/-- Without a point there is no fraction. -/
theorem fractionPart_absent (atEnd : Malformed) {text : List Char} (h : EndsFraction text) :
    fractionPart atEnd text = .ok (none, text) := by
  unfold fractionPart
  split
  · next rest => exact absurd (.inr rfl) (h '.' rest rfl)
  · rfl

theorem fractionPart_present (atEnd : Malformed) {found rest : List Char} (hfound : Digits found)
    (hrest : EndsDigits rest) :
    fractionPart atEnd ('.' :: (found ++ rest)) = .ok (some found, rest) := by
  simp only [fractionPart, someDigits_eq_ok.2 ⟨hfound, rfl, hrest⟩]

theorem EndsFraction.endsDigits {text : List Char} (h : EndsFraction text) : EndsDigits text :=
  fun c rest htext hc => h c rest htext (.inl hc)

theorem takes_fractionPart (atEnd : Malformed) :
    Takes Fraction EndsFraction (fractionPart atEnd) := by
  intro text value rest h
  unfold fractionPart at h
  split at h
  · next text =>
    split at h
    · cases h
    · next found after hfound =>
      obtain ⟨rfl, rfl⟩ := Prod.mk.inj (Except.ok.inj h)
      obtain ⟨hdigits, rfl, -⟩ := someDigits_eq_ok.1 hfound
      exact ⟨'.' :: found, .present hdigits, rfl, fun rest' hrest' =>
        fractionPart_present atEnd hdigits hrest'.endsDigits⟩
  · obtain ⟨rfl, rfl⟩ := Prod.mk.inj (Except.ok.inj h)
    exact ⟨[], .absent, rfl, fun rest' hrest' => fractionPart_absent atEnd hrest'⟩

theorem accepts_fractionPart (atEnd : Malformed) :
    Accepts Fraction EndsFraction (fractionPart atEnd) := by
  intro front rest hfront hrest
  cases hfront with
  | absent => exact ⟨_, fractionPart_absent atEnd hrest⟩
  | present hdigits => exact ⟨_, fractionPart_present atEnd hdigits hrest.endsDigits⟩

theorem exists_sign (text : List Char) :
    ∃ sign ∈ [[], ['+'], ['-']], text = sign ++ (signPart text).2 := by
  unfold signPart
  split <;> simp

/-- What is read of a sign does not depend on what follows the digits. -/
theorem signPart_append {sign found : List Char} (hsign : sign ∈ [[], ['+'], ['-']])
    (hfound : Digits found) (rest : List Char) :
    signPart (sign ++ (found ++ rest)) = (decide (sign = ['-']), found ++ rest) := by
  obtain ⟨c, found, rfl⟩ := List.exists_cons_of_ne_nil hfound.nonempty
  have hc := hfound.digit c List.mem_cons_self
  simp only [List.mem_cons, List.not_mem_nil, or_false] at hsign
  rcases hsign with rfl | rfl | rfl
  · rw [List.nil_append, List.cons_append]
    unfold signPart
    split
    · next heq => simp_all
    · next heq => simp_all
    · rfl
  · rfl
  · rfl

/-- Without a mark there is no exponent. -/
theorem exponentPart_absent (atEnd : Malformed) {text : List Char} (h : Ends text) :
    exponentPart atEnd text = .ok (none, text) := by
  cases text with
  | nil => rfl
  | cons c rest =>
    have hc : ¬(c = 'e' ∨ c = 'E') := fun hmark => h c rest rfl (.inr (.inr hmark))
    simp only [exponentPart, if_neg hc]

theorem exponentPart_present (atEnd : Malformed) {mark : Char} {sign found rest : List Char}
    (hmark : mark = 'e' ∨ mark = 'E') (hsign : sign ∈ [[], ['+'], ['-']]) (hfound : Digits found)
    (hrest : EndsDigits rest) :
    exponentPart atEnd (mark :: (sign ++ (found ++ rest))) =
      .ok (some (if sign = ['-'] then -(naturalOf found : Int) else naturalOf found), rest) := by
  simp only [exponentPart, if_pos hmark, signPart_append hsign hfound,
    someDigits_eq_ok.2 ⟨hfound, rfl, hrest⟩, decide_eq_true_eq]

theorem Ends.endsDigits {text : List Char} (h : Ends text) : EndsDigits text :=
  fun c rest htext hc => h c rest htext (.inl hc)

theorem takes_exponentPart (atEnd : Malformed) : Takes Exponent Ends (exponentPart atEnd) := by
  intro text value rest h
  have habsent : exponentPart atEnd text = .ok (none, text) →
      ∃ front, Exponent front ∧ text = front ++ rest ∧
        ∀ rest', Ends rest' → exponentPart atEnd (front ++ rest') = .ok (value, rest') := by
    intro hnone
    obtain ⟨rfl, rfl⟩ := Prod.mk.inj (Except.ok.inj (hnone.symm.trans h))
    exact ⟨[], .absent, rfl, fun rest' hrest' => exponentPart_absent atEnd hrest'⟩
  cases text with
  | nil => exact habsent rfl
  | cons mark text =>
    by_cases hmark : mark = 'e' ∨ mark = 'E'
    · obtain ⟨sign, hsign, htext⟩ := exists_sign text
      have hfound : ∃ found, someDigits atEnd (signPart text).2 = .ok (found, rest) := by
        simp only [exponentPart, if_pos hmark] at h
        split at h
        · cases h
        · next found after hfound =>
          obtain ⟨-, rfl⟩ := Prod.mk.inj (Except.ok.inj h)
          exact ⟨found, hfound⟩
      obtain ⟨found, hfound⟩ := hfound
      obtain ⟨hdigits, hsplit, hrest⟩ := someDigits_eq_ok.1 hfound
      rw [hsplit] at htext
      subst htext
      rw [exponentPart_present atEnd hmark hsign hdigits hrest] at h
      obtain ⟨rfl, -⟩ := Prod.mk.inj (Except.ok.inj h)
      refine ⟨mark :: (sign ++ found), .present hmark hsign hdigits, by simp,
        fun rest' hrest' => ?_⟩
      rw [List.cons_append, List.append_assoc]
      exact exponentPart_present atEnd hmark hsign hdigits hrest'.endsDigits
    · exact habsent (by simp only [exponentPart, if_neg hmark])

theorem accepts_exponentPart (atEnd : Malformed) : Accepts Exponent Ends (exponentPart atEnd) := by
  intro front rest hfront hrest
  cases hfront with
  | absent => exact ⟨_, exponentPart_absent atEnd hrest⟩
  | present hmark hsign hdigits =>
    rw [List.cons_append, List.append_assoc]
    exact ⟨_, exponentPart_present atEnd hmark hsign hdigits hrest.endsDigits⟩

/-- An exponent does not go on with a fraction. -/
theorem Exponent.endsFraction {exponent rest : List Char} (h : Exponent exponent)
    (hrest : Ends rest) : EndsFraction (exponent ++ rest) := by
  intro c more htext hc
  cases h with
  | absent => exact hrest c more htext (hc.imp_right .inl)
  | present hmark _ _ =>
    obtain ⟨rfl, -⟩ := List.cons.inj htext
    rcases hmark with rfl | rfl <;> revert hc <;> decide

/-- A fraction does not go on with the digits before it. -/
theorem Fraction.endsDigits {fraction rest : List Char} (h : Fraction fraction)
    (hrest : EndsFraction rest) : EndsDigits (fraction ++ rest) := by
  intro c more htext hc
  cases h with
  | absent => exact hrest c more htext (.inl hc)
  | present _ =>
    obtain ⟨rfl, -⟩ := List.cons.inj htext
    revert hc
    decide

theorem takes_literal (atEnd : Malformed) (negative : Bool) :
    Takes Unsigned Ends (literal atEnd negative) := by
  intro text value rest h
  unfold literal at h ⊢
  split at h
  · cases h
  · next whole text hwhole =>
    split at h
    · cases h
    · next fraction text hfraction =>
      split at h
      · cases h
      · next exponent text hexponent =>
        obtain ⟨rfl, rfl⟩ := Prod.mk.inj (Except.ok.inj h)
        obtain ⟨front, hfront, rfl, hsame⟩ := takes_wholePart _ hwhole
        obtain ⟨front', hfront', rfl, hsame'⟩ := takes_fractionPart _ hfraction
        obtain ⟨front'', hfront'', rfl, hsame''⟩ := takes_exponentPart _ hexponent
        refine ⟨front ++ (front' ++ front''),
          ⟨front, _, hfront, ⟨front', front'', hfront', hfront'', rfl⟩, rfl⟩, by simp,
          fun rest' hrest' => ?_⟩
        have hends := hfront''.endsFraction hrest'
        simp only [List.append_assoc, hsame _ (hfront'.endsDigits hends), hsame' _ hends,
          hsame'' _ hrest']

theorem accepts_literal (atEnd : Malformed) (negative : Bool) :
    Accepts Unsigned Ends (literal atEnd negative) := by
  rintro _ rest ⟨whole, _, hwhole, ⟨fraction, exponent, hfraction, hexponent, rfl⟩, rfl⟩ hrest
  have hends := hexponent.endsFraction hrest
  obtain ⟨found, hfound⟩ := accepts_wholePart atEnd hwhole (hfraction.endsDigits hends)
  obtain ⟨found', hfound'⟩ := accepts_fractionPart atEnd hfraction hends
  obtain ⟨found'', hfound''⟩ := accepts_exponentPart atEnd hexponent hrest
  unfold literal
  simp only [List.append_assoc, hfound, hfound', hfound'']
  exact ⟨_, rfl⟩

/-- A number is read as it is written, if it is in range. -/
theorem takes_number (negative : Bool) : Takes Unsigned Ends (number negative) := by
  refine (takes_literal .endInValue negative).made (fun found => found.toNumber.toOption)
    fun text => ?_
  unfold number
  rcases literal .endInValue negative text with reason | ⟨found, rest⟩
  · rfl
  · dsimp only [Except.toOption, Option.bind_some]
    cases found.toNumber <;> rfl

/-- A number that is only skipped may also be out of range. -/
theorem skipNumber_of_unsigned {number rest : List Char} (h : Unsigned number)
    (hrest : Ends rest) : skipNumber (number ++ rest) = .ok rest := by
  obtain ⟨value, hvalue⟩ := accepts_literal .badNumber false h hrest
  simp only [skipNumber, hvalue]

theorem unsigned_of_skipNumber {text rest : List Char} (h : skipNumber text = .ok rest) :
    ∃ number, Unsigned number ∧ text = number ++ rest := by
  unfold skipNumber at h
  split at h
  · cases h
  · next value after hvalue =>
    obtain rfl := Except.ok.inj h
    obtain ⟨number, hnumber, htext, -⟩ := takes_literal _ _ hvalue
    exact ⟨number, hnumber, htext⟩

/-! ## Strings -/

/-- Anything may follow. -/
def Any : List Char → Prop := fun _ => True

theorem isSome_hexValue {c : Char} : (hexValue c).isSome = true ↔ isHex c := by
  unfold hexValue isHex
  split_ifs <;> simp_all

/-- Four digits are read as a number, whatever follows. -/
theorem hexUnit_cons (a b c d : Char) (rest : List Char) :
    hexUnit (a :: b :: c :: d :: rest) =
      match hexValue a, hexValue b, hexValue c, hexValue d with
      | some a, some b, some c, some d => .ok (((a * 16 + b) * 16 + c) * 16 + d, rest)
      | _, _, _, _ => .error .badEscape := by
  have hbytes : ¬(0 + a.utf8Size + b.utf8Size + c.utf8Size + d.utf8Size < 4) := by
    have := a.utf8Size_pos
    have := b.utf8Size_pos
    have := c.utf8Size_pos
    have := d.utf8Size_pos
    omega
  simp only [hexUnit, List.take_succ_cons, List.take_zero, List.foldl_cons, List.foldl_nil,
    if_neg hbytes, List.drop_succ_cons, List.drop_zero, List.mapM_cons, List.mapM_nil]
  cases hexValue a with
  | none => rfl
  | some a =>
    cases hexValue b with
    | none => rfl
    | some b =>
      cases hexValue c with
      | none => rfl
      | some c => cases hexValue d <;> rfl

theorem length_of_mapM {α β : Type} {f : α → Option β} : ∀ {xs : List α} {ys : List β},
    xs.mapM f = some ys → ys.length = xs.length
  | [], ys, h => by
    obtain rfl : [] = ys := by simpa using h
    rfl
  | x :: xs, ys, h => by
    rw [List.mapM_cons] at h
    obtain ⟨y, -, h⟩ := Option.bind_eq_some_iff.1 h
    obtain ⟨rest, hrest, h⟩ := Option.bind_eq_some_iff.1 h
    obtain rfl := Option.some.inj h
    rw [List.length_cons, length_of_mapM hrest, List.length_cons]

theorem exists_of_length_four : ∀ {code : List Char}, code.length = 4 →
    ∃ a b c d, code = [a, b, c, d]
  | [a, b, c, d], _ => ⟨a, b, c, d, rfl⟩

theorem exists_of_hexUnit {text rest : List Char} {unit : Nat}
    (h : hexUnit text = .ok (unit, rest)) : ∃ a b c d, text = a :: b :: c :: d :: rest := by
  unfold hexUnit at h
  dsimp only at h
  split_ifs at h
  split at h
  · next a b c d hunit =>
    obtain ⟨-, rfl⟩ := Prod.mk.inj (Except.ok.inj h)
    obtain ⟨w, x, y, z, hcode⟩ := exists_of_length_four (length_of_mapM hunit).symm
    refine ⟨w, x, y, z, (List.take_append_drop 4 text).symm.trans ?_⟩
    rw [hcode]
    rfl
  · cases h

theorem takes_hexUnit : Takes HexCode Any hexUnit := by
  intro text unit rest h
  obtain ⟨a, b, c, d, rfl⟩ := exists_of_hexUnit h
  rw [hexUnit_cons] at h
  split at h
  · next ha hb hc hd =>
    refine ⟨[a, b, c, d], ⟨rfl, ?_⟩, rfl, fun rest' _ => ?_⟩
    · simp only [← isSome_hexValue]
      simp [ha, hb, hc, hd]
    · simp only [List.cons_append, List.nil_append, hexUnit_cons, ha, hb, hc, hd]
      obtain ⟨rfl, -⟩ := Prod.mk.inj (Except.ok.inj h)
      rfl
  · cases h

theorem accepts_hexUnit : Accepts HexCode Any hexUnit := by
  rintro code rest ⟨hlength, hhex⟩ -
  obtain ⟨a, b, c, d, rfl⟩ := exists_of_length_four hlength
  simp only [← isSome_hexValue, List.forall_mem_cons, Option.isSome_iff_exists] at hhex
  obtain ⟨⟨a', ha⟩, ⟨b', hb⟩, ⟨c', hc⟩, ⟨d', hd⟩, -⟩ := hhex
  refine ⟨((a' * 16 + b') * 16 + c') * 16 + d', ?_⟩
  simp only [List.cons_append, List.nil_append, hexUnit_cons, ha, hb, hc, hd]

theorem isSome_plainEscape {c : Char} :
    (plainEscape c).isSome = true ↔ c ∈ "\"\\/bfnrt".toList := by
  unfold plainEscape
  split <;> simp_all

/-- What may follow a backslash. -/
def Escaped (front : List Char) : Prop :=
  ∀ rest, Characters rest → Characters ('\\' :: (front ++ rest))

theorem escaped_plain {c : Char} (h : (plainEscape c).isSome = true) : Escaped [c] :=
  fun _ hrest => .escape (isSome_plainEscape.1 h) hrest

theorem escaped_code {code : List Char} (h : HexCode code) : Escaped ('u' :: code) :=
  fun _ hrest => .code h hrest

theorem escaped_pair {code code' : List Char} (h : HexCode code) (h' : HexCode code') :
    Escaped ('u' :: (code ++ '\\' :: 'u' :: code')) := by
  intro rest hrest
  rw [List.cons_append, List.append_assoc]
  exact .code h (.code h' hrest)

theorem takes_trailingUnit :
    Takes (fun front => ∃ code, HexCode code ∧ front = '\\' :: 'u' :: code) Any trailingUnit := by
  intro text unit rest h
  unfold trailingUnit at h
  split at h
  · cases h
  · cases h
  · next text =>
    split at h
    · cases h
    · next found after hunit =>
      split_ifs at h with hrange
      obtain ⟨rfl, rfl⟩ := Prod.mk.inj (Except.ok.inj h)
      obtain ⟨code, hcode, rfl, hsame⟩ := takes_hexUnit hunit
      refine ⟨'\\' :: 'u' :: code, ⟨code, hcode, rfl⟩, rfl, fun rest' _ => ?_⟩
      simp only [List.cons_append, trailingUnit, hsame rest' trivial, if_pos hrange]
  · cases h

theorem takes_unicodeEscape :
    Takes (fun front => Escaped ('u' :: front)) Any unicodeEscape := by
  intro text value rest h
  unfold unicodeEscape at h ⊢
  split at h
  · cases h
  · next unit after hunit =>
    obtain ⟨code, hcode, rfl, hsame⟩ := takes_hexUnit hunit
    split_ifs at h with htrailing hleading
    · split at h
      · cases h
      · next trailing after hpair =>
        obtain ⟨rfl, rfl⟩ := Prod.mk.inj (Except.ok.inj h)
        obtain ⟨_, ⟨code', hcode', rfl⟩, rfl, hsame'⟩ := takes_trailingUnit hpair
        refine ⟨code ++ '\\' :: 'u' :: code', escaped_pair hcode hcode', by simp, fun rest' _ => ?_⟩
        simp only [List.append_assoc, hsame _ trivial, if_neg htrailing, if_pos hleading,
          hsame' rest' trivial]
    · obtain ⟨rfl, rfl⟩ := Prod.mk.inj (Except.ok.inj h)
      refine ⟨code, escaped_code hcode, rfl, fun rest' _ => ?_⟩
      simp only [hsame _ trivial, if_neg htrailing, if_neg hleading]

theorem takes_escape : Takes Escaped Any escape := by
  intro text value rest h
  unfold escape at h
  split at h
  · cases h
  · next text =>
    obtain ⟨front, hfront, rfl, hsame⟩ := takes_unicodeEscape h
    exact ⟨'u' :: front, hfront, rfl, fun rest' _ => hsame rest' trivial⟩
  · next c text hnotCode =>
    split at h
    · next escaped hescaped =>
      obtain ⟨rfl, rfl⟩ := Prod.mk.inj (Except.ok.inj h)
      refine ⟨[c], escaped_plain (by simp [hescaped]), rfl, fun rest' _ => ?_⟩
      unfold escape
      split
      · next heq => cases heq
      · next heq => exact absurd (List.cons.inj heq).1 (by simpa using hnotCode)
      · next heq =>
        obtain ⟨rfl, rfl⟩ := List.cons.inj heq
        rw [hescaped]
        rfl
    · cases h

theorem stringLoop_escape {text rest : List Char} {c : Char} (h : escape text = .ok (c, rest))
    (fuel : Nat) (read : List Char) :
    stringLoop (fuel + 1) read ('\\' :: text) = stringLoop fuel (c :: read) rest := by
  simp only [stringLoop, h]

theorem stringLoop_plain {c : Char} (hquote : c ≠ '"') (hbackslash : c ≠ '\\')
    (hcontrol : ¬c.toNat < 0x20) (fuel : Nat) (read rest : List Char) :
    stringLoop (fuel + 1) read (c :: rest) = stringLoop fuel (c :: read) rest := by
  rw [stringLoop, if_neg hcontrol]
  · exact hquote
  · exact hbackslash

/-- A string that is read is one, and is read the same before anything else. The fuel has to exceed
the number of its characters. -/
theorem takes_stringLoop : ∀ {fuel : Nat} {read text rest : List Char} {value : String},
    stringLoop fuel read text = .ok (value, rest) →
      ∃ characters, Characters characters ∧ text = characters ++ '"' :: rest ∧
        ∀ fuel' rest', characters.length ≤ fuel' →
          stringLoop (fuel' + 1) read (characters ++ '"' :: rest') = .ok (value, rest')
  | 0, read, text, rest, value, h => by
    rw [stringLoop] at h
    cases h
  | fuel + 1, read, text, rest, value, h => by
    unfold stringLoop at h
    split at h
    · cases h
    · cases h
    · obtain ⟨rfl, rfl⟩ := Prod.mk.inj (Except.ok.inj h)
      exact ⟨[], .nil, rfl, fun fuel' rest' _ => rfl⟩
    · split at h
      · cases h
      · next c after hescape =>
        obtain ⟨front, hfront, rfl, hsame⟩ := takes_escape hescape
        obtain ⟨characters, hcharacters, rfl, hloop⟩ := takes_stringLoop h
        refine ⟨'\\' :: (front ++ characters), hfront characters hcharacters, by simp,
          fun fuel' rest' hfuel => ?_⟩
        rw [List.length_cons, List.length_append] at hfuel
        obtain ⟨fuel', rfl⟩ : ∃ n, fuel' = n + 1 := ⟨fuel' - 1, by omega⟩
        rw [List.cons_append, List.append_assoc, stringLoop_escape (hsame _ trivial)]
        exact hloop fuel' rest' (by omega)
    · next fuel _ read c text hquote hbackslash heq =>
      split_ifs at h with hcontrol
      obtain ⟨characters, hcharacters, rfl, hloop⟩ := takes_stringLoop h
      refine ⟨c :: characters, .plain hquote hbackslash (Nat.le_of_not_lt hcontrol) hcharacters,
        rfl, fun fuel' rest' hfuel => ?_⟩
      obtain ⟨fuel', rfl⟩ : ∃ n, fuel' = n + 1 := ⟨fuel' - 1, by simp at hfuel; omega⟩
      rw [List.cons_append, stringLoop_plain hquote hbackslash hcontrol]
      exact hloop fuel' rest' (Nat.le_of_succ_le_succ hfuel)

/-- A string up to and including the closing quote. -/
def Quoted (text : List Char) : Prop :=
  ∃ characters, Characters characters ∧ text = characters ++ ['"']

theorem takes_string : Takes Quoted Any Lexeme.string := by
  intro text value rest h
  obtain ⟨characters, hcharacters, rfl, hsame⟩ := takes_stringLoop h
  refine ⟨characters ++ ['"'], ⟨characters, hcharacters, rfl⟩, by simp, fun rest' _ => ?_⟩
  rw [List.append_assoc]
  exact hsame _ rest' (by simp)

/-! ## Skipping strings -/

theorem escaped_of_skipEscape {text rest : List Char} (h : skipEscape text = .ok rest) :
    ∃ front, Escaped front ∧ text = front ++ rest := by
  unfold skipEscape at h
  split at h
  · cases h
  · next text =>
    cases hunit : hexUnit text with
    | error reason =>
      rw [hunit] at h
      cases h
    | ok found =>
      obtain ⟨code, hcode, rfl, -⟩ := takes_hexUnit hunit
      rw [hunit] at h
      obtain rfl := Except.ok.inj h
      exact ⟨'u' :: code, escaped_code hcode, rfl⟩
  · next c text _ =>
    split_ifs at h with hplain
    obtain rfl := Except.ok.inj h
    exact ⟨[c], escaped_plain hplain, rfl⟩

theorem skipEscape_plain {c : Char} (h : c ∈ "\"\\/bfnrt".toList) (rest : List Char) :
    skipEscape (c :: rest) = .ok rest := by
  rw [skipEscape, if_pos (isSome_plainEscape.2 h)]
  rintro rfl
  simp at h

theorem skipEscape_code {code : List Char} (h : HexCode code) (rest : List Char) :
    skipEscape ('u' :: (code ++ rest)) = .ok rest := by
  have haccepts : ∃ unit, hexUnit (code ++ rest) = .ok (unit, rest) := accepts_hexUnit h trivial
  obtain ⟨unit, hunit⟩ := haccepts
  rw [skipEscape, hunit]
  rfl

theorem characters_of_skipStringLoop : ∀ {fuel : Nat} {text rest : List Char},
    skipStringLoop fuel text = .ok rest →
      ∃ characters, Characters characters ∧ text = characters ++ '"' :: rest
  | 0, text, rest, h => by
    rw [skipStringLoop] at h
    cases h
  | fuel + 1, text, rest, h => by
    unfold skipStringLoop at h
    split at h
    · cases h
    · cases h
    · obtain rfl := Except.ok.inj h
      exact ⟨[], .nil, rfl⟩
    · split at h
      · cases h
      · next after hescape =>
        obtain ⟨front, hfront, rfl⟩ := escaped_of_skipEscape hescape
        obtain ⟨characters, hcharacters, rfl⟩ := characters_of_skipStringLoop h
        exact ⟨'\\' :: (front ++ characters), hfront characters hcharacters, by simp⟩
    · next c text hquote hbackslash _ =>
      split_ifs at h with hcontrol
      obtain ⟨characters, hcharacters, rfl⟩ := characters_of_skipStringLoop h
      exact ⟨c :: characters, .plain hquote hbackslash (Nat.le_of_not_lt hcontrol) hcharacters, rfl⟩

theorem skipStringLoop_of_characters {characters : List Char} (h : Characters characters)
    (rest : List Char) : ∀ fuel, characters.length < fuel →
      skipStringLoop fuel (characters ++ '"' :: rest) = .ok rest := by
  induction h with
  | nil =>
    rintro (_ | fuel) hfuel
    · cases hfuel
    · rfl
  | @plain c characters hquote hbackslash hcontrol _ ih =>
    rintro (_ | fuel) hfuel
    · cases hfuel
    · rw [List.cons_append, skipStringLoop, if_neg (Nat.not_lt.2 hcontrol)]
      · exact ih fuel (Nat.lt_of_succ_lt_succ hfuel)
      · exact hquote
      · exact hbackslash
  | @escape c characters hescape _ ih =>
    rintro (_ | fuel) hfuel
    · cases hfuel
    · simp only [List.cons_append, skipStringLoop, skipEscape_plain hescape]
      exact ih fuel (by simp at hfuel; omega)
  | @code code characters hcode _ ih =>
    rintro (_ | fuel) hfuel
    · cases hfuel
    · simp only [List.cons_append, List.append_assoc, skipStringLoop, skipEscape_code hcode]
      exact ih fuel (by simp at hfuel; omega)

/-- Exactly the strings are skipped. -/
theorem skipString_eq_ok {text rest : List Char} :
    skipString text = .ok rest ↔
      ∃ characters, Characters characters ∧ text = characters ++ '"' :: rest := by
  refine ⟨characters_of_skipStringLoop, ?_⟩
  rintro ⟨characters, hcharacters, rfl⟩
  exact skipStringLoop_of_characters hcharacters rest _
    (by rw [List.length_append, List.length_cons]; omega)

/-! ## Separators -/

theorem colon_eq_ok {text rest : List Char} :
    colon text = .ok rest ↔ ∃ blank, Blank blank ∧ text = blank ++ ':' :: rest := by
  constructor
  · intro h
    unfold colon at h
    split at h
    · cases h
    · next after hafter =>
      obtain rfl := Except.ok.inj h
      exact (skipBlank_eq_cons.1 hafter).2
    · cases h
  · intro h
    rw [colon, skipBlank_eq_cons.2 ⟨rfl, h⟩]
    rfl

theorem endItems_eq_ok {text rest : List Char} :
    endItems text = .ok rest ↔ ∃ blank, Blank blank ∧ text = blank ++ ']' :: rest := by
  constructor
  · intro h
    unfold endItems at h
    split at h
    · cases h
    · next after hafter =>
      obtain rfl := Except.ok.inj h
      exact (skipBlank_eq_cons.1 hafter).2
    · split at h <;> cases h
    · cases h
  · intro h
    rw [endItems, skipBlank_eq_cons.2 ⟨rfl, h⟩]
    rfl

/-- A list that ends is left at its closing bracket. -/
theorem nextItem_eq_ok_false {first : Bool} {text rest : List Char} :
    nextItem first text = .ok (false, rest) ↔
      ∃ blank after, Blank blank ∧ text = blank ++ rest ∧ rest = ']' :: after := by
  constructor
  · intro h
    unfold nextItem at h
    split at h
    · cases h
    · next c after hafter =>
      split_ifs at h with hclose
      · obtain ⟨-, rfl⟩ := Prod.mk.inj (Except.ok.inj h)
        obtain ⟨-, blank, hblank, htext⟩ := skipBlank_eq_cons.1 hafter
        exact ⟨blank, after, hblank, htext, by rw [hclose]⟩
      · cases h
      · split at h <;> cases h
  · rintro ⟨blank, after, hblank, rfl, rfl⟩
    rw [nextItem, skipBlank_eq_cons.2 ⟨rfl, blank, hblank, rfl⟩]
    rfl

/-- A list that goes on is left at what has to be its next item. -/
theorem nextItem_eq_ok_true {first : Bool} {text rest : List Char} :
    nextItem first text = .ok (true, rest) ↔
      ∃ separator c after, Separator first separator ∧ text = separator ++ rest ∧
        rest = c :: after ∧ isBlank c = false ∧ c ≠ ']' := by
  constructor
  · intro h
    unfold nextItem at h
    split at h
    · cases h
    · next c after hafter =>
      obtain ⟨hc, blank, hblank, rfl⟩ := skipBlank_eq_cons.1 hafter
      split_ifs at h with hclose hfirst hcomma
      · cases h
      · obtain ⟨-, rfl⟩ := Prod.mk.inj (Except.ok.inj h)
        exact ⟨blank, c, after, hfirst ▸ .blank hblank, rfl, rfl, hc, hclose⟩
      · split at h
        · cases h
        · cases h
        · next item hend hclosed =>
          obtain ⟨-, rfl⟩ := Prod.mk.inj (Except.ok.inj h)
          obtain ⟨d, item, hitem⟩ := List.exists_cons_of_ne_nil hend
          obtain ⟨hd, blank', hblank', rfl⟩ := skipBlank_eq_cons.1 hitem
          have hnotFirst : first = false := by simpa using hfirst
          rw [hitem, hcomma]
          exact ⟨blank ++ ',' :: blank', d, item, hnotFirst ▸ .comma hblank hblank', by simp, rfl,
            hd, fun hd => hclosed item (hd ▸ hitem)⟩
  · rintro ⟨separator, c, after, hseparator, rfl, rfl, hc, hclose⟩
    cases hseparator with
    | blank hblank =>
      rw [nextItem, skipBlank_eq_cons.2 ⟨hc, _, hblank, rfl⟩]
      simp [hclose]
    | @comma blank blank' hblank hblank' =>
      rw [nextItem, List.append_assoc, List.cons_append, skipBlank_eq_cons.2 ⟨rfl, _, hblank, rfl⟩]
      dsimp only
      rw [skipBlank_eq_cons.2 ⟨hc, _, hblank', rfl⟩]
      simp [hclose]

theorem nextKey_eq_ok_none {first : Bool} {text rest : List Char} :
    nextKey first text = .ok (none, rest) ↔
      ∃ blank, Blank blank ∧ text = blank ++ '\x7d' :: rest := by
  have hkey : ∀ after, Lexeme.key after ≠ .ok (none, rest) := by
    intro after h
    unfold Lexeme.key at h
    split at h <;> cases h
  constructor
  · intro h
    unfold nextKey at h
    split at h
    · cases h
    · next after hafter =>
      obtain ⟨-, rfl⟩ := Prod.mk.inj (Except.ok.inj h)
      exact (skipBlank_eq_cons.1 hafter).2
    · split_ifs at h
      exact absurd h (hkey _)
    · split_ifs at h
      split at h
      · cases h
      · exact absurd h (hkey _)
      · cases h
      · cases h
    · split_ifs at h
  · intro h
    rw [nextKey, skipBlank_eq_cons.2 ⟨rfl, h⟩]
    rfl

theorem key_eq_ok_some {text rest : List Char} {name : String} :
    Lexeme.key text = .ok (some name, rest) ↔ Lexeme.string text = .ok (name, rest) := by
  unfold Lexeme.key
  split
  · next h => simp [h]
  · next h => simp [h]

theorem nextKey_eq_ok_some {first : Bool} {text rest : List Char} {name : String} :
    nextKey first text = .ok (some name, rest) ↔
      ∃ separator after, Separator first separator ∧ text = separator ++ '"' :: after ∧
        Lexeme.string after = .ok (name, rest) := by
  constructor
  · intro h
    unfold nextKey at h
    split at h
    · cases h
    · cases h
    · next after hafter =>
      split_ifs at h with hfirst
      obtain ⟨-, blank, hblank, htext⟩ := skipBlank_eq_cons.1 hafter
      exact ⟨blank, after, hfirst ▸ .blank hblank, htext, key_eq_ok_some.1 h⟩
    · next after hafter =>
      split_ifs at h with hfirst
      split at h
      · cases h
      · next after' hafter' =>
        obtain ⟨-, blank, hblank, rfl⟩ := skipBlank_eq_cons.1 hafter
        obtain ⟨-, blank', hblank', rfl⟩ := skipBlank_eq_cons.1 hafter'
        have hnotFirst : first = false := by simpa using hfirst
        exact ⟨blank ++ ',' :: blank', after', hnotFirst ▸ .comma hblank hblank', by simp,
          key_eq_ok_some.1 h⟩
      · cases h
      · cases h
    · split_ifs at h
  · rintro ⟨separator, after, hseparator, rfl, hname⟩
    cases hseparator with
    | blank hblank =>
      rw [nextKey, skipBlank_eq_cons.2 ⟨rfl, _, hblank, rfl⟩]
      exact key_eq_ok_some.2 hname
    | @comma blank blank' hblank hblank' =>
      rw [nextKey, List.append_assoc, List.cons_append, skipBlank_eq_cons.2 ⟨rfl, _, hblank, rfl⟩]
      have hquote : skipBlank (blank' ++ '"' :: after) = '"' :: after :=
        skipBlank_eq_cons.2 ⟨rfl, _, hblank', rfl⟩
      simp only [Bool.false_eq_true, if_false, hquote]
      exact key_eq_ok_some.2 hname

end SceneLoad.Grammar

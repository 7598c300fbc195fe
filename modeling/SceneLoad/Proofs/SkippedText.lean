import SceneLoad.Proofs.JsonLexemes

/-!
# Values that are skipped

Skipping works on a stack of open brackets. What a step still has to find is `Completes` : the rest
of the value, and then the rest of each open bracket. A step that is taken leaves less to find, so
what is skipped in the end is one value (`derives_of_skipValue`). The other way round, the steps
over a text of the grammar lead from one bracket to the next (`skipLoop_of_derives`), and so every
value is skipped as a whole, if nothing goes on with a number (`skipValue_of_derives`).

As skipping has one result only, a text begins with at most one value that stops where something
else begins, and the blanks after it are all that a JSON text can have left
(`jsonText_append_iff`).
-/

namespace SceneLoad.Grammar

open Lexeme

/-! ## Where values begin and end -/

/-- A character that a value can begin with. -/
structure StartsValue (c : Char) : Prop where
  notBlank : isBlank c = false
  notMark : c ∉ [',', ']', '\x7d']

theorem StartsValue.ne_closing {c : Char} (h : StartsValue c) (frame : Frame) :
    c ≠ closing frame := by
  rintro rfl
  cases frame <;> exact absurd h.notMark (by decide)

theorem startsValue_of_isDigit {c : Char} (h : c.isDigit = true) : StartsValue c := by
  have hne : ∀ d : Char, d.isDigit = false → c ≠ d := by
    rintro d hd rfl
    rw [h] at hd
    cases hd
  refine ⟨?_, ?_⟩
  · simp [isBlank, hne ' ' rfl, hne '\t' rfl, hne '\n' rfl, hne '\r' rfl]
  · simp [hne ',' rfl, hne ']' rfl, hne '\x7d' rfl]

theorem Unsigned.exists_digit {text : List Char} (h : Unsigned text) :
    ∃ c rest, text = c :: rest ∧ c.isDigit = true := by
  obtain ⟨whole, rest, ⟨hdigits, -⟩, -, rfl⟩ := h
  obtain ⟨c, whole, rfl⟩ := List.exists_cons_of_ne_nil hdigits.nonempty
  exact ⟨c, whole ++ rest, rfl, hdigits.digit c List.mem_cons_self⟩

theorem exists_start {value : List Char} (h : Derives .value value) :
    ∃ c rest, value = c :: rest ∧ StartsValue c := by
  cases h with
  | word hword =>
    simp only [List.mem_cons, List.not_mem_nil, or_false] at hword
    rcases hword with rfl | rfl | rfl
    · exact ⟨'n', _, rfl, rfl, by decide⟩
    · exact ⟨'t', _, rfl, rfl, by decide⟩
    · exact ⟨'f', _, rfl, rfl, by decide⟩
  | number hnumber =>
    obtain ⟨c, rest, rfl, hc⟩ := hnumber.exists_digit
    exact ⟨c, rest, rfl, startsValue_of_isDigit hc⟩
  | negative _ => exact ⟨'-', _, rfl, rfl, by decide⟩
  | string _ => exact ⟨'"', _, rfl, rfl, by decide⟩
  | @bracket frame text _ =>
    refine ⟨opening frame, text, rfl, ?_⟩
    cases frame with
    | list => exact ⟨rfl, by decide⟩
    | object => exact ⟨rfl, by decide⟩

theorem ends_nil : Ends [] := fun _ _ h => nomatch h

/-- Blanks do not go on with a number. -/
theorem Blank.ends_append {blank rest : List Char} (h : Blank blank) (hrest : Ends rest) :
    Ends (blank ++ rest) := by
  cases blank with
  | nil => exact hrest
  | cons c blank =>
    intro d more htext hd
    obtain ⟨rfl, -⟩ := List.cons.inj htext
    have hblank := h c List.mem_cons_self
    simp only [isBlank, Bool.or_eq_true, beq_iff_eq] at hblank
    rcases hblank with ((rfl | rfl) | rfl) | rfl <;> revert hd <;> decide

/-- Neither do commas and closing brackets. -/
theorem ends_mark {c : Char} (h : c ∈ [',', ']', '\x7d']) (rest : List Char) :
    Ends (c :: rest) := by
  intro d more htext hd
  obtain ⟨rfl, -⟩ := List.cons.inj htext
  simp only [List.mem_cons, List.not_mem_nil, or_false] at h
  rcases h with rfl | rfl | rfl <;> revert hd <;> decide

theorem Separator.ends_append {separator : List Char} (h : Separator false separator)
    (rest : List Char) : Ends (separator ++ rest) := by
  cases h with
  | comma hblank _ =>
    rw [List.append_assoc]
    exact hblank.ends_append (ends_mark (by decide) _)

theorem closing_mem (frame : Frame) : closing frame ∈ [',', ']', '\x7d'] := by
  cases frame <;> decide

/-- A number before the rest of a bracket has ended. -/
theorem ends_body {frame : Frame} {body : List Char} (h : Derives (.body frame false) body)
    (rest : List Char) : Ends (body ++ rest) := by
  cases h with
  | close hblank =>
    rw [List.append_assoc]
    exact hblank.ends_append (ends_mark (closing_mem frame) rest)
  | item hseparator _ _ _ =>
    rw [List.append_assoc]
    exact hseparator.ends_append _

/-! ## Steps -/

theorem skipBlank_of_notBlank {c : Char} (h : isBlank c = false) (rest : List Char) :
    skipBlank (c :: rest) = c :: rest :=
  skipBlank_eq_cons.2 ⟨h, [], List.forall_mem_nil _, rfl⟩

theorem skipKey_eq_ok {text rest : List Char} :
    skipKey text = .ok rest ↔
      ∃ blank key blank', Blank blank ∧ Characters key ∧ Blank blank' ∧
        text = blank ++ '"' :: (key ++ '"' :: (blank' ++ ':' :: rest)) := by
  constructor
  · intro h
    unfold skipKey at h
    split at h
    · cases h
    · next after hafter =>
      split at h
      · cases h
      · next after' hstring =>
        obtain ⟨-, blank, hblank, rfl⟩ := skipBlank_eq_cons.1 hafter
        obtain ⟨key, hkey, rfl⟩ := skipString_eq_ok.1 hstring
        obtain ⟨blank', hblank', rfl⟩ := colon_eq_ok.1 h
        exact ⟨blank, key, blank', hblank, hkey, hblank', rfl⟩
    · cases h
  · rintro ⟨blank, key, blank', hblank, hkey, hblank', rfl⟩
    unfold skipKey
    rw [skipBlank_eq_cons.2 ⟨rfl, blank, hblank, rfl⟩]
    simp only [skipString_eq_ok.2 ⟨key, hkey, rfl⟩]
    exact colon_eq_ok.2 ⟨blank', hblank', rfl⟩

/-- Before an item its label is skipped, but for the blanks after it. -/
theorem skipInto_of_label {frame : Frame} {blank label : List Char} (hblank : Blank blank)
    (hlabel : Label frame label) (frames : List Frame) (rest : List Char) :
    ∃ blank', Blank blank' ∧ skipInto frame frames (blank ++ (label ++ rest)) =
      .ok (.value (frame :: frames), blank' ++ rest) := by
  cases hlabel with
  | list => exact ⟨blank, hblank, rfl⟩
  | @object key after blank' hkey hafter hblank' =>
    refine ⟨blank', hblank', ?_⟩
    have hskip : skipKey (blank ++ ('"' :: (key ++ '"' :: (after ++ ':' :: blank')) ++ rest)) =
        .ok (blank' ++ rest) :=
      skipKey_eq_ok.2 ⟨blank, key, after, hblank, hkey, hafter, by simp⟩
    simp only [skipInto, hskip]

theorem label_of_skipInto {frame : Frame} {frames : List Frame} {step : SkipStep}
    {text rest : List Char} (h : skipInto frame frames text = .ok (step, rest)) :
    step = .value (frame :: frames) ∧
      ∀ blank after, Blank blank → rest = blank ++ after →
        ∃ blank' label, Blank blank' ∧ Label frame label ∧ text = blank' ++ (label ++ after) := by
  cases frame with
  | list =>
    obtain ⟨rfl, rfl⟩ := Prod.mk.inj (Except.ok.inj h)
    exact ⟨rfl, fun blank after hblank hrest => ⟨blank, [], hblank, .list, hrest⟩⟩
  | object =>
    simp only [skipInto] at h
    split at h
    · cases h
    · next after hskip =>
      obtain ⟨rfl, rfl⟩ := Prod.mk.inj (Except.ok.inj h)
      obtain ⟨blank, key, before, hblank, hkey, hbefore, rfl⟩ := skipKey_eq_ok.1 hskip
      refine ⟨rfl, fun blank' after hblank' hrest => ?_⟩
      exact ⟨blank, _, hblank, .object hkey hbefore hblank', by simp [hrest]⟩

theorem skipAfter_close {frame : Frame} {blank : List Char} (h : Blank blank) (opened : Bool)
    (frames : List Frame) (rest : List Char) :
    skipAfter opened frame frames (blank ++ closing frame :: rest) =
      .ok (.after false frames, rest) := by
  unfold skipAfter
  cases frame with
  | list =>
    rw [skipBlank_eq_cons.2 ⟨rfl, blank, h, rfl⟩]
    rfl
  | object =>
    rw [skipBlank_eq_cons.2 ⟨rfl, blank, h, rfl⟩]
    rfl

theorem skipAfter_comma {blank : List Char} (h : Blank blank) (frame : Frame)
    (frames : List Frame) (rest : List Char) :
    skipAfter false frame frames (blank ++ ',' :: rest) = skipInto frame frames rest := by
  unfold skipAfter
  rw [skipBlank_eq_cons.2 ⟨rfl, blank, h, rfl⟩]
  cases frame <;> rfl

/-- After an opening bracket, whatever does not close it is an item. -/
theorem skipAfter_first {blank : List Char} {c : Char} {frame : Frame} (h : Blank blank)
    (hc : isBlank c = false) (hclosing : c ≠ closing frame) (frames : List Frame)
    (rest : List Char) :
    skipAfter true frame frames (blank ++ c :: rest) = skipInto frame frames (c :: rest) := by
  unfold skipAfter
  rw [skipBlank_eq_cons.2 ⟨hc, blank, h, rfl⟩]
  split
  · next heq => cases heq
  · next heq => cases heq
  · next heq => exact absurd (List.cons.inj heq).1 hclosing
  · next heq => exact absurd (List.cons.inj heq).1 hclosing
  · next heq => rw [if_pos rfl, heq]
  · rw [if_pos rfl]
  · rw [if_pos rfl]

theorem skipAfter_cases {opened : Bool} {frame : Frame} {frames : List Frame} {step : SkipStep}
    {text rest : List Char} (h : skipAfter opened frame frames text = .ok (step, rest)) :
    (step = .after false frames ∧ ∃ blank, Blank blank ∧ text = blank ++ closing frame :: rest) ∨
      ∃ blank after, Blank blank ∧ skipInto frame frames after = .ok (step, rest) ∧
        text = blank ++ if opened then after else ',' :: after := by
  obtain ⟨blank, hblank, htext⟩ := exists_blank text
  unfold skipAfter at h
  split at h
  · cases h
  · cases h
  · next after hafter =>
    obtain ⟨rfl, rfl⟩ := Prod.mk.inj (Except.ok.inj h)
    exact .inl ⟨rfl, blank, hblank, hafter ▸ htext⟩
  · next after hafter =>
    obtain ⟨rfl, rfl⟩ := Prod.mk.inj (Except.ok.inj h)
    exact .inl ⟨rfl, blank, hblank, hafter ▸ htext⟩
  · next after hafter =>
    right
    split_ifs at h with hopened
    · exact ⟨blank, ',' :: after, hblank, h, by rw [if_pos hopened, htext, hafter]⟩
    · exact ⟨blank, after, hblank, h, by rw [if_neg hopened, htext, hafter]⟩
  · split_ifs at h with hopened
    exact .inr ⟨blank, _, hblank, h, by rw [if_pos hopened]; exact htext⟩
  · split_ifs at h with hopened
    exact .inr ⟨blank, _, hblank, h, by rw [if_pos hopened]; exact htext⟩

theorem skipStart_digit {c : Char} (h : c.isDigit = true) (frames : List Frame)
    (rest : List Char) :
    skipStart frames (c :: rest) = skipEnded frames (skipNumber (c :: rest)) := by
  have hblank : skipBlank (c :: rest) = c :: rest :=
    skipBlank_of_notBlank (startsValue_of_isDigit h).notBlank rest
  unfold skipStart
  rw [hblank]
  split <;> simp_all

theorem skipEnded_eq_ok {frames : List Frame} {result : Except Malformed (List Char)}
    {step : SkipStep} {rest : List Char} :
    skipEnded frames result = .ok (step, rest) ↔
      result = .ok rest ∧ step = .after false frames := by
  cases result <;> simp [skipEnded, and_comm, eq_comm]

/-! ## What is skipped is a value -/

/-- What is left to find to close the open brackets. -/
def Closes : List Frame → List Char → Prop
  | [] => (· = [])
  | frame :: frames => Then (Derives (.body frame false)) (Closes frames)

/-- What is left to find. -/
def Completes : SkipStep → List Char → Prop
  | .value frames => Then Blank (Then (Derives .value) (Closes frames))
  | .after _ [] => (· = [])
  | .after opened (frame :: frames) => Then (Derives (.body frame opened)) (Closes frames)

theorem completes_after (frames : List Frame) :
    Completes (.after false frames) = Closes frames := by
  cases frames <;> rfl

theorem completes_value {frames : List Frame} {blank value front : List Char} (hblank : Blank blank)
    (hvalue : Derives .value value) (hfront : Closes frames front) :
    Completes (.value frames) (blank ++ (value ++ front)) :=
  ⟨blank, _, hblank, ⟨value, front, hvalue, hfront, rfl⟩, rfl⟩

/-- A scalar leaves the open brackets as they are. -/
theorem completes_of_skipEnded {frames : List Frame} {step : SkipStep}
    {text after front rest : List Char} {c : Char} {result : Except Malformed (List Char)}
    (h : skipEnded frames result = .ok (step, front ++ rest)) (hfront : Completes step front)
    (hafter : skipBlank text = c :: after)
    (hvalue : result = .ok (front ++ rest) →
      ∃ value, Derives .value value ∧ c :: after = value ++ (front ++ rest)) :
    ∃ whole, Completes (.value frames) whole ∧ text = whole ++ rest := by
  obtain ⟨-, blank, hblank, rfl⟩ := skipBlank_eq_cons.1 hafter
  obtain ⟨hresult, rfl⟩ := skipEnded_eq_ok.1 h
  obtain ⟨value, hderives, hsplit⟩ := hvalue hresult
  rw [completes_after] at hfront
  exact ⟨_, completes_value hblank hderives hfront, by simp [hsplit]⟩

/-- An opening bracket is one more to close. -/
theorem completes_of_opening {frame : Frame} {frames : List Frame} {text front rest : List Char}
    (hfront : Completes (.after true (frame :: frames)) front)
    (hafter : skipBlank text = opening frame :: (front ++ rest)) :
    ∃ whole, Completes (.value frames) whole ∧ text = whole ++ rest := by
  obtain ⟨-, blank, hblank, rfl⟩ := skipBlank_eq_cons.1 hafter
  obtain ⟨body, outer, hbody, houter, rfl⟩ := hfront
  exact ⟨_, completes_value hblank (.bracket hbody) houter, by simp⟩

theorem exists_word {c : Char} {letters after rest : List Char}
    (hmem : c :: letters ∈ ["null".toList, "true".toList, "false".toList])
    (h : word letters after = .ok rest) :
    ∃ value, Derives .value value ∧ c :: after = value ++ rest :=
  ⟨_, .word hmem, by rw [word_eq_ok.1 h, List.cons_append]⟩

theorem completes_of_skipStart {frames : List Frame} {step : SkipStep}
    {text front rest : List Char} (h : skipStart frames text = .ok (step, front ++ rest))
    (hfront : Completes step front) :
    ∃ whole, Completes (.value frames) whole ∧ text = whole ++ rest := by
  unfold skipStart at h
  split at h
  · cases h
  · next after hafter => exact completes_of_skipEnded h hfront hafter (exists_word (by decide))
  · next after hafter => exact completes_of_skipEnded h hfront hafter (exists_word (by decide))
  · next after hafter => exact completes_of_skipEnded h hfront hafter (exists_word (by decide))
  · next after hafter =>
    refine completes_of_skipEnded h hfront hafter fun hresult => ?_
    obtain ⟨number, hnumber, rfl⟩ := unsigned_of_skipNumber hresult
    exact ⟨'-' :: number, .negative hnumber, rfl⟩
  · next after hafter =>
    refine completes_of_skipEnded h hfront hafter fun hresult => ?_
    obtain ⟨characters, hcharacters, rfl⟩ := skipString_eq_ok.1 hresult
    exact ⟨_, .string hcharacters, by simp⟩
  · next after hafter =>
    obtain ⟨rfl, rfl⟩ := Prod.mk.inj (Except.ok.inj h)
    exact completes_of_opening hfront hafter
  · next after hafter =>
    obtain ⟨rfl, rfl⟩ := Prod.mk.inj (Except.ok.inj h)
    exact completes_of_opening hfront hafter
  · next c after _ _ _ _ _ _ _ hafter =>
    split_ifs at h
    refine completes_of_skipEnded h hfront hafter fun hresult => ?_
    obtain ⟨number, hnumber, hsplit⟩ := unsigned_of_skipNumber hresult
    exact ⟨number, .number hnumber, hsplit⟩

theorem completes_of_skipAfter {opened : Bool} {frame : Frame} {frames : List Frame}
    {step : SkipStep} {text front rest : List Char}
    (h : skipAfter opened frame frames text = .ok (step, front ++ rest))
    (hfront : Completes step front) :
    ∃ whole, Completes (.after opened (frame :: frames)) whole ∧ text = whole ++ rest := by
  rcases skipAfter_cases h with ⟨rfl, blank, hblank, rfl⟩ | ⟨blank, after, hblank, hinto, rfl⟩
  · rw [completes_after] at hfront
    exact ⟨_, ⟨_, front, .close hblank, hfront, rfl⟩, by simp⟩
  · obtain ⟨rfl, hsplit⟩ := label_of_skipInto hinto
    obtain ⟨inner, _, hinner, ⟨value, _, hvalue, ⟨body, outer, hbody, houter, rfl⟩, rfl⟩, rfl⟩ :=
      hfront
    obtain ⟨before, label, hbefore, hlabel, rfl⟩ :=
      hsplit inner (value ++ (body ++ (outer ++ rest))) hinner (by simp)
    cases opened with
    | true =>
      have hitem := Derives.item (.blank (hblank.append hbefore)) hlabel hvalue hbody
      exact ⟨_, ⟨_, outer, hitem, houter, rfl⟩, by simp⟩
    | false =>
      have hitem := Derives.item (.comma hblank hbefore) hlabel hvalue hbody
      exact ⟨_, ⟨_, outer, hitem, houter, rfl⟩, by simp⟩

theorem completes_of_skipLoop : ∀ {fuel : Nat} {step : SkipStep} {text rest : List Char},
    skipLoop fuel step text = .ok rest → ∃ front, Completes step front ∧ text = front ++ rest
  | 0, step, text, rest, h => by
    rw [skipLoop] at h
    cases h
  | fuel + 1, .after opened [], text, rest, h => by
    obtain rfl := Except.ok.inj h
    exact ⟨[], rfl, rfl⟩
  | fuel + 1, .after opened (frame :: frames), text, rest, h => by
    rw [skipLoop] at h
    split at h
    · cases h
    · next step after hstep =>
      obtain ⟨front, hfront, rfl⟩ := completes_of_skipLoop h
      exact completes_of_skipAfter hstep hfront
  | fuel + 1, .value frames, text, rest, h => by
    rw [skipLoop] at h
    split at h
    · cases h
    · next step after hstep =>
      obtain ⟨front, hfront, rfl⟩ := completes_of_skipLoop h
      exact completes_of_skipStart hstep hfront

/-- What is skipped is one value, with the blanks before it. -/
theorem derives_of_skipValue {text rest : List Char} (h : skipValue text = .ok rest) :
    ∃ blank value, Blank blank ∧ Derives .value value ∧ text = blank ++ (value ++ rest) := by
  obtain ⟨_, ⟨blank, _, hblank, ⟨value, _, hvalue, rfl, rfl⟩, rfl⟩, rfl⟩ := completes_of_skipLoop h
  exact ⟨blank, value, hblank, hvalue, by simp⟩

/-! ## Every value is skipped -/

/-- The step at which a text of a nonterminal is skipped. -/
def stepAt : Nonterminal → List Frame → SkipStep
  | .value, frames => .value frames
  | .body frame first, frames => .after first (frame :: frames)

/-- What may follow a text of a nonterminal. Only a value can be a number. -/
def MayFollow : Nonterminal → List Char → Prop
  | .value => Ends
  | .body _ _ => Any

theorem skipLoop_blank {blank : List Char} (h : Blank blank) (fuel : Nat) (frames : List Frame)
    (text : List Char) :
    skipLoop fuel (.value frames) (blank ++ text) = skipLoop fuel (.value frames) text := by
  cases fuel with
  | zero => rfl
  | succ fuel => rw [skipLoop, skipLoop, skipStart, skipBlank_append h, ← skipStart]

theorem skipLoop_opening (fuel : Nat) (frame : Frame) (frames : List Frame) (text : List Char) :
    skipLoop (fuel + 1) (.value frames) (opening frame :: text) =
      skipLoop fuel (.after true (frame :: frames)) text := by
  cases frame <;> rfl

/-- A scalar is skipped in one step. -/
theorem skipLoop_scalar {frames : List Frame} {text rest : List Char}
    {result : Except Malformed (List Char)}
    (hstart : skipStart frames text = skipEnded frames result) (hresult : result = .ok rest)
    (fuel : Nat) :
    skipLoop (fuel + 1) (.value frames) text = skipLoop fuel (.after false frames) rest := by
  simp only [skipLoop, hstart, hresult, skipEnded]

/-- An item of a bracket is reached in one step. -/
theorem skipLoop_item {frame : Frame} {first : Bool} {separator label value : List Char}
    (hseparator : Separator first separator) (hlabel : Label frame label)
    (hvalue : Derives .value value) (frames : List Frame) (rest : List Char) (fuel : Nat) :
    skipLoop (fuel + 1) (.after first (frame :: frames))
        (separator ++ (label ++ (value ++ rest))) =
      skipLoop fuel (.value (frame :: frames)) (value ++ rest) := by
  have hinto : ∀ {blank : List Char}, Blank blank →
      skipAfter first frame frames (separator ++ (label ++ (value ++ rest))) =
        skipInto frame frames (blank ++ (label ++ (value ++ rest))) →
      skipLoop (fuel + 1) (.after first (frame :: frames))
          (separator ++ (label ++ (value ++ rest))) =
        skipLoop fuel (.value (frame :: frames)) (value ++ rest) := by
    intro blank hblank hafter
    obtain ⟨blank', hblank', hskip⟩ :=
      skipInto_of_label hblank hlabel frames (value ++ rest)
    rw [skipLoop, hafter, hskip]
    exact skipLoop_blank hblank' fuel _ _
  cases hseparator with
  | blank hblank =>
    have hstart : ∃ c after, label ++ (value ++ rest) = c :: after ∧ StartsValue c := by
      cases hlabel with
      | list =>
        obtain ⟨c, after, rfl, hc⟩ := exists_start hvalue
        exact ⟨c, after ++ rest, rfl, hc⟩
      | object _ _ _ => exact ⟨'"', _, rfl, rfl, by decide⟩
    obtain ⟨c, after, hsplit, hc⟩ := hstart
    refine hinto (List.forall_mem_nil _) ?_
    rw [hsplit]
    exact skipAfter_first hblank hc.notBlank (hc.ne_closing frame) frames after
  | comma hblank hblank' =>
    refine hinto hblank' ?_
    rw [List.append_assoc, List.cons_append]
    exact skipAfter_comma hblank frame frames _

/-- The steps over a text of the grammar lead to the end of it. Every step but those at closing
brackets takes characters of its own, and so does every closing bracket. -/
theorem skipLoop_of_derives {nonterminal : Nonterminal} {text : List Char}
    (h : Derives nonterminal text) : ∀ (frames : List Frame) (rest : List Char),
      MayFollow nonterminal rest → ∃ steps < 2 * text.length, ∀ fuel,
        skipLoop (fuel + steps) (stepAt nonterminal frames) (text ++ rest) =
          skipLoop fuel (.after false frames) rest := by
  induction h with
  | word hword =>
    intro frames rest hrest
    have hskip : ∀ letters, word letters (letters ++ rest) = .ok rest :=
      fun letters => word_eq_ok.2 rfl
    simp only [List.mem_cons, List.not_mem_nil, or_false] at hword
    rcases hword with rfl | rfl | rfl
    · exact ⟨1, by decide, skipLoop_scalar rfl (hskip "ull".toList)⟩
    · exact ⟨1, by decide, skipLoop_scalar rfl (hskip "rue".toList)⟩
    · exact ⟨1, by decide, skipLoop_scalar rfl (hskip "alse".toList)⟩
  | number hnumber =>
    intro frames rest hrest
    have hskip := skipNumber_of_unsigned hnumber hrest
    obtain ⟨c, digits, rfl, hc⟩ := hnumber.exists_digit
    exact ⟨1, by simp; omega, skipLoop_scalar (skipStart_digit hc frames (digits ++ rest)) hskip⟩
  | negative hnumber =>
    intro frames rest hrest
    have hskip := skipNumber_of_unsigned hnumber hrest
    exact ⟨1, by simp; omega, skipLoop_scalar rfl hskip⟩
  | @string characters hcharacters =>
    intro frames rest hrest
    have hskip : skipString ((characters ++ ['"']) ++ rest) = .ok rest :=
      skipString_eq_ok.2 ⟨characters, hcharacters, by simp⟩
    exact ⟨1, by simp; omega, skipLoop_scalar rfl hskip⟩
  | bracket _ ih =>
    intro frames rest _
    obtain ⟨steps, hsteps, hloop⟩ := ih frames rest trivial
    refine ⟨steps + 1, by simp; omega, fun fuel => ?_⟩
    exact (skipLoop_opening ..).trans (hloop fuel)
  | @close frame first blank hblank =>
    intro frames rest _
    refine ⟨1, by simp; omega, fun fuel => ?_⟩
    rw [stepAt, skipLoop, List.append_assoc, List.singleton_append, skipAfter_close hblank]
  | @item frame first separator label value body hseparator hlabel hvalue hbody ihvalue ihbody =>
    intro frames rest _
    obtain ⟨steps, hsteps, hloop⟩ := ihbody frames rest trivial
    obtain ⟨steps', hsteps', hloop'⟩ :=
      ihvalue (frame :: frames) (body ++ rest) (ends_body hbody rest)
    refine ⟨steps + steps' + 1, by simp; omega, fun fuel => ?_⟩
    simp only [List.append_assoc]
    rw [← Nat.add_assoc, stepAt, skipLoop_item hseparator hlabel hvalue, ← Nat.add_assoc]
    exact (hloop' (fuel + steps)).trans (hloop fuel)

theorem skipValue_eq_ok {text rest : List Char} (steps : Nat) (hsteps : steps ≤ 2 * text.length)
    (h : ∀ fuel, skipLoop (fuel + steps) (.value []) text = skipLoop fuel (.after false []) rest) :
    skipValue text = .ok rest := by
  have hfuel := h (2 * text.length + 1 - steps + 1)
  rwa [show 2 * text.length + 1 - steps + 1 + steps = 2 * text.length + 2 by omega] at hfuel

/-- A value is skipped as a whole, if nothing goes on with a number. -/
theorem skipValue_of_derives {blank value rest : List Char} (hblank : Blank blank)
    (hvalue : Derives .value value) (hrest : Ends rest) :
    skipValue (blank ++ (value ++ rest)) = .ok rest := by
  obtain ⟨steps, hsteps, hloop⟩ := skipLoop_of_derives hvalue [] rest hrest
  refine skipValue_eq_ok steps (by simp; omega) fun fuel => ?_
  rw [skipLoop_blank hblank]
  exact hloop fuel

/-- An array or object is skipped as a whole, whatever comes after it. -/
theorem skipValue_of_bracket {frame : Frame} {blank body : List Char} (hblank : Blank blank)
    (hbody : Derives (.body frame true) body) (rest : List Char) :
    skipValue (blank ++ opening frame :: (body ++ rest)) = .ok rest := by
  obtain ⟨steps, hsteps, hloop⟩ := skipLoop_of_derives hbody [] rest trivial
  refine skipValue_eq_ok (steps + 1) (by simp; omega) fun fuel => ?_
  rw [skipLoop_blank hblank, ← Nat.add_assoc, skipLoop_opening]
  exact hloop fuel

/-- After an array or object, only blanks can be left of a JSON text. -/
theorem jsonText_append_iff {frame : Frame} {blank body : List Char} (hblank : Blank blank)
    (hbody : Derives (.body frame true) body) (rest : List Char) :
    JsonText (blank ++ opening frame :: (body ++ rest)) ↔ Blank rest := by
  constructor
  · rintro ⟨blank', _, hblank', ⟨value, after, hvalue, hafter, rfl⟩, htext⟩
    have hends : Ends after := List.append_nil after ▸ hafter.ends_append ends_nil
    have hskip := skipValue_of_bracket hblank hbody rest
    rw [htext, skipValue_of_derives hblank' hvalue hends] at hskip
    exact Except.ok.inj hskip ▸ hafter
  · intro hrest
    exact ⟨blank, _, hblank, ⟨_, rest, .bracket hbody, hrest, rfl⟩, rfl⟩

end SceneLoad.Grammar

import SceneLoad.Proofs.SkippedText
import SceneLoad.Scene.Document

/-!
# Values that are read, and what follows them

A value is read from the front of a text, up to where it ends. This holds of a value of any kind
(`takes_scanValue`) and, case by case, of each shape a value can be asked to have
(`takes_scanWith`) : scalars, lists of items, records by name or by position, and what is made of
them. A list or an object is read by a loop whose fuel is the length of the text, and that length
changes with what follows, so the lemmas about the loops (`takes_items`, `takes_entries`) are for
any fuel that exceeds the text that is read.

An array or object ends at its bracket, so what follows it may be anything (`Bracketed`,
`takes_layout`). A document is one, and what comes after it is not looked at, so a text that is read
as a document is a JSON text only if nothing but blanks is left of it (`parse_front`).
-/

namespace SceneLoad.Grammar

open Lexeme

/-! ## Scalars -/

/-- A value with blanks before it. -/
def Padded : List Char → Prop := Then Blank (Derives .value)

/-- An array or object with blanks before it. -/
def Bracketed : List Char → Prop :=
  Then Blank fun value =>
    ∃ frame body, Derives (.body frame true) body ∧ value = opening frame :: body

theorem Bracketed.padded {text : List Char} (h : Bracketed text) : Padded text := by
  obtain ⟨blank, _, hblank, ⟨frame, body, hbody, rfl⟩, rfl⟩ := h
  exact ⟨blank, _, hblank, .bracket hbody, rfl⟩

/-- What is found of an array or object before it is read. -/
def foundOf : Frame → Found
  | .list => .sequence
  | .object => .map

theorem scanScalar_blank {blank : List Char} (h : Blank blank) (text : List Char) :
    scanScalar (blank ++ text) = scanScalar text := by
  unfold scanScalar
  rw [skipBlank_append h]

theorem scanScalar_digit {c : Char} (h : c.isDigit = true) (rest : List Char) :
    scanScalar (c :: rest) =
      (number false (c :: rest)).map fun (value, rest) => (.num value, rest) := by
  unfold scanScalar
  rw [skipBlank_of_notBlank (startsValue_of_isDigit h).notBlank]
  split <;> simp_all

theorem takes_word (letters : List Char) (found : Found) :
    Takes (· = letters) Any fun text => (word letters text).map fun rest => (found, rest) := by
  intro text value rest h
  dsimp only at h
  cases hword : word letters text with
  | error reason =>
    rw [hword] at h
    cases h
  | ok after =>
    rw [hword] at h
    obtain ⟨rfl, rfl⟩ := Prod.mk.inj (Except.ok.inj h)
    refine ⟨letters, rfl, word_eq_ok.1 hword, fun rest' _ => ?_⟩
    dsimp only
    rw [word_eq_ok.2 rfl]
    rfl

/-- A scalar after its first character. -/
theorem taken_lead {Front Follow : List Char → Prop} {scan : List Char → Scanned Found} {c : Char}
    {text after rest : List Char} {found : Found} (hafter : skipBlank text = c :: after)
    (hscan : Takes Front Follow scan) (hlead : ∀ text, scanScalar (c :: text) = scan text)
    (hvalue : ∀ front, Front front → Derives .value (c :: front))
    (hfollow : ∀ rest, Ends rest → Follow rest)
    (h : scan after = .ok (found, rest)) :
    Taken Padded Ends scanScalar text found rest := by
  obtain ⟨-, blank, hblank, rfl⟩ := skipBlank_eq_cons.1 hafter
  obtain ⟨front, hfront, rfl, hsame⟩ := hscan h
  refine ⟨blank ++ c :: front, ⟨blank, _, hblank, hvalue front hfront, rfl⟩, by simp,
    fun rest' hrest' => ?_⟩
  rw [List.append_assoc, scanScalar_blank hblank, List.cons_append, hlead]
  exact hsame rest' (hfollow rest' hrest')

theorem taken_word {c : Char} {letters text after rest : List Char} {word' found : Found}
    (hafter : skipBlank text = c :: after)
    (hmem : c :: letters ∈ ["null".toList, "true".toList, "false".toList])
    (hlead : ∀ text, scanScalar (c :: text) = (word letters text).map fun rest => (word', rest))
    (h : ((word letters after).map fun rest => (word', rest)) = .ok (found, rest)) :
    Taken Padded Ends scanScalar text found rest := by
  refine taken_lead hafter (takes_word letters word') hlead ?_ (fun _ _ => trivial) h
  rintro _ rfl
  exact .word hmem

/-- A scalar is read as it is written, up to where it ends. -/
theorem taken_scalar {text rest : List Char} {found : Found}
    (h : scanScalar text = .ok (found, rest)) (hscalar : ∀ frame, found ≠ foundOf frame) :
    Taken Padded Ends scanScalar text found rest := by
  unfold scanScalar at h
  split at h
  · cases h
  · next after hafter => exact taken_word hafter (by decide) (fun _ => rfl) h
  · next after hafter => exact taken_word hafter (by decide) (fun _ => rfl) h
  · next after hafter => exact taken_word hafter (by decide) (fun _ => rfl) h
  · next after hafter =>
    exact taken_lead hafter ((takes_number true).map Found.num) (fun _ => rfl)
      (fun _ hnumber => .negative hnumber) (fun _ hrest => hrest) h
  · next after hafter =>
    refine taken_lead hafter (takes_string.map Found.str) (fun _ => rfl) ?_ (fun _ _ => trivial) h
    rintro _ ⟨characters, hcharacters, rfl⟩
    exact .string hcharacters
  · obtain ⟨rfl, -⟩ := Prod.mk.inj (Except.ok.inj h)
    exact absurd rfl (hscalar .list)
  · obtain ⟨rfl, -⟩ := Prod.mk.inj (Except.ok.inj h)
    exact absurd rfl (hscalar .object)
  · next c after _ _ _ _ _ _ _ hafter =>
    obtain ⟨-, blank, hblank, rfl⟩ := skipBlank_eq_cons.1 hafter
    split_ifs at h with hc
    obtain ⟨front, hfront, hsplit, hsame⟩ := (takes_number false).map Found.num h
    refine ⟨blank ++ front, ⟨blank, front, hblank, .number hfront, rfl⟩, by simp [hsplit],
      fun rest' hrest' => ?_⟩
    obtain ⟨d, digits, rfl, hd⟩ := hfront.exists_digit
    rw [List.append_assoc, scanScalar_blank hblank, List.cons_append, scanScalar_digit hd]
    exact hsame rest' hrest'

theorem map_ne_bracket {α : Type} {result : Except Malformed α} {make : α → Found × List Char}
    {frame : Frame} {rest : List Char} (hmake : ∀ value, (make value).1 ≠ foundOf frame) :
    result.map make ≠ .ok (foundOf frame, rest) := by
  intro h
  cases result with
  | error reason => cases h
  | ok value => exact hmake value (congrArg Prod.fst (Except.ok.inj h))

/-- Brackets are found where they stand. -/
theorem scanScalar_eq_bracket {frame : Frame} {text rest : List Char} :
    scanScalar text = .ok (foundOf frame, rest) ↔
      ∃ blank, Blank blank ∧ text = blank ++ opening frame :: rest := by
  constructor
  · intro h
    unfold scanScalar at h
    split at h
    · cases h
    · exact absurd h (map_ne_bracket fun _ => by cases frame <;> exact Found.noConfusion)
    · exact absurd h (map_ne_bracket fun _ => by cases frame <;> exact Found.noConfusion)
    · exact absurd h (map_ne_bracket fun _ => by cases frame <;> exact Found.noConfusion)
    · exact absurd h (map_ne_bracket fun _ => by cases frame <;> exact Found.noConfusion)
    · exact absurd h (map_ne_bracket fun _ => by cases frame <;> exact Found.noConfusion)
    · next after hafter =>
      obtain ⟨-, blank, hblank, htext⟩ := skipBlank_eq_cons.1 hafter
      cases frame <;> cases h
      exact ⟨blank, hblank, htext⟩
    · next after hafter =>
      obtain ⟨-, blank, hblank, htext⟩ := skipBlank_eq_cons.1 hafter
      cases frame <;> cases h
      exact ⟨blank, hblank, htext⟩
    · split_ifs at h
      exact absurd h (map_ne_bracket fun _ => by cases frame <;> exact Found.noConfusion)
  · rintro ⟨blank, hblank, rfl⟩
    rw [scanScalar_blank hblank]
    cases frame <;> rfl

/-- A scanner goes on after a bracket as `body` does. -/
structure Opens {α : Type} (scan : List Char → Scan α) (frame : Frame)
    (body : List Char → Scan α) : Prop where
  takes : Takes (Derives (.body frame true)) Any body
  scan_eq : ∀ text rest, scanScalar text = .ok (foundOf frame, rest) → scan text = body rest

/-- An array or object is read if what follows its bracket is. -/
theorem Opens.taken {α : Type} {scan body : List Char → Scan α} {frame : Frame}
    (h : Opens scan frame body) {text after rest : List Char} {value : α}
    (hfound : scanScalar text = .ok (foundOf frame, after))
    (hscan : scan text = .ok (value, rest)) : Taken Bracketed Any scan text value rest := by
  rw [h.scan_eq _ _ hfound] at hscan
  obtain ⟨blank, hblank, rfl⟩ := scanScalar_eq_bracket.1 hfound
  obtain ⟨front, hfront, rfl, hsame⟩ := h.takes hscan
  refine ⟨blank ++ opening frame :: front, ⟨blank, _, hblank, ⟨frame, front, hfront, rfl⟩, rfl⟩,
    by simp, fun rest' _ => ?_⟩
  rw [List.append_assoc, List.cons_append,
    h.scan_eq _ _ (scanScalar_eq_bracket.2 ⟨blank, hblank, rfl⟩)]
  exact hsame rest' trivial

/-- A scanner that fails where no value begins has found a bracket or a scalar. -/
theorem bracket_or_scalar {α : Type} {scan : List Char → Scan α} {text rest : List Char} {value : α}
    (herror : ∀ text reason, scanScalar text = .error reason →
      scan text = .error (.here (.malformed reason)))
    (h : scan text = .ok (value, rest)) :
    (∃ frame after, scanScalar text = .ok (foundOf frame, after)) ∨
      ∃ found after, (∀ frame, found ≠ foundOf frame) ∧ scanScalar text = .ok (found, after) := by
  cases hfound : scanScalar text with
  | error reason =>
    rw [herror text reason hfound] at h
    cases h
  | ok found =>
    obtain ⟨found, after⟩ := found
    by_cases hframe : ∃ frame, found = foundOf frame
    · obtain ⟨frame, rfl⟩ := hframe
      exact .inl ⟨frame, after, rfl⟩
    · exact .inr ⟨found, after, fun frame heq => hframe ⟨frame, heq⟩, rfl⟩

/-- A scanner that refuses scalars reads arrays and objects, whatever comes after them. -/
theorem takes_bracketed {α : Type} {scan : List Char → Scan α} (expected : Expected)
    (hbracket : ∀ frame, ∃ body, Opens scan frame body)
    (hscalar : ∀ text found rest, (∀ frame, found ≠ foundOf frame) →
      scanScalar text = .ok (found, rest) → scan text = .error (.here (.wrongType found expected)))
    (herror : ∀ text reason, scanScalar text = .error reason →
      scan text = .error (.here (.malformed reason))) :
    Takes Bracketed Any scan := by
  intro text value rest h
  rcases bracket_or_scalar herror h with ⟨frame, after, hfound⟩ | ⟨found, after, hnot, hfound⟩
  · obtain ⟨body, hbody⟩ := hbracket frame
    exact hbody.taken hfound h
  · rw [hscalar text found after hnot hfound] at h
    cases h

/-- A scanner that makes the same of the same scalar reads values, up to where they end. -/
theorem takes_value {α : Type} {scan : List Char → Scan α} (make : Found → Except Fault α)
    (hbracket : ∀ frame, ∃ body, Opens scan frame body)
    (hscalar : ∀ text found rest, (∀ frame, found ≠ foundOf frame) →
      scanScalar text = .ok (found, rest) → scan text = (make found).map fun value => (value, rest))
    (herror : ∀ text reason, scanScalar text = .error reason →
      scan text = .error (.here (.malformed reason))) :
    Takes Padded Ends scan := by
  intro text value rest h
  rcases bracket_or_scalar herror h with ⟨frame, after, hfound⟩ | ⟨found, after, hnot, hfound⟩
  · obtain ⟨body, hbody⟩ := hbracket frame
    obtain ⟨front, hfront, htext, hsame⟩ := hbody.taken hfound h
    exact ⟨front, hfront.padded, htext, fun rest' _ => hsame rest' trivial⟩
  · obtain ⟨front, hfront, rfl, hsame⟩ := taken_scalar hfound hnot
    rw [hscalar _ found after hnot hfound] at h
    cases hmake : make found with
    | error fault =>
      rw [hmake] at h
      cases h
    | ok made =>
      rw [hmake] at h
      obtain ⟨rfl, rfl⟩ := Prod.mk.inj (Except.ok.inj h)
      refine ⟨front, hfront, rfl, fun rest' hrest' => ?_⟩
      rw [hscalar _ found rest' hnot (hsame rest' hrest'), hmake]
      rfl

/-! ## Items and entries -/

theorem lift_eq_ok {α : Type} {result : Except Malformed α} {value : α} :
    Scan.lift result = .ok value ↔ result = .ok value := by
  cases result <;> simp [Scan.lift]

theorem place_eq_ok {α : Type} {segment : Segment} {result : Except Fault α} {value : α} :
    Fault.place segment result = .ok value ↔ result = .ok value := by
  cases result <;> simp [Fault.place]

/-- A value that does not start with a blank has none before it. -/
theorem Padded.value {front rest after : List Char} {c : Char} (h : Padded front)
    (hsplit : front ++ rest = c :: after) (hc : isBlank c = false) : Derives .value front := by
  obtain ⟨blank, value, hblank, hvalue, rfl⟩ := h
  cases blank with
  | nil => exact hvalue
  | cons d blank =>
    obtain ⟨rfl, -⟩ := List.cons.inj hsplit
    rw [hblank d List.mem_cons_self] at hc
    cases hc

theorem Padded.exists_cons {front : List Char} (h : Padded front) :
    ∃ c after, front = c :: after := by
  obtain ⟨blank, value, -, hvalue, rfl⟩ := h
  obtain ⟨c, after, rfl, -⟩ := exists_start hvalue
  exact List.exists_cons_of_ne_nil (by simp)

/-- The next item of a list stays what it is before anything else. -/
theorem nextItem_append {first : Bool} {separator value : List Char}
    (hseparator : Separator first separator) (hvalue : Derives .value value) (rest : List Char) :
    nextItem first (separator ++ (value ++ rest)) = .ok (true, value ++ rest) := by
  obtain ⟨c, after, rfl, hc⟩ := exists_start hvalue
  exact nextItem_eq_ok_true.2
    ⟨separator, c, after ++ rest, hseparator, rfl, rfl, hc.notBlank, hc.ne_closing .list⟩

theorem takes_items {α : Type} {item : List Char → Scan α} (hitem : Takes Padded Ends item) :
    ∀ {fuel index : Nat} {text rest : List Char} {values : List α},
      Scan.items item fuel index text = .ok (values, rest) →
        ∃ front, Derives (.body .list (index == 0)) front ∧ text = front ++ rest ∧
          ∀ fuel' rest', front.length ≤ fuel' →
            Scan.items item (fuel' + 1) index (front ++ rest') = .ok (values, rest')
  | 0, index, text, rest, values, h => by
    rw [Scan.items] at h
    cases h
  | fuel + 1, index, text, rest, values, h => by
    rw [Scan.items] at h
    split at h
    · cases h
    · next after hnext =>
      obtain ⟨rfl, rfl⟩ := Prod.mk.inj (Except.ok.inj h)
      obtain ⟨blank, rest, hblank, rfl, rfl⟩ := nextItem_eq_ok_false.1 (lift_eq_ok.1 hnext)
      refine ⟨blank ++ [']'], .close hblank, by simp, fun fuel' rest' _ => ?_⟩
      have hend : nextItem (index == 0) (blank ++ ([']'] ++ rest')) = .ok (false, ']' :: rest') :=
        nextItem_eq_ok_false.2 ⟨blank, rest', hblank, rfl, rfl⟩
      rw [Scan.items, List.append_assoc, hend]
      rfl
    · next after hnext =>
      split at h
      · cases h
      · next value after' hvalue =>
        split at h
        · cases h
        · next values after'' hrest =>
          obtain ⟨rfl, rfl⟩ := Prod.mk.inj (Except.ok.inj h)
          obtain ⟨separator, c, _, hseparator, rfl, hc, hblank, -⟩ :=
            nextItem_eq_ok_true.1 (lift_eq_ok.1 hnext)
          obtain ⟨front, hfront, rfl, hsame⟩ := hitem (place_eq_ok.1 hvalue)
          obtain ⟨body, hbody, rfl, hloop⟩ := takes_items hitem hrest
          have hderives := hfront.value hc hblank
          refine ⟨separator ++ ([] ++ (front ++ body)), .item hseparator .list hderives hbody,
            by simp, fun fuel' rest' hfuel => ?_⟩
          obtain ⟨d, more, hd, -⟩ := exists_start hderives
          have hlength : 0 < front.length := by rw [hd]; simp
          obtain ⟨fuel', rfl⟩ : ∃ n, fuel' = n + 1 := ⟨fuel' - 1, by simp at hfuel; omega⟩
          have hvalue' := hsame (body ++ rest') (ends_body hbody rest')
          have hnext' := nextItem_append hseparator hderives (body ++ rest')
          rw [Scan.items]
          simp only [List.append_assoc, List.nil_append, lift_eq_ok.2 hnext',
            place_eq_ok.2 hvalue', hloop fuel' rest' (by simp at hfuel; omega)]

/-- A list is read up to and including its closing bracket. -/
theorem takes_list {α : Type} {item : List Char → Scan α} (hitem : Takes Padded Ends item) :
    Takes (Derives (.body .list true)) Any fun text =>
      Scan.items item (text.length + 1) 0 text := by
  intro text values rest h
  obtain ⟨front, hfront, rfl, hloop⟩ := takes_items hitem h
  exact ⟨front, hfront, rfl, fun rest' _ => hloop _ rest' (by simp)⟩

/-- What follows a key : a colon and a value. -/
def Member (text : List Char) : Prop := ∃ blank value, Blank blank ∧ Padded value ∧
  text = blank ++ ':' :: value

theorem takes_member {α : Type} {value : List Char → Scan α} (hvalue : Takes Padded Ends value)
    (key : String) : Takes Member Ends (Scan.member key value) := by
  intro text found rest h
  unfold Scan.member at h
  split at h
  · cases h
  · next after hcolon =>
    obtain ⟨blank, hblank, rfl⟩ := colon_eq_ok.1 (lift_eq_ok.1 hcolon)
    obtain ⟨front, hfront, rfl, hsame⟩ := hvalue (place_eq_ok.1 h)
    refine ⟨blank ++ ':' :: front, ⟨blank, front, hblank, hfront, rfl⟩, by simp,
      fun rest' hrest' => ?_⟩
    have hcolon' : colon (blank ++ ':' :: (front ++ rest')) = .ok (front ++ rest') :=
      colon_eq_ok.2 ⟨blank, hblank, rfl⟩
    rw [Scan.member, List.append_assoc, List.cons_append, lift_eq_ok.2 hcolon']
    exact place_eq_ok.2 (hsame rest' hrest')

theorem takes_entries {σ : Type} {entry : String → σ → List Char → Scan σ}
    (hentry : ∀ key read, Takes Member Ends (entry key read)) :
    ∀ {fuel : Nat} {first : Bool} {read read' : σ} {text rest : List Char},
      Scan.entries entry fuel first read text = .ok (read', rest) →
        ∃ front, Derives (.body .object first) front ∧ text = front ++ rest ∧
          ∀ fuel' rest', front.length ≤ fuel' →
            Scan.entries entry (fuel' + 1) first read (front ++ rest') = .ok (read', rest')
  | 0, first, read, read', text, rest, h => by
    rw [Scan.entries] at h
    cases h
  | fuel + 1, first, read, read', text, rest, h => by
    rw [Scan.entries] at h
    split at h
    · cases h
    · next after hnext =>
      obtain ⟨rfl, rfl⟩ := Prod.mk.inj (Except.ok.inj h)
      obtain ⟨blank, hblank, rfl⟩ :=
        nextKey_eq_ok_none.1 (lift_eq_ok.1 (place_eq_ok.1 hnext))
      refine ⟨blank ++ ['\x7d'], .close hblank, by simp, fun fuel' rest' _ => ?_⟩
      have hend : nextKey first (blank ++ (['\x7d'] ++ rest')) = .ok (none, rest') :=
        nextKey_eq_ok_none.2 ⟨blank, hblank, rfl⟩
      rw [Scan.entries, List.append_assoc, hend]
      rfl
    · next key after hnext =>
      split at h
      · cases h
      · next middle after' hvalue =>
        obtain ⟨separator, _, hseparator, rfl, hkey⟩ :=
          nextKey_eq_ok_some.1 (lift_eq_ok.1 (place_eq_ok.1 hnext))
        obtain ⟨_, ⟨name, hname, rfl⟩, rfl, hsameKey⟩ := takes_string hkey
        obtain ⟨_, ⟨blank, _, hblank, ⟨blank', value, hblank', hderives, rfl⟩, rfl⟩, rfl, hsame⟩ :=
          hentry _ _ hvalue
        obtain ⟨body, hbody, rfl, hloop⟩ := takes_entries hentry h
        refine ⟨_, .item hseparator (.object hname hblank hblank') hderives hbody, by simp,
          fun fuel' rest' hfuel => ?_⟩
        obtain ⟨fuel', rfl⟩ : ∃ n, fuel' = n + 1 := ⟨fuel' - 1, by simp at hfuel; omega⟩
        have hvalue' := hsame (body ++ rest') (ends_body hbody rest')
        have hnext' : nextKey first (separator ++ '"' :: (name ++ '"' :: (blank ++ ':' ::
            (blank' ++ (value ++ (body ++ rest')))))) =
            .ok (some key, blank ++ ':' :: (blank' ++ (value ++ (body ++ rest')))) := by
          refine nextKey_eq_ok_some.2 ⟨separator, _, hseparator, rfl, ?_⟩
          simpa using hsameKey (blank ++ ':' :: (blank' ++ (value ++ (body ++ rest')))) trivial
        simp only [List.append_assoc, List.cons_append] at hvalue'
        rw [Scan.entries]
        simp only [List.append_assoc, List.cons_append, place_eq_ok.2 (lift_eq_ok.2 hnext'),
          hvalue']
        exact hloop fuel' rest' (by simp at hfuel; omega)

/-- An object is read up to and including its closing brace. -/
theorem takes_object {σ : Type} {entry : String → σ → List Char → Scan σ}
    (hentry : ∀ key read, Takes Member Ends (entry key read)) (read : σ) :
    Takes (Derives (.body .object true)) Any fun text =>
      Scan.entries entry (text.length + 1) true read text := by
  intro text read' rest h
  obtain ⟨front, hfront, rfl, hloop⟩ := takes_entries hentry h
  exact ⟨front, hfront, rfl, fun rest' _ => hloop _ rest' (by simp)⟩

/-! ## Values -/

theorem takes_opened {α : Type} {Front : List Char → Prop} {read : Nat → List Char → Scan α}
    (hread : ∀ room, Takes Front Any (read room)) (room : Nat) :
    Takes Front Any fun text => Scan.opened room fun room => read room text := by
  cases room with
  | zero => exact fun _ _ _ h => nomatch h
  | succ room => exact hread room

/-- Entries that are kept as they are. -/
theorem takes_insert {value : List Char → Scan Json} (hvalue : Takes Padded Ends value)
    (key : String) (read : Object) :
    Takes Member Ends fun text => (Scan.member key value text).map fun (value, rest) =>
      (Object.insert key value read, rest) :=
  (takes_member hvalue key).map fun value => Object.insert key value read

/-- The value of a scalar. -/
def jsonOf : Found → Json
  | .null => .null
  | .bool value => .bool value
  | .num value => .num value
  | .str value => .str value
  | .sequence => .arr []
  | .map => .obj []

theorem takes_refused {α : Type} {Front Follow : List Char → Prop} (fault : Fault) :
    Takes Front Follow fun _ => (.error fault : Scan α) :=
  fun _ _ _ h => nomatch h

theorem scanValue_scalar (room : Nat) {text rest : List Char} {found : Found}
    (hscalar : ∀ frame, found ≠ foundOf frame) (h : scanScalar text = .ok (found, rest)) :
    scanValue room text = .ok (jsonOf found, rest) := by
  unfold scanValue
  rw [h]
  cases found with
  | sequence => exact absurd rfl (hscalar .list)
  | map => exact absurd rfl (hscalar .object)
  | _ => rfl

theorem takes_scanValue_of_opens {room : Nat}
    (hbracket : ∀ frame, ∃ body, Opens (scanValue room) frame body) :
    Takes Padded Ends (scanValue room) := by
  refine takes_value (fun found => .ok (jsonOf found)) hbracket
    (fun text found rest => scanValue_scalar room)
    fun text reason h => ?_
  unfold scanValue
  rw [h]
  rfl

/-- Any value is read up to where it ends. -/
theorem takes_scanValue (room : Nat) : Takes Padded Ends (scanValue room) := by
  induction room with
  | zero =>
    refine takes_scanValue_of_opens fun frame =>
      ⟨_, takes_refused (.here (.malformed .tooDeep)), fun text rest h => ?_⟩
    rw [scanValue, h]
    cases frame <;> rfl
  | succ room ih =>
    refine takes_scanValue_of_opens fun frame => ?_
    cases frame with
    | list =>
      refine ⟨_, (takes_list ih).map Json.arr, fun text rest h => ?_⟩
      rw [scanValue, h]
      rfl
    | object =>
      refine ⟨_, (takes_object (takes_insert ih) []).map Json.obj, fun text rest h => ?_⟩
      rw [scanValue, h]
      rfl

theorem takes_scanObject (room : Nat) :
    Takes (Derives (.body .object true)) Any (scanObject room) :=
  takes_object (takes_insert (takes_scanValue room)) []

theorem takes_whole {α : Type} (room : Nat) (read : Json → Except Fault α) :
    Takes Padded Ends (Scan.whole room read) := by
  refine (takes_scanValue room).made (fun value => (read value).toOption) fun text => ?_
  unfold Scan.whole
  rcases scanValue room text with fault | ⟨value, rest⟩
  · rfl
  · dsimp only [Except.toOption, Option.bind_some]
    cases read value <;> rfl

theorem scalar_eq {α : Type} (read : Json → Except Fault α) {text rest : List Char} {found : Found}
    (h : scanScalar text = .ok (found, rest)) :
    Scan.scalar read text = (read (jsonOf found)).map fun value => (value, rest) := by
  unfold Scan.scalar
  rw [h]
  cases found <;> rfl

/-- A reader of scalars reads them up to where they end, if it makes nothing of arrays and
objects. -/
theorem takes_scanScalar {α : Type} {read : Json → Except Fault α}
    (hbracket : ∀ frame, ∃ fault, read (jsonOf (foundOf frame)) = .error fault) :
    Takes Padded Ends (Scan.scalar read) := by
  refine takes_value (fun found => read (jsonOf found)) (fun frame => ?_)
    (fun text found rest _ => scalar_eq read) fun text reason h => ?_
  · obtain ⟨fault, hfault⟩ := hbracket frame
    refine ⟨_, takes_refused fault, fun text rest h => ?_⟩
    rw [scalar_eq read h, hfault]
    rfl
  · unfold Scan.scalar
    rw [h]
    rfl

/-- A value that is passed over is passed over up to where it ends. -/
theorem takes_skipped {σ : Type} (read : σ) :
    Takes Padded Ends fun text =>
      (Scan.lift (skipValue text)).map fun rest => (read, rest) := by
  intro text value rest h
  dsimp only at h
  cases hskip : skipValue text with
  | error reason =>
    rw [hskip] at h
    cases h
  | ok after =>
    rw [hskip] at h
    obtain ⟨rfl, rfl⟩ := Prod.mk.inj (Except.ok.inj h)
    obtain ⟨blank, value, hblank, hvalue, rfl⟩ := derives_of_skipValue hskip
    refine ⟨blank ++ value, ⟨blank, value, hblank, hvalue, rfl⟩, by simp, fun rest' hrest' => ?_⟩
    dsimp only
    rw [List.append_assoc, skipValue_of_derives hblank hvalue hrest']
    rfl

/-! ## Shapes -/

section Shapes

variable {τ : Type} {self : Json → Except Fault τ}

theorem takes_shapeList {α : Type} {item : Shape τ α}
    (hitem : ∀ room, Takes Padded Ends (item.scanWith self room)) (room : Nat) :
    Takes Bracketed Any ((Shape.list item).scanWith self room) := by
  refine takes_bracketed .sequence (fun frame => ?_) (fun text found rest hnot h => ?_)
    fun text reason h => ?_
  · cases frame with
    | list =>
      refine ⟨_, takes_opened (fun room => takes_list (hitem room)) room, fun text rest h => ?_⟩
      rw [Shape.scanWith, h]
      rfl
    | object =>
      refine ⟨_, takes_refused (.here (.wrongType .map .sequence)), fun text rest h => ?_⟩
      rw [Shape.scanWith, h]
      rfl
  · rw [Shape.scanWith, h]
    cases found with
    | sequence => exact absurd rfl (hnot .list)
    | _ => rfl
  · rw [Shape.scanWith, h]
    rfl

theorem takes_shapeObject (room : Nat) :
    Takes Bracketed Any ((Shape.object : Shape τ Object).scanWith self room) := by
  refine takes_bracketed .map (fun frame => ?_) (fun text found rest hnot h => ?_)
    fun text reason h => ?_
  · cases frame with
    | list =>
      refine ⟨_, takes_refused (.here (.wrongType .sequence .map)), fun text rest h => ?_⟩
      rw [Shape.scanWith, h]
      rfl
    | object =>
      refine ⟨_, takes_opened takes_scanObject room, fun text rest h => ?_⟩
      rw [Shape.scanWith, h]
      rfl
  · rw [Shape.scanWith, h]
    cases found with
    | map => exact absurd rfl (hnot .object)
    | _ => rfl
  · rw [Shape.scanWith, h]
    rfl

/-- The fields of a record by name, up to and including the closing brace. -/
theorem takes_named {α : Type} {fields : Fields τ α}
    (hoffer : ∀ room key slots, Takes Member Ends (fields.scanOffer self room key slots))
    (room : Nat) :
    Takes (Derives (.body .object true)) Any fun rest =>
      match
        Scan.entries (fields.scanOffer self room) (rest.length + 1) true fields.vacant rest with
      | .error fault => .error fault
      | .ok (slots, rest) =>
        match fields.finish slots with
        | .error cause => .error (.here cause)
        | .ok value => .ok (value, rest) := by
  refine (takes_object (hoffer room) fields.vacant).made
    (fun slots => (fields.finish slots).toOption) fun text => ?_
  dsimp only
  rcases Scan.entries (fields.scanOffer self room) (text.length + 1) true fields.vacant text with
    fault | ⟨slots, rest⟩
  · rfl
  · dsimp only [Except.toOption, Option.bind_some]
    cases fields.finish slots <;> rfl

/-- A list that is closed at once has nothing else before its bracket. -/
theorem eq_close_of_body {front rest more : List Char} (h : Derives (.body .list false) front)
    (hsplit : front ++ rest = ']' :: more) : front = [']'] := by
  cases h with
  | @close _ _ blank hblank =>
    cases blank with
    | nil => rfl
    | cons c blank =>
      obtain ⟨rfl, -⟩ := List.cons.inj hsplit
      exact absurd (hblank _ List.mem_cons_self) (by decide)
  | item hseparator _ _ _ =>
    cases hseparator with
    | @comma blank blank' hblank _ =>
      cases blank with
      | nil => exact absurd (List.cons.inj hsplit).1 (by decide)
      | cons c blank =>
        obtain ⟨rfl, -⟩ := List.cons.inj hsplit
        exact absurd (hblank _ List.mem_cons_self) (by decide)

/-- What a positional record takes, with its closing bracket. -/
def TakesPositional {α : Type} (self : Json → Except Fault τ) (fields : Fields τ α) : Prop :=
  ∀ ⦃room : Nat⦄ ⦃record : String⦄ ⦃count index : Nat⦄ ⦃text after rest : List Char⦄ ⦃values : α⦄,
    fields.scanPositional self room record count index text = .ok (values, after) →
      endItems after = .ok rest →
        ∃ front, Derives (.body .list (index == 0)) front ∧ text = front ++ rest ∧
          ∀ rest', ∃ after', fields.scanPositional self room record count index (front ++ rest') =
              .ok (values, after') ∧ endItems after' = .ok rest'

theorem takes_positional {α : Type} {fields : Fields τ α} (hfields : TakesPositional self fields)
    (record : String) (room : Nat) :
    Takes (Derives (.body .list true)) Any fun text =>
      match fields.scanPositional self room record fields.size 0 text with
      | .error fault => .error fault
      | .ok (value, rest) => (Scan.lift (endItems rest)).map fun rest => (value, rest) := by
  intro text value rest h
  dsimp only at h
  split at h
  · cases h
  · next values after hvalues =>
    cases hend : endItems after with
    | error reason =>
      rw [hend] at h
      cases h
    | ok rest =>
      rw [hend] at h
      obtain ⟨rfl, rfl⟩ := Prod.mk.inj (Except.ok.inj h)
      obtain ⟨front, hfront, rfl, hsame⟩ := hfields hvalues hend
      refine ⟨front, hfront, rfl, fun rest' _ => ?_⟩
      obtain ⟨after', hvalues', hend'⟩ := hsame rest'
      simp only [hvalues', hend']
      rfl

theorem takes_record {α : Type} {fields : Fields τ α}
    (hoffer : ∀ room key slots, Takes Member Ends (fields.scanOffer self room key slots))
    (hfields : TakesPositional self fields) (name : String) (named : Bool) (room : Nat) :
    Takes Bracketed Any ((Shape.record name named fields).scanWith self room) := by
  refine takes_bracketed (.record name) (fun frame => ?_) (fun text found rest hnot h => ?_)
    fun text reason h => ?_
  · cases frame with
    | list =>
      cases named with
      | true =>
        refine ⟨_, takes_refused (.here (.wrongType .sequence (.record name))),
          fun text rest h => ?_⟩
        rw [Shape.scanWith, h]
        rfl
      | false =>
        refine ⟨_, takes_opened (takes_positional hfields name) room, fun text rest h => ?_⟩
        rw [Shape.scanWith, h]
        rfl
    | object =>
      refine ⟨_, takes_opened (takes_named hoffer) room, fun text rest h => ?_⟩
      rw [Shape.scanWith, h]
      rfl
  · rw [Shape.scanWith, h]
    cases found with
    | sequence => exact absurd rfl (hnot .list)
    | map => exact absurd rfl (hnot .object)
    | _ => rfl
  · rw [Shape.scanWith, h]
    rfl

/-- `null` is read in place of any other value. -/
theorem takes_option {α : Type} {item : Shape τ α} {room : Nat}
    (hitem : Takes Padded Ends (item.scanWith self room)) :
    Takes Padded Ends ((Shape.option item).scanWith self room) := by
  intro text value rest h
  rw [Shape.scanWith] at h
  split at h
  · next after hafter =>
    obtain ⟨-, blank, hblank, rfl⟩ := skipBlank_eq_cons.1 hafter
    cases hword : word "ull".toList after with
    | error reason =>
      rw [hword] at h
      cases h
    | ok rest =>
      rw [hword] at h
      obtain ⟨rfl, rfl⟩ := Prod.mk.inj (Except.ok.inj h)
      obtain rfl := word_eq_ok.1 hword
      refine ⟨blank ++ "null".toList, ⟨blank, _, hblank, .word (by decide), rfl⟩, by simp,
        fun rest' _ => ?_⟩
      have hnull : skipBlank (blank ++ "null".toList ++ rest') = 'n' :: ("ull".toList ++ rest') :=
        skipBlank_eq_cons.2 ⟨rfl, blank, hblank, by simp⟩
      have hword' : word "ull".toList ("ull".toList ++ rest') = .ok rest' := word_eq_ok.2 rfl
      simp only [Shape.scanWith, hnull, hword']
      rfl
  · next hnotNull =>
    -- The item is read after its blanks, and must not turn into a `null` before another text.
    obtain ⟨front, hfront, hsplit, hsame⟩ := hitem.map some h
    obtain ⟨c, after, rfl⟩ := hfront.exists_cons
    obtain ⟨hc, blank, hblank, rfl⟩ := skipBlank_eq_cons.1 hsplit
    have hcons : (c :: after) ++ rest = c :: (after ++ rest) := rfl
    have hvalue := hfront.value hcons hc
    refine ⟨blank ++ c :: after, ⟨blank, _, hblank, hvalue, rfl⟩, by simp, fun rest' hrest' => ?_⟩
    have hskip : skipBlank (blank ++ c :: after ++ rest') = c :: (after ++ rest') :=
      skipBlank_eq_cons.2 ⟨hc, blank, hblank, by simp⟩
    rw [Shape.scanWith, hskip]
    split
    · next heq =>
      obtain ⟨rfl, -⟩ := List.cons.inj heq
      exact absurd hsplit (hnotNull _)
    · exact hsame rest' hrest'

mutual

/-- A value of any shape is read up to where it ends. -/
theorem takes_scanWith : ∀ {α : Type} (shape : Shape τ α) (room : Nat),
    Takes Padded Ends (shape.scanWith self room)
  | _, .any, room => by
    simpa only [Shape.scanWith] using takes_scanValue room
  | _, .text, _ => takes_scanScalar fun frame => by cases frame <;> exact ⟨_, rfl⟩
  | _, .bool, _ => takes_scanScalar fun frame => by cases frame <;> exact ⟨_, rfl⟩
  | _, .float32, _ => takes_scanScalar fun frame => by cases frame <;> exact ⟨_, rfl⟩
  | _, .integer .., _ => takes_scanScalar fun frame => by cases frame <;> exact ⟨_, rfl⟩
  | _, .object, room => (takes_shapeObject room).mono (fun _ => Bracketed.padded) fun _ _ => trivial
  | _, .list item, room =>
    (takes_shapeList (takes_scanWith item) room).mono (fun _ => Bracketed.padded) fun _ _ => trivial
  | _, .option item, room => takes_option (takes_scanWith item room)
  | _, .record name named fields, room =>
    (takes_record (takes_scanOffer fields) (takesPositional fields) name named room).mono
      (fun _ => Bracketed.padded) fun _ _ => trivial
  | _, .map convert shape, room => (takes_scanWith shape room).map convert
  | _, .refine check shape, room => by
    refine (takes_scanWith shape room).made (fun value => (check value).toOption) fun text => ?_
    rw [Shape.scanWith]
    rcases shape.scanWith self room text with fault | ⟨value, rest⟩
    · rfl
    · dsimp only [Except.toOption, Option.bind_some]
      cases check value <;> rfl
  | _, .self, room => takes_whole room self
  | _, .array .., room => takes_whole room _
  | _, .variant _, room => takes_whole room _
  | _, .either .., room => takes_whole room _

theorem takes_scanOffer : ∀ {α : Type} (fields : Fields τ α) (room : Nat) (key : String)
    (slots : fields.Slots), Takes Member Ends (fields.scanOffer self room key slots)
  | _, .nil, _, key, slots => takes_member (takes_skipped slots) key
  | _, .cons name aliases fallback shape rest, room, key, slots => by
    by_cases hkey : key = name ∨ key ∈ aliases
    · cases hslot : slots.1 with
      | some found =>
        intro text value after h
        rw [Fields.scanOffer, if_pos hkey, hslot] at h
        cases h
      | none =>
        refine (takes_member (takes_scanWith shape room) key).made
          (fun value => some (some value, slots.2)) fun text => ?_
        rw [Fields.scanOffer, if_pos hkey, hslot]
        rcases Scan.member key (shape.scanWith self room) text with fault | ⟨value, after⟩ <;> rfl
    · refine (takes_scanOffer rest room key slots.2).made
        (fun others => some (slots.1, others)) fun text => ?_
      rw [Fields.scanOffer, if_neg hkey]
      rcases rest.scanOffer self room key slots.2 text with fault | ⟨others, after⟩ <;> rfl

theorem takesPositional : ∀ {α : Type} (fields : Fields τ α), TakesPositional self fields
  | _, .nil => by
    intro room record count index text after rest values h hend
    obtain ⟨-, rfl⟩ := Prod.mk.inj (Except.ok.inj h)
    obtain ⟨blank, hblank, rfl⟩ := endItems_eq_ok.1 hend
    refine ⟨blank ++ [']'], .close hblank, by simp, fun rest' => ⟨_, rfl, ?_⟩⟩
    exact endItems_eq_ok.2 ⟨blank, hblank, by simp⟩
  | _, .cons _ _ fallback shape others => by
    intro room record count index text after rest values h hend
    rw [Fields.scanPositional] at h
    split at h
    · cases h
    · next item hnext =>
      split at h
      · cases h
      · next value after' hvalue =>
        split at h
        · cases h
        · next values after'' hothers =>
          obtain ⟨rfl, rfl⟩ := Prod.mk.inj (Except.ok.inj h)
          obtain ⟨separator, c, _, hseparator, rfl, hc, hblank, -⟩ :=
            nextItem_eq_ok_true.1 (lift_eq_ok.1 hnext)
          obtain ⟨front, hfront, rfl, hsame⟩ := takes_scanWith shape room (place_eq_ok.1 hvalue)
          obtain ⟨body, hbody, rfl, hsame'⟩ := takesPositional others hothers hend
          have hderives := hfront.value hc hblank
          refine ⟨separator ++ ([] ++ (front ++ body)), .item hseparator .list hderives hbody,
            by simp, fun rest' => ?_⟩
          obtain ⟨last, hlast, hend'⟩ := hsame' rest'
          have hvalue' := hsame (body ++ rest') (ends_body hbody rest')
          have hnext' := nextItem_append hseparator hderives (body ++ rest')
          refine ⟨last, ?_, hend'⟩
          rw [Fields.scanPositional]
          simp only [List.append_assoc, List.nil_append, lift_eq_ok.2 hnext',
            place_eq_ok.2 hvalue', hlast]
    · next item hnext =>
      -- The list ends before this field, so the fields after it find the same closing bracket.
      split at h
      · cases h
      · next value =>
        split at h
        · cases h
        · next values after' hothers =>
          obtain ⟨rfl, rfl⟩ := Prod.mk.inj (Except.ok.inj h)
          obtain ⟨blank, more, hblank, rfl, hclose⟩ :=
            nextItem_eq_ok_false.1 (lift_eq_ok.1 hnext)
          obtain ⟨front, hfront, rfl, hsame⟩ := takesPositional others hothers hend
          obtain rfl := eq_close_of_body hfront hclose
          refine ⟨blank ++ [']'], .close hblank, by simp, fun rest' => ?_⟩
          obtain ⟨last, hlast, hend'⟩ := hsame rest'
          have hnext' : nextItem (index == 0) (blank ++ ([']'] ++ rest')) =
              .ok (false, [']'] ++ rest') :=
            nextItem_eq_ok_false.2 ⟨blank, rest', hblank, rfl, rfl⟩
          refine ⟨last, ?_, hend'⟩
          rw [Fields.scanPositional]
          simp only [List.append_assoc, lift_eq_ok.2 hnext', hlast]

end

/-- A record is read with its closing bracket, whatever comes after it. -/
theorem takes_layout {α : Type} (layout : Layout τ α) (room : Nat) :
    Takes Bracketed Any (layout.shape.scanWith self room) :=
  (takes_record (takes_scanOffer layout.fields) (takesPositional layout.fields) layout.name false
    room).map layout.build

end Shapes

end SceneLoad.Grammar

namespace SceneLoad.Document

open Grammar Lexeme

/-! ## Documents -/

theorem parse_eq_ok {raw : String} {document : Document} :
    parse raw = .ok document ↔
      ∃ rest, layout.shape.scanWith (fun other => .error (.here (.wrongType other.found .nothing)))
        maxOpen raw.toList = .ok (document, rest) := by
  unfold parse Shape.scan
  dsimp only
  rcases layout.shape.scanWith _ maxOpen raw.toList with fault | ⟨found, rest⟩
  · simp [Except.map, Except.mapError]
  · simp [Except.map, Except.mapError]

/-- A document is read from the front of a text and the rest is not looked at : the front is a JSON
text of its own, with anything else behind it the same document is read, and the text as a whole is
a JSON text only if the rest is blank. -/
theorem parse_front {raw : String} {document : Document} (h : parse raw = .ok document) :
    (∀ suffix, parse (raw ++ suffix) = .ok document) ∧
      ∃ front rest, raw = front ++ rest ∧ JsonText front.toList ∧
        (JsonText raw.toList ↔ Blank rest.toList) ∧
        ∀ other, parse (front ++ other) = .ok document := by
  obtain ⟨rest, hscan⟩ := parse_eq_ok.1 h
  obtain ⟨_, ⟨blank, _, hblank, ⟨frame, body, hbody, rfl⟩, rfl⟩, htext, hsame⟩ :=
    takes_layout layout maxOpen hscan
  have hraw : raw = String.ofList (blank ++ opening frame :: body) ++ String.ofList rest := by
    rw [← String.ofList_append, ← htext, String.ofList_toList]
  have hother : ∀ other : String,
      parse (String.ofList (blank ++ opening frame :: body) ++ other) = .ok document := by
    intro other
    refine parse_eq_ok.2 ⟨other.toList, ?_⟩
    rw [String.toList_append, String.toList_ofList]
    exact hsame other.toList trivial
  refine ⟨fun suffix => ?_, _, _, hraw, ?_, ?_, hother⟩
  · rw [hraw, String.append_assoc]
    exact hother _
  · have hfront := (jsonText_append_iff hblank hbody []).2 (List.forall_mem_nil _)
    rw [String.toList_ofList]
    rwa [List.append_nil] at hfront
  · rw [htext, List.append_assoc, List.cons_append, String.toList_ofList]
    exact jsonText_append_iff hblank hbody rest

/-- A scene with an entity, and a letter after it. -/
def withLetter : String := "\x7b\"entities\":[\x7b\"name\":\"a\"\x7d]\x7d x"

theorem parse_front_withLetter :
    ∃ document, parse withLetter = .ok document ∧ document.entities.map Entity.name = [some "a"] ∧
      (∀ suffix, parse (withLetter ++ suffix) = .ok document) ∧
      ∃ front rest, withLetter = front ++ rest ∧ JsonText front.toList ∧
        (JsonText withLetter.toList ↔ Blank rest.toList) ∧
        ∀ other, parse (front ++ other) = .ok document := by
  have hparse :
      (parse withLetter).toOption.map (fun document => document.entities.map Entity.name) =
        some [some "a"] := by decide +kernel
  obtain ⟨document, hdocument, hnames⟩ := Option.map_eq_some_iff.1 hparse
  have hread := toOption_eq_some.1 hdocument
  exact ⟨document, hread, hnames, parse_front hread⟩

/-- A text that is read need not be a JSON text. -/
theorem not_jsonText_of_parse :
    (∃ document, parse "\x7b\x7d x" = .ok document) ∧ ¬JsonText "\x7b\x7d x".toList := by
  refine ⟨⟨_, rfl⟩, fun hjson => ?_⟩
  have hnil : Blank [] := List.forall_mem_nil _
  have hbody : Derives (.body .object true) ['\x7d'] := .close hnil
  have hrest := (jsonText_append_iff hnil hbody [' ', 'x']).1 hjson
  exact absurd (hrest 'x' (by decide)) (by decide)

end SceneLoad.Document

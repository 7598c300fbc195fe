import Mathlib.Tactic.SplitIfs
import SceneLoad.Schema.Read

/-!
# Records field by field

A record is read from an object entry by entry, and an entry goes to the first field that answers
to its key. If no name belongs to two fields, it goes to no other one, so each field gathers its
value as if it were alone (`Fields.offerAll_cons`). What a field gathers depends on the entries that
name it and on nothing else : there may be one of them, and it has to be readable
(`Field.gather_eq_ok_iff`).
-/

namespace SceneLoad

/-- One field of a record. -/
structure Field (τ : Type) where
  {content : Type}
  name : String
  aliases : List String
  fallback : Option content
  shape : Shape τ content

namespace Field

variable {τ : Type} (self : Json → Except Fault τ) (field : Field τ)

/-- A key that names the field. -/
def Answers (key : String) : Prop := key = field.name ∨ key ∈ field.aliases

instance : DecidablePred field.Answers := fun key =>
  inferInstanceAs (Decidable (key = field.name ∨ key ∈ field.aliases))

/-- Offers one entry to the field alone. -/
def offer (key : String) (value : Json) (slot : Option field.content) :
    Except Fault (Option field.content) :=
  if field.Answers key then
    match slot with
    | some _ => .error (.here (.repeatedField field.name))
    | none => (Fault.place (.key key) (field.shape.readWith self value)).map some
  else .ok slot

/-- What an object has for the field. -/
def gather (object : Object) : Except Fault (Option field.content) :=
  offerAll (field.offer self) object none

/-- The entries that name the field. -/
def entries (object : Object) : Object := object.filter fun (key, _) => field.Answers key

variable {field}

theorem entries_cons_of_answers {key : String} (h : field.Answers key) (value : Json)
    (object : Object) :
    field.entries ((key, value) :: object) = (key, value) :: field.entries object :=
  List.filter_cons_of_pos (by simpa using h)

theorem entries_cons_of_not_answers {key : String} (h : ¬field.Answers key) (value : Json)
    (object : Object) : field.entries ((key, value) :: object) = field.entries object :=
  List.filter_cons_of_neg (by simpa using h)

variable (field)

theorem mem_entries {object : Object} {entry : String × Json} :
    entry ∈ field.entries object ↔ entry ∈ object ∧ field.Answers entry.1 := by
  simp [entries]

theorem offer_of_not_answers {key : String} (h : ¬field.Answers key) (value : Json)
    (slot : Option field.content) : field.offer self key value slot = .ok slot := if_neg h

/-- Other entries are passed over. -/
theorem offerAll_entries : ∀ (object : Object) (slot : Option field.content),
    offerAll (field.offer self) (field.entries object) slot =
      offerAll (field.offer self) object slot
  | [], _ => rfl
  | (key, value) :: object, slot => by
    by_cases hkey : field.Answers key
    · rw [entries_cons_of_answers hkey, offerAll, offerAll]
      cases field.offer self key value slot with
      | error fault => rfl
      | ok slot => exact offerAll_entries object slot
    · rw [entries_cons_of_not_answers hkey, offerAll, offer_of_not_answers self field hkey]
      exact offerAll_entries object slot

theorem gather_of_entries_eq_nil {object : Object} (h : field.entries object = []) :
    field.gather self object = .ok none := by
  rw [gather, ← offerAll_entries, h, offerAll]

theorem gather_of_entries_eq_cons {object rest : Object} {key : String} {value : Json}
    {content : field.content} (h : field.entries object = (key, value) :: rest)
    (hread : field.shape.readWith self value = .ok content) :
    field.gather self object = offerAll (field.offer self) rest (some content) := by
  have hkey : field.Answers key := (field.mem_entries.1 (h ▸ List.mem_cons_self)).2
  rw [gather, ← offerAll_entries, h, offerAll, offer, if_pos hkey, hread]
  rfl

/-- A second entry is one too many. -/
theorem gather_of_entries_eq_cons_cons {object rest : Object} {entry entry' : String × Json}
    {content : field.content} (h : field.entries object = entry :: entry' :: rest)
    (hread : field.shape.readWith self entry.2 = .ok content) :
    field.gather self object = .error (.here (.repeatedField field.name)) := by
  have hkey : field.Answers entry'.1 :=
    (field.mem_entries.1 (h ▸ List.mem_cons_of_mem _ List.mem_cons_self)).2
  rw [gather_of_entries_eq_cons self field h hread, offerAll, offer, if_pos hkey]

theorem gather_eq_ok_iff {object : Object} {slot : Option field.content} :
    field.gather self object = .ok slot ↔
      field.entries object = [] ∧ slot = none ∨
        ∃ entry content, field.entries object = [entry] ∧
          field.shape.readWith self entry.2 = .ok content ∧ slot = some content := by
  constructor
  · intro h
    cases hentries : field.entries object with
    | nil =>
      rw [gather_of_entries_eq_nil self field hentries] at h
      exact .inl ⟨rfl, (Except.ok.inj h).symm⟩
    | cons entry rest =>
      cases hread : field.shape.readWith self entry.2 with
      | error fault =>
        have hkey : field.Answers entry.1 :=
          (field.mem_entries.1 (hentries ▸ List.mem_cons_self)).2
        rw [gather, ← offerAll_entries, hentries, offerAll, offer, if_pos hkey, hread] at h
        cases h
      | ok content =>
        cases rest with
        | nil =>
          rw [gather_of_entries_eq_cons self field hentries hread] at h
          exact .inr ⟨entry, content, rfl, hread, (Except.ok.inj h).symm⟩
        | cons entry' rest =>
          rw [gather_of_entries_eq_cons_cons self field hentries hread] at h
          cases h
  · rintro (⟨hentries, rfl⟩ | ⟨entry, content, hentries, hread, rfl⟩)
    · exact gather_of_entries_eq_nil self field hentries
    · exact gather_of_entries_eq_cons self field hentries hread

end Field

namespace Fields

variable {τ : Type} (self : Json → Except Fault τ)

/-- The fields one by one. -/
def list {α : Type} : Fields τ α → List (Field τ)
  | .nil => []
  | .cons name aliases fallback shape rest => ⟨name, aliases, fallback, shape⟩ :: rest.list

/-- A key that names no field is passed over. -/
theorem offer_of_notMem {key : String} (value : Json) :
    ∀ {α : Type} (fields : Fields τ α) (slots : fields.Slots), key ∉ fields.names →
      fields.offer self key value slots = .ok slots
  | _, .nil, _, _ => rfl
  | _, .cons name aliases _ _ rest, slots, h => by
    obtain ⟨hname, hothers⟩ := not_or.1 (mt List.mem_cons.2 h)
    obtain ⟨haliases, hrest⟩ := not_or.1 (mt List.mem_append.2 hothers)
    rw [Fields.offer, if_neg (not_or.2 ⟨hname, haliases⟩), offer_of_notMem value rest _ hrest]
    rfl

theorem offerAll_nil : ∀ (object : Object) (slots : (nil : Fields τ Unit).Slots),
    offerAll ((nil : Fields τ Unit).offer self) object slots = .ok slots
  | [], _ => rfl
  | _ :: object, slots => offerAll_nil object slots

section Cons

variable {α β : Type} {name : String} {aliases : List String} {fallback : Option α}
  {shape : Shape τ α} {rest : Fields τ β}

/-- An entry is offered to the first field and to the others alike. -/
theorem offer_cons (hnames : (cons name aliases fallback shape rest).names.Nodup) (key : String)
    (value : Json) (slots : (cons name aliases fallback shape rest).Slots) :
    (cons name aliases fallback shape rest).offer self key value slots =
      match (Field.mk name aliases fallback shape).offer self key value slots.1 with
      | .error fault => .error fault
      | .ok slot => (rest.offer self key value slots.2).map (Prod.mk slot) := by
  rw [Fields.offer]
  by_cases hkey : key = name ∨ key ∈ aliases
  · have hrest : key ∉ rest.names := by
      have hdisjoint := (List.nodup_append.1 hnames).2.2
      intro hmem
      exact hdisjoint key (List.mem_cons.2 hkey) key hmem rfl
    have hanswers : (Field.mk name aliases fallback shape).Answers key := hkey
    rw [if_pos hkey, offer_of_notMem self value rest _ hrest, Field.offer.eq_def, if_pos hanswers]
    cases slots.1 with
    | some content => rfl
    | none => cases Fault.place (.key key) (shape.readWith self value) <;> rfl
  · rw [if_neg hkey, Field.offer_of_not_answers self (Field.mk name aliases fallback shape) hkey]
    cases rest.offer self key value slots.2 <;> rfl

/-- The first field and the others gather what is theirs independently of each other, and a fault of
either is one of all. -/
theorem offerAll_cons (hnames : (cons name aliases fallback shape rest).names.Nodup) :
    ∀ (object : Object) (slots : (cons name aliases fallback shape rest).Slots),
      (∃ slots' : (cons name aliases fallback shape rest).Slots,
        offerAll ((cons name aliases fallback shape rest).offer self) object slots = .ok slots' ∧
        offerAll ((Field.mk name aliases fallback shape).offer self) object slots.1 = .ok slots'.1 ∧
        offerAll (rest.offer self) object slots.2 = .ok slots'.2) ∨
      ∃ fault,
        offerAll ((cons name aliases fallback shape rest).offer self) object slots =
          .error fault ∧
        (offerAll ((Field.mk name aliases fallback shape).offer self) object slots.1 =
            .error fault ∨
          offerAll (rest.offer self) object slots.2 = .error fault)
  | [], slots => .inl ⟨slots, rfl, rfl, rfl⟩
  | (key, value) :: object, slots => by
    simp only [offerAll]
    rw [offer_cons self hnames]
    cases hslot : (Field.mk name aliases fallback shape).offer self key value slots.1 with
    | error fault => exact .inr ⟨fault, rfl, .inl rfl⟩
    | ok slot =>
      cases hslots : rest.offer self key value slots.2 with
      | error fault => exact .inr ⟨fault, rfl, .inr rfl⟩
      | ok others => exact offerAll_cons hnames object (slot, others)

theorem offerAll_cons_eq_ok_iff (hnames : (cons name aliases fallback shape rest).names.Nodup)
    {object : Object} {slots slots' : (cons name aliases fallback shape rest).Slots} :
    offerAll ((cons name aliases fallback shape rest).offer self) object slots = .ok slots' ↔
      offerAll ((Field.mk name aliases fallback shape).offer self) object slots.1 = .ok slots'.1 ∧
        offerAll (rest.offer self) object slots.2 = .ok slots'.2 := by
  rcases offerAll_cons self hnames object slots with
    ⟨found, hfound, hfirst, hrest⟩ | ⟨fault, hfault, hcases⟩
  · rw [hfound, hfirst, hrest, Except.ok.injEq, Except.ok.injEq, Except.ok.injEq]
    exact Prod.ext_iff
  · rw [hfault]
    rcases hcases with hfirst | hrest
    · simp [hfirst]
    · simp [hrest]

/-- A fault of a record is one of its first field or of the others. -/
theorem offerAll_cons_eq_error (hnames : (cons name aliases fallback shape rest).names.Nodup)
    {object : Object} {slots : (cons name aliases fallback shape rest).Slots} {fault : Fault}
    (h : offerAll ((cons name aliases fallback shape rest).offer self) object slots =
      .error fault) :
    offerAll ((Field.mk name aliases fallback shape).offer self) object slots.1 = .error fault ∨
      offerAll (rest.offer self) object slots.2 = .error fault := by
  rcases offerAll_cons self hnames object slots with ⟨found, hfound, -⟩ | ⟨fault', hfault, hcases⟩
  · cases h.symm.trans hfound
  · obtain rfl := Except.error.inj (h.symm.trans hfault)
    exact hcases

theorem finish_cons_eq_ok_iff {slots : (cons name aliases fallback shape rest).Slots}
    {row : α × β} :
    (cons name aliases fallback shape rest).finish slots = .ok row ↔
      Option.or slots.1 fallback = some row.1 ∧ rest.finish slots.2 = .ok row.2 := by
  rw [Fields.finish]
  cases Option.or slots.1 fallback with
  | none => simp
  | some value =>
    cases rest.finish slots.2 with
    | error cause => simp
    | ok values => simp [Prod.ext_iff]

end Cons

end Fields

end SceneLoad

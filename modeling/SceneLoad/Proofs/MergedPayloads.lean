import SceneLoad.Component.Decoder
import SceneLoad.Prefab.Patch
import SceneLoad.Proofs.Records

/-!
# Payloads under overrides

Overrides replace the entries of a payload by their keys, while a field may go by several names. So
a field that the payload and the overrides spell in different ways ends up with two entries, and the
merged payload is refused. `read_mergeComponent` says that nothing else can go wrong, provided that
the payload can be read and that the overrides make sense by themselves. Otherwise each field has
the value that the overrides give it, and keeps the one it had if they do not name it.

The entries that name one field are merged by themselves (`Field.entries_insertAll`), so this is a
matter of at most one entry on either side.
-/

namespace SceneLoad

/-- No value is read through recursion. -/
def noneNested (value : Json) : Except Fault Empty :=
  .error (.here (.wrongType value.found .nothing))

namespace Field

/-- The field is named at most once, and with a value that it can have. -/
structure Accepts (field : Field Empty) (object : Object) : Prop where
  once : (field.entries object).length ≤ 1
  readable : ∀ entry ∈ field.entries object, ∃ content, field.shape.read entry.2 = .ok content

/-- The field goes by different names in two objects. -/
def Clashes (field : Field Empty) (base overrides : Object) : Prop :=
  ∃ entry ∈ field.entries base, ∃ entry' ∈ field.entries overrides, entry.1 ≠ entry'.1

instance (field : Field Empty) (base overrides : Object) :
    Decidable (field.Clashes base overrides) :=
  inferInstanceAs (Decidable (∃ entry ∈ _, ∃ entry' ∈ _, _))

/-- The value of the field with the overrides, and the one without them. -/
structure Overridden (field : Field Empty) (overrides : Object)
    (before after : field.content) : Prop where
  replaced : ∀ entry ∈ field.entries overrides, field.shape.read entry.2 = .ok after
  kept : field.entries overrides = [] → after = before

variable {field : Field Empty} {base overrides : Object}

/-- What is acceptable for a field can be gathered. -/
theorem Accepts.gather_eq_ok {object : Object} (h : field.Accepts object) :
    ∃ slot, field.gather noneNested object = .ok slot := by
  obtain ⟨honce, hreadable⟩ := h
  match hentries : field.entries object with
  | [] => exact ⟨none, (field.gather_eq_ok_iff noneNested).2 (.inl ⟨hentries, rfl⟩)⟩
  | [entry] =>
    obtain ⟨content, hread⟩ := hreadable entry (by simp [hentries])
    exact ⟨some content,
      (field.gather_eq_ok_iff noneNested).2 (.inr ⟨entry, content, hentries, hread, rfl⟩)⟩
  | _ :: _ :: _ => simp [hentries] at honce

/-- What can be gathered for a field is acceptable. -/
theorem accepts_of_gather {object : Object} {slot : Option field.content}
    (h : field.gather noneNested object = .ok slot) : field.Accepts object := by
  rcases (field.gather_eq_ok_iff noneNested).1 h with
    ⟨hentries, -⟩ | ⟨entry, content, hentries, hread, -⟩
  · exact ⟨by simp [hentries], by simp [hentries]⟩
  · refine ⟨by simp [hentries], fun entry' hmem => ⟨content, ?_⟩⟩
    rw [hentries, List.mem_singleton] at hmem
    rw [hmem]
    exact hread

/-- What the overrides have for a field is its value under them. -/
theorem overridden_getD {given : Option field.content} (before : field.content)
    (h : field.gather noneNested overrides = .ok given) :
    field.Overridden overrides before (given.getD before) := by
  rcases (field.gather_eq_ok_iff noneNested).1 h with
    ⟨hentries, rfl⟩ | ⟨entry, content, hentries, hread, rfl⟩
  · refine ⟨fun entry hmem => ?_, fun _ => rfl⟩
    rw [hentries] at hmem
    exact absurd hmem List.not_mem_nil
  · refine ⟨fun entry' hmem => ?_, fun hnone => ?_⟩
    · rw [hentries, List.mem_singleton] at hmem
      rw [hmem]
      exact hread
    · rw [hentries] at hnone
      cases hnone

theorem entries_insert (key : String) (value : Json) : ∀ object : Object,
    field.entries (Object.insert key value object) =
      if field.Answers key then Object.insert key value (field.entries object)
      else field.entries object
  | [] => by
    by_cases hkey : field.Answers key <;> simp [entries, Object.insert, hkey]
  | (first, stored) :: rest => by
    have ih := entries_insert key value rest
    by_cases hfirst : first = key
    · subst hfirst
      by_cases hkey : field.Answers first
      · simp [Object.insert, entries_cons_of_answers, hkey]
      · simp [Object.insert, entries_cons_of_not_answers, hkey]
    · by_cases hanswers : field.Answers first
      · simp only [Object.insert, if_neg hfirst, entries_cons_of_answers hanswers, ih]
        split_ifs <;> rfl
      · simp only [Object.insert, if_neg hfirst, entries_cons_of_not_answers hanswers, ih]

/-- The entries that name a field are merged by themselves. -/
theorem entries_insertAll (field : Field Empty) : ∀ base overrides : Object,
    field.entries (Object.insertAll base overrides) =
      Object.insertAll (field.entries base) (field.entries overrides)
  | _, [] => rfl
  | base, (key, value) :: overrides => by
    have hrest := entries_insertAll field (Object.insert key value base) overrides
    rw [entries_insert] at hrest
    refine hrest.trans ?_
    by_cases hkey : field.Answers key
    · rw [if_pos hkey, entries_cons_of_answers hkey]
      rfl
    · rw [if_neg hkey, entries_cons_of_not_answers hkey]

/-- A field in a merged object : two names are refused, and otherwise the value that is given comes
before the one that is stored. -/
theorem gather_insertAll {stored given : Option field.content}
    (hstored : field.gather noneNested base = .ok stored)
    (hgiven : field.gather noneNested overrides = .ok given) :
    field.Clashes base overrides ∧
        field.gather noneNested (Object.insertAll base overrides) =
          .error (.here (.repeatedField field.name)) ∨
      ¬field.Clashes base overrides ∧
        field.gather noneNested (Object.insertAll base overrides) = .ok (given.or stored) := by
  have hmerged := entries_insertAll field base overrides
  unfold Clashes
  rw [field.gather_eq_ok_iff noneNested]
  rcases (field.gather_eq_ok_iff noneNested).1 hstored with
    ⟨hentries, rfl⟩ | ⟨⟨key, value⟩, content, hentries, hread, rfl⟩
  · rcases (field.gather_eq_ok_iff noneNested).1 hgiven with
      ⟨hentries', rfl⟩ | ⟨entry', content', hentries', hread', rfl⟩
    · rw [hentries, hentries'] at hmerged
      exact .inr ⟨by simp [hentries], .inl ⟨hmerged, rfl⟩⟩
    · rw [hentries, hentries'] at hmerged
      exact .inr ⟨by simp [hentries], .inr ⟨entry', content', hmerged, hread', rfl⟩⟩
  · rcases (field.gather_eq_ok_iff noneNested).1 hgiven with
      ⟨hentries', rfl⟩ | ⟨⟨key', value'⟩, content', hentries', hread', rfl⟩
    · rw [hentries, hentries'] at hmerged
      exact .inr ⟨by simp [hentries'], .inr ⟨_, content, hmerged, hread, rfl⟩⟩
    · have hpair : Object.insertAll [(key, value)] [(key', value')] =
        if key = key' then [(key, value')] else [(key, value), (key', value')] := rfl
      rw [hentries, hentries', hpair] at hmerged
      by_cases hsame : key = key'
      · rw [if_pos hsame] at hmerged
        exact .inr ⟨by simp [hentries, hentries', hsame],
          .inr ⟨_, content', hmerged, hread', rfl⟩⟩
      · rw [if_neg hsame] at hmerged
        exact .inl ⟨by simp [hentries, hentries', hsame],
          gather_of_entries_eq_cons_cons noneNested field hmerged hread⟩

end Field

/-! ## All fields of a merged object -/

namespace Fields

/-- The values of the fields with the overrides, and those without them. -/
def Overridden : {α : Type} → Fields Empty α → Object → (before after : α) → Prop
  | _, .nil, _, _, _ => True
  | _, .cons name aliases fallback shape rest, overrides, before, after =>
    (Field.mk name aliases fallback shape).Overridden overrides before.1 after.1 ∧
      rest.Overridden overrides before.2 after.2

/-- What a record can be read from is acceptable to all its fields. -/
theorem accepts_of_offerAll (object : Object) :
    ∀ {α : Type} (fields : Fields Empty α) {slots : fields.Slots}, fields.names.Nodup →
      offerAll (fields.offer noneNested) object fields.vacant = .ok slots →
      ∀ field ∈ fields.list, field.Accepts object
  | _, .nil, _, _, _ => by simp [list]
  | _, .cons name aliases fallback shape rest, slots, hnames, h => by
    obtain ⟨hfirst, hrest⟩ := (offerAll_cons_eq_ok_iff noneNested hnames).1 h
    have hnamesRest : rest.names.Nodup := (List.nodup_append.1 hnames).2.1
    exact List.forall_mem_cons.2
      ⟨Field.accepts_of_gather hfirst, accepts_of_offerAll object rest hnamesRest hrest⟩

/-- With what the overrides give the first field, and the others overridden too, there is a value
for every field. -/
theorem finish_cons_overridden {α β : Type} {name : String} {aliases : List String}
    {fallback : Option α} {shape : Shape Empty α} {rest : Fields Empty β} {overrides : Object}
    {slots slots' : (cons name aliases fallback shape rest).Slots} {given : Option α}
    (hgiven : (Field.mk name aliases fallback shape).gather noneNested overrides = .ok given)
    (hfirst : slots'.1 = given.or slots.1)
    (hrest : ∀ row, rest.finish slots.2 = .ok row →
      ∃ row', rest.finish slots'.2 = .ok row' ∧ rest.Overridden overrides row row')
    {row : α × β} (hrow : (cons name aliases fallback shape rest).finish slots = .ok row) :
    ∃ row', (cons name aliases fallback shape rest).finish slots' = .ok row' ∧
      (cons name aliases fallback shape rest).Overridden overrides row row' := by
  obtain ⟨hvalue, hvalues⟩ := finish_cons_eq_ok_iff.1 hrow
  obtain ⟨others, hothers, hoverridden⟩ := hrest row.2 hvalues
  have hvalue' : Option.or slots'.1 fallback = some (given.getD row.1) := by
    rw [hfirst]
    cases given with
    | none => exact hvalue
    | some content => rfl
  exact ⟨(given.getD row.1, others), finish_cons_eq_ok_iff.2 ⟨hvalue', hothers⟩,
    Field.overridden_getD row.1 hgiven, hoverridden⟩

/-- What is read of a merged object, field by field. -/
theorem offerAll_insertAll {base overrides : Object} :
    ∀ {α : Type} (fields : Fields Empty α) {slots : fields.Slots}, fields.names.Nodup →
      (∀ field ∈ fields.list, field.Accepts overrides) →
      offerAll (fields.offer noneNested) base fields.vacant = .ok slots →
      (∃ field ∈ fields.list, field.Clashes base overrides ∧
        offerAll (fields.offer noneNested) (Object.insertAll base overrides) fields.vacant =
          .error (.here (.repeatedField field.name))) ∨
      (∀ field ∈ fields.list, ¬field.Clashes base overrides) ∧
        ∃ slots', offerAll (fields.offer noneNested) (Object.insertAll base overrides)
            fields.vacant = .ok slots' ∧
          ∀ row, fields.finish slots = .ok row →
            ∃ row', fields.finish slots' = .ok row' ∧ fields.Overridden overrides row row'
  | _, .nil, slots, _, _, _ =>
    .inr ⟨by simp [list], (), offerAll_nil .., fun row _ => ⟨row, rfl, trivial⟩⟩
  | _, .cons name aliases fallback shape rest, slots, hnames, haccepts, hbase => by
    obtain ⟨hfield, hothers⟩ := List.forall_mem_cons.1 haccepts
    obtain ⟨given, hgiven⟩ := hfield.gather_eq_ok
    have hnamesRest : rest.names.Nodup := (List.nodup_append.1 hnames).2.1
    obtain ⟨hfirst, hrest⟩ := (offerAll_cons_eq_ok_iff noneNested hnames).1 hbase
    have hmerged := Field.gather_insertAll hfirst hgiven
    have hmergedRest := offerAll_insertAll rest hnamesRest hothers hrest
    cases hresult : offerAll ((cons name aliases fallback shape rest).offer noneNested)
      (Object.insertAll base overrides) (cons name aliases fallback shape rest).vacant with
    | ok slots' =>
      obtain ⟨hfirst', hrest'⟩ := (offerAll_cons_eq_ok_iff noneNested hnames).1 hresult
      rcases hmerged with ⟨-, hrefused⟩ | ⟨hnone, hgathered⟩
      · cases hrefused.symm.trans hfirst'
      rcases hmergedRest with ⟨field, -, -, hrefused⟩ | ⟨hnoneRest, others, hothers', hfinish⟩
      · cases hrefused.symm.trans hrest'
      have hslot := Except.ok.inj (hfirst'.symm.trans hgathered)
      obtain rfl := Except.ok.inj (hothers'.symm.trans hrest')
      exact .inr ⟨List.forall_mem_cons.2 ⟨hnone, hnoneRest⟩, slots', rfl, fun row hrow =>
        finish_cons_overridden hgiven hslot hfinish hrow⟩
    | error fault =>
      -- Which field is met first is up to the order of the entries, but it is one with two names.
      rcases offerAll_cons_eq_error noneNested hnames hresult with hfirst' | hrest'
      · rcases hmerged with ⟨hclash, hrefused⟩ | ⟨-, hgathered⟩
        · obtain rfl := Except.error.inj (hfirst'.symm.trans hrefused)
          exact .inl ⟨_, List.mem_cons_self, hclash, rfl⟩
        · cases hgathered.symm.trans hfirst'
      · rcases hmergedRest with ⟨field, hmem, hclash, hrefused⟩ | ⟨-, others, hothers', -⟩
        · obtain rfl := Except.error.inj (hrest'.symm.trans hrefused)
          exact .inl ⟨field, List.mem_cons_of_mem _ hmem, hclash, rfl⟩
        · cases hothers'.symm.trans hrest'

end Fields

namespace Shape

variable {α : Type} (name : String) (named : Bool) (fields : Fields Empty α)

theorem read_record (object : Object) :
    (Shape.record name named fields).read (.obj object) =
      match offerAll (fields.offer noneNested) object fields.vacant with
      | .error fault => .error fault
      | .ok slots => (fields.finish slots).mapError Fault.here := by
  have hread : (Shape.record name named fields).read (.obj object) =
    (Shape.record name named fields).readWith noneNested (.obj object) := rfl
  rw [hread, Shape.readWith]
  cases offerAll (fields.offer noneNested) object fields.vacant <;> rfl

/-- Reading a record from an object ends with the values for its fields. -/
theorem read_record_eq_ok_iff (object : Object) {row : α} :
    (Shape.record name named fields).read (.obj object) = .ok row ↔
      ∃ slots, offerAll (fields.offer noneNested) object fields.vacant = .ok slots ∧
        fields.finish slots = .ok row := by
  rw [read_record]
  cases offerAll (fields.offer noneNested) object fields.vacant with
  | error fault => simp
  | ok slots =>
    cases hfinish : fields.finish slots with
    | error cause => simp [hfinish, Except.mapError]
    | ok values => simp [hfinish, Except.mapError]

/-- A record from a merged object is refused for a field with two names, or its fields are
overridden. -/
theorem read_record_insertAll (hnames : fields.names.Nodup) {base overrides : Object} {row : α}
    (hbase : (Shape.record name named fields).read (.obj base) = .ok row)
    (haccepts : ∀ field ∈ fields.list, field.Accepts overrides) :
    (∃ field ∈ fields.list, field.Clashes base overrides ∧
      (Shape.record name named fields).read (.obj (Object.insertAll base overrides)) =
        .error (.here (.repeatedField field.name))) ∨
    (∀ field ∈ fields.list, ¬field.Clashes base overrides) ∧
      ∃ row', (Shape.record name named fields).read (.obj (Object.insertAll base overrides)) =
          .ok row' ∧ fields.Overridden overrides row row' := by
  obtain ⟨slots, hslots, hfinish⟩ := (read_record_eq_ok_iff name named fields base).1 hbase
  rcases fields.offerAll_insertAll hnames haccepts hslots with
    ⟨field, hmem, hclash, hrefused⟩ | ⟨hnone, slots', hslots', hoverridden⟩
  · refine .inl ⟨field, hmem, hclash, ?_⟩
    rw [read_record, hrefused]
  · obtain ⟨row', hrow', hover⟩ := hoverridden row hfinish
    exact .inr ⟨hnone, row',
      (read_record_eq_ok_iff name named fields _).2 ⟨slots', hslots', hrow'⟩, hover⟩

end Shape

/-! ## Payloads -/

/-- The fields of a record alone, before it is put together. -/
def Layout.rowShape {τ α : Type} (layout : Layout τ α) : Shape τ layout.row :=
  .record layout.name false layout.fields

namespace Payload

theorem nodup_names : ∀ payload ∈ standard, payload.layout.fields.names.Nodup := by
  decide +kernel

theorem decode_eq (payload : Payload) (value : Json) :
    payload.decode value =
      match payload.layout.rowShape.read value with
      | .ok row => payload.complete (payload.layout.build row)
      | .error fault => { result := .error (.ofFault fault) } := by
  have hshape : payload.layout.shape.read value =
      (payload.layout.rowShape.read value).map payload.layout.build := rfl
  rw [decode, hshape]
  cases payload.layout.rowShape.read value <;> rfl

/-- A payload that can be read, under overrides that make sense by themselves, is refused exactly if
some field goes by one name in the payload and by another in the overrides. Otherwise each field has
the value that the overrides give it, or the one that it had. -/
theorem read_mergeComponent {payload : Payload} (hpayload : payload ∈ standard)
    {base overrides : Object} {row : payload.layout.row}
    (hbase : payload.layout.rowShape.read (.obj base) = .ok row)
    (haccepts : ∀ field ∈ payload.layout.fields.list, field.Accepts overrides) :
    let merged := Patch.mergeComponent (.obj base) (.obj overrides)
    ((∃ fault, payload.layout.rowShape.read merged = .error fault) ↔
        ∃ field ∈ payload.layout.fields.list, field.Clashes base overrides) ∧
      (∀ fault, payload.layout.rowShape.read merged = .error fault →
        ∃ field ∈ payload.layout.fields.list, field.Clashes base overrides ∧
          fault = .here (.repeatedField field.name) ∧
          payload.decode merged =
            { result := .error ⟨".", "duplicate field `" ++ field.name ++ "`"⟩ }) ∧
      ((∀ field ∈ payload.layout.fields.list, ¬field.Clashes base overrides) →
        ∃ row', payload.layout.rowShape.read merged = .ok row' ∧
          payload.layout.fields.Overridden overrides row row' ∧
          payload.decode merged = payload.complete (payload.layout.build row')) := by
  intro merged
  rcases Shape.read_record_insertAll payload.layout.name false payload.layout.fields
    (nodup_names payload hpayload) hbase haccepts with
    ⟨field, hmem, hclash, hrefused⟩ | ⟨hnone, row', hrow', hoverridden⟩
  · have hmerged : payload.layout.rowShape.read merged =
        .error (.here (.repeatedField field.name)) := hrefused
    refine ⟨⟨fun _ => ⟨field, hmem, hclash⟩, fun _ => ⟨_, hmerged⟩⟩, fun fault hfault => ?_,
      fun hnone => absurd hclash (hnone field hmem)⟩
    obtain rfl := Except.error.inj (hmerged.symm.trans hfault)
    refine ⟨field, hmem, hclash, rfl, ?_⟩
    rw [decode_eq, hmerged]
    rfl
  · have hmerged : payload.layout.rowShape.read merged = .ok row' := hrow'
    refine ⟨⟨?_, ?_⟩, ?_, fun _ => ⟨row', hmerged, hoverridden, ?_⟩⟩
    · rintro ⟨fault, hfault⟩
      cases hmerged.symm.trans hfault
    · rintro ⟨field, hmem, hclash⟩
      exact absurd hclash (hnone field hmem)
    · intro fault hfault
      cases hmerged.symm.trans hfault
    · rw [decode_eq, hmerged]

/-- A light whose type is spelled in the short way. -/
def spotlight : Object := [("type", .str "spot"), ("intensity", .num (.int 2))]

theorem read_mergeComponent_spotlight :
    (∃ fault, light.layout.rowShape.read
        (Patch.mergeComponent (.obj spotlight) (.obj [("lightType", .str "point")])) =
          .error fault) ∧
      ∃ row row', light.layout.rowShape.read (.obj spotlight) = .ok row ∧
        light.layout.rowShape.read
          (Patch.mergeComponent (.obj spotlight) (.obj [("type", .str "point")])) = .ok row' ∧
        light.layout.fields.Overridden [("type", .str "point")] row row' := by
  have hmem : light ∈ standard := by simp [standard]
  have hnames := nodup_names light hmem
  have hbase : light.layout.rowShape.read (.obj spotlight) = .ok _ := rfl
  have hlong := read_mergeComponent hmem hbase
    (Fields.accepts_of_offerAll [("lightType", .str "point")] light.layout.fields hnames rfl)
  have hshort := read_mergeComponent hmem hbase
    (Fields.accepts_of_offerAll [("type", .str "point")] light.layout.fields hnames rfl)
  obtain ⟨row', hrow', hoverridden, -⟩ := hshort.2.2 (by decide +kernel)
  exact ⟨hlong.1.2 (by decide +kernel), _, row', hbase, hrow', hoverridden⟩

end Payload

end SceneLoad

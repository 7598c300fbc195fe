import SceneLoad.Proofs.FaultPaths
import SceneLoad.Proofs.WrittenForms
import SceneLoad.Scene.Document

/-!
# Reading what was written

Definitions, entities and documents are written as objects, and a part that has its fallback may be
left out. `Fields.Written` says of an object that it names the fields in order, except for such
parts. The names of the fields are different, so no entry is taken for another one's, and the
fields are read back as they were (`Fields.Written.reads`, `Layout.read_written`).

What remains is that each part is read back, and that what is left out is what the reader supplies.
The parts of a tree are trees again, so this is an induction on the tree (`Template.read_toJson`).
An id that is a text is read as a text, whatever it looks like, because a text is no number
(`AuthoredId.read_toJson`).
-/

namespace SceneLoad

section Records

variable {τ : Type} (self : Json → Except Fault τ)

/-- The entries name the fields in order, each with a value that is read as the field's. A field
that has its fallback may be left out. -/
def Fields.Written : {α : Type} → Fields τ α → Object → α → Prop
  | _, .nil, entries, _ => entries = []
  | _, .cons name _ fallback shape rest, entries, (content, row) =>
    (∃ value others, entries = (name, value) :: others ∧
        shape.readWith self value = .ok content ∧ rest.Written others row) ∨
      fallback = some content ∧ rest.Written entries row

variable {self} {α β : Type} {name : String} {aliases : List String} {rest : Fields τ β}
  {entries others : Object} {row : β}

theorem Fields.Written.entry {fallback : Option α} {shape : Shape τ α} {value : Json}
    {content : α} (hvalue : shape.readWith self value = .ok content)
    (hrest : rest.Written self entries row) :
    (Fields.cons name aliases fallback shape rest).Written self ((name, value) :: entries)
      (content, row) :=
  .inl ⟨value, entries, rfl, hvalue, hrest⟩

theorem Fields.Written.omitted {shape : Shape τ α} {content : α}
    (hrest : rest.Written self entries row) :
    (Fields.cons name aliases (some content) shape rest).Written self entries (content, row) :=
  .inr ⟨rfl, hrest⟩

theorem Fields.Written.mem_names : ∀ {α : Type} {fields : Fields τ α} {entries : Object} {row : α},
    fields.Written self entries row → ∀ key ∈ Object.keys entries, key ∈ fields.names
  | _, .nil, _, _, h, key, hkey => by
    rw [h] at hkey
    exact hkey
  | _, .cons own aliases _ _ rest, _, (_, _), h, key, hkey => by
    rcases h with ⟨_, others, rfl, _, hrest⟩ | ⟨_, hrest⟩
    · rcases List.mem_cons.1 hkey with rfl | hkey
      · exact List.mem_cons_self
      · exact List.mem_append_right (own :: aliases) (mem_names hrest key hkey)
    · exact List.mem_append_right (own :: aliases) (mem_names hrest key hkey)

theorem Field.entries_eq_nil {field : Field τ} {object : Object}
    (h : ∀ key ∈ Object.keys object, ¬field.Answers key) : field.entries object = [] := by
  refine List.filter_eq_nil_iff.2 fun entry hentry => ?_
  simpa using h entry.1 (List.mem_map_of_mem hentry)

/-- Fields that are written one after another are read back. -/
theorem Fields.Written.reads : ∀ {α : Type} {fields : Fields τ α} {entries : Object} {row : α}
    (position : Nat), fields.names.Nodup → fields.Written self entries row →
      fields.Reads self (.obj entries) position row
  | _, .nil, _, _, _, _, _ => trivial
  | _, .cons own aliases fallback shape rest, entries, (content, row), position, hnames, h => by
    obtain ⟨-, hnamesRest, hdisjoint⟩ := List.nodup_append.1 hnames
    -- No entry of the others answers to the first field, and its own entry to none of the others.
    have hothers : ∀ {others : Object}, rest.Written self others row →
        (Field.mk own aliases fallback shape).entries others = [] :=
      fun hwritten => Field.entries_eq_nil fun key hkey hanswers =>
        hdisjoint key (List.mem_cons.2 hanswers) key (hwritten.mem_names key hkey) rfl
    rcases h with ⟨value, others, rfl, hvalue, hrest⟩ | ⟨hfallback, hrest⟩
    · refine ⟨?_, ?_⟩
      · rw [Field.Reads, Field.slots, Field.entries_cons_of_answers (.inl rfl), hothers hrest]
        exact hvalue
      · have hsame : rest.SameParts (position + 1) (.obj ((own, value) :: others))
            (.obj others) := by
          intro index field hfield
          have hown : ¬field.Answers own := fun hanswers =>
            hdisjoint own List.mem_cons_self own
              (Fields.mem_names.2 ⟨field, List.mem_of_getElem? hfield, hanswers⟩) rfl
          rw [Field.slots, Field.slots, Field.entries_cons_of_not_answers hown]
        exact (Fields.reads_iff self rest (position + 1) hsame).2
          (hrest.reads (position + 1) hnamesRest)
    · refine ⟨?_, hrest.reads (position + 1) hnamesRest⟩
      rw [Field.Reads, Field.slots, hothers hrest]
      exact hfallback

theorem Layout.read_written (layout : Layout τ α) (hnames : layout.fields.names.Nodup)
    {row : layout.row} (h : layout.fields.Written self entries row) :
    layout.shape.readWith self (.obj entries) = .ok (layout.build row) :=
  (Layout.readWith_eq_ok_iff self layout hnames).2 ⟨trivial, row, h.reads 0 hnames, rfl⟩

/-! ## Parts -/

theorem readItems_map {read : Json → Except Fault α} {toJson : α → Json} : ∀ (start : Nat)
    {values : List α}, (∀ value ∈ values, read (toJson value) = .ok value) →
      readItems read start (values.map toJson) = .ok values
  | _, [], _ => rfl
  | start, value :: values, h => by
    obtain ⟨hvalue, hvalues⟩ := List.forall_mem_cons.1 h
    rw [List.map_cons, readItems_cons_ok start _ hvalue, readItems_map (start + 1) hvalues]
    rfl

theorem Shape.read_text (text : String) :
    Shape.text.readWith self (.str text) = .ok text := rfl

theorem Shape.read_object (object : Object) :
    Shape.object.readWith self (.obj object) = .ok object := rfl

theorem Shape.read_texts (texts : List String) :
    (Shape.list .text).readWith self (.arr (texts.map Json.str)) = .ok texts :=
  readItems_map 0 fun _ _ => rfl

theorem Shape.read_integer {typeName : String} {low high value : Int} (hlow : low ≤ value)
    (hhigh : value ≤ high) :
    (Shape.integer typeName low high).readWith self (.num (.int value)) = .ok value :=
  if_pos ⟨hlow, hhigh⟩

theorem Shape.read_uint32 (value : UInt32) :
    Shape.uint32.readWith self (.num (.int value.toNat)) = .ok value := by
  have hhigh : (value.toNat : Int) ≤ 4294967295 :=
    Int.ofNat_le.2 (Nat.le_of_lt_succ value.toNat_lt_size)
  rw [Shape.uint32, Shape.readWith, Shape.read_integer (Int.natCast_nonneg _) hhigh]
  simp [Except.map]

theorem Shape.read_uint64 (value : UInt64) :
    Shape.uint64.readWith self (.num (.int value.toNat)) = .ok value := by
  have hhigh : (value.toNat : Int) ≤ 18446744073709551615 :=
    Int.ofNat_le.2 (Nat.le_of_lt_succ value.toNat_lt_size)
  rw [Shape.uint64, Shape.readWith, Shape.read_integer (Int.natCast_nonneg _) hhigh]
  simp [Except.map]

/-- A list that is left out when it is empty. -/
theorem Fields.Written.items {item : Shape τ α} {values : List α} {written : Json}
    (hwritten : (Shape.list item).readWith self written = .ok values)
    (hrest : rest.Written self entries row) :
    (Fields.field name [] (.list item) rest).Written self
      ((if values.isEmpty then [] else [(name, written)]) ++ entries) (values, row) := by
  cases values with
  | nil => exact .omitted hrest
  | cons value values => exact .entry hwritten hrest

/-- A value that is left out when it is absent. -/
theorem Fields.Written.optionalEntry {shape : Shape τ α} {toJson : α → Json}
    (hread : ∀ value, toJson value ≠ .null ∧ shape.readWith self (toJson value) = .ok value)
    (value : Option α) (hrest : rest.Written self entries row) :
    (Fields.optional name shape rest).Written self
      (SceneLoad.optionalEntry name toJson value ++ entries) (value, row) := by
  cases value with
  | none => exact .omitted hrest
  | some value =>
    obtain ⟨hnull, hvalue⟩ := hread value
    refine .entry ?_ hrest
    rw [Shape.readWith_option shape hnull, hvalue]
    rfl

theorem Fields.Written.optionalText (text : Option String)
    (hrest : rest.Written self entries row) :
    (Fields.optional name .text rest).Written self
      (SceneLoad.optionalEntry name Json.str text ++ entries) (text, row) :=
  .optionalEntry (fun _ => ⟨Json.noConfusion, rfl⟩) text hrest

end Records

/-! ## Trees and definitions -/

namespace Template

/-- A node is read back if its children are. -/
theorem read_node (name : String) (tags : List String) (components : Object)
    {children : List Template} (hchildren : readItems read 0 (toJsonAll children) = .ok children) :
    read (toJson ⟨name, tags, components, children⟩) = .ok ⟨name, tags, components, children⟩ := by
  have hlist : (Shape.list .self).readWith read (.arr (toJsonAll children)) = .ok children :=
    hchildren
  have hwritten : layout.fields.Written read _ (name, tags, components, children, ()) :=
    .entry (Shape.read_text name) <| .items (Shape.read_texts tags) <|
      .entry (Shape.read_object components) <| .items hlist rfl
  have hread : layout.shape.readWith read (.obj _) = .ok ⟨name, tags, components, children⟩ :=
    layout.read_written (by decide) hwritten
  rw [← read_eq] at hread
  simpa only [toJson, List.cons_append, List.append_assoc, List.nil_append, List.append_nil]
    using hread

mutual

theorem read_toJson : ∀ template : Template, read template.toJson = .ok template
  | ⟨name, tags, components, children⟩ =>
    read_node name tags components (readItems_toJsonAll children 0)

theorem readItems_toJsonAll : ∀ (templates : List Template) (start : Nat),
    readItems read start (toJsonAll templates) = .ok templates
  | [], _ => rfl
  | template :: rest, start => by
    rw [toJsonAll, readItems_cons_ok start _ (read_toJson template),
      readItems_toJsonAll rest (start + 1)]
    rfl

end

end Template

namespace Definition

theorem read_toJson (definition : Definition) : read definition.toJson = .ok definition := by
  obtain ⟨id, name, version, root, metadata, dependencies, tags, description⟩ := definition
  have hwritten : layout.fields.Written Template.read _
      (id, name, version, root, metadata, dependencies, tags, description, ()) :=
    .entry (Shape.read_text id) <| .entry (Shape.read_text name) <|
      .entry (Shape.read_uint32 version) <| .entry root.read_toJson <|
      .entry (Shape.read_object metadata) <| .entry (Shape.read_texts dependencies) <|
      .entry (Shape.read_texts tags) <| .optionalText description rfl
  have hread : read (.obj _) =
      .ok ⟨id, name, version, root, metadata, dependencies, tags, description⟩ :=
    layout.read_written (by decide) hwritten
  cases description <;> exact hread

end Definition

/-! ## Documents -/

theorem AuthoredId.read_toJson : ∀ id : AuthoredId,
    AuthoredId.shape.readWith noneNested id.toJson = .ok id
  | .number value => by
    have hvalue : (Shape.uint64.map AuthoredId.number).readWith noneNested
        (.num (.int value.toNat)) = .ok (.number value) := by
      rw [Shape.readWith, Shape.read_uint64]
      rfl
    rw [AuthoredId.shape, AuthoredId.toJson, Shape.readWith, hvalue]
  | .text value => rfl

/-- A text that looks like a number. -/
example : AuthoredId.shape.read (.str "7") = .ok (.text "7") := rfl

theorem AuthoredId.toJson_ne_null : ∀ id : AuthoredId, id.toJson ≠ .null
  | .number _ => Json.noConfusion
  | .text _ => Json.noConfusion

theorem Entity.read_toJson (entity : Entity) :
    Entity.layout.shape.readWith noneNested entity.toJson = .ok entity := by
  obtain ⟨id, persistentId, name, parentPersistentId, tags, components⟩ := entity
  have hwritten : layout.fields.Written noneNested _
      (id, persistentId, name, parentPersistentId, tags, components, ()) :=
    .optionalEntry (fun id => ⟨id.toJson_ne_null, id.read_toJson⟩) id <|
      .optionalText persistentId <| .optionalText name <| .optionalText parentPersistentId <|
      .items (Shape.read_texts tags) <| .entry (Shape.read_object components) rfl
  have hread : layout.shape.readWith noneNested (.obj _) =
      .ok ⟨id, persistentId, name, parentPersistentId, tags, components⟩ :=
    layout.read_written (by decide) hwritten
  simpa only [toJson, List.append_assoc] using hread

theorem Document.read_toJson (document : Document) :
    layout.shape.readWith noneNested document.toJson = .ok document := by
  obtain ⟨entities, prefabs⟩ := document
  have hentities : (Shape.list Entity.layout.shape).readWith noneNested
      (.arr (entities.map Entity.toJson)) = .ok entities :=
    readItems_map 0 fun entity _ => entity.read_toJson
  have hprefabs : (Shape.list .any).readWith noneNested (.arr (prefabs.map id)) = .ok prefabs :=
    readItems_map 0 fun _ _ => rfl
  rw [List.map_id] at hprefabs
  have hwritten : layout.fields.Written noneNested _ (entities, prefabs, ()) :=
    .entry hentities <| .entry hprefabs rfl
  exact layout.read_written (by decide) hwritten

/-- Every definition, every entity and every document is read back as it was written. Nothing is
lost, and the components of every node come in the same order. -/
theorem read_written_back :
    (∀ definition : Definition, Definition.read definition.toJson = .ok definition) ∧
      (∀ entity : Entity, Entity.layout.shape.read entity.toJson = .ok entity) ∧
      ∀ document : Document, Document.layout.shape.read document.toJson = .ok document :=
  ⟨Definition.read_toJson, Entity.read_toJson, Document.read_toJson⟩

end SceneLoad

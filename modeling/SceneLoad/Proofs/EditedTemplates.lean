import SceneLoad.Proofs.DecodedEntries
import SceneLoad.Proofs.Merge
import SceneLoad.Proofs.Records

/-!
# Templates without a component

A record may be written by names or by positions. Either way each field has its own part of the
value (`Field.slots`), and the record is read if every field is read from its part
(`Shape.readWith_record_eq_ok_iff`). So a change to one part changes one field
(`Field.Reads.modifyField`).

`Json.withoutComponent` takes one entry out of the components of a node, wherever the node stands in
a written tree. What is read from the result is the tree without that entry
(`Template.read_withoutComponent`). How deep a value is only bounds how far it is followed
(`Template.readWithin_of_depth_lt`), so it does not matter that the result may be less deep. The
same holds of a definition (`Definition.read_withoutComponent`).
-/

namespace SceneLoad

/-! ## Parts of a written record -/

section Parts

variable {τ : Type} (self : Json → Except Fault τ)

/-- What a written record has for the field at a position. -/
def Field.slots (field : Field τ) (position : Nat) : Json → List Json
  | .obj entries => (field.entries entries).map Prod.snd
  | .arr items => items[position]?.toList
  | _ => []

/-- The field is read from its one part, or falls back on its default if there is none. -/
def Field.ReadsParts (field : Field τ) : List Json → field.content → Prop
  | [], content => field.fallback = some content
  | [part], content => field.shape.readWith self part = .ok content
  | _, _ => False

/-- The field is read from a record. -/
def Field.Reads (field : Field τ) (position : Nat) (value : Json) (content : field.content) :
    Prop :=
  field.ReadsParts self (field.slots position value) content

/-- Every field is read from its part, the first at `position`. -/
def Fields.Reads (value : Json) : {α : Type} → Nat → Fields τ α → α → Prop
  | _, _, .nil, _ => True
  | _, position, .cons name aliases fallback shape rest, (content, row) =>
    (Field.mk name aliases fallback shape).Reads self position value content ∧
      Fields.Reads value (position + 1) rest row

/-- A value that may be read as a record with so many fields. -/
def Json.IsRecord (size : Nat) : Json → Prop
  | .obj _ => True
  | .arr items => items.length ≤ size
  | _ => False

theorem Field.reads_obj_iff {field : Field τ} {position : Nat} {entries : Object}
    {content : field.content} :
    field.Reads self position (.obj entries) content ↔
      ∃ slot, field.gather self entries = .ok slot ∧ slot.or field.fallback = some content := by
  rw [Field.Reads, Field.slots]
  constructor
  · intro h
    cases hentries : field.entries entries with
    | nil =>
      rw [hentries] at h
      exact ⟨none, (field.gather_eq_ok_iff self).2 (.inl ⟨hentries, rfl⟩), h⟩
    | cons entry rest =>
      cases rest with
      | nil =>
        rw [hentries] at h
        have hgather := (field.gather_eq_ok_iff self).2 (.inr ⟨entry, content, hentries, h, rfl⟩)
        exact ⟨some content, hgather, rfl⟩
      | cons entry' rest =>
        rw [hentries] at h
        exact h.elim
  · rintro ⟨slot, hgather, hslot⟩
    rcases (field.gather_eq_ok_iff self).1 hgather with
      ⟨hentries, rfl⟩ | ⟨entry, content', hentries, hread, rfl⟩
    · rw [hentries]
      exact hslot
    · rw [hentries]
      obtain rfl : content' = content := Option.some.inj hslot
      exact hread

/-- A record in an object is read if every field is. -/
theorem Fields.reads_obj_iff {entries : Object} :
    ∀ {α : Type} (fields : Fields τ α) (position : Nat) {row : α}, fields.names.Nodup →
      (fields.Reads self (.obj entries) position row ↔
        ∃ slots, offerAll (fields.offer self) entries fields.vacant = .ok slots ∧
          fields.finish slots = .ok row)
  | _, .nil, _, _, _ => by
    refine ⟨fun _ => ⟨(), Fields.offerAll_nil self entries (), rfl⟩, fun _ => trivial⟩
  | _, .cons name aliases fallback shape rest, position, (content, row), hnames => by
    have hrest : rest.names.Nodup := (List.nodup_append.1 hnames).2.1
    rw [Fields.Reads, Field.reads_obj_iff, Fields.reads_obj_iff rest (position + 1) hrest]
    constructor
    · rintro ⟨⟨slot, hgather, hslot⟩, slots, hslots, hfinish⟩
      refine ⟨(slot, slots), (Fields.offerAll_cons_eq_ok_iff self hnames).2 ⟨hgather, hslots⟩, ?_⟩
      exact Fields.finish_cons_eq_ok_iff.2 ⟨hslot, hfinish⟩
    · rintro ⟨slots, hslots, hfinish⟩
      obtain ⟨hgather, hrest⟩ := (Fields.offerAll_cons_eq_ok_iff self hnames).1 hslots
      obtain ⟨hslot, hfinish⟩ := Fields.finish_cons_eq_ok_iff.1 hfinish
      exact ⟨⟨slots.1, hgather, hslot⟩, slots.2, hrest, hfinish⟩

/-- A record in a list is read if every field is. -/
theorem Fields.reads_arr_iff (record : String) (count : Nat) (all : List Json) :
    ∀ {α : Type} (fields : Fields τ α) (position : Nat) {items : List Json} {row : α},
      all.drop position = items →
        (fields.Reads self (.arr all) position row ↔
          fields.readPositional self record count position items = .ok row)
  | _, .nil, _, _, _, _ => by simp [Fields.Reads, Fields.readPositional]
  | _, .cons name aliases fallback shape rest, position, [], (content, row), hitems => by
    have hlength : all.length ≤ position := List.drop_eq_nil_iff.1 hitems
    have htail : all.drop (position + 1) = [] := List.drop_eq_nil_iff.2 (by omega)
    rw [Fields.Reads, Fields.reads_arr_iff record count all rest (position + 1) htail, Field.Reads,
      Field.slots, List.getElem?_eq_none hlength]
    cases fallback with
    | none => simp [Fields.readPositional, Field.ReadsParts]
    | some value =>
      rw [Fields.readPositional]
      cases rest.readPositional self record count (position + 1) [] with
      | error fault => simp
      | ok values => simp [Field.ReadsParts]
  | _, .cons name aliases fallback shape rest, position, item :: items, (content, row), hitems => by
    have hitem : all[position]? = some item := by
      rw [← List.head?_drop, hitems, List.head?_cons]
    have htail : all.drop (position + 1) = items := by
      rw [← List.drop_drop, hitems, List.drop_one, List.tail_cons]
    rw [Fields.Reads, Fields.reads_arr_iff record count all rest (position + 1) htail, Field.Reads,
      Field.slots, hitem, Fields.readPositional]
    cases hread : shape.readWith self item with
    | error fault => simp [Field.ReadsParts, Fault.place, hread]
    | ok value =>
      cases rest.readPositional self record count (position + 1) items with
      | error fault => simp [Fault.place]
      | ok values => simp [Field.ReadsParts, Fault.place, hread]

/-- A record is read if every field is read from its part. -/
theorem Shape.readWith_record_eq_ok_iff {α : Type} {fields : Fields τ α}
    (hnames : fields.names.Nodup) (name : String) {value : Json} {row : α} :
    (Shape.record name false fields).readWith self value = .ok row ↔
      value.IsRecord fields.size ∧ fields.Reads self value 0 row := by
  cases value with
  | obj entries =>
    rw [Fields.reads_obj_iff self fields 0 hnames, Shape.readWith]
    cases offerAll (fields.offer self) entries fields.vacant with
    | error fault => simp
    | ok slots =>
      cases hfinish : fields.finish slots with
      | error cause => simp [Except.mapError, hfinish]
      | ok row' => simp [Except.mapError, hfinish, Json.IsRecord]
  | arr items =>
    rw [Fields.reads_arr_iff self name fields.size items fields 0 List.drop_zero, Shape.readWith,
      Json.IsRecord]
    cases fields.readPositional self name fields.size 0 items with
    | error fault => simp
    | ok row' =>
      by_cases hlength : items.length ≤ fields.size
      · simp [hlength, Nat.not_lt.2 hlength]
      · simp [hlength, Nat.not_le.1 hlength]
  | null => simp [Shape.readWith, Json.IsRecord]
  | bool _ => simp [Shape.readWith, Json.IsRecord]
  | num _ => simp [Shape.readWith, Json.IsRecord]
  | str _ => simp [Shape.readWith, Json.IsRecord]

theorem Layout.readWith_eq_ok_iff {α : Type} (layout : Layout τ α)
    (hnames : layout.fields.names.Nodup) {value : Json} {result : α} :
    layout.shape.readWith self value = .ok result ↔
      value.IsRecord layout.fields.size ∧
        ∃ row, layout.fields.Reads self value 0 row ∧ layout.build row = result := by
  rw [Layout.shape, Shape.readWith]
  constructor
  · intro h
    cases hread : (Shape.record layout.name false layout.fields).readWith self value with
    | error fault => simp [hread, Except.map] at h
    | ok row =>
      rw [hread] at h
      obtain ⟨hrecord, hreads⟩ := (Shape.readWith_record_eq_ok_iff self hnames layout.name).1 hread
      exact ⟨hrecord, row, hreads, Except.ok.inj h⟩
  · rintro ⟨hrecord, row, hreads, rfl⟩
    rw [(Shape.readWith_record_eq_ok_iff self hnames layout.name).2 ⟨hrecord, hreads⟩]
    rfl

end Parts

/-! ## Changes to one part -/

/-- The value with one part of a record changed, whether it is written by names or by positions. -/
def Json.modifyField (name : String) (position : Nat) (change : Json → Json) : Json → Json
  | .obj entries => .obj (entries.map fun (key, value) =>
      (key, if key = name then change value else value))
  | .arr items => .arr (items.modify position change)
  | value => value

theorem Json.isRecord_modifyField {size : Nat} {name : String} {position : Nat}
    {change : Json → Json} {value : Json} (h : value.IsRecord size) :
    (value.modifyField name position change).IsRecord size := by
  cases value with
  | obj entries => trivial
  | arr items =>
    show (items.modify position change).length ≤ size
    rw [List.length_modify]
    exact h
  | null => exact h
  | bool _ => exact h
  | num _ => exact h
  | str _ => exact h

section Changes

variable {τ : Type} {self : Json → Except Fault τ}

theorem Field.slots_modifyField {field : Field τ} (hplain : field.aliases = []) (position : Nat)
    (change : Json → Json) (value : Json) :
    field.slots position (value.modifyField field.name position change) =
      (field.slots position value).map change := by
  cases value with
  | obj entries =>
    have hanswers : ∀ key, field.Answers key ↔ key = field.name := by
      simp [Field.Answers, hplain]
    simp only [Json.modifyField, Field.slots, Field.entries, List.filter_map, List.map_map,
      hanswers]
    refine List.map_congr_left fun entry hmem => ?_
    have hkey : entry.1 = field.name := by simpa using (List.mem_filter.1 hmem).2
    exact if_pos hkey
  | arr items =>
    simp only [Json.modifyField, Field.slots, List.getElem?_modify_eq]
    cases items[position]? <;> rfl
  | null => rfl
  | bool _ => rfl
  | num _ => rfl
  | str _ => rfl

/-- A change to another part is none to this one. -/
theorem Field.slots_modifyField_of_ne {field : Field τ} {name : String} {position other : Nat}
    (hname : ¬field.Answers name) (hposition : position ≠ other) (change : Json → Json)
    (value : Json) :
    field.slots other (value.modifyField name position change) = field.slots other value := by
  cases value with
  | obj entries =>
    simp only [Json.modifyField, Field.slots, Field.entries, List.filter_map, List.map_map]
    refine List.map_congr_left fun entry hmem => ?_
    have hkey : entry.1 ≠ name := by
      rintro rfl
      exact hname (by simpa using (List.mem_filter.1 hmem).2)
    exact if_neg hkey
  | arr items => simp only [Json.modifyField, Field.slots, List.getElem?_modify_ne _ _ hposition]
  | null => rfl
  | bool _ => rfl
  | num _ => rfl
  | str _ => rfl

/-- A field that does not fall back on its default is read from its changed part. -/
theorem Field.Reads.modifyField {field : Field τ} {position : Nat} {value : Json}
    {content content' : field.content} {change : Json → Json}
    (h : field.Reads self position value content) (hplain : field.aliases = [])
    (hfallback : field.fallback ≠ some content)
    (hchange : ∀ part, field.shape.readWith self part = .ok content →
      field.shape.readWith self (change part) = .ok content') :
    field.Reads self position (value.modifyField field.name position change) content' := by
  unfold Field.Reads at h ⊢
  rw [Field.slots_modifyField hplain]
  match hparts : field.slots position value, h with
  | [], h => exact absurd h hfallback
  | [part], h => exact hchange part h

theorem Field.Reads.modifyField_of_ne {field : Field τ} {name : String} {position other : Nat}
    {value : Json} {content : field.content} (h : field.Reads self other value content)
    (hname : ¬field.Answers name) (hposition : position ≠ other) (change : Json → Json) :
    field.Reads self other (value.modifyField name position change) content := by
  unfold Field.Reads at h ⊢
  rwa [Field.slots_modifyField_of_ne hname hposition]

theorem Field.Reads.congr {field : Field τ} {self' : Json → Except Fault τ} {position : Nat}
    {value : Json} {content : field.content} (h : field.Reads self position value content)
    (hsame : ∀ part ∈ field.slots position value,
      field.shape.readWith self part = .ok content →
        field.shape.readWith self' part = .ok content) :
    field.Reads self' position value content := by
  unfold Field.Reads at h ⊢
  match hparts : field.slots position value, h with
  | [], h => exact h
  | [part], h => exact hsame part (by simp [hparts]) h

theorem Json.depth_le_of_mem_items : ∀ {items : List Json} {item : Json}, item ∈ items →
    item.depth ≤ depthItems items
  | _ :: rest, _, h => by
    rw [depthItems]
    rcases List.mem_cons.1 h with rfl | h
    · exact Nat.le_max_left ..
    · exact Nat.le_trans (depth_le_of_mem_items h) (Nat.le_max_right ..)

theorem Json.depth_le_of_mem_entries : ∀ {entries : Object} {entry : String × Json},
    entry ∈ entries → entry.2.depth ≤ depthEntries entries
  | (_, value) :: rest, _, h => by
    rw [depthEntries]
    rcases List.mem_cons.1 h with rfl | h
    · exact Nat.le_max_left ..
    · exact Nat.le_trans (depth_le_of_mem_entries h) (Nat.le_max_right ..)

theorem Field.depth_lt_of_mem_slots {field : Field τ} {position : Nat} {value part : Json}
    (h : part ∈ field.slots position value) : part.depth < value.depth := by
  cases value with
  | obj entries =>
    obtain ⟨entry, hentry, rfl⟩ := List.mem_map.1 h
    have hdepth := Json.depth_le_of_mem_entries (field.mem_entries.1 hentry).1
    rw [Json.depth]
    omega
  | arr items =>
    have hitem : items[position]? = some part := Option.mem_toList.1 h
    have hdepth := Json.depth_le_of_mem_items (List.mem_of_getElem? hitem)
    rw [Json.depth]
    omega
  | null => cases h
  | bool _ => cases h
  | num _ => cases h
  | str _ => cases h

theorem Shape.readWith_text (self self' : Json → Except Fault τ) :
    Shape.text.readWith self' = Shape.text.readWith self := by
  funext value
  cases value <;> rfl

end Changes

/-! ## Templates -/

/-- The value without a key, if it is an object. -/
def Json.eraseKey (key : String) : Json → Json
  | .obj entries => .obj (Object.erase key entries)
  | value => value

/-- The value with one item changed, if it is a list. -/
def Json.modifyItem (index : Nat) (change : Json → Json) : Json → Json
  | .arr items => .arr (items.modify index change)
  | value => value

/-- A written tree without one component of the node at an address. -/
def Json.withoutComponent (kind : String) : List Nat → Json → Json
  | [], value => value.modifyField "components" 2 (eraseKey kind)
  | index :: rest, value =>
    value.modifyField "children" 3 (modifyItem index (withoutComponent kind rest))

/-- A tree without one component of the node at an address. -/
def Template.withoutComponent (kind : String) : List Nat → Template → Template
  | [], template => { template with components := Object.erase kind template.components }
  | index :: rest, template =>
    { template with children := template.children.modify index (withoutComponent kind rest) }

theorem readItems_modify {α : Type} {read : Json → Except Fault α} {change : Json → Json}
    {change' : α → α} : ∀ {items : List Json} {values : List α} (start index : Nat),
      readItems read start items = .ok values →
      (∀ item value, values[index]? = some value → read item = .ok value →
        read (change item) = .ok (change' value)) →
        readItems read start (items.modify index change) = .ok (values.modify index change')
  | [], values, start, index, h, _ => by
    obtain rfl := Except.ok.inj h
    simp [readItems]
  | item :: rest, values, start, index, h, hchange => by
    rw [readItems] at h
    cases hread : read item with
    | error fault => simp [hread, Fault.place] at h
    | ok value =>
      cases hrest : readItems read (start + 1) rest with
      | error fault => simp [hread, hrest, Fault.place] at h
      | ok others =>
        obtain rfl : value :: others = values := by simpa [hread, hrest, Fault.place] using h
        cases index with
        | zero =>
          have hitem := hchange item value rfl hread
          simp [readItems, hitem, hrest, Fault.place]
        | succ index =>
          have hothers := readItems_modify (start + 1) index hrest fun item value hvalue =>
            hchange item value hvalue
          simp [readItems, hread, hothers, Fault.place]

theorem readItems_congr {α : Type} {read read' : Json → Except Fault α} :
    ∀ {items : List Json} {values : List α} {start : Nat},
      readItems read start items = .ok values →
      (∀ item ∈ items, ∀ value, read item = .ok value → read' item = .ok value) →
        readItems read' start items = .ok values
  | [], _, _, h, _ => h
  | item :: rest, values, start, h, hsame => by
    rw [readItems] at h
    cases hread : read item with
    | error fault => simp [hread, Fault.place] at h
    | ok value =>
      cases hrest : readItems read (start + 1) rest with
      | error fault => simp [hread, hrest, Fault.place] at h
      | ok others =>
        have hitem := hsame item List.mem_cons_self value hread
        have hothers := readItems_congr hrest fun item hmem =>
          hsame item (List.mem_cons_of_mem _ hmem)
        simpa [readItems, hread, hrest, hitem, hothers, Fault.place] using h

theorem Shape.readWith_object_eq_ok_iff {τ : Type} {self : Json → Except Fault τ} {value : Json}
    {entries : Object} : Shape.object.readWith self value = .ok entries ↔ value = .obj entries := by
  cases value <;> simp [Shape.readWith]

theorem Shape.readWith_list_eq_ok_iff {τ α : Type} {self : Json → Except Fault τ}
    {item : Shape τ α} {value : Json} {values : List α} :
    (Shape.list item).readWith self value = .ok values ↔
      ∃ items, value = .arr items ∧ readItems (item.readWith self) 0 items = .ok values := by
  cases value <;> simp [Shape.readWith]

namespace Template

/-- The fields of a node, read from their parts of a written one. -/
theorem readWithin_succ_eq_ok_iff {fuel : Nat} {value : Json} {template : Template} :
    readWithin (fuel + 1) value = .ok template ↔
      value.IsRecord 4 ∧
        layout.fields.Reads (readWithin fuel) value 0
          (template.name, template.tags, template.components, template.children, ()) := by
  rw [readWithin, Layout.readWith_eq_ok_iff _ layout (by decide)]
  refine and_congr_right fun _ => ?_
  constructor
  · rintro ⟨⟨name, tags, components, children, _⟩, hreads, rfl⟩
    exact hreads
  · intro hreads
    refine ⟨_, hreads, ?_⟩
    cases template
    rfl

/-- What is read without the component is the tree without it. -/
theorem readWithin_withoutComponent {kind : String} {payload : Json} :
    ∀ (address : List Nat) (fuel : Nat) {value : Json} {template node : Template},
      readWithin fuel value = .ok template → template.at? address = some node →
        Object.find? node.components kind = some payload →
          readWithin fuel (value.withoutComponent kind address) =
            .ok (template.withoutComponent kind address)
  | _, 0, _, _, _, h, _, _ => by simp [readWithin] at h
  | [], fuel + 1, value, template, node, h, hnode, hfind => by
    obtain rfl := Option.some.inj hnode
    obtain ⟨hrecord, hname, htags, hcomponents, hchildren, -⟩ := readWithin_succ_eq_ok_iff.1 h
    refine readWithin_succ_eq_ok_iff.2 ⟨Json.isRecord_modifyField hrecord, ?_, ?_, ?_, ?_, trivial⟩
    · exact hname.modifyField_of_ne (by decide) (by decide) _
    · exact htags.modifyField_of_ne (by decide) (by decide) _
    · refine hcomponents.modifyField rfl ?_ fun part hpart => ?_
      · -- With an entry to lose, the components are not the default.
        intro hempty
        rw [← Option.some.inj hempty] at hfind
        cases hfind
      · rw [Shape.readWith_object_eq_ok_iff.1 hpart]
        exact Shape.readWith_object_eq_ok_iff.2 rfl
    · exact hchildren.modifyField_of_ne (by decide) (by decide) _
  | index :: rest, fuel + 1, value, template, node, h, hnode, hfind => by
    obtain ⟨child, hchild, hnode⟩ := Option.bind_eq_some_iff.1 hnode
    obtain ⟨hrecord, hname, htags, hcomponents, hchildren, -⟩ := readWithin_succ_eq_ok_iff.1 h
    refine readWithin_succ_eq_ok_iff.2 ⟨Json.isRecord_modifyField hrecord, ?_, ?_, ?_, ?_, trivial⟩
    · exact hname.modifyField_of_ne (by decide) (by decide) _
    · exact htags.modifyField_of_ne (by decide) (by decide) _
    · exact hcomponents.modifyField_of_ne (by decide) (by decide) _
    · refine hchildren.modifyField rfl ?_ fun part hpart => ?_
      · intro hempty
        rw [← Option.some.inj hempty] at hchild
        cases hchild
      · obtain ⟨items, rfl, hitems⟩ := Shape.readWith_list_eq_ok_iff.1 hpart
        refine Shape.readWith_list_eq_ok_iff.2 ⟨_, rfl, readItems_modify 0 index hitems ?_⟩
        intro item value hvalue hread
        obtain rfl : child = value := Option.some.inj (hchild.symm.trans hvalue)
        exact readWithin_withoutComponent rest fuel hread hnode hfind

/-- A value is followed as far as it is deep. -/
theorem readWithin_of_depth_lt : ∀ (fuel fuel' : Nat) {value : Json} {template : Template},
    readWithin fuel value = .ok template → value.depth < fuel' →
      readWithin fuel' value = .ok template
  | 0, _, _, _, h, _ => by simp [readWithin] at h
  | _ + 1, 0, _, _, _, hdepth => by omega
  | fuel + 1, fuel' + 1, value, template, h, hdepth => by
    obtain ⟨hrecord, hname, htags, hcomponents, hchildren, -⟩ := readWithin_succ_eq_ok_iff.1 h
    refine readWithin_succ_eq_ok_iff.2 ⟨hrecord, ?_, ?_, ?_, ?_, trivial⟩
    · exact hname.congr fun part _ hpart => by rwa [Shape.readWith_text (readWithin fuel)]
    · refine htags.congr fun part _ hpart => ?_
      obtain ⟨items, rfl, hitems⟩ := Shape.readWith_list_eq_ok_iff.1 hpart
      refine Shape.readWith_list_eq_ok_iff.2 ⟨items, rfl, ?_⟩
      rwa [Shape.readWith_text (readWithin fuel)]
    · refine hcomponents.congr fun part _ hpart => ?_
      exact Shape.readWith_object_eq_ok_iff.2 (Shape.readWith_object_eq_ok_iff.1 hpart)
    · refine hchildren.congr fun part hmem hpart => ?_
      obtain ⟨items, rfl, hitems⟩ := Shape.readWith_list_eq_ok_iff.1 hpart
      have hpartDepth := Field.depth_lt_of_mem_slots hmem
      refine Shape.readWith_list_eq_ok_iff.2 ⟨items, rfl, readItems_congr hitems ?_⟩
      intro item hitem child hchild
      have hitemDepth := Json.depth_le_of_mem_items hitem
      rw [Json.depth] at hpartDepth
      exact readWithin_of_depth_lt fuel fuel' hchild (by omega)

/-- Without a component, a written tree reads as the tree without it. -/
theorem read_withoutComponent {kind : String} {payload value : Json} {address : List Nat}
    {template node : Template} (h : read value = .ok template)
    (hnode : template.at? address = some node)
    (hfind : Object.find? node.components kind = some payload) :
    read (value.withoutComponent kind address) = .ok (template.withoutComponent kind address) :=
  readWithin_of_depth_lt _ _ (readWithin_withoutComponent address _ h hnode hfind)
    (Nat.lt_succ_self _)

end Template

/-! ## Definitions -/

/-- A written definition without one component of the node at an address. -/
def Json.withoutPrefabComponent (kind : String) (address : List Nat) (value : Json) : Json :=
  value.modifyField "root" 3 (withoutComponent kind address)

namespace Definition

/-- A definition without one component of the node at an address. -/
def withoutComponent (kind : String) (address : List Nat) (definition : Definition) : Definition :=
  { definition with root := definition.root.withoutComponent kind address }

theorem read_eq_ok_iff {value : Json} {definition : Definition} :
    read value = .ok definition ↔
      value.IsRecord 8 ∧
        layout.fields.Reads Template.read value 0
          (definition.id, definition.name, definition.version, definition.root,
            definition.metadata, definition.dependencies, definition.tags, definition.description,
            ()) := by
  rw [read, Layout.readWith_eq_ok_iff _ layout (by decide)]
  refine and_congr_right fun _ => ?_
  constructor
  · rintro ⟨⟨id, name, version, root, metadata, dependencies, tags, description, _⟩, hreads, rfl⟩
    exact hreads
  · intro hreads
    refine ⟨_, hreads, ?_⟩
    cases definition
    rfl

theorem read_withoutComponent {kind : String} {payload value : Json} {address : List Nat}
    {definition : Definition} {node : Template} (h : read value = .ok definition)
    (hnode : definition.root.at? address = some node)
    (hfind : Object.find? node.components kind = some payload) :
    read (value.withoutPrefabComponent kind address) =
      .ok (definition.withoutComponent kind address) := by
  obtain ⟨hrecord, hid, hname, hversion, hroot, hmetadata, hdependencies, htags, hdescription, -⟩ :=
    read_eq_ok_iff.1 h
  refine read_eq_ok_iff.2 ⟨Json.isRecord_modifyField hrecord, ?_, ?_, ?_, ?_, ?_, ?_, ?_, ?_,
    trivial⟩
  · exact hid.modifyField_of_ne (by decide) (by decide) _
  · exact hname.modifyField_of_ne (by decide) (by decide) _
  · exact hversion.modifyField_of_ne (by decide) (by decide) _
  · refine hroot.modifyField rfl nofun fun part hpart => ?_
    exact Template.read_withoutComponent hpart hnode hfind
  · exact hmetadata.modifyField_of_ne (by decide) (by decide) _
  · exact hdependencies.modifyField_of_ne (by decide) (by decide) _
  · exact htags.modifyField_of_ne (by decide) (by decide) _
  · exact hdescription.modifyField_of_ne (by decide) (by decide) _

/-- A report calls the definition the same. -/
theorem label_withoutPrefabComponent (kind : String) (address : List Nat) (index : Nat)
    (value : Json) :
    label index (value.withoutPrefabComponent kind address) = label index value := by
  have hfield : (value.withoutPrefabComponent kind address).field? "id" = value.field? "id" := by
    cases value with
    | obj entries =>
      have hfind := Patch.find?_mapValues
        (fun key value => if key = "root" then value.withoutComponent kind address else value) "id"
        entries
      exact hfind.trans Option.map_id'
    | null => rfl
    | bool _ => rfl
    | num _ => rfl
    | str _ => rfl
    | arr _ => rfl
  unfold label
  rw [hfield]

end Definition

end SceneLoad

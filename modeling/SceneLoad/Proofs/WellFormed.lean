import SceneLoad.Prefab.Definition
import SceneLoad.Prefab.Patch
import SceneLoad.Proofs.Maps

/-!
# Objects with keys that occur once

Objects are lists of entries, and no key is to occur in one of them twice. `Json.WellFormed` says
this of all the objects in a value. A tree is well formed when the components of its nodes are, and
a patch when its components are and its children ascend.

Readers keep this. A shape can only make up scalars, take parts of the value that it reads or fall
back on what its fields say (`Shape.WellFormed`), so what it reads from a well-formed value is well
formed (`Shape.wellFormed_readWith`), and with it the tree of every definition
(`Definition.wellFormed_of_read`). A patch is put together key by key, so it is well formed too
(`Patch.wellFormed_of_parse`).
-/

namespace SceneLoad

/-- In every object of a value, keys occur once. -/
inductive Json.WellFormed : Json → Prop
  | null : WellFormed .null
  | bool (value : Bool) : WellFormed (.bool value)
  | num (value : Number) : WellFormed (.num value)
  | str (value : String) : WellFormed (.str value)
  | arr {items : List Json} (hitems : ∀ item ∈ items, WellFormed item) : WellFormed (.arr items)
  | obj {entries : Object} (hkeys : (Object.keys entries).Nodup)
      (hentries : ∀ entry ∈ entries, WellFormed entry.2) : WellFormed (.obj entries)

theorem Json.WellFormed.nodup_keys {entries : Object} (h : WellFormed (.obj entries)) :
    (Object.keys entries).Nodup := by
  cases h with
  | obj hkeys _ => exact hkeys

theorem Json.WellFormed.of_mem {entries : Object} {entry : String × Json}
    (h : WellFormed (.obj entries)) (hmem : entry ∈ entries) : entry.2.WellFormed := by
  cases h with
  | obj _ hentries => exact hentries entry hmem

/-- What an object stores is well formed too. -/
theorem Json.WellFormed.of_find? {entries : Object} {key : String} {value : Json}
    (h : WellFormed (.obj entries)) (hfind : Object.find? entries key = some value) :
    value.WellFormed :=
  h.of_mem (mem_of_lookup hfind)

theorem Json.wellFormed_nil : (Json.obj []).WellFormed := .obj List.nodup_nil (by simp)

theorem Json.WellFormed.insert {entries : Object} {key : String} {value : Json}
    (h : WellFormed (.obj entries)) (hvalue : value.WellFormed) :
    WellFormed (.obj (Object.insert key value entries)) := by
  cases h with
  | obj hkeys hentries =>
    refine .obj (Object.nodup_keys_insert key value hkeys) fun entry hentry => ?_
    rcases Object.mem_insert hentry with rfl | hentry
    · exact hvalue
    · exact hentries entry hentry

theorem Json.WellFormed.insertAll : ∀ {fields entries : Object}, WellFormed (.obj entries) →
    (∀ field ∈ fields, field.2.WellFormed) → WellFormed (.obj (Object.insertAll entries fields))
  | [], _, h, _ => h
  | _ :: _, _, h, hfields =>
    (h.insert (hfields _ List.mem_cons_self)).insertAll fun field hmem =>
      hfields field (List.mem_cons_of_mem _ hmem)

/-- The components of every node are well formed. -/
inductive Template.WellFormed : Template → Prop
  | mk {name : String} {tags : List String} {components : Object} {children : List Template}
      (hcomponents : (Json.obj components).WellFormed)
      (hchildren : ∀ child ∈ children, WellFormed child) :
      WellFormed ⟨name, tags, components, children⟩

/-- The components are well formed in all parts of a patch, and its children ascend. -/
inductive Patch.WellFormed : Patch → Prop
  | mk {components : Object} {children : List (Nat × Patch)}
      (hcomponents : (Json.obj components).WellFormed)
      (hascending : (SortedMap.keys children).Pairwise (· < ·))
      (hchildren : ∀ entry ∈ children, WellFormed entry.2) : WellFormed ⟨components, children⟩

/-! ## Shapes -/

mutual

/-- What a shape can make of well-formed values, if `P` holds of the nested ones. -/
def Shape.WellFormed {τ : Type} (P : τ → Prop) : {α : Type} → Shape τ α → α → Prop
  | _, .self, value => P value
  | _, .any, value => value.WellFormed
  | _, .object, entries => (Json.obj entries).WellFormed
  | _, .list item, values => ∀ value ∈ values, item.WellFormed P value
  | _, .array _ item, values => ∀ value ∈ values, item.WellFormed P value
  | _, .option item, value => ∀ inner ∈ value, item.WellFormed P inner
  | _, .record _ _ fields, row => fields.WellFormed P row
  | _, .either _ first second, value => first.WellFormed P value ∨ second.WellFormed P value
  | _, .map convert shape, value => ∃ source, convert source = value ∧ shape.WellFormed P source
  | _, .refine check shape, value =>
    ∃ source, check source = .ok value ∧ shape.WellFormed P source
  | _, _, _ => True

/-- Each field has a value that its shape can make, or its fallback. -/
def Fields.WellFormed {τ : Type} (P : τ → Prop) : {α : Type} → Fields τ α → α → Prop
  | _, .nil, _ => True
  | _, .cons _ _ fallback shape rest, row =>
    (fallback = some row.1 ∨ shape.WellFormed P row.1) ∧ rest.WellFormed P row.2

end

/-- What has been read of each field is what its shape can make. -/
def Fields.SlotsWellFormed {τ : Type} (P : τ → Prop) :
    {α : Type} → (fields : Fields τ α) → fields.Slots → Prop
  | _, .nil, _ => True
  | _, .cons _ _ _ shape rest, slots =>
    (∀ value, slots.1 = some value → shape.WellFormed P value) ∧ rest.SlotsWellFormed P slots.2

theorem Fault.eq_ok_of_place {α : Type} {segment : Segment} {result : Except Fault α} {value : α}
    (h : Fault.place segment result = .ok value) : result = .ok value := by
  cases result with
  | ok found => exact h
  | error fault => cases h

/-- Items are read one by one. -/
theorem forall_mem_readItems {α : Type} {read : Json → Except Fault α} {P : α → Prop} :
    ∀ (index : Nat) (items : List Json) {values : List α},
      (∀ item ∈ items, ∀ value, read item = .ok value → P value) →
        readItems read index items = .ok values → ∀ value ∈ values, P value
  | _, [], _, _, h => by
    obtain rfl := Except.ok.inj h
    simp
  | index, item :: rest, values, hread, h => by
    rw [readItems] at h
    cases hitem : Fault.place (.index index) (read item) with
    | error fault => simp [hitem] at h
    | ok first =>
      cases hrest : readItems read (index + 1) rest with
      | error fault => simp [hitem, hrest] at h
      | ok others =>
        simp only [hitem, hrest, Except.ok.injEq] at h
        subst h
        have hfirst := hread item List.mem_cons_self first (Fault.eq_ok_of_place hitem)
        have hothers := forall_mem_readItems (index + 1) rest
          (fun item hmem => hread item (List.mem_cons_of_mem _ hmem)) hrest
        exact List.forall_mem_cons.2 ⟨hfirst, hothers⟩

section Reading

variable {τ : Type} {P : τ → Prop} {self : Json → Except Fault τ}

theorem Fields.slotsWellFormed_vacant :
    ∀ {α : Type} (fields : Fields τ α), fields.SlotsWellFormed P fields.vacant
  | _, .nil => trivial
  | _, .cons _ _ _ _ rest => ⟨fun _ h => (nomatch h), slotsWellFormed_vacant rest⟩

theorem Fields.wellFormed_finish :
    ∀ {α : Type} (fields : Fields τ α) {slots : fields.Slots} {row : α},
      fields.SlotsWellFormed P slots → fields.finish slots = .ok row → fields.WellFormed P row
  | _, .nil, _, _, _, _ => trivial
  | _, .cons name aliases fallback shape rest, slots, row, hslots, h => by
    obtain ⟨hfirst, hrest⟩ := hslots
    rw [Fields.finish] at h
    cases hvalue : Option.or slots.1 fallback with
    | none => simp [hvalue] at h
    | some value =>
      cases hothers : rest.finish slots.2 with
      | error cause => simp [hvalue, hothers] at h
      | ok others =>
        simp only [hvalue, hothers, Except.ok.injEq] at h
        subst h
        refine ⟨?_, wellFormed_finish rest hrest hothers⟩
        rcases Option.or_eq_some_iff.1 hvalue with hread | ⟨-, hfallback⟩
        · exact .inr (hfirst value hread)
        · exact .inl hfallback

/-- The entries of an object are offered one by one. -/
theorem forall_offerAll {σ : Type} {offer : String → Json → σ → Except Fault σ} {Q : σ → Prop} :
    ∀ (entries : List (String × Json)) {slots slots' : σ},
      (∀ entry ∈ entries, ∀ slots slots', Q slots → offer entry.1 entry.2 slots = .ok slots' →
        Q slots') →
      Q slots → offerAll offer entries slots = .ok slots' → Q slots'
  | [], _, _, _, hslots, h => by
    obtain rfl := Except.ok.inj h
    exact hslots
  | (key, value) :: rest, slots, slots', hoffer, hslots, h => by
    rw [offerAll] at h
    cases hfirst : offer key value slots with
    | error fault => simp [hfirst] at h
    | ok next =>
      simp only [hfirst] at h
      have hnext := hoffer (key, value) List.mem_cons_self slots next hslots hfirst
      exact forall_offerAll rest
        (fun entry hmem => hoffer entry (List.mem_cons_of_mem _ hmem)) hnext h

theorem Shape.readWith_option {α : Type} (item : Shape τ α) {value : Json} (h : value ≠ .null) :
    (Shape.option item).readWith self value = (item.readWith self value).map some := by
  cases value with
  | null => exact absurd rfl h
  | _ => rfl

mutual

/-- What is read from a well-formed value is well formed. -/
theorem Shape.wellFormed_readWith
    (hself : ∀ value result, value.WellFormed → self value = .ok result → P result) :
    ∀ {α : Type} (shape : Shape τ α) {value : Json} {result : α}, value.WellFormed →
      shape.readWith self value = .ok result → shape.WellFormed P result
  | _, .self, value, result, hvalue, h => hself value result hvalue h
  | _, .float32, _, _, _, _ => trivial
  | _, .integer .., _, _, _, _ => trivial
  | _, .bool, _, _, _, _ => trivial
  | _, .text, _, _, _, _ => trivial
  | _, .any, _, _, hvalue, h => by
    obtain rfl := Except.ok.inj h
    exact hvalue
  | _, .object, .obj entries, _, hvalue, h => by
    obtain rfl := Except.ok.inj h
    exact hvalue
  | _, .list item, _, _, .arr hitems, h => by
    refine forall_mem_readItems 0 _ (fun value hmem result hread => ?_) h
    exact Shape.wellFormed_readWith hself item (hitems value hmem) hread
  | _, .array length item, _, result, @Json.WellFormed.arr items hitems, h => by
    rw [Shape.readWith] at h
    cases hread : readItems (item.readWith self) 0 (items.take length) with
    | error fault => simp [hread] at h
    | ok values =>
      simp only [hread] at h
      split_ifs at h
      obtain rfl := Except.ok.inj h
      refine forall_mem_readItems 0 _ (fun value hmem result hread => ?_) hread
      exact Shape.wellFormed_readWith hself item (hitems value (List.mem_of_mem_take hmem)) hread
  | _, .option item, value, result, hvalue, h => by
    by_cases hnull : value = .null
    · subst hnull
      obtain rfl := Except.ok.inj h
      exact fun inner hinner => (nomatch hinner)
    · rw [Shape.readWith_option item hnull] at h
      cases hread : item.readWith self value with
      | error fault => simp [hread, Except.map] at h
      | ok found =>
        simp only [hread, Except.map, Except.ok.injEq] at h
        subst h
        intro inner hinner
        obtain rfl := Option.some.inj hinner
        exact Shape.wellFormed_readWith hself item hvalue hread
  | _, .variant _, _, _, _, _ => trivial
  | _, .record name named fields, _, row, @Json.WellFormed.obj entries _ hentries, h => by
    rw [Shape.readWith] at h
    cases hslots : offerAll (fields.offer self) entries fields.vacant with
    | error fault => simp [hslots] at h
    | ok slots =>
      simp only [hslots] at h
      cases hfinish : fields.finish slots with
      | error cause => simp [hfinish, Except.mapError] at h
      | ok row' =>
        obtain rfl : row' = row := by simpa [hfinish, Except.mapError] using h
        refine Fields.wellFormed_finish fields ?_ hfinish
        refine forall_offerAll entries (fun entry hmem slots slots' hslots hoffer => ?_)
          (Fields.slotsWellFormed_vacant fields) hslots
        exact Fields.slotsWellFormed_offer hself fields (hentries entry hmem) hslots hoffer
  | _, .record name false fields, _, row, @Json.WellFormed.arr items hitems, h => by
    rw [Shape.readWith] at h
    cases hread : fields.readPositional self name fields.size 0 items with
    | error fault => simp [hread] at h
    | ok values =>
      simp only [hread] at h
      split_ifs at h
      obtain rfl := Except.ok.inj h
      exact Fields.wellFormed_readPositional hself fields name fields.size 0 hitems hread
  | _, .either _ first second, value, result, hvalue, h => by
    rw [Shape.readWith] at h
    cases hfirst : first.readWith self value with
    | ok found =>
      simp only [hfirst, Except.ok.injEq] at h
      subst h
      exact .inl (Shape.wellFormed_readWith hself first hvalue hfirst)
    | error fault =>
      cases hsecond : second.readWith self value with
      | error fault => simp [hfirst, hsecond] at h
      | ok found =>
        simp only [hfirst, hsecond, Except.ok.injEq] at h
        subst h
        exact .inr (Shape.wellFormed_readWith hself second hvalue hsecond)
  | _, .map convert shape, value, result, hvalue, h => by
    rw [Shape.readWith] at h
    cases hread : shape.readWith self value with
    | error fault => simp [hread, Except.map] at h
    | ok source =>
      simp only [hread, Except.map, Except.ok.injEq] at h
      exact ⟨source, h, Shape.wellFormed_readWith hself shape hvalue hread⟩
  | _, .refine check shape, value, result, hvalue, h => by
    rw [Shape.readWith] at h
    cases hread : shape.readWith self value with
    | error fault => simp [hread] at h
    | ok source =>
      simp only [hread] at h
      refine ⟨source, ?_, Shape.wellFormed_readWith hself shape hvalue hread⟩
      cases hcheck : check source with
      | error cause => simp [hcheck, Except.mapError] at h
      | ok checked => simpa [hcheck, Except.mapError] using h

theorem Fields.slotsWellFormed_offer
    (hself : ∀ value result, value.WellFormed → self value = .ok result → P result) :
    ∀ {α : Type} (fields : Fields τ α) {key : String} {value : Json} {slots slots' : fields.Slots},
      value.WellFormed → fields.SlotsWellFormed P slots →
        fields.offer self key value slots = .ok slots' → fields.SlotsWellFormed P slots'
  | _, .nil, _, _, _, _, _, _, _ => trivial
  | _, .cons name aliases fallback shape rest, key, value, slots, slots', hvalue, hslots, h => by
    obtain ⟨hfirst, hrest⟩ := hslots
    rw [Fields.offer] at h
    split_ifs at h with hkey
    · cases hslot : slots.1 with
      | some old => simp [hslot] at h
      | none =>
        cases hread : Fault.place (.key key) (shape.readWith self value) with
        | error fault => simp [hslot, hread] at h
        | ok found =>
          simp only [hslot, hread] at h
          obtain rfl := Except.ok.inj h
          refine ⟨fun value' hvalue' => ?_, hrest⟩
          obtain rfl := Option.some.inj hvalue'
          exact Shape.wellFormed_readWith hself shape hvalue (Fault.eq_ok_of_place hread)
    · cases hothers : rest.offer self key value slots.2 with
      | error fault => simp [hothers] at h
      | ok others =>
        simp only [hothers] at h
        obtain rfl := Except.ok.inj h
        exact ⟨hfirst, Fields.slotsWellFormed_offer hself rest hvalue hrest hothers⟩

theorem Fields.wellFormed_readPositional
    (hself : ∀ value result, value.WellFormed → self value = .ok result → P result) :
    ∀ {α : Type} (fields : Fields τ α) (record : String) (count index : Nat) {items : List Json}
      {row : α}, (∀ item ∈ items, item.WellFormed) →
        fields.readPositional self record count index items = .ok row → fields.WellFormed P row
  | _, .nil, _, _, _, _, _, _, _ => trivial
  | _, .cons name aliases fallback shape rest, record, count, index, [], row, hitems, h => by
    cases fallback with
    | none => simp [Fields.readPositional] at h
    | some value =>
      rw [Fields.readPositional] at h
      cases hothers : rest.readPositional self record count (index + 1) [] with
      | error fault => simp [hothers] at h
      | ok others =>
        simp only [hothers, Except.ok.injEq] at h
        subst h
        exact ⟨.inl rfl, Fields.wellFormed_readPositional hself rest _ _ _ hitems hothers⟩
  | _, .cons name aliases fallback shape rest, record, count, index, item :: items, row, hitems,
      h => by
    obtain ⟨hitem, hrest⟩ := List.forall_mem_cons.1 hitems
    rw [Fields.readPositional] at h
    cases hread : Fault.place (.index index) (shape.readWith self item) with
    | error fault => simp [hread] at h
    | ok value =>
      cases hothers : rest.readPositional self record count (index + 1) items with
      | error fault => simp [hread, hothers] at h
      | ok others =>
        simp only [hread, hothers, Except.ok.injEq] at h
        subst h
        have hvalue := Shape.wellFormed_readWith hself shape hitem (Fault.eq_ok_of_place hread)
        exact ⟨.inr hvalue, Fields.wellFormed_readPositional hself rest _ _ _ hrest hothers⟩

end

end Reading

/-! ## Templates -/

theorem Template.wellFormed_of_layout {template : Template}
    (h : layout.shape.WellFormed Template.WellFormed template) : template.WellFormed := by
  obtain ⟨row, rfl, -, -, hcomponents, hchildren, -⟩ := h
  refine .mk ?_ ?_
  · rcases hcomponents with hnone | hcomponents
    · rw [← Option.some.inj hnone]
      exact Json.wellFormed_nil
    · exact hcomponents
  · rcases hchildren with hnone | hchildren
    · rw [← Option.some.inj hnone]
      simp
    · exact hchildren

theorem Template.wellFormed_of_readWithin :
    ∀ (fuel : Nat) (value : Json) (template : Template), value.WellFormed →
      readWithin fuel value = .ok template → template.WellFormed
  | 0, _, _, _, h => by simp [readWithin] at h
  | fuel + 1, _, _, hvalue, h =>
    wellFormed_of_layout
      (Shape.wellFormed_readWith (wellFormed_of_readWithin fuel) layout.shape hvalue h)

/-- The tree of a definition that is read from a well-formed value is well formed. -/
theorem Definition.wellFormed_of_read {value : Json} {definition : Definition}
    (hvalue : value.WellFormed) (h : read value = .ok definition) : definition.root.WellFormed := by
  have htemplate : ∀ (value : Json) (template : Template), value.WellFormed →
      Template.read value = .ok template → template.WellFormed := fun value =>
    Template.wellFormed_of_readWithin (value.depth + 1) value
  obtain ⟨row, rfl, -, -, -, hroot, -⟩ :=
    Shape.wellFormed_readWith htemplate layout.shape hvalue h
  rcases hroot with hnone | hroot
  · cases hnone
  · exact hroot

/-! ## Patches -/

namespace Patch

/-- Children ascend and are well formed. -/
def ChildrenWellFormed (children : List (Nat × Patch)) : Prop :=
  (SortedMap.keys children).Pairwise (· < ·) ∧ ∀ entry ∈ children, entry.2.WellFormed

theorem childrenWellFormed_nil : ChildrenWellFormed [] := ⟨.nil, by simp⟩

theorem ChildrenWellFormed.insert {children : List (Nat × Patch)} (index : Nat) {child : Patch}
    (h : ChildrenWellFormed children) (hchild : child.WellFormed) :
    ChildrenWellFormed (SortedMap.insert index child children) := by
  refine ⟨SortedMap.pairwise_insert index child h.1, fun entry hentry => ?_⟩
  rcases SortedMap.mem_insert hentry with rfl | hentry
  · exact hchild
  · exact h.2 entry hentry

theorem eq_ok_of_place {α : Type} {key : String} {result : Except PatchFault α} {value : α}
    (h : PatchFault.place key result = .ok value) : result = .ok value := by
  cases result with
  | ok found => exact h
  | error fault => cases h

theorem parseItems_cons (index : Nat) (children : List (Nat × Patch)) {item : Json}
    (rest : List Json) (h : item ≠ .null) :
    parseItems index children (item :: rest) =
      match PatchFault.place (toString index) (parse item) with
      | .error fault => .error fault
      | .ok child => parseItems (index + 1) (SortedMap.insert index child children) rest := by
  cases item with
  | null => exact absurd rfl h
  | _ => exact parseItems.eq_def ..

mutual

/-- A patch that is parsed from a well-formed value is well formed. -/
theorem wellFormed_of_parse : ∀ {value : Json} {patch : Patch}, value.WellFormed →
    parse value = .ok patch → patch.WellFormed
  | .obj entries, patch, .obj _ hentries, h => by
    rw [parse] at h
    exact wellFormed_of_parseEntries entries hentries (.mk Json.wellFormed_nil .nil (by simp)) h
  | .null, _, _, h => by simp [parse] at h
  | .bool _, _, _, h => by simp [parse] at h
  | .num _, _, _, h => by simp [parse] at h
  | .str _, _, _, h => by simp [parse] at h
  | .arr _, _, _, h => by simp [parse] at h

theorem wellFormed_of_parseEntries : ∀ (entries : List (String × Json)) {patch patch' : Patch},
    (∀ entry ∈ entries, entry.2.WellFormed) → patch.WellFormed →
      parseEntries patch entries = .ok patch' → patch'.WellFormed
  | [], _, _, _, hpatch, h => by
    obtain rfl := Except.ok.inj h
    exact hpatch
  | (key, value) :: rest, ⟨components, children⟩, patch', hentries,
      .mk hcomponents hascending hchildren, h => by
    obtain ⟨hvalue, hrest⟩ := List.forall_mem_cons.1 hentries
    rw [parseEntries] at h
    split_ifs at h
    · cases hread : PatchFault.place key (parseChildren value) with
      | error fault => simp [hread] at h
      | ok children' =>
        simp only [hread] at h
        have hread' := wellFormed_of_parseChildren hvalue (eq_ok_of_place hread)
        exact wellFormed_of_parseEntries rest hrest (.mk hcomponents hread'.1 hread'.2) h
    · exact wellFormed_of_parseEntries rest hrest
        (.mk (hcomponents.insert hvalue) hascending hchildren) h

theorem wellFormed_of_parseChildren : ∀ {value : Json} {children : List (Nat × Patch)},
    value.WellFormed → parseChildren value = .ok children → ChildrenWellFormed children
  | .null, _, _, h => by
    rw [parseChildren] at h
    obtain rfl := Except.ok.inj h
    exact childrenWellFormed_nil
  | .arr items, _, .arr hitems, h => by
    rw [parseChildren] at h
    exact wellFormed_of_parseItems 0 items hitems childrenWellFormed_nil h
  | .obj entries, _, .obj _ hentries, h => by
    rw [parseChildren] at h
    exact wellFormed_of_parseKeyed entries hentries childrenWellFormed_nil h
  | .bool _, _, _, h => by simp [parseChildren] at h
  | .num _, _, _, h => by simp [parseChildren] at h
  | .str _, _, _, h => by simp [parseChildren] at h

theorem wellFormed_of_parseItems : ∀ (index : Nat) (items : List Json)
    {children children' : List (Nat × Patch)}, (∀ item ∈ items, item.WellFormed) →
      ChildrenWellFormed children → parseItems index children items = .ok children' →
        ChildrenWellFormed children'
  | _, [], _, _, _, hchildren, h => by
    obtain rfl := Except.ok.inj h
    exact hchildren
  | index, item :: rest, children, children', hitems, hchildren, h => by
    obtain ⟨hitem, hrest⟩ := List.forall_mem_cons.1 hitems
    by_cases hnull : item = .null
    · subst hnull
      rw [parseItems] at h
      exact wellFormed_of_parseItems (index + 1) rest hrest hchildren h
    · rw [parseItems_cons index children rest hnull] at h
      cases hread : PatchFault.place (toString index) (parse item) with
      | error fault => simp only [hread, reduceCtorEq] at h
      | ok child =>
        simp only [hread] at h
        have hchild := wellFormed_of_parse hitem (eq_ok_of_place hread)
        exact wellFormed_of_parseItems (index + 1) rest hrest (hchildren.insert index hchild) h

theorem wellFormed_of_parseKeyed : ∀ (entries : List (String × Json))
    {children children' : List (Nat × Patch)}, (∀ entry ∈ entries, entry.2.WellFormed) →
      ChildrenWellFormed children → parseKeyed children entries = .ok children' →
        ChildrenWellFormed children'
  | [], _, _, _, hchildren, h => by
    obtain rfl := Except.ok.inj h
    exact hchildren
  | (key, value) :: rest, children, children', hentries, hchildren, h => by
    obtain ⟨hvalue, hrest⟩ := List.forall_mem_cons.1 hentries
    rw [parseKeyed] at h
    cases hindex : Text.parseIndex key with
    | none => simp [hindex] at h
    | some index =>
      cases hread : PatchFault.place key (parse value) with
      | error fault => simp [hindex, hread] at h
      | ok child =>
        simp only [hindex, hread] at h
        have hchild := wellFormed_of_parse hvalue (eq_ok_of_place hread)
        exact wellFormed_of_parseKeyed rest hrest (hchildren.insert index hchild) h

end

end Patch

end SceneLoad

import Mathlib.Data.List.Forall2
import SceneLoad.Proofs.EditedTemplates

/-!
# Where faults lie

A fault names a path into the value that was read. A path leads to a part of the value
(`Json.Leads`), and the part is to blame if every value with the same part at the same path is
refused, whatever else it holds (`LiesAt`). A fault of the whole value is at the empty path and
lies there. A fault of an item or an entry lies under its position or key, because no other item or
entry can make up for one that is refused.

So the faults of a shape lie at their paths if those of the nested values do (`Shape.localizes`).
Trees are nested in trees. How far a value is followed does not matter as long as it is followed to
its leaves (`Template.agreeBelow_readWithin`), so a tree is a node whose children are trees
(`Template.read_eq`), and its faults lie at their paths by induction on the depth of the value
(`Template.localizes_read`).
-/

namespace SceneLoad

/-! ## Paths into a value -/

/-- A chain of keys and positions leads from a value to a part of it. -/
inductive Json.Leads : Json → Path → Json → Prop
  | here (value : Json) : Leads value [] value
  | key {entries : Object} {name : String} {value part : Json} {path : Path}
      (hentry : (name, value) ∈ entries) (hpath : Leads value path part) :
      Leads (.obj entries) (.key name :: path) part
  | index {items : List Json} {position : Nat} {value part : Json} {path : Path}
      (hitem : items[position]? = some value) (hpath : Leads value path part) :
      Leads (.arr items) (.index position :: path) part

/-- The part at the path is to blame: every value with the same part there is refused. -/
def LiesAt (refused : Json → Prop) (path : Path) (value : Json) : Prop :=
  ∃ part, value.Leads path part ∧ ∀ other : Json, other.Leads path part → refused other

/-- Reading ends in a fault. -/
def Refuses {ι α : Type} (read : ι → Except Fault α) (input : ι) : Prop :=
  ∃ fault, read input = .error fault

namespace LiesAt

variable {refused refused' : Json → Prop} {path : Path} {value : Json}

/-- A value that is refused is to blame itself. -/
theorem here (h : refused value) : LiesAt refused [] value := by
  refine ⟨value, .here value, fun other hother => ?_⟩
  cases hother
  exact h

theorem imp (h : LiesAt refused path value) (himp : ∀ other, refused other → refused' other) :
    LiesAt refused' path value := by
  obtain ⟨part, hpart, hothers⟩ := h
  exact ⟨part, hpart, fun other hother => himp other (hothers other hother)⟩

/-- What is to blame in an entry is to blame in every object with such an entry. -/
theorem key {name : String} {entries : Object} (hentry : (name, value) ∈ entries)
    (h : LiesAt (fun part => ∀ others : Object, (name, part) ∈ others → refused (.obj others))
      path value) : LiesAt refused (.key name :: path) (.obj entries) := by
  obtain ⟨part, hpart, hothers⟩ := h
  refine ⟨part, .key hentry hpart, fun other hother => ?_⟩
  cases hother with
  | key hentry' hpart' => exact hothers _ hpart' _ hentry'

/-- What is to blame in an item is to blame in every list with such an item. -/
theorem index {position : Nat} {items : List Json} (hitem : items[position]? = some value)
    (h : LiesAt (fun part => ∀ others : List Json, others[position]? = some part →
      refused (.arr others)) path value) :
    LiesAt refused (.index position :: path) (.arr items) := by
  obtain ⟨part, hpart, hothers⟩ := h
  refine ⟨part, .index hitem hpart, fun other hother => ?_⟩
  cases hother with
  | index hitem' hpart' => exact hothers _ hpart' _ hitem'

end LiesAt

/-- The faults of the less deep values lie at their paths. -/
def Localizes {α : Type} (depth : Nat) (read : Json → Except Fault α) : Prop :=
  ∀ value fault, value.depth < depth → read value = .error fault →
    LiesAt (Refuses read) fault.path value

theorem localizes_of_here {α : Type} {depth : Nat} {read : Json → Except Fault α}
    (h : ∀ value fault, read value = .error fault → fault.path = []) : Localizes depth read := by
  intro value fault _ hread
  rw [h value fault hread]
  exact .here ⟨fault, hread⟩

theorem Json.depth_lt_arr {items : List Json} {item : Json} (h : item ∈ items) :
    item.depth < (Json.arr items).depth :=
  Nat.lt_succ_of_le (depth_le_of_mem_items h)

theorem Json.depth_lt_obj {entries : Object} {entry : String × Json} (h : entry ∈ entries) :
    entry.2.depth < (Json.obj entries).depth :=
  Nat.lt_succ_of_le (depth_le_of_mem_entries h)

theorem map_eq_error_iff {α β ε : Type} {convert : α → β} {result : Except ε α} {fault : ε} :
    result.map convert = .error fault ↔ result = .error fault := by
  cases result <;> simp [Except.map]

/-! ## Items -/

section Items

variable {α : Type} {read : Json → Except Fault α}

theorem readItems_cons_ok {item : Json} {value : α} (start : Nat) (rest : List Json)
    (h : read item = .ok value) :
    readItems read start (item :: rest) = (readItems read (start + 1) rest).map (value :: ·) := by
  rw [readItems, h, Fault.place]
  cases readItems read (start + 1) rest <;> rfl

theorem readItems_cons_error {item : Json} {fault : Fault} (start : Nat) (rest : List Json)
    (h : read item = .error fault) :
    readItems read start (item :: rest) = .error (fault.under (.index start)) := by
  rw [readItems, h, Fault.place]

/-- A fault of a list is one of an item. -/
theorem exists_of_readItems_eq_error : ∀ {start : Nat} {items : List Json} {fault : Fault},
    readItems read start items = .error fault →
      ∃ position item inner, items[position]? = some item ∧ read item = .error inner ∧
        fault = inner.under (.index (start + position))
  | _, [], _, h => nomatch h
  | start, item :: rest, fault, h => by
    cases hitem : read item with
    | error inner =>
      rw [readItems_cons_error start rest hitem] at h
      exact ⟨0, item, inner, rfl, hitem, (Except.error.inj h).symm⟩
    | ok value =>
      rw [readItems_cons_ok start rest hitem, map_eq_error_iff] at h
      obtain ⟨position, item', inner, hget, hinner, rfl⟩ := exists_of_readItems_eq_error h
      refine ⟨position + 1, item', inner, hget, hinner, ?_⟩
      rw [Nat.add_assoc, Nat.add_comm 1]

/-- A list with an item that is refused is refused. -/
theorem refuses_readItems : ∀ {items : List Json} {position : Nat} {item : Json} (start : Nat),
    items[position]? = some item → Refuses read item → Refuses (readItems read start) items
  | first :: rest, 0, item, start, hitem, ⟨fault, h⟩ => by
    obtain rfl := Option.some.inj hitem
    exact ⟨_, readItems_cons_error start rest h⟩
  | first :: rest, position + 1, item, start, hitem, h => by
    have hitem : rest[position]? = some item := hitem
    obtain ⟨fault, hrest⟩ := refuses_readItems (start + 1) hitem h
    cases hfirst : read first with
    | error inner => exact ⟨_, readItems_cons_error start rest hfirst⟩
    | ok value =>
      exact ⟨fault, by rw [readItems_cons_ok start rest hfirst, map_eq_error_iff, hrest]⟩

end Items

/-! ## Fields -/

/-- Every field has a shape with the property. -/
def Fields.Forall {τ α : Type} (P : {α : Type} → Shape τ α → Prop) : Fields τ α → Prop
  | .nil => True
  | .cons _ _ _ shape rest => P shape ∧ rest.Forall P

theorem Fields.forall_of_forall {τ : Type} {P : {α : Type} → Shape τ α → Prop}
    (h : ∀ {α : Type} (shape : Shape τ α), P shape) :
    ∀ {α : Type} (fields : Fields τ α), fields.Forall P
  | _, .nil => trivial
  | _, .cons _ _ _ shape rest => ⟨h shape, forall_of_forall h rest⟩

theorem Fields.Forall.imp {τ : Type} {P Q : {α : Type} → Shape τ α → Prop}
    (himp : ∀ {α : Type} (shape : Shape τ α), P shape → Q shape) :
    ∀ {α : Type} {fields : Fields τ α}, fields.Forall P → fields.Forall Q
  | _, .nil, _ => trivial
  | _, .cons _ _ _ shape _, h => ⟨himp shape h.1, h.2.imp himp⟩

section Fields

variable {τ : Type} {self : Json → Except Fault τ} {depth : Nat}

/-- A fault of an entry that is offered is that the field has been read before, or lies in the
entry. -/
theorem Fields.liesAt_of_offer : ∀ {α : Type} {fields : Fields τ α} {name : String} {value : Json}
    {slots : fields.Slots} {fault : Fault},
    fields.Forall (fun shape => Localizes depth (shape.readWith self)) → value.depth < depth →
      fields.offer self name value slots = .error fault →
        fault.path = [] ∨ ∃ path, fault.path = .key name :: path ∧
          LiesAt (fun part => ∀ slots, Refuses (fields.offer self name part) slots) path value
  | _, .nil, _, _, _, _, _, _, h => nomatch h
  | _, .cons own aliases fallback shape rest, name, value, slots, fault, hfields, hdepth, h => by
    obtain ⟨hshape, hrest⟩ := hfields
    rw [Fields.offer] at h
    split_ifs at h with hname
    · cases hslot : slots.1 with
      | some old =>
        simp only [hslot, Except.error.injEq] at h
        exact .inl (h ▸ rfl)
      | none =>
        cases hread : shape.readWith self value with
        | ok content => simp [hslot, hread, Fault.place] at h
        | error inner =>
          simp only [hslot, hread, Fault.place, Except.error.injEq] at h
          refine .inr ⟨inner.path, h ▸ rfl, (hshape value inner hdepth hread).imp ?_⟩
          rintro part ⟨fault', hfault'⟩ slots'
          cases hslot' : slots'.1 with
          | some old => exact ⟨_, by rw [Fields.offer, if_pos hname, hslot']⟩
          | none => exact ⟨_, by rw [Fields.offer, if_pos hname, hslot', hfault', Fault.place]⟩
    · cases hothers : rest.offer self name value slots.2 with
      | ok others => simp [hothers] at h
      | error fault' =>
        obtain rfl : fault' = fault := by simpa [hothers] using h
        refine (Fields.liesAt_of_offer hrest hdepth hothers).imp_right ?_
        rintro ⟨path, hpath, hlies⟩
        refine ⟨path, hpath, hlies.imp fun part hpart slots' => ?_⟩
        obtain ⟨fault'', hfault''⟩ := hpart slots'.2
        exact ⟨fault'', by rw [Fields.offer, if_neg hname, hfault'']⟩

/-- A fault of a positional record is that it ends too early, or lies in an item. -/
theorem Fields.liesAt_of_readPositional (record : String) (count : Nat) : ∀ {α : Type}
    {fields : Fields τ α} {start : Nat} {items : List Json} {fault : Fault},
    fields.Forall (fun shape => Localizes depth (shape.readWith self)) →
      (∀ item ∈ items, item.depth < depth) →
      fields.readPositional self record count start items = .error fault →
        fault.path = [] ∨ ∃ position item path, items[position]? = some item ∧
          fault.path = .index (start + position) :: path ∧
          LiesAt (fun part => ∀ others : List Json, others[position]? = some part →
            Refuses (fields.readPositional self record count start) others) path item
  | _, .nil, _, _, _, _, _, h => by simp [Fields.readPositional] at h
  | _, .cons own aliases fallback shape rest, start, [], fault, hfields, hdepth, h => by
    cases fallback with
    | none =>
      rw [Fields.readPositional, Except.error.injEq] at h
      exact .inl (h ▸ rfl)
    | some value =>
      rw [Fields.readPositional] at h
      cases hothers : rest.readPositional self record count (start + 1) [] with
      | ok values => simp [hothers] at h
      | error fault' =>
        obtain rfl : fault' = fault := by simpa [hothers] using h
        refine .inl ((Fields.liesAt_of_readPositional record count hfields.2
          hdepth hothers).resolve_right ?_)
        rintro ⟨position, item, path, hitem, -⟩
        simp at hitem
  | _, .cons own aliases fallback shape rest, start, first :: items, fault, hfields, hdepth, h => by
    obtain ⟨hshape, hrest⟩ := hfields
    obtain ⟨hfirst, hitems⟩ := List.forall_mem_cons.1 hdepth
    rw [Fields.readPositional] at h
    cases hread : shape.readWith self first with
    | error inner =>
      simp only [hread, Fault.place, Except.error.injEq] at h
      refine .inr ⟨0, first, inner.path, rfl, h ▸ rfl, (hshape first inner hfirst hread).imp ?_⟩
      rintro part ⟨fault', hfault'⟩ others hpart
      cases others with
      | nil => cases hpart
      | cons other others =>
        obtain rfl := Option.some.inj hpart
        exact ⟨_, by rw [Fields.readPositional, hfault', Fault.place]⟩
    | ok value =>
      cases hothers : rest.readPositional self record count (start + 1) items with
      | ok values => simp [hread, hothers, Fault.place] at h
      | error fault' =>
        obtain rfl : fault' = fault := by simpa [hread, hothers, Fault.place] using h
        refine (Fields.liesAt_of_readPositional record count hrest hitems hothers).imp_right ?_
        rintro ⟨position, item, path, hitem, hpath, hlies⟩
        refine ⟨position + 1, item, path, hitem, ?_, hlies.imp fun part hpart others hother => ?_⟩
        · rw [hpath, Nat.add_assoc, Nat.add_comm 1]
        · cases others with
          | nil => cases hother
          | cons other others =>
            obtain ⟨fault'', hfault''⟩ := hpart others hother
            cases hread' : shape.readWith self other with
            | error inner => exact ⟨_, by rw [Fields.readPositional, hread', Fault.place]⟩
            | ok value' =>
              exact ⟨_, by rw [Fields.readPositional, hread', Fault.place, hfault'']⟩

theorem exists_of_offerAll_eq_error {σ : Type} {offer : String → Json → σ → Except Fault σ} :
    ∀ {entries : Object} {slots : σ} {fault : Fault}, offerAll offer entries slots = .error fault →
      ∃ name value slots', (name, value) ∈ entries ∧ offer name value slots' = .error fault
  | [], _, _, h => nomatch h
  | (name, value) :: rest, slots, fault, h => by
    rw [offerAll] at h
    cases hfirst : offer name value slots with
    | error fault' =>
      obtain rfl : fault' = fault := by simpa [hfirst] using h
      exact ⟨name, value, slots, List.mem_cons_self, hfirst⟩
    | ok next =>
      rw [hfirst] at h
      obtain ⟨name', value', slots', hentry, hoffer⟩ := exists_of_offerAll_eq_error h
      exact ⟨name', value', slots', List.mem_cons_of_mem _ hentry, hoffer⟩

/-- An object with an entry that is refused is refused. -/
theorem refuses_offerAll {σ : Type} {offer : String → Json → σ → Except Fault σ} :
    ∀ {entries : Object} {name : String} {value : Json} (slots : σ), (name, value) ∈ entries →
      (∀ slots, Refuses (offer name value) slots) → Refuses (offerAll offer entries) slots
  | (first, content) :: rest, name, value, slots, hentry, h => by
    cases hfirst : offer first content slots with
    | error fault => exact ⟨fault, by rw [offerAll, hfirst]⟩
    | ok next =>
      rcases List.mem_cons.1 hentry with hhead | hrest
      · obtain ⟨rfl, rfl⟩ := Prod.mk.inj hhead
        obtain ⟨fault, hfault⟩ := h slots
        rw [hfirst] at hfault
        cases hfault
      · obtain ⟨fault, hfault⟩ := refuses_offerAll next hrest h
        exact ⟨fault, by simp only [offerAll, hfirst, hfault]⟩

/-- The faults of a record lie at their paths if those of its parts do. -/
theorem Shape.liesAt_of_record {α : Type} {fields : Fields τ α} (name : String) (named : Bool)
    {value : Json} {fault : Fault}
    (hfields : fields.Forall (fun shape => Localizes depth (shape.readWith self)))
    (hdepth : value.depth ≤ depth)
    (h : (Shape.record name named fields).readWith self value = .error fault) :
    LiesAt (Refuses ((Shape.record name named fields).readWith self)) fault.path value := by
  have hhere : fault.path = [] →
      LiesAt (Refuses ((Shape.record name named fields).readWith self)) fault.path value :=
    fun hpath => hpath ▸ .here ⟨fault, h⟩
  cases value with
  | obj entries =>
    cases hslots : offerAll (fields.offer self) entries fields.vacant with
    | error fault' =>
      obtain rfl : fault' = fault := by simpa [Shape.readWith, hslots] using h
      obtain ⟨key, part, slots, hentry, hoffer⟩ := exists_of_offerAll_eq_error hslots
      have hpart := Nat.lt_of_lt_of_le (Json.depth_lt_obj hentry) hdepth
      rcases Fields.liesAt_of_offer hfields hpart hoffer with hpath | ⟨path, hpath, hlies⟩
      · exact hhere hpath
      · rw [hpath]
        refine .key hentry (hlies.imp fun part hpart others hother => ?_)
        obtain ⟨fault'', hfault''⟩ := refuses_offerAll fields.vacant hother hpart
        exact ⟨fault'', by rw [Shape.readWith, hfault'']⟩
    | ok slots =>
      rw [Shape.readWith, hslots] at h
      cases hfinish : fields.finish slots with
      | ok row => simp [hfinish, Except.mapError] at h
      | error cause =>
        simp only [hfinish, Except.mapError, Except.error.injEq] at h
        exact hhere (h ▸ rfl)
  | arr items =>
    cases named with
    | true =>
      obtain rfl := Except.error.inj h
      exact hhere rfl
    | false =>
      cases hread : fields.readPositional self name fields.size 0 items with
      | error fault' =>
        obtain rfl : fault' = fault := by simpa [Shape.readWith, hread] using h
        have hitems : ∀ item ∈ items, item.depth < depth := fun item hitem =>
          Nat.lt_of_lt_of_le (Json.depth_lt_arr hitem) hdepth
        rcases Fields.liesAt_of_readPositional name fields.size hfields hitems hread with
          hpath | ⟨position, item, path, hitem, hpath, hlies⟩
        · exact hhere hpath
        · rw [hpath, Nat.zero_add]
          refine .index hitem (hlies.imp fun part hpart others hother => ?_)
          obtain ⟨fault'', hfault''⟩ := hpart others hother
          exact ⟨fault'', by rw [Shape.readWith, hfault'']⟩
      | ok row =>
        simp only [Shape.readWith, hread] at h
        split_ifs at h
        obtain rfl := Except.error.inj h
        exact hhere rfl
  | _ =>
    obtain rfl := Except.error.inj h
    exact hhere rfl

end Fields

/-! ## Shapes -/

section Shapes

variable {τ α : Type} {self : Json → Except Fault τ} {depth : Nat}

namespace Shape

theorem localizes_float32 : Localizes depth ((float32 : Shape τ Binary32).readWith self) := by
  refine localizes_of_here fun value fault h => ?_
  simp only [readWith, readFloat32] at h
  split at h
  · cases h
  · cases h
  · exact Except.error.inj h ▸ rfl

theorem localizes_integer (name : String) (low high : Int) :
    Localizes depth ((integer name low high : Shape τ Int).readWith self) := by
  refine localizes_of_here fun value fault h => ?_
  simp only [readWith, readInteger] at h
  split at h
  · split_ifs at h
    exact Except.error.inj h ▸ rfl
  · exact Except.error.inj h ▸ rfl

theorem localizes_list {item : Shape τ α} (hitem : Localizes depth (item.readWith self)) :
    Localizes depth ((list item).readWith self) := by
  intro value fault hdepth h
  cases value with
  | arr items =>
    obtain ⟨position, value, inner, hget, hinner, rfl⟩ :=
      exists_of_readItems_eq_error (show readItems (item.readWith self) 0 items = _ from h)
    have hvalue := Nat.lt_trans (Json.depth_lt_arr (List.mem_of_getElem? hget)) hdepth
    rw [Nat.zero_add]
    exact .index hget ((hitem value inner hvalue hinner).imp fun _ hpart _ hother =>
      refuses_readItems 0 hother hpart)
  | _ =>
    obtain rfl := Except.error.inj h
    exact .here ⟨_, h⟩

theorem localizes_array (length : Nat) {item : Shape τ α}
    (hitem : Localizes depth (item.readWith self)) :
    Localizes depth ((array length item).readWith self) := by
  intro value fault hdepth h
  cases value with
  | arr items =>
    cases hread : readItems (item.readWith self) 0 (items.take length) with
    | error fault' =>
      obtain rfl : fault' = fault := by simpa [readWith, hread] using h
      obtain ⟨position, value, inner, hget, hinner, rfl⟩ := exists_of_readItems_eq_error hread
      obtain ⟨hposition, hget⟩ : position < length ∧ items[position]? = some value := by
        rw [List.getElem?_take] at hget
        split_ifs at hget with hposition
        exact ⟨hposition, hget⟩
      have hvalue := Nat.lt_trans (Json.depth_lt_arr (List.mem_of_getElem? hget)) hdepth
      rw [Nat.zero_add]
      refine .index hget ((hitem value inner hvalue hinner).imp fun part hpart others hother => ?_)
      have htaken : (others.take length)[position]? = some part := by
        rwa [List.getElem?_take_of_lt hposition]
      obtain ⟨fault, hfault⟩ := refuses_readItems 0 htaken hpart
      exact ⟨fault, by rw [readWith, hfault]⟩
    | ok values =>
      have hhere : fault.path = [] := by
        simp only [readWith, hread] at h
        split_ifs at h
        · exact Except.error.inj h ▸ rfl
        · exact Except.error.inj h ▸ rfl
      exact hhere ▸ .here ⟨_, h⟩
  | _ =>
    obtain rfl := Except.error.inj h
    exact .here ⟨_, h⟩

theorem localizes_option {item : Shape τ α} (hitem : Localizes depth (item.readWith self)) :
    Localizes depth ((option item).readWith self) := by
  intro value fault hdepth h
  have hnull : value ≠ .null := by
    rintro rfl
    cases h
  rw [readWith_option item hnull, map_eq_error_iff] at h
  obtain ⟨part, hpart, hothers⟩ := hitem value fault hdepth h
  refine ⟨part, hpart, fun other hother => ?_⟩
  have hother' : other ≠ .null := by
    -- Only the empty path leads into `null`, and then it is the value itself that is `null`.
    rintro rfl
    cases hpath : fault.path with
    | nil =>
      rw [hpath] at hpart hother
      cases hpart
      cases hother
      exact hnull rfl
    | cons segment path =>
      rw [hpath] at hother
      cases hother
  obtain ⟨inner, hinner⟩ := hothers other hother
  exact ⟨inner, by rw [readWith_option item hother', map_eq_error_iff, hinner]⟩

theorem path_of_readName {names : List (String × α)} {name : String} {fault : Fault}
    (h : readName names name = .error fault) : fault.path = [] := by
  unfold readName at h
  split at h
  · cases h
  · exact Except.error.inj h ▸ rfl

theorem readVariant_of_ne_null {names : List (String × α)} {name : String} {chosen : α}
    {part : Json} (hname : readName names name = .ok chosen) (hpart : part ≠ .null) :
    readVariant names (.obj [(name, part)]) =
      .error ⟨[.key name], .wrongType part.found .unit⟩ := by
  cases part with
  | null => exact absurd rfl hpart
  | _ => simp only [readVariant, hname]

/-- A variant is not written with a value beside its name. -/
theorem refuses_readVariant {names : List (String × α)} {name : String} {part : Json}
    (hpart : part ≠ .null) : ∀ {entries : Object}, (name, part) ∈ entries →
      Refuses (readVariant names) (.obj entries)
  | [(key, content)], h => by
    obtain ⟨rfl, rfl⟩ := Prod.mk.inj (List.mem_singleton.1 h)
    cases hname : readName names name with
    | error fault => exact ⟨fault, by simp only [readVariant, hname]⟩
    | ok chosen => exact ⟨_, readVariant_of_ne_null hname hpart⟩
  | _ :: _ :: _, _ => ⟨_, rfl⟩

theorem localizes_variant (names : List (String × α)) :
    Localizes depth ((variant names : Shape τ α).readWith self) := by
  intro value fault _ h
  have hhere : fault.path = [] → LiesAt (Refuses (readVariant names)) fault.path value :=
    fun hpath => hpath ▸ .here ⟨fault, h⟩
  match value, h with
  | .str name, h => exact hhere (path_of_readName h)
  | .obj [], h => exact hhere (Except.error.inj h ▸ rfl)
  | .obj (_ :: _ :: _), h => exact hhere (Except.error.inj h ▸ rfl)
  | .obj [(name, part)], h =>
    cases hname : readName names name with
    | error inner =>
      have hfault : inner = fault := by simpa [readWith, readVariant, hname] using h
      exact hhere (hfault ▸ path_of_readName hname)
    | ok chosen =>
      have hpart : part ≠ .null := by
        rintro rfl
        simp [readWith, readVariant, hname] at h
      obtain rfl := Except.error.inj ((readVariant_of_ne_null hname hpart).symm.trans h)
      refine .key List.mem_cons_self (.here fun others hother => ?_)
      exact refuses_readVariant hpart hother
  | .null, h => exact hhere (Except.error.inj h ▸ rfl)
  | .bool _, h => exact hhere (Except.error.inj h ▸ rfl)
  | .num _, h => exact hhere (Except.error.inj h ▸ rfl)
  | .arr _, h => exact hhere (Except.error.inj h ▸ rfl)

/-- A choice refuses all values alike. -/
theorem eq_of_either_eq_error {name : String} {first second : Shape τ α} {value : Json}
    {fault : Fault} (h : (either name first second).readWith self value = .error fault) :
    fault = .here (.noAlternative name) := by
  rw [readWith] at h
  split at h
  · cases h
  · cases h
  · exact (Except.error.inj h).symm

theorem localizes_either (name : String) (first second : Shape τ α) :
    Localizes depth ((either name first second).readWith self) :=
  localizes_of_here fun _ _ h => eq_of_either_eq_error h ▸ rfl

theorem localizes_map {β : Type} (convert : α → β) {shape : Shape τ α}
    (hshape : Localizes depth (shape.readWith self)) :
    Localizes depth ((map convert shape).readWith self) := by
  intro value fault hdepth h
  rw [readWith, map_eq_error_iff] at h
  refine (hshape value fault hdepth h).imp ?_
  rintro other ⟨inner, hinner⟩
  exact ⟨inner, by rw [readWith, map_eq_error_iff, hinner]⟩

theorem localizes_refine {β : Type} (check : α → Except Cause β) {shape : Shape τ α}
    (hshape : Localizes depth (shape.readWith self)) :
    Localizes depth ((refine check shape).readWith self) := by
  intro value fault hdepth h
  cases hread : shape.readWith self value with
  | ok content =>
    have hpath : fault.path = [] := by
      rw [readWith, hread] at h
      cases hcheck : check content with
      | ok result => simp [hcheck, Except.mapError] at h
      | error cause =>
        simp only [hcheck, Except.mapError, Except.error.injEq] at h
        exact h ▸ rfl
    exact hpath ▸ .here ⟨fault, h⟩
  | error fault' =>
    obtain rfl : fault' = fault := by simpa [readWith, hread] using h
    refine (hshape value fault' hdepth hread).imp ?_
    rintro other ⟨inner, hinner⟩
    exact ⟨inner, by rw [readWith, hinner]⟩

end Shape

mutual

/-- The faults of a shape lie at their paths if those of the nested values do. -/
theorem Shape.localizes (hself : Localizes depth self) :
    ∀ {α : Type} (shape : Shape τ α), Localizes depth (shape.readWith self)
  | _, .self => hself
  | _, .float32 => Shape.localizes_float32
  | _, .integer name low high => Shape.localizes_integer name low high
  | _, .bool => localizes_of_here fun value _ h => by
    cases value with
    | bool _ => cases h
    | _ => exact Except.error.inj h ▸ rfl
  | _, .text => localizes_of_here fun value _ h => by
    cases value with
    | str _ => cases h
    | _ => exact Except.error.inj h ▸ rfl
  | _, .any => localizes_of_here fun _ _ h => nomatch h
  | _, .object => localizes_of_here fun value _ h => by
    cases value with
    | obj _ => cases h
    | _ => exact Except.error.inj h ▸ rfl
  | _, .list item => Shape.localizes_list (Shape.localizes hself item)
  | _, .array length item => Shape.localizes_array length (Shape.localizes hself item)
  | _, .option item => Shape.localizes_option (Shape.localizes hself item)
  | _, .variant names => Shape.localizes_variant names
  | _, .record name named fields => fun _ _ hdepth h =>
    Shape.liesAt_of_record name named (Fields.localizes hself fields) (Nat.le_of_lt hdepth) h
  | _, .either name first second => Shape.localizes_either name first second
  | _, .map convert shape => Shape.localizes_map convert (Shape.localizes hself shape)
  | _, .refine check shape => Shape.localizes_refine check (Shape.localizes hself shape)

theorem Fields.localizes (hself : Localizes depth self) {α : Type} (fields : Fields τ α) :
    fields.Forall fun shape => Localizes depth (shape.readWith self) := by
  cases fields with
  | nil => trivial
  | cons _ _ _ shape rest => exact ⟨Shape.localizes hself shape, Fields.localizes hself rest⟩

end

/-- A record is deeper than the values nested in it. -/
theorem Layout.localizes (layout : Layout τ α) (hself : Localizes depth self) :
    Localizes (depth + 1) (layout.shape.readWith self) :=
  Shape.localizes_map layout.build fun _ _ hdepth h =>
    Shape.liesAt_of_record layout.name false (Fields.localizes hself layout.fields)
      (Nat.le_of_lt_succ hdepth) h

end Shapes

/-! ## Trees -/

/-- The readers give the same for the less deep values. -/
def AgreeBelow {α : Type} (depth : Nat) (read read' : Json → Except Fault α) : Prop :=
  ∀ value, value.depth < depth → read value = read' value

section Agreement

variable {τ : Type} {self self' : Json → Except Fault τ} {depth : Nat}

theorem readItems_ext {α : Type} {read read' : Json → Except Fault α} : ∀ (start : Nat)
    {items : List Json}, (∀ item ∈ items, read item = read' item) →
      readItems read start items = readItems read' start items
  | _, [], _ => rfl
  | start, item :: rest, h => by
    obtain ⟨hitem, hrest⟩ := List.forall_mem_cons.1 h
    rw [readItems, readItems, hitem, readItems_ext (start + 1) hrest]

theorem offerAll_ext {σ : Type} {offer offer' : String → Json → σ → Except Fault σ}
    {entries entries' : Object}
    (h : List.Forall₂ (fun entry entry' => offer entry.1 entry.2 = offer' entry'.1 entry'.2)
      entries entries') (slots : σ) :
    offerAll offer entries slots = offerAll offer' entries' slots := by
  induction h generalizing slots with
  | nil => rfl
  | @cons entry entry' rest rest' hentry _ ih =>
    rw [offerAll, offerAll, hentry]
    cases offer' entry'.1 entry'.2 slots with
    | error fault => rfl
    | ok next => exact ih next

theorem Fields.offer_ext : ∀ {α : Type} {fields : Fields τ α} (name : String) {value value' : Json},
    fields.Forall (fun shape => shape.readWith self value = shape.readWith self' value') →
      fields.offer self name value = fields.offer self' name value'
  | _, .nil, _, _, _, _ => rfl
  | _, .cons own aliases fallback shape rest, name, value, value', h => by
    funext slots
    obtain ⟨hshape, hrest⟩ := h
    rw [Fields.offer, Fields.offer, hshape, Fields.offer_ext name hrest]

theorem Fields.readPositional_ext (record : String) (count : Nat) : ∀ {α : Type}
    {fields : Fields τ α} (start : Nat) {items items' : List Json},
    List.Forall₂ (fun item item' => fields.Forall fun shape =>
      shape.readWith self item = shape.readWith self' item') items items' →
        fields.readPositional self record count start items =
          fields.readPositional self' record count start items'
  | _, .nil, _, _, _, _ => by simp only [Fields.readPositional]
  | _, .cons own aliases none shape rest, start, [], [], .nil => by
    rw [Fields.readPositional, Fields.readPositional]
  | _, .cons own aliases (some value) shape rest, start, [], [], .nil => by
    rw [Fields.readPositional, Fields.readPositional,
      Fields.readPositional_ext record count (start + 1) .nil]
  | _, .cons own aliases fallback shape rest, start, item :: items, item' :: items',
      .cons hitem hitems => by
    have hrest := hitems.imp fun _ _ h => h.2
    rw [Fields.readPositional, Fields.readPositional, hitem.1,
      Fields.readPositional_ext record count (start + 1) hrest]

/-- A record is read alike if its parts are. -/
theorem Shape.readWith_record_ext {α : Type} {fields : Fields τ α} (name : String) (named : Bool)
    {value : Json}
    (h : fields.Forall fun shape => AgreeBelow depth (shape.readWith self) (shape.readWith self'))
    (hdepth : value.depth ≤ depth) :
    (Shape.record name named fields).readWith self value =
      (Shape.record name named fields).readWith self' value := by
  have hparts : ∀ part : Json, part.depth < value.depth →
      fields.Forall fun shape => shape.readWith self part = shape.readWith self' part :=
    fun part hpart => h.imp fun _ hshape => hshape part (Nat.lt_of_lt_of_le hpart hdepth)
  cases value with
  | obj entries =>
    have hoffers : ∀ entry ∈ entries,
        fields.offer self entry.1 entry.2 = fields.offer self' entry.1 entry.2 :=
      fun entry hentry => Fields.offer_ext entry.1 (hparts entry.2 (Json.depth_lt_obj hentry))
    rw [Shape.readWith, Shape.readWith, offerAll_ext (List.forall₂_same.2 hoffers)]
  | arr items =>
    cases named with
    | true => rfl
    | false =>
      rw [Shape.readWith, Shape.readWith, Fields.readPositional_ext name fields.size 0 <|
        List.forall₂_same.2 fun item hitem => hparts item (Json.depth_lt_arr hitem)]
  | _ => rfl

mutual

/-- A shape is read alike if the nested values are. -/
theorem Shape.agreeBelow (hself : AgreeBelow depth self self') :
    ∀ {α : Type} (shape : Shape τ α), AgreeBelow depth (shape.readWith self) (shape.readWith self')
  | _, .self => hself
  | _, .float32 => fun _ _ => rfl
  | _, .integer .. => fun _ _ => rfl
  | _, .bool => fun value _ => by cases value <;> rfl
  | _, .text => fun value _ => by cases value <;> rfl
  | _, .any => fun _ _ => rfl
  | _, .object => fun value _ => by cases value <;> rfl
  | _, .list item => fun value hdepth => by
    cases value with
    | arr items =>
      exact readItems_ext 0 fun value hvalue =>
        Shape.agreeBelow hself item value (Nat.lt_trans (Json.depth_lt_arr hvalue) hdepth)
    | _ => rfl
  | _, .array length item => fun value hdepth => by
    cases value with
    | arr items =>
      rw [Shape.readWith, Shape.readWith, readItems_ext 0 fun value hvalue =>
        Shape.agreeBelow hself item value
          (Nat.lt_trans (Json.depth_lt_arr (List.mem_of_mem_take hvalue)) hdepth)]
    | _ => rfl
  | _, .option item => fun value hdepth => by
    by_cases hnull : value = .null
    · subst hnull
      rfl
    · rw [Shape.readWith_option item hnull, Shape.readWith_option item hnull,
        Shape.agreeBelow hself item value hdepth]
  | _, .variant _ => fun _ _ => rfl
  | _, .record name named fields => fun _ hdepth =>
    Shape.readWith_record_ext name named (Fields.agreeBelow hself fields) (Nat.le_of_lt hdepth)
  | _, .either _ first second => fun value hdepth => by
    rw [Shape.readWith, Shape.readWith, Shape.agreeBelow hself first value hdepth,
      Shape.agreeBelow hself second value hdepth]
  | _, .map convert shape => fun value hdepth => by
    rw [Shape.readWith, Shape.readWith, Shape.agreeBelow hself shape value hdepth]
  | _, .refine check shape => fun value hdepth => by
    rw [Shape.readWith, Shape.readWith, Shape.agreeBelow hself shape value hdepth]

theorem Fields.agreeBelow (hself : AgreeBelow depth self self') {α : Type}
    (fields : Fields τ α) :
    fields.Forall fun shape => AgreeBelow depth (shape.readWith self) (shape.readWith self') := by
  cases fields with
  | nil => trivial
  | cons _ _ _ shape rest => exact ⟨Shape.agreeBelow hself shape, Fields.agreeBelow hself rest⟩

end

theorem Layout.agreeBelow {α : Type} (layout : Layout τ α) (hself : AgreeBelow depth self self') :
    AgreeBelow (depth + 1) (layout.shape.readWith self) (layout.shape.readWith self') := by
  intro value hdepth
  exact congrArg (Except.map layout.build) (Shape.readWith_record_ext layout.name false
    (Fields.agreeBelow hself layout.fields) (Nat.le_of_lt_succ hdepth))

end Agreement

namespace Template

/-- A value is followed to its leaves, or further. -/
theorem agreeBelow_readWithin : ∀ {depth fuel fuel' : Nat}, depth ≤ fuel → depth ≤ fuel' →
    AgreeBelow depth (readWithin fuel) (readWithin fuel')
  | 0, _, _, _, _ => fun _ hdepth => absurd hdepth (Nat.not_lt_zero _)
  | _ + 1, _ + 1, _ + 1, h, h' =>
    layout.agreeBelow (agreeBelow_readWithin (Nat.le_of_succ_le_succ h) (Nat.le_of_succ_le_succ h'))

/-- A tree is a node whose children are trees. -/
theorem read_eq : read = layout.shape.readWith read := by
  funext value
  have hparts : AgreeBelow value.depth (readWithin value.depth) read := fun part hpart =>
    agreeBelow_readWithin hpart (Nat.lt_succ_self _) part (Nat.lt_succ_self _)
  exact layout.agreeBelow hparts value (Nat.lt_succ_self _)

theorem localizes_read : ∀ depth, Localizes depth read
  | 0 => fun _ _ hdepth _ => absurd hdepth (Nat.not_lt_zero _)
  | depth + 1 => by
    rw [read_eq]
    exact layout.localizes (localizes_read depth)

end Template

/-! ## Reported paths -/

/-- The faults of a payload lie at their paths. -/
theorem Layout.liesAt_of_read {α : Type} (layout : Layout Empty α) {value : Json} {fault : Fault}
    (h : layout.shape.read value = .error fault) :
    LiesAt (Refuses layout.shape.read) fault.path value := by
  refine layout.localizes (localizes_of_here ?_) value fault (Nat.lt_succ_self _) h
  exact fun _ _ h => Except.error.inj h ▸ rfl

/-- The faults of a definition lie at their paths. -/
theorem Definition.liesAt_of_read {value : Json} {fault : Fault} (h : read value = .error fault) :
    LiesAt (Refuses read) fault.path value :=
  layout.localizes (Template.localizes_read value.depth) value fault (Nat.lt_succ_self _) h

/-- The path that is reported leads to a part of the value, and the part is to blame : every value
with the same part at the same path is refused, whatever else it holds. -/
theorem liesAt_reported_path (value : Json) :
    (∀ (payload : Payload) (fault : Fault), payload.layout.shape.read value = .error fault →
      (payload.decode value).result = .error (.ofFault fault) ∧
        ∃ path : Path, (PayloadError.ofFault fault).path = path.render ∧
          LiesAt (Refuses payload.layout.shape.read) path value) ∧
      ∀ fault : Fault, Definition.read value = .error fault →
        (∀ index, Definition.parse index value =
          .error { code := .malformedPrefab, message := (PayloadError.ofFault fault).render,
                   entity := some (Definition.label index value) }) ∧
          ∃ path : Path, (PayloadError.ofFault fault).path = path.render ∧
            LiesAt (Refuses Definition.read) path value := by
  refine ⟨fun payload fault h => ⟨?_, fault.path, rfl, payload.layout.liesAt_of_read h⟩,
    fun fault h => ⟨fun index => ?_, fault.path, rfl, Definition.liesAt_of_read h⟩⟩
  · rw [Payload.decode, h]
  · rw [Definition.parse, h]

/-- Instances of which the second has no position, and a definition with a child whose name is a
number. -/
theorem liesAt_reported_path_nested :
    (∃ path : Path, "instances[1]" = path.render ∧
      LiesAt (Refuses Payload.instanced.layout.shape.read) path
        (.obj [("instances", .arr [.obj [("position", .arr [.num (.int 1), .num (.int 2),
          .num (.int 3)])], .obj [("color", .null)]])])) ∧
      ∃ path : Path, "root.children[0].name" = path.render ∧
        LiesAt (Refuses Definition.read) path
          (.obj [("root", .obj [("children", .arr [.obj [("name", .num (.int 7))]])]),
            ("id", .str "lamp")]) := by
  refine ⟨?_, ?_⟩
  · exact ((liesAt_reported_path _).1 Payload.instanced
      ⟨[.key "instances", .index 1], .missingField "position"⟩ rfl).2
  · exact ((liesAt_reported_path _).2
      ⟨[.key "root", .key "children", .index 0, .key "name"],
        .wrongType (.num (.int 7)) .text⟩ rfl).2

end SceneLoad

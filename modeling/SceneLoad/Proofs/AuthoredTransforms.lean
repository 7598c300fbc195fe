import SceneLoad.Proofs.FaultPaths
import SceneLoad.Proofs.MergedPayloads

/-!
# Transforms as they are authored

A transform has three fields, each of them a vector that may be absent or `null`. A vector is
written as a list of numbers or as an object that names its components. `Json.components?` is the
list of them, whichever way the vector is written, and a transform is read field by field as the
three lists (`AuthoredTransform.read_eq_ok_iff_writtenIn`).

The lengths of the lists are judged afterwards, each by itself. A field of the wrong length is
reported (`Transform.arityReport`) and is that of the identity. The other fields are as authored.
Nothing of this depends on how a vector is written, so it may as well be listed
(`Shape.readWith_vector_listed`), and no report or fault will be different.
-/

namespace SceneLoad

/-! ## Written vectors -/

/-- A field that may be absent or `null`. -/
def authored? {α : Type} (read? : Json → Option α) : Option Json → Option (Option α)
  | none => some none
  | some .null => some none
  | some part => (read? part).map some

namespace Json

/-- What a record has for a field, under its name or at its position. -/
def part? (name : String) (position : Nat) : Json → Option Json
  | .obj entries => Object.find? entries name
  | .arr items => items[position]?
  | _ => none

/-- A number in single precision. -/
def number? : Json → Option Binary32
  | .num (.int value) => some (.ofInt value)
  | .num (.float value) => some value.narrow
  | _ => none

/-- The components of a vector : a list of numbers, or the numbers `x`, `y`, `z` and possibly `w` of
an object. -/
def components? : Json → Option (List Binary32)
  | .arr items => items.mapM number?
  | .obj entries => do
    let x ← (Object.find? entries "x").bind number?
    let y ← (Object.find? entries "y").bind number?
    let z ← (Object.find? entries "z").bind number?
    let w ← authored? number? (Object.find? entries "w")
    return x :: y :: z :: w.toList
  | _ => none

/-- The components that a transform has for a field. -/
def vector? (name : String) (position : Nat) (value : Json) : Option (Option (List Binary32)) :=
  authored? components? (value.part? name position)

/-- A part that may be absent or `null`, as a list. -/
def present : Option Json → List Json
  | none => []
  | some .null => []
  | some part => [part]

/-- A vector that names its components, as the list of them. -/
def listed : Json → Json
  | .obj entries =>
    match Object.find? entries "x", Object.find? entries "y", Object.find? entries "z" with
    | some x, some y, some z => .arr (x :: y :: z :: present (Object.find? entries "w"))
    | _, _, _ => .obj entries
  | value => value

theorem vector?_eq_none_iff {name : String} {position : Nat} {value : Json} :
    value.vector? name position = none ↔
      ∃ part, value.part? name position = some part ∧ part ≠ .null ∧ part.components? = none := by
  rw [vector?]
  cases value.part? name position with
  | none => simp [authored?]
  | some part => cases part <;> simp [authored?]

theorem WellFormed.of_part? {name : String} {position : Nat} {value part : Json}
    (h : value.WellFormed) (hpart : value.part? name position = some part) : part.WellFormed := by
  cases h with
  | obj hkeys hentries => exact (WellFormed.obj hkeys hentries).of_find? hpart
  | arr hitems => exact hitems part (List.mem_of_getElem? hpart)
  | _ => cases hpart

end Json

section Reading

variable {τ α : Type} {self : Json → Except Fault τ}

/-- What the shape is read as, if it is read at all. -/
def Shape.ReadsAs (self : Json → Except Fault τ) (shape : Shape τ α) (read? : Json → Option α) :
    Prop :=
  ∀ part : Json, part.WellFormed → (shape.readWith self part).toOption = read? part

theorem Shape.ReadsAs.eq_ok_iff {shape : Shape τ α} {read? : Json → Option α}
    (hshape : shape.ReadsAs self read?) {part : Json} (hpart : part.WellFormed) {content : α} :
    shape.readWith self part = .ok content ↔ read? part = some content := by
  rw [← hshape part hpart]
  cases shape.readWith self part <;> simp [Except.toOption]

theorem Field.entries_eq {field : Field τ} (hplain : field.aliases = []) (object : Object) :
    field.entries object = object.filter fun (key, _) => key = field.name := by
  simp [Field.entries, Field.Answers, hplain]

theorem Field.slots_eq {field : Field τ} (hplain : field.aliases = []) (position : Nat)
    {value : Json} (hvalue : value.WellFormed) :
    field.slots position value = (value.part? field.name position).toList := by
  cases hvalue with
  | @obj entries hkeys hentries =>
    rw [Field.slots, Json.part?, Field.entries_eq hplain]
    cases hfind : Object.find? entries field.name with
    | none =>
      rw [Object.filter_eq_nil_of_notMem ((Object.find?_eq_none_iff _ _).1 hfind)]
      rfl
    | some part =>
      rw [Object.filter_eq_of_find? hkeys hfind]
      rfl
  | _ => rfl

/-- A required field is read from its part. -/
theorem Field.reads_required {name : String} {shape : Shape τ α} {read? : Json → Option α}
    (hshape : shape.ReadsAs self read?) {position : Nat} {value : Json} (hvalue : value.WellFormed)
    {content : α} :
    (Field.mk name [] none shape).Reads self position value content ↔
      (value.part? name position).bind read? = some content := by
  rw [Field.Reads, Field.slots_eq rfl position hvalue]
  cases hpart : value.part? name position with
  | none => simp [Field.ReadsParts]
  | some part => exact hshape.eq_ok_iff (hvalue.of_part? hpart)

theorem authored?_of_ne_null {read? : Json → Option α} {part : Json} (h : part ≠ .null) :
    authored? read? (some part) = (read? part).map some := by
  cases part with
  | null => exact absurd rfl h
  | _ => rfl

theorem Shape.ReadsAs.option {shape : Shape τ α} {read? : Json → Option α}
    (hshape : shape.ReadsAs self read?) :
    (Shape.option shape).ReadsAs self fun part => authored? read? (some part) := by
  intro part hpart
  by_cases hnull : part = .null
  · subst hnull
    rfl
  · show _ = authored? read? (some part)
    rw [Shape.readWith_option shape hnull, authored?_of_ne_null hnull, ← hshape part hpart]
    cases shape.readWith self part <;> rfl

/-- An optional field is read from its part, if that is present and not `null`. -/
theorem Field.reads_optional {name : String} {shape : Shape τ α} {read? : Json → Option α}
    (hshape : shape.ReadsAs self read?) {position : Nat} {value : Json} (hvalue : value.WellFormed)
    {content : Option α} :
    (Field.mk name [] (some none) (.option shape)).Reads self position value content ↔
      authored? read? (value.part? name position) = some content := by
  rw [Field.Reads, Field.slots_eq rfl position hvalue]
  cases hpart : value.part? name position with
  | none => simp [Field.ReadsParts, authored?]
  | some part => exact hshape.option.eq_ok_iff (hvalue.of_part? hpart)

theorem Shape.readsAs_float32 : (Shape.float32 : Shape τ Binary32).ReadsAs self Json.number? := by
  intro part _
  cases part with
  | num number => cases number <;> rfl
  | _ => rfl

theorem Shape.ReadsAs.toOption_readItems {item : Shape τ α} {read? : Json → Option α}
    (hitem : item.ReadsAs self read?) : ∀ {items : List Json} (start : Nat),
      (∀ value ∈ items, value.WellFormed) →
        (readItems (item.readWith self) start items).toOption = items.mapM read?
  | [], _, _ => rfl
  | value :: rest, start, h => by
    obtain ⟨hvalue, hrest⟩ := List.forall_mem_cons.1 h
    rw [List.mapM_cons, ← hitem value hvalue, ← toOption_readItems hitem (start + 1) hrest]
    cases hread : item.readWith self value with
    | error fault => rw [readItems_cons_error start rest hread]; rfl
    | ok content =>
      rw [readItems_cons_ok start rest hread]
      cases readItems (item.readWith self) (start + 1) rest <;> rfl

theorem Shape.toOption_either (name : String) (first second : Shape τ α) (value : Json) :
    ((Shape.either name first second).readWith self value).toOption =
      (first.readWith self value).toOption.or (second.readWith self value).toOption := by
  rw [Shape.readWith]
  cases first.readWith self value with
  | ok content => rfl
  | error fault => cases second.readWith self value <;> rfl

theorem Fields.nodup_names_vector : (Fields.vector : Fields τ _).names.Nodup :=
  show ["x", "y", "z", "w"].Nodup by decide

/-- An object is read as a vector if it names the components. -/
theorem Shape.readWith_vector_obj {entries : Object} (hentries : (Json.obj entries).WellFormed)
    {x y z : Binary32} {w : Option Binary32} :
    (Shape.record "VectorInput" true Fields.vector).readWith self (.obj entries) =
        .ok (x, y, z, w, ()) ↔
      (Object.find? entries "x").bind Json.number? = some x ∧
        (Object.find? entries "y").bind Json.number? = some y ∧
        (Object.find? entries "z").bind Json.number? = some z ∧
        authored? Json.number? (Object.find? entries "w") = some w := by
  -- From an object it is the same whether the fields have to be named.
  have hfields : (Shape.record "VectorInput" false Fields.vector).readWith self (.obj entries) =
      .ok (x, y, z, w, ()) ↔ _ :=
    Shape.readWith_record_eq_ok_iff self Fields.nodup_names_vector "VectorInput"
  refine hfields.trans ?_
  simp only [Fields.vector, Fields.required, Fields.optional, Fields.Reads]
  rw [Field.reads_required readsAs_float32 hentries, Field.reads_required readsAs_float32 hentries,
    Field.reads_required readsAs_float32 hentries, Field.reads_optional readsAs_float32 hentries]
  simp [Json.IsRecord, Json.part?]

theorem Shape.toOption_vector_obj {entries : Object} (hentries : (Json.obj entries).WellFormed) :
    ((Shape.record "VectorInput" true Fields.vector).readWith self (.obj entries)).toOption.map
        (fun (x, y, z, w, _) => x :: y :: z :: w.toList) = (Json.obj entries).components? := by
  cases hread : (Shape.record "VectorInput" true Fields.vector).readWith self (.obj entries) with
  | ok row =>
    obtain ⟨x, y, z, w, ⟨⟩⟩ := row
    obtain ⟨hx, hy, hz, hw⟩ := (Shape.readWith_vector_obj hentries).1 hread
    simp [Json.components?, hx, hy, hz, hw, Except.toOption]
  | error fault =>
    symm
    refine Option.eq_none_iff_forall_ne_some.2 fun components hcomponents => ?_
    obtain ⟨x, hx, hothers⟩ := Option.bind_eq_some_iff.1 hcomponents
    obtain ⟨y, hy, hothers⟩ := Option.bind_eq_some_iff.1 hothers
    obtain ⟨z, hz, hothers⟩ := Option.bind_eq_some_iff.1 hothers
    obtain ⟨w, hw, -⟩ := Option.bind_eq_some_iff.1 hothers
    cases ((Shape.readWith_vector_obj hentries).2 ⟨hx, hy, hz, hw⟩).symm.trans hread

/-- A vector is read as its components, whichever way it is written. -/
theorem Shape.readsAs_vector : (Shape.vector : Shape τ _).ReadsAs self Json.components? := by
  have hnumber : (Shape.float32 : Shape τ Binary32).ReadsAs self Json.number? := readsAs_float32
  intro part hpart
  rw [Shape.vector, Shape.toOption_either]
  cases hpart with
  | arr hitems => exact Option.or_none.trans (hnumber.toOption_readItems 0 hitems)
  | @obj entries hkeys hentries =>
    rw [← Shape.toOption_vector_obj (.obj hkeys hentries)]
    show Option.or none (Except.map _
      ((Shape.record "VectorInput" true Fields.vector).readWith self (.obj entries))).toOption = _
    cases (Shape.record "VectorInput" true Fields.vector).readWith self (.obj entries) <;> rfl
  | _ => rfl

/-! ## Vectors in a list -/

namespace Json

theorem mapM_present (part : Option Json) :
    (present part).mapM number? = (authored? number? part).map Option.toList := by
  cases part with
  | none => rfl
  | some part =>
    cases part with
    | null => rfl
    | num number => cases number <;> rfl
    | _ => rfl

/-- The components are the same in a list. -/
theorem components?_listed (value : Json) : value.listed.components? = value.components? := by
  cases value with
  | obj entries =>
    rw [listed]
    split
    · rename_i x y z hx hy hz
      simp only [components?, hx, hy, hz, List.mapM_cons, mapM_present, Option.bind_some]
      cases x.number? with
      | none => rfl
      | some x =>
        cases y.number? with
        | none => rfl
        | some y =>
          cases z.number? with
          | none => rfl
          | some z => cases authored? number? (Object.find? entries "w") <;> rfl
    · rfl
  | _ => rfl

theorem eq_some_of_mem_present {parts : Option Json} {part : Json} (h : part ∈ present parts) :
    parts = some part := by
  match parts, h with
  | some (.bool _), h => exact congrArg some (List.mem_singleton.1 h).symm
  | some (.num _), h => exact congrArg some (List.mem_singleton.1 h).symm
  | some (.str _), h => exact congrArg some (List.mem_singleton.1 h).symm
  | some (.arr _), h => exact congrArg some (List.mem_singleton.1 h).symm
  | some (.obj _), h => exact congrArg some (List.mem_singleton.1 h).symm

theorem WellFormed.listed {value : Json} (h : value.WellFormed) : value.listed.WellFormed := by
  cases value with
  | obj entries =>
    rw [Json.listed]
    split
    · rename_i x y z hx hy hz
      refine .arr fun item hitem => ?_
      simp only [List.mem_cons] at hitem
      rcases hitem with rfl | rfl | rfl | hitem
      · exact h.of_find? hx
      · exact h.of_find? hy
      · exact h.of_find? hz
      · exact h.of_find? (eq_some_of_mem_present hitem)
    · exact h
  | _ => exact h

theorem listed_ne_null {value : Json} (h : value ≠ .null) : value.listed ≠ .null := by
  cases value with
  | obj entries =>
    rw [listed]
    split <;> exact Json.noConfusion
  | _ => exact h

end Json

theorem Shape.readWith_either_ext {name : String} {first second : Shape τ α} {value value' : Json}
    (h : ((Shape.either name first second).readWith self value).toOption =
      ((Shape.either name first second).readWith self value').toOption) :
    (Shape.either name first second).readWith self value =
      (Shape.either name first second).readWith self value' := by
  cases hread : (Shape.either name first second).readWith self value with
  | ok content =>
    cases hread' : (Shape.either name first second).readWith self value' with
    | ok content' => simpa [hread, hread', Except.toOption] using h
    | error fault' => simp [hread, hread', Except.toOption] at h
  | error fault =>
    cases hread' : (Shape.either name first second).readWith self value' with
    | ok content' => simp [hread, hread', Except.toOption] at h
    | error fault' => rw [eq_of_either_eq_error hread, eq_of_either_eq_error hread']

/-- A vector is read alike in a list. -/
theorem Shape.readWith_vector_listed {part : Json} (hpart : part.WellFormed) :
    (Shape.vector : Shape τ _).readWith self part.listed = Shape.vector.readWith self part := by
  have hoption : (Shape.vector.readWith self part.listed).toOption =
      (Shape.vector.readWith self part).toOption := by
    rw [readsAs_vector _ hpart.listed, readsAs_vector _ hpart, Json.components?_listed]
  exact readWith_either_ext hoption

theorem Shape.readWith_option_listed {part : Json} (hpart : part.WellFormed) :
    (Shape.option Shape.vector).readWith self part.listed =
      (Shape.option Shape.vector).readWith self part := by
  by_cases hnull : part = .null
  · rw [hnull]
    rfl
  · rw [Shape.readWith_option _ (Json.listed_ne_null hnull), Shape.readWith_option _ hnull,
      Shape.readWith_vector_listed hpart]

theorem forall₂_modify {R : α → α → Prop} {change : α → α} : ∀ {items : List α} (position : Nat),
    (∀ item ∈ items, R item item) → (∀ item ∈ items, R (change item) item) →
      List.Forall₂ R (items.modify position change) items
  | [], _, _, _ => by simp
  | item :: rest, 0, hsame, hchange => by
    obtain ⟨-, hrest⟩ := List.forall_mem_cons.1 hsame
    exact .cons (hchange item List.mem_cons_self) (List.forall₂_same.2 hrest)
  | item :: rest, position + 1, hsame, hchange => by
    obtain ⟨hitem, hrest⟩ := List.forall_mem_cons.1 hsame
    exact .cons hitem (forall₂_modify position hrest (List.forall_mem_cons.1 hchange).2)

theorem Fields.offerAll_changed {fields : Fields τ α} {name : String} {change : Json → Json}
    {entries : Object} (hchange : ∀ entry ∈ entries, fields.Forall fun shape =>
      shape.readWith self (change entry.2) = shape.readWith self entry.2) (slots : fields.Slots) :
    offerAll (fields.offer self)
        (entries.map fun (key, part) => (key, if key = name then change part else part)) slots =
      offerAll (fields.offer self) entries slots := by
  refine offerAll_ext (List.forall₂_map_left_iff.2 (List.forall₂_same.2 ?_)) slots
  intro entry hentry
  refine Fields.offer_ext entry.1 ?_
  dsimp only
  split_ifs
  · exact hchange entry hentry
  · exact Fields.forall_of_forall (fun _ => rfl) fields

/-- A change that no field notices does not change how a record is read. -/
theorem Shape.readWith_record_modifyField {fields : Fields τ α} (record : String) (named : Bool)
    (name : String) (position : Nat) {change : Json → Json} {value : Json}
    (hvalue : value.WellFormed)
    (hchange : ∀ part : Json, part.WellFormed →
      fields.Forall fun shape => shape.readWith self (change part) = shape.readWith self part) :
    (Shape.record record named fields).readWith self (value.modifyField name position change) =
      (Shape.record record named fields).readWith self value := by
  cases hvalue with
  | @obj entries hkeys hentries =>
    rw [Json.modifyField, Shape.readWith, Shape.readWith, Fields.offerAll_changed
      (fun entry hentry => hchange entry.2 (hentries entry hentry)) fields.vacant]
  | @arr items hitems =>
    cases named with
    | true => rfl
    | false =>
      have hparts : List.Forall₂ (fun item item' => fields.Forall fun shape =>
          shape.readWith self item = shape.readWith self item') (items.modify position change)
          items :=
        forall₂_modify position (fun _ _ => Fields.forall_of_forall (fun _ => rfl) fields)
          fun item hitem => hchange item (hitems item hitem)
      rw [Json.modifyField, Shape.readWith, Shape.readWith,
        Fields.readPositional_ext record fields.size 0 hparts, List.length_modify]
  | _ => rfl

end Reading

/-! ## Transforms -/

namespace AuthoredTransform

/-- The fields of a transform with their positions. -/
def fields : List (String × Nat) := [("position", 0), ("rotation", 1), ("scale", 2)]

/-- The components that a value has for the fields. -/
structure WrittenIn (value : Json) (authored : AuthoredTransform) : Prop where
  position : value.vector? "position" 0 = some authored.position
  rotation : value.vector? "rotation" 1 = some authored.rotation
  scale : value.vector? "scale" 2 = some authored.scale

theorem WrittenIn.vector?_ne_none {value : Json} {authored : AuthoredTransform}
    (h : authored.WrittenIn value) : ∀ field ∈ fields, value.vector? field.1 field.2 ≠ none := by
  simp [fields, h.position, h.rotation, h.scale]

/-- A transform is read field by field. -/
theorem read_eq_ok_iff_writtenIn {value : Json} (hvalue : value.WellFormed)
    {authored : AuthoredTransform} :
    layout.shape.read value = .ok authored ↔ value.IsRecord 3 ∧ authored.WrittenIn value := by
  refine (Layout.readWith_eq_ok_iff noneNested layout (by decide)).trans ?_
  refine and_congr_right fun _ => ?_
  constructor
  · rintro ⟨⟨position, rotation, scale, _⟩, ⟨hposition, hrotation, hscale, -⟩, rfl⟩
    exact ⟨(Field.reads_optional Shape.readsAs_vector hvalue).1 hposition,
      (Field.reads_optional Shape.readsAs_vector hvalue).1 hrotation,
      (Field.reads_optional Shape.readsAs_vector hvalue).1 hscale⟩
  · intro h
    exact ⟨(authored.position, authored.rotation, authored.scale, ()),
      ⟨(Field.reads_optional Shape.readsAs_vector hvalue).2 h.position,
        (Field.reads_optional Shape.readsAs_vector hvalue).2 h.rotation,
        (Field.reads_optional Shape.readsAs_vector hvalue).2 h.scale, trivial⟩, rfl⟩

/-- A transform is read if all of its fields are understood. -/
theorem exists_read_eq_ok {value : Json} (hvalue : value.WellFormed) (hrecord : value.IsRecord 3)
    (hfields : ∀ field ∈ fields, value.vector? field.1 field.2 ≠ none) :
    ∃ authored, layout.shape.read value = .ok authored := by
  obtain ⟨position, hposition⟩ := Option.ne_none_iff_exists'.1 (hfields ("position", 0) (by decide))
  obtain ⟨rotation, hrotation⟩ := Option.ne_none_iff_exists'.1 (hfields ("rotation", 1) (by decide))
  obtain ⟨scale, hscale⟩ := Option.ne_none_iff_exists'.1 (hfields ("scale", 2) (by decide))
  have hwritten : WrittenIn value ⟨position, rotation, scale⟩ := ⟨hposition, hrotation, hscale⟩
  exact ⟨_, (read_eq_ok_iff_writtenIn hvalue).2 ⟨hrecord, hwritten⟩⟩

/-- A field with the right number of components is as authored, whatever the others have. -/
structure Keeps (authored : AuthoredTransform) (placed : Transform) : Prop where
  position : ∀ {x y z}, authored.position = some [x, y, z] → placed.position = ⟨x, y, z⟩
  angles : ∀ {x y z}, authored.rotation = some [x, y, z] →
    placed.rotation = .ofEulerDegrees x y z
  quaternion : ∀ {x y z w}, authored.rotation = some [x, y, z, w] →
    placed.rotation = ⟨x, y, z, w⟩
  scale : ∀ {x y z}, authored.scale = some [x, y, z] → placed.scale = ⟨x, y, z⟩

theorem keeps_transform (authored : AuthoredTransform) : authored.Keeps authored.transform where
  position h := by rw [transform, h]; rfl
  angles h := by rw [transform, h]; rfl
  quaternion h := by rw [transform, h]; rfl
  scale h := by rw [transform, h]; rfl

end AuthoredTransform

namespace Transform

/-- The report of a field whose number of components is none of those that it may have. -/
def arityReport (field expected : String) (lengths : List Nat) :
    Option (List Binary32) → List Diagnostic
  | none => []
  | some components =>
    if components.length ∈ lengths then []
    else
      [{ code := .invalidTransformArity,
         message := field ++ " has " ++ toString components.length ++ " elements; expected " ++
           expected,
         component := some "Transform" }]

theorem map_diagnostic_vectorOr (fallback : Vec3) (field : String) :
    ∀ components : Option (List Binary32),
      (arityError? (vectorOr fallback field components)).toList.map ArityError.diagnostic =
        arityReport field "3" [3] components
  | none => rfl
  | some [] => rfl
  | some [_] => rfl
  | some [_, _] => rfl
  | some [_, _, _] => rfl
  | some (_ :: _ :: _ :: _ :: _) => by
    simp [vectorOr, arityError?, arityReport, ArityError.diagnostic, ArityError.message]

theorem map_diagnostic_readRotation : ∀ components : Option (List Binary32),
    (arityError? (readRotation components)).toList.map ArityError.diagnostic =
      arityReport "rotation" "3 (Euler degrees) or 4 (quaternion x,y,z,w)" [3, 4] components
  | none => rfl
  | some [] => rfl
  | some [_] => rfl
  | some [_, _] => rfl
  | some [_, _, _] => rfl
  | some [_, _, _, _] => rfl
  | some (_ :: _ :: _ :: _ :: _ :: _) => by
    simp [readRotation, arityError?, arityReport, ArityError.diagnostic, ArityError.message]

end Transform

namespace AuthoredTransform

/-- What is reported about the fields, one after the other. -/
def reports (authored : AuthoredTransform) : List Diagnostic :=
  Transform.arityReport "position" "3" [3] authored.position ++
    Transform.arityReport "rotation" "3 (Euler degrees) or 4 (quaternion x,y,z,w)" [3, 4]
      authored.rotation ++
    Transform.arityReport "scale" "3" [3] authored.scale

theorem map_diagnostic_arityErrors (authored : AuthoredTransform) :
    authored.arityErrors.map ArityError.diagnostic = authored.reports := by
  rw [arityErrors, Transform.arityErrors, List.map_append, List.map_append,
    Transform.readPosition, Transform.readScale, Transform.map_diagnostic_vectorOr,
    Transform.map_diagnostic_readRotation, Transform.map_diagnostic_vectorOr, reports]

/-- The identity has in each field what a list of the wrong length stands for. -/
theorem transform_eq (authored : AuthoredTransform) :
    authored.transform = ⟨Transform.positionOf authored.position,
      Transform.rotationOf authored.rotation, Transform.scaleOf authored.scale⟩ := rfl

end AuthoredTransform

namespace Payload

open Transform

/-- The fields are judged one by one, and a wrong length is no reason to fail. -/
theorem completeTransform_eq (authored : AuthoredTransform) :
    completeTransform authored =
      { result := .ok (.transform ⟨positionOf authored.position, rotationOf authored.rotation,
          scaleOf authored.scale⟩),
        diagnostics := authored.reports } := by
  rw [← authored.map_diagnostic_arityErrors, ← authored.transform_eq]
  rfl

/-- A transform is refused, or all of its fields are understood. -/
theorem decode_transform_cases {value : Json} (hvalue : value.WellFormed) :
    (∃ error, (transform.decode value).result = .error error) ∧
        (value.IsRecord 3 →
          ∃ field ∈ AuthoredTransform.fields, value.vector? field.1 field.2 = none) ∨
      value.IsRecord 3 ∧ ∃ authored : AuthoredTransform, authored.WrittenIn value ∧
        transform.decode value = completeTransform authored := by
  cases hread : AuthoredTransform.layout.shape.read value with
  | ok authored =>
    obtain ⟨hrecord, hwritten⟩ := (AuthoredTransform.read_eq_ok_iff_writtenIn hvalue).1 hread
    exact .inr ⟨hrecord, authored, hwritten, by rw [decode, transform, hread]⟩
  | error fault =>
    refine .inl ⟨⟨.ofFault fault, by rw [decode, transform, hread]⟩, fun hrecord => ?_⟩
    by_contra hfields
    push Not at hfields
    obtain ⟨authored, hok⟩ := AuthoredTransform.exists_read_eq_ok hvalue hrecord hfields
    cases hok.symm.trans hread

/-- Nothing that is decoded depends on which way a vector is written. -/
theorem decode_transform_listed {value : Json} (hvalue : value.WellFormed) (name : String)
    (position : Nat) :
    transform.decode (value.modifyField name position Json.listed) = transform.decode value := by
  have hread : transform.layout.shape.read (value.modifyField name position Json.listed) =
      transform.layout.shape.read value := by
    refine congrArg (Except.map _) (Shape.readWith_record_modifyField _ _ name position hvalue ?_)
    intro part hpart
    have hvector : (Shape.option Shape.vector).readWith noneNested part.listed =
      (Shape.option Shape.vector).readWith noneNested part := Shape.readWith_option_listed hpart
    exact ⟨hvector, hvector, hvector, trivial⟩
  rw [decode, decode, hread]

/-- A transform is refused exactly if it has a field that is neither absent nor `null` nor a vector,
or too many of them. Otherwise it is made of the components of its fields, and each field with a
wrong number of them is reported and leaves the others alone. A vector may as well be listed. -/
theorem decode_transform {value : Json} (hvalue : value.WellFormed)
    (hform : (∃ entries, value = .obj entries) ∨ ∃ items, value = .arr items) :
    ((∃ error, (transform.decode value).result = .error error) ↔
        (∃ field ∈ AuthoredTransform.fields, ∃ part, value.part? field.1 field.2 = some part ∧
          part ≠ .null ∧ part.components? = none) ∨
        ∃ items, value = .arr items ∧ 3 < items.length) ∧
      ((∃ error, (transform.decode value).result = .error error) ∨
        ∃ (authored : AuthoredTransform) (placed : Transform), authored.WrittenIn value ∧
          transform.decode value =
            { result := .ok (.transform placed), diagnostics := authored.reports } ∧
          placed = ⟨positionOf authored.position, rotationOf authored.rotation,
            scaleOf authored.scale⟩ ∧ authored.Keeps placed) ∧
      ∀ field ∈ AuthoredTransform.fields,
        transform.decode (value.modifyField field.1 field.2 Json.listed) =
          transform.decode value := by
  have hrecord : value.IsRecord 3 ↔ ¬∃ items, value = .arr items ∧ 3 < items.length := by
    rcases hform with ⟨entries, rfl⟩ | ⟨items, rfl⟩
    · simp [Json.IsRecord]
    · simp [Json.IsRecord]
  refine ⟨?_, ?_, fun field _ => decode_transform_listed hvalue field.1 field.2⟩
  · simp only [← Json.vector?_eq_none_iff]
    rcases decode_transform_cases hvalue with
      ⟨hfails, hnone⟩ | ⟨hthree, authored, hwritten, hdecode⟩
    · refine iff_of_true hfails ?_
      by_cases hthree : value.IsRecord 3
      · exact .inl (hnone hthree)
      · exact .inr (not_not.1 (mt hrecord.2 hthree))
    · refine iff_of_false ?_ ?_
      · rintro ⟨error, herror⟩
        rw [hdecode] at herror
        cases herror
      · rintro (⟨field, hfield, hnone⟩ | hlong)
        · exact hwritten.vector?_ne_none field hfield hnone
        · exact hrecord.1 hthree hlong
  · rcases decode_transform_cases hvalue with ⟨hfails, -⟩ | ⟨-, authored, hwritten, hdecode⟩
    · exact .inl hfails
    · exact .inr ⟨authored, _, hwritten, hdecode.trans (completeTransform_eq authored), rfl,
        authored.keeps_transform⟩

/-- A transform by positions : a position that lacks a component, a quaternion that names its own,
and no scale. -/
def leaning : Json :=
  .arr [.arr [.num (.int 1), .num (.int 2)],
    .obj [("x", .num (.int 0)), ("y", .num (.int 0)), ("z", .num (.int 0)), ("w", .num (.int 1))],
    .null]

theorem decode_transform_leaning :
    (¬∃ error, (transform.decode leaning).result = .error error) ∧
      (transform.decode leaning).diagnostics.map Diagnostic.message =
        ["position has 2 elements; expected 3"] ∧
      transform.decode (leaning.modifyField "rotation" 1 Json.listed) =
        transform.decode leaning := by
  have hwellFormed : leaning.WellFormed := by
    refine .arr ?_
    simp only [List.forall_mem_cons]
    exact ⟨.arr (by simp [Json.WellFormed.num]), .obj (by decide) (by simp [Json.WellFormed.num]),
      .null, by simp⟩
  obtain ⟨hfails, -, hlisted⟩ := decode_transform hwellFormed (.inr ⟨_, rfl⟩)
  refine ⟨fun h => ?_, rfl, hlisted ("rotation", 1) (by decide)⟩
  rcases hfails.1 h with ⟨field, hfield, part, hpart, hnull, hnone⟩ | ⟨items, hitems, hlong⟩
  · simp only [AuthoredTransform.fields, List.mem_cons, List.not_mem_nil, or_false] at hfield
    rcases hfield with rfl | rfl | rfl
    · cases hpart
      cases hnone
    · cases hpart
      cases hnone
    · cases hpart
      exact hnull rfl
  · cases hitems
    exact absurd hlong (by decide)

end Payload

end SceneLoad

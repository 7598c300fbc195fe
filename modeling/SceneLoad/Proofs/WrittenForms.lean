import Mathlib.Data.List.Pairwise
import SceneLoad.Proofs.EditedTemplates
import SceneLoad.Proofs.MergedPayloads
import SceneLoad.Proofs.StandardDecoders

/-!
# Records in different writing

What is read from a written record is a matter of the parts that its fields have of it
(`Field.slots`), and not even of their order (`Field.readsParts_perm`). So two values are read alike
if every field has the same parts of both (`Layout.readWith_iff`).

Two objects that have the same under every name of a field are such values, whatever else they hold
and in whatever order (`Field.perm_slots`). So are a list and the object that has its items under
the names of the fields in turn (`Field.slots_labelled`). For the standard decoders this gives
`decode_of_agree` and `decode_positional`.
-/

namespace SceneLoad

/-! ## Equal parts -/

section Parts

variable {τ : Type} (self : Json → Except Fault τ)

/-- A field may have one part at most, so their order does not matter. -/
theorem Field.readsParts_perm (field : Field τ) {parts parts' : List Json}
    (h : parts.Perm parts') (content : field.content) :
    field.ReadsParts self parts content ↔ field.ReadsParts self parts' content := by
  match parts, parts', h.length_eq with
  | [], [], _ => exact Iff.rfl
  | [part], [part'], _ => rw [List.singleton_perm_singleton.1 h]
  | _ :: _ :: _, _ :: _ :: _, _ => exact Iff.rfl

/-- Every field has the same parts of two values, the first at `position`. -/
def Fields.SameParts {α : Type} (fields : Fields τ α) (position : Nat) (value value' : Json) :
    Prop :=
  ∀ (index : Nat) (field : Field τ), fields.list[index]? = some field →
    (field.slots (position + index) value).Perm (field.slots (position + index) value')

theorem Fields.reads_iff {value value' : Json} : ∀ {α : Type} (fields : Fields τ α)
    (position : Nat) {row : α}, fields.SameParts position value value' →
      (fields.Reads self value position row ↔ fields.Reads self value' position row)
  | _, .nil, _, _, _ => Iff.rfl
  | _, .cons name aliases fallback shape rest, position, (content, row), h => by
    have hfirst := h 0 ⟨name, aliases, fallback, shape⟩ rfl
    have hrest : rest.SameParts (position + 1) value value' := by
      intro index field hfield
      have hnext := h (index + 1) field hfield
      rwa [show position + (index + 1) = position + 1 + index by omega] at hnext
    rw [Fields.Reads, Fields.Reads, Fields.reads_iff rest (position + 1) hrest]
    exact and_congr_left fun _ =>
      Field.readsParts_perm self ⟨name, aliases, fallback, shape⟩ hfirst content

/-- Two values with the same parts for every field are read alike. -/
theorem Layout.readWith_iff {α : Type} (layout : Layout τ α)
    (hnames : layout.fields.names.Nodup) {value value' : Json}
    (hparts : layout.fields.SameParts 0 value value')
    (hrecord : value.IsRecord layout.fields.size ↔ value'.IsRecord layout.fields.size)
    (result : α) :
    layout.shape.readWith self value = .ok result ↔
      layout.shape.readWith self value' = .ok result := by
  rw [Layout.readWith_eq_ok_iff self layout hnames, Layout.readWith_eq_ok_iff self layout hnames,
    hrecord]
  exact and_congr_right fun _ =>
    exists_congr fun row => and_congr_left fun _ => layout.fields.reads_iff self 0 hparts

end Parts

/-! ## Objects that agree on the names of the fields -/

section Names

variable {τ α : Type}

theorem Fields.names_eq_flatMap : ∀ {α : Type} (fields : Fields τ α),
    fields.names = fields.list.flatMap fun field => field.name :: field.aliases
  | _, .nil => rfl
  | _, .cons name aliases _ _ rest => congrArg (name :: aliases ++ ·) rest.names_eq_flatMap

theorem Fields.mem_names {fields : Fields τ α} {key : String} :
    key ∈ fields.names ↔ ∃ field ∈ fields.list, field.Answers key := by
  simp [Fields.names_eq_flatMap, Field.Answers]

/-- Objects that have the same under each name of a field have the same entries for it. -/
theorem Field.perm_slots {field : Field τ} {object object' : Object}
    (hkeys : (Object.keys object).Nodup) (hkeys' : (Object.keys object').Nodup)
    (hagree : ∀ name, field.Answers name → Object.find? object name = Object.find? object' name)
    (position : Nat) :
    (field.slots position (.obj object)).Perm (field.slots position (.obj object')) := by
  refine List.Perm.map Prod.snd ?_
  refine (List.perm_ext_iff_of_nodup (hkeys.of_map.filter _) (hkeys'.of_map.filter _)).2 ?_
  intro (key, value)
  rw [← Field.entries, ← Field.entries, Field.mem_entries, Field.mem_entries,
    ← lookup_eq_some_iff_mem hkeys, ← lookup_eq_some_iff_mem hkeys']
  refine and_congr_left fun hkey => ?_
  exact iff_of_eq (congrArg (· = some value) (hagree key hkey))

theorem Fields.sameParts_of_agree {fields : Fields τ α} {object object' : Object}
    (hkeys : (Object.keys object).Nodup) (hkeys' : (Object.keys object').Nodup)
    (hagree : ∀ name ∈ fields.names, Object.find? object name = Object.find? object' name) :
    fields.SameParts 0 (.obj object) (.obj object') := by
  intro index field hfield
  refine Field.perm_slots hkeys hkeys' (fun name hname => hagree name ?_) _
  exact Fields.mem_names.2 ⟨field, List.mem_of_getElem? hfield, hname⟩

end Names

/-! ## Lists and the objects that name their items -/

section Positions

variable {τ α : Type}

/-- The items under the main names of the fields, in the order of the fields. -/
def Fields.labelled (fields : Fields τ α) (items : List Json) : Object :=
  (fields.list.map Field.name).zip items

theorem Fields.length_list : ∀ {α : Type} (fields : Fields τ α), fields.list.length = fields.size
  | _, .nil => rfl
  | _, .cons _ _ _ _ rest => congrArg (· + 1) rest.length_list

/-- A name belongs to one field. -/
theorem Fields.index_unique {fields : Fields τ α} (hnames : fields.names.Nodup) {key : String}
    {index index' : Nat} {field field' : Field τ} (hfield : fields.list[index]? = some field)
    (hfield' : fields.list[index']? = some field') (hkey : field.Answers key)
    (hkey' : field'.Answers key) : index = index' := by
  rw [Fields.names_eq_flatMap] at hnames
  have hdisjoint := List.pairwise_iff_getElem.1 (List.nodup_flatMap.1 hnames).2
  obtain ⟨hlt, rfl⟩ := List.getElem?_eq_some_iff.1 hfield
  obtain ⟨hlt', rfl⟩ := List.getElem?_eq_some_iff.1 hfield'
  rcases Nat.lt_trichotomy index index' with hbefore | rfl | hafter
  · exact (hdisjoint index index' hlt hlt' hbefore (List.mem_cons.2 hkey)
      (List.mem_cons.2 hkey')).elim
  · rfl
  · exact (hdisjoint index' index hlt' hlt hafter (List.mem_cons.2 hkey')
      (List.mem_cons.2 hkey)).elim

/-- Among labelled items, those for a field are the ones at the places of its names. -/
theorem Field.entries_zip {field : Field τ} : ∀ {names : List String} (items : List Json)
    {position : Nat}, names[position]? = some field.name →
      (∀ index name, names[index]? = some name → field.Answers name → index = position) →
        (field.entries (names.zip items)).map Prod.snd = items[position]?.toList
  | [], _, _, hname, _ => by simp at hname
  | _ :: _, [], _, _, _ => rfl
  | name :: names, item :: items, 0, hname, honly => by
    obtain rfl : name = field.name := by simpa using hname
    have hnone : field.entries (names.zip items) = [] := by
      refine List.filter_eq_nil_iff.2 fun entry hentry hanswers => ?_
      obtain ⟨index, hindex⟩ := List.getElem?_of_mem (List.of_mem_zip hentry).1
      exact Nat.succ_ne_zero index (honly (index + 1) entry.1 hindex (by simpa using hanswers))
    rw [List.zip_cons_cons, Field.entries_cons_of_answers (.inl rfl), hnone]
    rfl
  | name :: names, item :: items, position + 1, hname, honly => by
    have hother : ¬field.Answers name := fun hanswers =>
      absurd (honly 0 name rfl hanswers) (Nat.succ_ne_zero position).symm
    rw [List.zip_cons_cons, Field.entries_cons_of_not_answers hother, List.getElem?_cons_succ]
    exact Field.entries_zip items hname fun index name' hname' hanswers =>
      Nat.succ.inj (honly (index + 1) name' hname' hanswers)

/-- A field has the same part of a list and of the object that names its items. -/
theorem Field.slots_labelled {fields : Fields τ α} (hnames : fields.names.Nodup)
    (items : List Json) {index : Nat} {field : Field τ}
    (hfield : fields.list[index]? = some field) :
    field.slots index (.obj (fields.labelled items)) = field.slots index (.arr items) := by
  refine Field.entries_zip items (by simp [hfield]) fun index' name hname hanswers => ?_
  rw [List.getElem?_map] at hname
  obtain ⟨field', hfield', rfl⟩ := Option.map_eq_some_iff.1 hname
  exact Fields.index_unique hnames hfield' hfield (.inl rfl) hanswers

theorem Layout.readWith_labelled (self : Json → Except Fault τ) (layout : Layout τ α)
    (hnames : layout.fields.names.Nodup) {items : List Json}
    (hlength : items.length ≤ layout.fields.size) (result : α) :
    layout.shape.readWith self (.arr items) = .ok result ↔
      layout.shape.readWith self (.obj (layout.fields.labelled items)) = .ok result := by
  have hparts : layout.fields.SameParts 0 (.arr items) (.obj (layout.fields.labelled items)) := by
    intro index field hfield
    rw [Nat.zero_add, Field.slots_labelled hnames items hfield]
  exact layout.readWith_iff self hnames hparts (iff_of_true hlength trivial) result

/-- A list with more items than there are fields is refused. -/
theorem Layout.readWith_too_long (self : Json → Except Fault τ) (layout : Layout τ α)
    (hnames : layout.fields.names.Nodup) {items : List Json}
    (hlength : layout.fields.size < items.length) :
    ∃ fault, layout.shape.readWith self (.arr items) = .error fault := by
  cases hread : layout.shape.readWith self (.arr items) with
  | error fault => exact ⟨fault, rfl⟩
  | ok result =>
    obtain ⟨hrecord, -⟩ := (Layout.readWith_eq_ok_iff self layout hnames).1 hread
    exact absurd hrecord (Nat.not_le.2 hlength)

theorem Json.depthEntries_zip : ∀ {names : List String} {items : List Json},
    items.length ≤ names.length → depthEntries (names.zip items) = depthItems items
  | _, [], _ => by simp [depthEntries, depthItems]
  | [], _ :: _, h => by simp at h
  | _ :: _, _ :: _, h => by
    rw [List.zip_cons_cons, depthEntries, depthItems,
      depthEntries_zip (Nat.le_of_succ_le_succ h)]

theorem Fields.depth_labelled (fields : Fields τ α) {items : List Json}
    (hlength : items.length ≤ fields.size) :
    (Json.obj (fields.labelled items)).depth = (Json.arr items).depth := by
  rw [Json.depth, Json.depth, Fields.labelled, Json.depthEntries_zip]
  rwa [List.length_map, Fields.length_list]

end Positions

/-! ## Payloads -/

/-- Both are decoded to the same component or both are refused, with the same reports. -/
inductive DecodeOutcome.Alike : DecodeOutcome → DecodeOutcome → Prop
  | decoded (component : DecodedComponent) (reported : List Diagnostic) :
      Alike ⟨.ok component, reported⟩ ⟨.ok component, reported⟩
  | refused (error error' : DecodeError) (reported : List Diagnostic) :
      Alike ⟨.error error, reported⟩ ⟨.error error', reported⟩

theorem DecodeOutcome.Alike.refl : ∀ outcome : DecodeOutcome, outcome.Alike outcome
  | ⟨.ok component, reported⟩ => .decoded component reported
  | ⟨.error error, reported⟩ => .refused error error reported

namespace Payload

theorem nodup_kinds : (standard.flatMap kinds).Nodup := by
  decide +kernel

/-- A kind belongs to one payload. -/
theorem eq_of_mem_kinds {payload other : Payload} (hpayload : payload ∈ standard)
    (hother : other ∈ standard) {kind : String} (hkind : kind ∈ payload.kinds)
    (hkind' : kind ∈ other.kinds) : other = payload := by
  by_contra hne
  have hsymm : Std.Symm (Function.onFun List.Disjoint kinds) :=
    ⟨fun _ _ h _ hright hleft => h hleft hright⟩
  have hdisjoint := (List.nodup_flatMap.1 nodup_kinds).2.forall hother hpayload hne
  exact hdisjoint hkind' hkind

/-- The payload that declares a kind decodes it. -/
theorem decoder?_standard {payload : Payload} (hpayload : payload ∈ standard) {kind : String}
    (hkind : kind ∈ payload.kinds) :
    DecoderRegistry.standard.decoder? kind = some payload.decoder := by
  have hdeclared : (DecoderRegistry.standard.decoder? kind).isSome = true := by
    rw [DecoderRegistry.standard, DecoderRegistry.isSome_decoder?_registerAll]
    exact ⟨payload.decoder, List.mem_map_of_mem hpayload, hkind⟩
  obtain ⟨decoder, hdecoder⟩ := Option.isSome_iff_exists.1 hdeclared
  obtain ⟨other, hother, rfl, hdeclares⟩ := exists_declaring_payload hdecoder
  rw [hdecoder, eq_of_mem_kinds hpayload hother hkind hdeclares]

/-- Values from which the same is read are decoded alike. -/
theorem decode_alike {payload : Payload} (hpayload : payload ∈ standard) {kind : String}
    (hkind : kind ∈ payload.kinds) {value value' : Json}
    (hsame : ∀ content, payload.layout.shape.read value = .ok content ↔
      payload.layout.shape.read value' = .ok content) :
    (DecoderRegistry.standard.decode kind value).Alike
      (DecoderRegistry.standard.decode kind value') := by
  have hclaim := DecoderRegistry.claim?_of_decoder? (decoder?_standard hpayload hkind)
  cases hread : payload.layout.shape.read value with
  | ok content =>
    have hdecode : payload.decode value = payload.decode value' := by
      rw [decode, decode, hread, (hsame content).1 hread]
    have houtcome : DecoderRegistry.standard.decode kind value =
        DecoderRegistry.standard.decode kind value' := by
      rw [DecoderRegistry.decode, DecoderRegistry.decode, hclaim]
      dsimp only [decoder]
      rw [hdecode]
    rw [houtcome]
    exact .refl _
  | error fault =>
    cases hread' : payload.layout.shape.read value' with
    | ok content =>
      rw [(hsame content).2 hread'] at hread
      cases hread
    | error fault' =>
      rw [DecoderRegistry.decode, DecoderRegistry.decode, hclaim]
      dsimp only [decoder]
      rw [decode, decode, hread, hread']
      exact .refused ..

/-- Two objects that have the same under every name of a field are decoded alike, whatever the order
of their keys and whatever other keys they have. -/
theorem decode_of_agree {payload : Payload} (hpayload : payload ∈ standard) {kind : String}
    (hkind : kind ∈ payload.kinds) {object object' : Object}
    (hkeys : (Object.keys object).Nodup) (hkeys' : (Object.keys object').Nodup)
    (hagree : ∀ name ∈ payload.layout.fields.names,
      Object.find? object name = Object.find? object' name) :
    (DecoderRegistry.standard.decode kind (.obj object)).Alike
      (DecoderRegistry.standard.decode kind (.obj object')) := by
  refine decode_alike hpayload hkind fun content => ?_
  have hparts := Fields.sameParts_of_agree hkeys hkeys' hagree
  exact payload.layout.readWith_iff noneNested (nodup_names payload hpayload) hparts Iff.rfl content

/-- A script with a remark of its author. -/
def dimmer : Object :=
  [("code", .str "dim()"), ("enabled", .bool false), ("author", .str "night shift")]

/-- The same script in another order, and with another remark. -/
def rearrangedDimmer : Object :=
  [("remark", .null), ("enabled", .bool false), ("code", .str "dim()")]

theorem decode_of_agree_dimmer :
    (DecoderRegistry.standard.decode "Script" (.obj dimmer)).Alike
        (DecoderRegistry.standard.decode "Script" (.obj rearrangedDimmer)) ∧
      ∃ component,
        (DecoderRegistry.standard.decode "Script" (.obj dimmer)).result = .ok component := by
  have hmem : script ∈ standard := by simp [standard]
  have hkind : "Script" ∈ script.kinds := List.mem_singleton.2 rfl
  refine ⟨decode_of_agree hmem hkind (by decide) (by decide) fun name hname => ?_, _, rfl⟩
  have hnames : name ∈ ["enabled", "scriptPath", "script_path", "scriptRef", "code",
    "parameters"] := hname
  simp only [List.mem_cons, List.not_mem_nil, or_false] at hnames
  rcases hnames with rfl | rfl | rfl | rfl | rfl | rfl <;> rfl

/-- A list of at most as many items as there are fields is decoded like the object that has the
items under the names of the fields in turn, and a longer one is refused. The same holds of
definitions and of templates. -/
theorem decode_positional :
    (∀ payload ∈ standard, ∀ kind ∈ payload.kinds, ∀ items : List Json,
      (items.length ≤ payload.layout.fields.size →
        (DecoderRegistry.standard.decode kind (.arr items)).Alike
          (DecoderRegistry.standard.decode kind (.obj (payload.layout.fields.labelled items)))) ∧
      (payload.layout.fields.size < items.length →
        ∃ error, (DecoderRegistry.standard.decode kind (.arr items)).result = .error error)) ∧
    (∀ items : List Json,
      (items.length ≤ Definition.layout.fields.size → ∀ definition,
        Definition.read (.arr items) = .ok definition ↔
          Definition.read (.obj (Definition.layout.fields.labelled items)) = .ok definition) ∧
      (Definition.layout.fields.size < items.length →
        ∃ fault, Definition.read (.arr items) = .error fault)) ∧
    ∀ items : List Json,
      (items.length ≤ Template.layout.fields.size → ∀ template,
        Template.read (.arr items) = .ok template ↔
          Template.read (.obj (Template.layout.fields.labelled items)) = .ok template) ∧
      (Template.layout.fields.size < items.length →
        ∃ fault, Template.read (.arr items) = .error fault) := by
  refine ⟨fun payload hpayload kind hkind items => ⟨fun hlength => ?_, fun hlength => ?_⟩,
    fun items => ⟨fun hlength => ?_, fun hlength => ?_⟩,
    fun items => ⟨fun hlength template => ?_, fun hlength => ?_⟩⟩
  · exact decode_alike hpayload hkind
      (payload.layout.readWith_labelled noneNested (nodup_names payload hpayload) hlength)
  · obtain ⟨fault, hfault⟩ := payload.layout.readWith_too_long noneNested
      (nodup_names payload hpayload) hlength
    have hrefused : (payload.decoder.decode (.arr items)).result = .error (.ofFault fault) := by
      show (payload.decode (.arr items)).result = _
      rw [decode, show payload.layout.shape.read (.arr items) = .error fault from hfault]
    exact ⟨_, DecoderRegistry.decode_of_error (decoder?_standard hpayload hkind) hrefused⟩
  · exact Definition.layout.readWith_labelled Template.read (by decide) hlength
  · exact Definition.layout.readWith_too_long Template.read (by decide) hlength
  · rw [Template.read, Template.read, Fields.depth_labelled _ hlength]
    exact Template.layout.readWith_labelled _ (by decide) hlength template
  · exact Template.layout.readWith_too_long _ (by decide) hlength

theorem decode_positional_desk :
    (DecoderRegistry.standard.decode "PrefabInstance" (.arr [.str "desk", .num (.int 2)])).Alike
        (DecoderRegistry.standard.decode "PrefabInstance"
          (.obj [("prefabId", .str "desk"), ("version", .num (.int 2))])) ∧
      ∃ error, (DecoderRegistry.standard.decode "PrefabInstance"
        (.arr [.str "desk", .num (.int 2), .null, .null, .null])).result = .error error := by
  have hmem : prefabInstance ∈ standard := by simp [standard]
  have hkind : "PrefabInstance" ∈ prefabInstance.kinds := List.mem_singleton.2 rfl
  have hpositions := decode_positional.1 prefabInstance hmem "PrefabInstance" hkind
  exact ⟨(hpositions _).1 (by decide), (hpositions _).2 (by decide)⟩

end Payload

end SceneLoad

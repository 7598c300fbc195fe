import SceneLoad.Proofs.AuthoredOrder
import SceneLoad.Proofs.PatchParts

/-!
# The grammar of patches

A patch is an object, and its entry for the children, if there is one, is `null`, or an array of
`null`s and patches, or an object of patches whose keys denote indices (`Patch.Grammar`). Exactly
these values are parsed (`grammar_iff`). The parsed patch has the other entries as its components,
and for each index the child that is written last for it (`Patch.Reads`).

A value that is not parsed may be wrong in several places (`Patch.Offends`). The fault that is
reported is at the one that is written first (`Patch.FirstOffence`).
-/

namespace SceneLoad

theorem Path.append_renderAfter_keys : ∀ (step : String) (address : List String),
    step ++ Path.renderAfter (address.map .key) = ".".intercalate (step :: address)
  | step, [] => by
    rw [List.map_nil, Path.renderAfter, String.append_empty, String.intercalate_singleton]
  | step, next :: address => by
    rw [String.intercalate_cons_cons, ← append_renderAfter_keys next address, List.map_cons,
      Path.renderAfter, String.append_assoc, String.append_assoc]

/-- A path of keys as text. -/
theorem Path.render_keys (address : List String) :
    Path.render (address.map .key) = if address = [] then "." else ".".intercalate address := by
  cases address with
  | nil => rfl
  | cons step address =>
    rw [if_neg (List.cons_ne_nil step address), ← append_renderAfter_keys]
    rfl

namespace Patch

mutual

/-- The values that are patches. -/
inductive Grammar : Json → Prop
  | obj {entries : Object}
      (hchildren : ∀ value, Object.find? entries childrenKey = some value →
        ChildrenGrammar value) : Grammar (.obj entries)

/-- The values that hold the patches of children. -/
inductive ChildrenGrammar : Json → Prop
  | null : ChildrenGrammar .null
  | arr {items : List Json} (hitems : ∀ item ∈ items, item ≠ .null → Grammar item) :
      ChildrenGrammar (.arr items)
  | obj {entries : Object} (hkeys : ∀ entry ∈ entries, ∃ index, Text.Denotes entry.1 index)
      (hentries : ∀ entry ∈ entries, Grammar entry.2) : ChildrenGrammar (.obj entries)

end

/-- The value that counts for the child at an index : of an array the item there, unless it is
`null`, and of an object the last entry whose key denotes the index. -/
def override? (index : Nat) : Json → Option Json
  | .arr items =>
    match items[index]? with
    | some .null => none
    | found => found
  | .obj entries =>
    (entries.filter fun entry => Text.Denotes entry.1 index).getLast?.map Prod.snd
  | _ => none

/-- A patch is what an object says. -/
structure Reads (entries : Object) (patch : Patch) : Prop where
  components : patch.components = entries.filter fun entry => entry.1 ≠ childrenKey
  ascending : (SortedMap.keys patch.children).Pairwise (· < ·)
  child : ∀ index value, override? index (childrenOf entries) = some value →
    ∃ child, parse value = .ok child ∧ SortedMap.find? patch.children index = some child
  absent : ∀ index, override? index (childrenOf entries) = none →
    SortedMap.find? patch.children index = none

/-- A value overrides a child, with the step to it. -/
inductive Overrides : Json → String → Json → Prop
  | item {items : List Json} {index : Nat} {item : Json} (hitem : items[index]? = some item)
      (hnull : item ≠ .null) : Overrides (.arr items) (toString index) item
  | entry {entries : Object} {key : String} {value : Json} {index : Nat}
      (hmem : (key, value) ∈ entries) (hkey : Text.Denotes key index) :
      Overrides (.obj entries) key value

/-- What is wrong with a value, and the address at which it is. -/
inductive Offends : Json → List String → PatchCause → Prop
  | notObject {value : Json} (h : ∀ entries, value ≠ .obj entries) : Offends value [] .notObject
  | childrenForm {entries : Object} {value : Json}
      (hfind : Object.find? entries childrenKey = some value) (h : holdsParts value = false) :
      Offends (.obj entries) [childrenKey] .childrenForm
  | childKey {entries keyed : Object} {key : String} {value : Json}
      (hfind : Object.find? entries childrenKey = some (.obj keyed)) (hmem : (key, value) ∈ keyed)
      (hkey : ∀ index, ¬Text.Denotes key index) :
      Offends (.obj entries) [childrenKey, key] .childKey
  | child {entries : Object} {children value : Json} {step : String} {address : List String}
      {cause : PatchCause} (hfind : Object.find? entries childrenKey = some children)
      (hchild : Overrides children step value) (h : Offends value address cause) :
      Offends (.obj entries) (childrenKey :: step :: address) cause

/-- The first thing that is wrong with a value. -/
structure FirstOffence (value : Json) (address : List String) (cause : PatchCause) : Prop where
  offends : Offends value address cause
  first : ∀ address' cause', Offends value address' cause' →
    address' = address ∧ cause' = cause ∨ value.Before address address'

theorem FirstOffence.unique {value : Json} {address address' : List String}
    {cause cause' : PatchCause} (hvalue : value.WellFormed) (h : FirstOffence value address cause)
    (h' : FirstOffence value address' cause') : address' = address ∧ cause' = cause := by
  rcases h.first address' cause' h'.offends with heq | hbefore
  · exact heq
  rcases h'.first address cause h.offends with ⟨rfl, rfl⟩ | hbefore'
  · exact ⟨rfl, rfl⟩
  · exact absurd hbefore' (hbefore.asymm hvalue)

/-! ## Parts of well-formed values -/

theorem find?_childrenKey {entries : Object} (h : childrenOf entries ≠ .null) :
    Object.find? entries childrenKey = some (childrenOf entries) := by
  unfold childrenOf at h ⊢
  cases hfind : Object.find? entries childrenKey with
  | none => exact absurd (by rw [hfind, Option.getD_none]) h
  | some value => rfl

theorem find?_of_mem_parts {entries : Object} {part : Part}
    (h : part ∈ parts (childrenOf entries)) :
    Object.find? entries childrenKey = some (childrenOf entries) := by
  refine find?_childrenKey fun hnull => ?_
  rw [hnull] at h
  cases h

theorem depth_lt_of_mem_parts {value : Json} {part : Part} (h : part ∈ parts value) :
    part.value.depth < value.depth := by
  cases value with
  | arr items =>
    obtain ⟨index, item, hitem, -, rfl⟩ := mem_parts_arr.1 h
    rw [Json.depth]
    exact Nat.lt_succ_of_le (Json.depth_le_of_mem_items (List.mem_of_getElem? hitem))
  | obj entries =>
    obtain ⟨key, value, hmem, rfl⟩ := mem_parts_obj.1 h
    rw [Json.depth]
    exact Nat.lt_succ_of_le (Json.depth_le_of_mem_entries hmem)
  | _ => cases h

theorem wellFormed_of_mem_parts {entries : Object} {part : Part}
    (hentries : (Json.obj entries).WellFormed) (h : part ∈ parts (childrenOf entries)) :
    part.value.WellFormed := by
  have hchildren := hentries.of_find? (find?_of_mem_parts h)
  cases hvalue : childrenOf entries with
  | arr items =>
    rw [hvalue] at h hchildren
    obtain ⟨index, item, hitem, -, rfl⟩ := mem_parts_arr.1 h
    cases hchildren with
    | arr hitems => exact hitems item (List.mem_of_getElem? hitem)
  | obj keyed =>
    rw [hvalue] at h hchildren
    obtain ⟨key, value, hmem, rfl⟩ := mem_parts_obj.1 h
    exact hchildren.of_mem hmem
  | _ =>
    rw [hvalue] at h
    cases h

/-- What follows for a patch from its parts holds of all well-formed values. -/
theorem induction_parts {P : Json → Prop}
    (hother : ∀ value, (∀ entries, value ≠ .obj entries) → P value)
    (hobj : ∀ entries, (Json.obj entries).WellFormed →
      (∀ part ∈ parts (childrenOf entries), P part.value) → P (.obj entries))
    {value : Json} (h : value.WellFormed) : P value := by
  induction hdepth : value.depth using Nat.strongRecOn generalizing value with
  | ind depth ih =>
    subst hdepth
    by_cases hvalue : ∃ entries, value = .obj entries
    · obtain ⟨entries, rfl⟩ := hvalue
      refine hobj entries h fun part hpart => ?_
      have hfind := find?_of_mem_parts hpart
      have hchildren : (childrenOf entries).depth ≤ Json.depthEntries entries :=
        Json.depth_le_of_mem_entries (mem_of_lookup hfind)
      have hpartDepth := depth_lt_of_mem_parts hpart
      refine ih part.value.depth ?_ (wellFormed_of_mem_parts h hpart) rfl
      rw [Json.depth]
      omega
    · exact hother value (not_exists.1 hvalue)

/-! ## The grammar -/

theorem childrenGrammar_iff {value : Json} :
    ChildrenGrammar value ↔
      holdsParts value = true ∧
        ∀ part ∈ parts value, part.index?.isSome = true ∧ Grammar part.value := by
  constructor
  · intro h
    cases h with
    | null => exact ⟨rfl, nofun⟩
    | arr hitems =>
      refine ⟨rfl, fun part hpart => ?_⟩
      obtain ⟨index, item, hitem, hnull, rfl⟩ := mem_parts_arr.1 hpart
      exact ⟨rfl, hitems item (List.mem_of_getElem? hitem) hnull⟩
    | obj hkeys hentries =>
      refine ⟨rfl, fun part hpart => ?_⟩
      obtain ⟨key, value, hmem, rfl⟩ := mem_parts_obj.1 hpart
      obtain ⟨index, hindex⟩ := hkeys _ hmem
      exact ⟨by rw [Text.parseIndex_eq_some_iff.2 hindex]; rfl, hentries _ hmem⟩
  · rintro ⟨hholds, hparts⟩
    cases value with
    | null => exact .null
    | arr items =>
      refine .arr fun item hmem hnull => ?_
      obtain ⟨index, hitem⟩ := List.getElem?_of_mem hmem
      exact (hparts _ (mem_parts_arr.2 ⟨index, item, hitem, hnull, rfl⟩)).2
    | obj entries =>
      have hentry : ∀ entry ∈ entries, keyedPart entry ∈ parts (.obj entries) :=
        fun entry hmem => List.mem_map_of_mem hmem
      refine .obj (fun entry hmem => ?_) fun entry hmem => (hparts _ (hentry entry hmem)).2
      obtain ⟨index, hindex⟩ := Option.isSome_iff_exists.1 (hparts _ (hentry entry hmem)).1
      exact ⟨index, Text.parseIndex_eq_some_iff.1 hindex⟩
    | _ => cases hholds

theorem grammar_obj_iff {entries : Object} :
    Grammar (.obj entries) ↔ ChildrenGrammar (childrenOf entries) := by
  unfold childrenOf
  constructor
  · rintro ⟨hchildren⟩
    cases hfind : Object.find? entries childrenKey with
    | none => exact .null
    | some value => exact hchildren value hfind
  · intro h
    refine .obj fun value hfind => ?_
    rwa [hfind] at h

/-- The values that are parsed are those of the grammar. -/
theorem grammar_iff {value : Json} (h : value.WellFormed) :
    (∃ patch, parse value = .ok patch) ↔ Grammar value := by
  refine induction_parts (P := fun value => (∃ patch, parse value = .ok patch) ↔ Grammar value)
    (fun value hvalue => ?_) (fun entries hentries ih => ?_) h
  · rw [parse_of_not_obj hvalue]
    refine iff_of_false nofun ?_
    rintro ⟨-⟩
    exact hvalue _ rfl
  · rw [exists_parse_obj_iff hentries.nodup_keys, grammar_obj_iff, childrenGrammar_iff]
    refine and_congr_right fun _ => forall₂_congr fun part hpart => ?_
    rw [← ih part hpart, Prod.exists]
    simp only [Part.read_eq_ok_iff, Option.isSome_iff_exists]
    exact ⟨fun ⟨index, child, hindex, hchild⟩ => ⟨⟨index, hindex⟩, child, hchild⟩,
      fun ⟨⟨index, hindex⟩, child, hchild⟩ => ⟨index, child, hindex, hchild⟩⟩

/-! ## What is parsed -/

theorem override?_arr_eq_some_iff {items : List Json} {index : Nat} {value : Json} :
    override? index (.arr items) = some value ↔ items[index]? = some value ∧ value ≠ .null := by
  unfold override?
  dsimp only
  split
  · next hnull =>
    refine iff_of_false nofun ?_
    rintro ⟨hvalue, hne⟩
    exact hne (Option.some.inj (hvalue.symm.trans hnull))
  · next hnull =>
    refine (and_iff_left_of_imp fun hvalue heq => ?_).symm
    exact hnull (heq ▸ hvalue)

/-- The last part for an index has the value that counts. -/
theorem getLast?_parts (index : Nat) (value : Json) :
    ((parts value).filter fun part => part.index? = some index).getLast?.map Part.value =
      override? index value := by
  cases value with
  | arr items =>
    -- All parts for the index are the same one, so the last of them is.
    cases hlast : ((parts (.arr items)).filter fun part => part.index? = some index).getLast? with
    | none =>
      refine (Option.eq_none_iff_forall_ne_some.2 fun value hvalue => ?_).symm
      obtain ⟨hitem, hnull⟩ := override?_arr_eq_some_iff.1 hvalue
      have hpart := mem_parts_arr.2 ⟨index, value, hitem, hnull, rfl⟩
      have hfilter := List.filter_eq_nil_iff.1 (List.getLast?_eq_none_iff.1 hlast) _ hpart
      exact hfilter (decide_eq_true rfl)
    | some part =>
      obtain ⟨hpart, hindex⟩ := List.mem_filter.1 (List.mem_of_getLast? hlast)
      obtain ⟨index', item, hitem, hnull, rfl⟩ := mem_parts_arr.1 hpart
      obtain rfl := Option.some.inj (of_decide_eq_true hindex)
      exact (override?_arr_eq_some_iff.2 ⟨hitem, hnull⟩).symm
  | obj entries =>
    have hdenotes : ∀ entry ∈ entries,
        (decide ((keyedPart entry).index? = some index)) =
          decide (Text.Denotes entry.1 index) := fun entry _ =>
      decide_eq_decide.2 Text.parseIndex_eq_some_iff
    rw [parts, List.filter_map, List.getLast?_map, Option.map_map, override?]
    exact congrArg (fun list => (List.getLast? list).map Prod.snd) (List.filter_congr hdenotes)
  | _ => rfl

/-- A patch that is parsed is what the object says. -/
theorem reads_of_parse {entries : Object} {patch : Patch} (hnodup : (Object.keys entries).Nodup)
    (h : parse (.obj entries) = .ok patch) : Reads entries patch := by
  obtain ⟨-, hcomponents, hread⟩ := (parse_obj_eq_ok_iff hnodup).1 h
  have hfind := fun index => find?_parseParts index hread
  refine ⟨hcomponents, pairwise_parseParts .nil hread, fun index value hvalue => ?_,
    fun index hnone => ?_⟩
  · rw [← getLast?_parts] at hvalue
    obtain ⟨part, hlast, rfl⟩ := Option.map_eq_some_iff.1 hvalue
    have hpart : part ∈ parts (childrenOf entries) :=
      List.mem_of_mem_filter (List.mem_of_getLast? hlast)
    obtain ⟨⟨index', child⟩, hpartRead⟩ := exists_parseParts_iff.1 ⟨_, hread⟩ part hpart
    have hchild := (Part.read_eq_ok_iff.1 hpartRead).2
    refine ⟨child, hchild, ?_⟩
    rw [hfind index, hlast, Option.bind_some, hchild]
    rfl
  · rw [← getLast?_parts, Option.map_eq_none_iff] at hnone
    rw [hfind index, hnone]
    rfl

/-! ## What is reported -/

/-- What is wrong with a part, and the address at which it is. -/
def Part.Blames (part : Part) (address : List String) (cause : PatchCause) : Prop :=
  match part.index? with
  | none => address = [] ∧ cause = .childKey
  | some _ => Offends part.value address cause

/-- What is wrong with a patch is wrong with one of its parts, if it can have parts. -/
theorem offends_obj_iff {entries : Object} {address : List String} {cause : PatchCause}
    (hholds : holdsParts (childrenOf entries) = true) :
    Offends (.obj entries) address cause ↔
      ∃ part ∈ parts (childrenOf entries), ∃ rest,
        address = childrenKey :: part.segment :: rest ∧ part.Blames rest cause := by
  have hchildren : ∀ {value}, Object.find? entries childrenKey = some value →
      childrenOf entries = value := fun hfind => by rw [childrenOf, hfind, Option.getD_some]
  constructor
  · intro h
    cases h with
    | notObject h => exact absurd rfl (h entries)
    | childrenForm hfind hform =>
      rw [hchildren hfind, hform] at hholds
      cases hholds
    | childKey hfind hmem hkey =>
      rw [hchildren hfind]
      refine ⟨_, mem_parts_obj.2 ⟨_, _, hmem, rfl⟩, [], rfl, ?_⟩
      rw [Part.Blames, Text.parseIndex_eq_none_iff.2 hkey]
      exact ⟨rfl, rfl⟩
    | child hfind hchild h =>
      rw [hchildren hfind]
      cases hchild with
      | item hitem hnull => exact ⟨_, mem_parts_arr.2 ⟨_, _, hitem, hnull, rfl⟩, _, rfl, h⟩
      | entry hmem hkey =>
        refine ⟨_, mem_parts_obj.2 ⟨_, _, hmem, rfl⟩, _, rfl, ?_⟩
        rw [Part.Blames, Text.parseIndex_eq_some_iff.2 hkey]
        exact h
  · rintro ⟨part, hpart, rest, rfl, hblames⟩
    have hfind := find?_of_mem_parts hpart
    generalize childrenOf entries = value at hpart hfind
    cases value with
    | arr items =>
      obtain ⟨index, item, hitem, hnull, rfl⟩ := mem_parts_arr.1 hpart
      exact .child hfind (.item hitem hnull) hblames
    | obj keyed =>
      obtain ⟨key, value, hmem, rfl⟩ := mem_parts_obj.1 hpart
      rw [Part.Blames] at hblames
      cases hindex : Text.parseIndex key with
      | none =>
        rw [hindex] at hblames
        obtain ⟨rfl, rfl⟩ := hblames
        exact .childKey hfind hmem (Text.parseIndex_eq_none_iff.1 hindex)
      | some index =>
        rw [hindex] at hblames
        exact .child hfind (.entry hmem (Text.parseIndex_eq_some_iff.1 hindex)) hblames
    | _ => cases hpart

/-- Nothing is wrong with a value that is parsed. -/
theorem not_offends_of_parse {value : Json} (h : value.WellFormed) {patch : Patch}
    (hparse : parse value = .ok patch) (address : List String) (cause : PatchCause) :
    ¬Offends value address cause := by
  refine induction_parts (P := fun value => ∀ patch, parse value = .ok patch →
    ∀ address cause, ¬Offends value address cause) (fun value hvalue patch hparse => ?_)
    (fun entries hentries ih patch hparse address cause hoffends => ?_) h patch hparse address cause
  · rw [parse_of_not_obj hvalue] at hparse
    cases hparse
  · obtain ⟨hholds, hread⟩ := (exists_parse_obj_iff hentries.nodup_keys).1 ⟨patch, hparse⟩
    obtain ⟨part, hpart, rest, -, hblames⟩ := (offends_obj_iff hholds).1 hoffends
    obtain ⟨⟨index, child⟩, hpartRead⟩ := hread part hpart
    obtain ⟨hindex, hchild⟩ := Part.read_eq_ok_iff.1 hpartRead
    rw [Part.Blames, hindex] at hblames
    exact ih part hpart child hchild rest cause hblames

theorem filterMap_sublist_map {α β : Type} {f : α → Option β} {g : α → β}
    (h : ∀ a b, f a = some b → b = g a) : ∀ list : List α,
      List.Sublist (list.filterMap f) (list.map g)
  | [] => .slnil
  | a :: rest => by
    rw [List.map_cons]
    cases hf : f a with
    | none =>
      rw [List.filterMap_cons_none hf]
      exact (filterMap_sublist_map h rest).cons _
    | some b =>
      rw [List.filterMap_cons_some hf, h a b hf]
      exact (filterMap_sublist_map h rest).cons_cons _

/-- A part as a member of the value. -/
def Part.member (part : Part) : String × Json := (part.segment, part.value)

/-- Parts are members, in the same order. -/
theorem parts_sublist_members (value : Json) :
    List.Sublist ((parts value).map Part.member) value.members := by
  cases value with
  | arr items =>
    rw [parts, Json.members, List.map_filterMap]
    refine filterMap_sublist_map ?_ _
    rintro ⟨item, index⟩ member hmember
    obtain ⟨part, hpart, rfl⟩ := Option.map_eq_some_iff.1 hmember
    obtain ⟨-, rfl⟩ := itemPart?_eq_some_iff.1 hpart
    rfl
  | obj entries =>
    rw [parts, Json.members, List.map_map]
    exact (List.map_id entries).symm ▸ List.Sublist.refl _
  | _ => exact .slnil

variable {entries : Object}

theorem mem_members_of_mem_parts {part : Part} (h : part ∈ parts (childrenOf entries)) :
    (childrenKey, childrenOf entries) ∈ (Json.obj entries).members :=
  mem_of_lookup (find?_of_mem_parts h)

/-- What is in an earlier part of a patch is written before what is in a later one. -/
theorem before_of_mem_later {before after : List Part} {part later : Part}
    (hparts : parts (childrenOf entries) = before ++ part :: after) (hlater : later ∈ after)
    (rest rest' : List String) :
    (Json.obj entries).Before (childrenKey :: part.segment :: rest)
      (childrenKey :: later.segment :: rest') := by
  have hpart : part ∈ parts (childrenOf entries) := by
    rw [hparts]
    exact List.mem_append_right _ List.mem_cons_self
  have hpair : List.Sublist [part, later] (parts (childrenOf entries)) := by
    rw [hparts]
    exact ((List.singleton_sublist.2 hlater).cons_cons part).trans
      (List.sublist_append_right before _)
  exact .under (mem_members_of_mem_parts hpart)
    (.beside rest rest' ((hpair.map Part.member).trans (parts_sublist_members _)))

/-- What is written earlier in a part of a patch is so in the patch. -/
theorem before_of_mem_part {part : Part} (hpart : part ∈ parts (childrenOf entries))
    {rest rest' : List String} (h : part.value.Before rest rest') :
    (Json.obj entries).Before (childrenKey :: part.segment :: rest)
      (childrenKey :: part.segment :: rest') := by
  have hmember : part.member ∈ (childrenOf entries).members :=
    (parts_sublist_members _).subset (List.mem_map_of_mem hpart)
  exact .under (mem_members_of_mem_parts hpart) (.under hmember h)

/-- Nothing is wrong with a part that is read. -/
theorem Part.not_blames_of_read {part : Part} {entry : Nat × Patch}
    (hvalue : part.value.WellFormed) (hread : part.read = .ok entry) (rest : List String)
    (cause : PatchCause) : ¬part.Blames rest cause := by
  obtain ⟨hindex, hchild⟩ := Part.read_eq_ok_iff.1 hread
  rw [Part.Blames, hindex]
  exact not_offends_of_parse hvalue hchild rest cause

/-- What is reported of a part that is not read is the first thing that is wrong with it. -/
theorem Part.exists_first {part : Part} {fault : PatchFault} (hread : part.read = .error fault)
    (hvalue : ∀ inner, parse part.value = .error inner →
      ∃ address, inner.path = address.map .key ∧ FirstOffence part.value address inner.cause) :
    ∃ rest, fault.path = (part.segment :: rest).map .key ∧ part.Blames rest fault.cause ∧
      ∀ rest' cause', part.Blames rest' cause' →
        rest' = rest ∧ cause' = fault.cause ∨ part.value.Before rest rest' := by
  unfold Part.read at hread
  unfold Part.Blames
  cases hindex : part.index? with
  | none =>
    rw [hindex] at hread
    obtain rfl := Except.error.inj hread
    exact ⟨[], rfl, ⟨rfl, rfl⟩, fun rest' cause' h => .inl h⟩
  | some index =>
    rw [hindex] at hread
    cases hparse : parse part.value with
    | ok child =>
      rw [hparse] at hread
      cases hread
    | error inner =>
      rw [hparse] at hread
      obtain rfl := Except.error.inj hread
      obtain ⟨address, hpath, hoffends, hfirst⟩ := hvalue inner hparse
      exact ⟨address, congrArg (.key part.segment :: ·) hpath, hoffends, hfirst⟩

/-- A value that cannot hold parts is all that is wrong with the patch that has it. -/
theorem firstOffence_childrenForm (hform : holdsParts (childrenOf entries) = false) :
    FirstOffence (.obj entries) [childrenKey] .childrenForm := by
  have hfind : Object.find? entries childrenKey = some (childrenOf entries) := by
    refine find?_childrenKey fun hnull => ?_
    rw [hnull] at hform
    cases hform
  refine ⟨.childrenForm hfind hform, fun address' cause' h => ?_⟩
  cases h with
  | notObject h => exact absurd rfl (h entries)
  | childrenForm => exact .inl ⟨rfl, rfl⟩
  | childKey hfind' =>
    rw [Option.some.inj (hfind.symm.trans hfind')] at hform
    cases hform
  | child hfind' hchild =>
    rw [Option.some.inj (hfind.symm.trans hfind')] at hform
    cases hchild <;> cases hform

/-- The fault of a value that is not parsed is the first thing that is wrong with it. -/
theorem exists_firstOffence {value : Json} (h : value.WellFormed) {fault : PatchFault}
    (hparse : parse value = .error fault) :
    ∃ address, fault.path = address.map .key ∧ FirstOffence value address fault.cause := by
  refine induction_parts (P := fun value => ∀ fault, parse value = .error fault →
    ∃ address, fault.path = address.map .key ∧ FirstOffence value address fault.cause)
    (fun value hvalue fault hparse => ?_) (fun entries hentries ih fault hparse => ?_) h fault
    hparse
  · rw [parse_of_not_obj hvalue] at hparse
    obtain rfl := Except.error.inj hparse
    refine ⟨[], rfl, .notObject hvalue, fun address' cause' h => ?_⟩
    cases h with
    | notObject => exact .inl ⟨rfl, rfl⟩
    | _ => exact absurd rfl (hvalue _)
  rcases parse_obj_eq_error hentries.nodup_keys hparse with
    ⟨hform, rfl⟩ | ⟨hholds, inner, hread, rfl⟩
  · exact ⟨[childrenKey], rfl, firstOffence_childrenForm hform⟩
  -- Parts before the one that is reported have nothing wrong with them.
  obtain ⟨before, part, after, hparts, hbefore, hpartRead⟩ := parseParts_eq_error hread
  have hpart : part ∈ parts (childrenOf entries) := by
    rw [hparts]
    exact List.mem_append_right _ List.mem_cons_self
  obtain ⟨rest, hpath, hblames, hfirst⟩ := Part.exists_first hpartRead (ih part hpart)
  refine ⟨childrenKey :: part.segment :: rest, congrArg (.key childrenKey :: ·) hpath,
    (offends_obj_iff hholds).2 ⟨part, hpart, rest, rfl, hblames⟩, fun address' cause' h => ?_⟩
  obtain ⟨part', hpart', rest', rfl, hblames'⟩ := (offends_obj_iff hholds).1 h
  have hmem := hpart'
  rw [hparts, List.mem_append, List.mem_cons] at hmem
  rcases hmem with hearlier | rfl | hlater
  · obtain ⟨entry, hearlierRead⟩ := hbefore part' hearlier
    exact absurd hblames' (Part.not_blames_of_read (wellFormed_of_mem_parts hentries hpart')
      hearlierRead rest' cause')
  · rcases hfirst rest' cause' hblames' with ⟨rfl, rfl⟩ | hbeforeRest
    · exact .inl ⟨rfl, rfl⟩
    · exact .inr (before_of_mem_part hpart hbeforeRest)
  · exact .inr (before_of_mem_later hparts hlater rest rest')

/-- The values that are parsed are those of the grammar, and the patch is what such a value says. Of
any other value the first thing that is wrong with it is reported, at its address. -/
theorem parse_grammar {value : Json} (h : value.WellFormed) :
    ((∃ patch, parse value = .ok patch) ↔ Grammar value) ∧
      (∀ patch, parse value = .ok patch → ∃ entries, value = .obj entries ∧ Reads entries patch) ∧
      ∀ fault, parse value = .error fault →
        ∃ address, FirstOffence value address fault.cause ∧
          (∀ address' cause', FirstOffence value address' cause' → address' = address) ∧
          fault.path = address.map .key ∧
          fault.payloadError.path = if address = [] then "." else ".".intercalate address := by
  refine ⟨grammar_iff h, fun patch hparse => ?_, fun fault hparse => ?_⟩
  · obtain ⟨hchildren⟩ := (grammar_iff h).1 ⟨patch, hparse⟩
    exact ⟨_, rfl, reads_of_parse h.nodup_keys hparse⟩
  · obtain ⟨address, hpath, hfirst⟩ := exists_firstOffence h hparse
    refine ⟨address, hfirst, fun address' cause' hfirst' => ?_, hpath, ?_⟩
    · exact (hfirst.unique h hfirst').1
    · rw [← Path.render_keys, ← hpath]
      rfl

/-- A patch of the child at 1, written twice. -/
def rewritten : Json :=
  .obj [("Light", .null), (childrenKey, .obj [("1", .obj []), ("+1", .obj [("Light", .str "on")])])]

/-- A patch in which a grandchild has no index. -/
def unnumbered : Json :=
  .obj [(childrenKey, .arr [.null, .obj [(childrenKey, .obj [("first", .null), ("0", .null)])]])]

/-- The second spelling counts, and the grandchild is found before the one that is no object. -/
theorem parse_grammar_children :
    (∃ patch, parse rewritten = .ok patch ∧ patch.components = [("Light", .null)] ∧
      SortedMap.find? patch.children 1 = some { components := [("Light", .str "on")] }) ∧
      ∃ fault, parse unnumbered = .error fault ∧
        FirstOffence unnumbered [childrenKey, "1", childrenKey, "first"] .childKey ∧
        fault.payloadError.path = "children.1.children.first" := by
  have hlit : (Json.obj [("Light", .str "on")]).WellFormed :=
    .obj (by decide) (by simpa using .str "on")
  have hkeyed : (Json.obj [("1", .obj []), ("+1", .obj [("Light", .str "on")])]).WellFormed :=
    .obj (by decide) (by simpa using ⟨Json.wellFormed_nil, hlit⟩)
  have hrewritten : rewritten.WellFormed := .obj (by decide) (by simpa using ⟨.null, hkeyed⟩)
  have hnulls : (Json.obj [("first", .null), ("0", .null)]).WellFormed :=
    .obj (by decide) (by simpa using .null)
  have hchild : (Json.obj [(childrenKey, .obj [("first", .null), ("0", .null)])]).WellFormed :=
    .obj (by decide) (by simpa using hnulls)
  have hitems : (Json.arr [.null,
      .obj [(childrenKey, .obj [("first", .null), ("0", .null)])]]).WellFormed :=
    .arr (by simpa using ⟨.null, hchild⟩)
  have hunnumbered : unnumbered.WellFormed := .obj (by decide) (by simpa using hitems)
  constructor
  · obtain ⟨patch, hparse⟩ : ∃ patch, parse rewritten = .ok patch := ⟨_, rfl⟩
    obtain ⟨entries, hentries, hreads⟩ := (parse_grammar hrewritten).2.1 patch hparse
    obtain rfl := Json.obj.inj hentries
    obtain ⟨child, hread, hfind⟩ := hreads.child 1 (.obj [("Light", .str "on")]) rfl
    obtain rfl := Except.ok.inj hread
    exact ⟨patch, hparse, hreads.components, hfind⟩
  · have hparse : parse unnumbered = .error
        ⟨[.key childrenKey, .key "1", .key childrenKey, .key "first"], .childKey⟩ := rfl
    obtain ⟨address, hfirst, -, hpath, hrendered⟩ := (parse_grammar hunnumbered).2.2 _ hparse
    have haddress : address = [childrenKey, "1", childrenKey, "first"] :=
      List.map_injective_iff.2 (fun _ _ => Segment.key.inj) hpath.symm
    rw [haddress] at hfirst hrendered
    exact ⟨_, hparse, hfirst, hrendered⟩

end Patch

end SceneLoad

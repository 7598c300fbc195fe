import SceneLoad.Proofs.DecimalIndices
import SceneLoad.Proofs.EditedTemplates

/-!
# Patches part by part

The patches of children are written by position or by index. Either way they are parts of one value,
each with the index that it is for, if its key denotes one, and with the step that leads to it
(`Patch.parts`). `Patch.parseParts` reads parts one after another. Parsing a patch comes down to
this : the entry for the children is read wherever it stands, and the other entries are kept as they
are (`parse_obj`).

Parts are read exactly if each of them is (`exists_parseParts_iff`). Of those for one index the last
one counts (`find?_parseParts`), and the fault of parts that are not read is that of the first one
that is not (`parseParts_eq_error`).
-/

namespace SceneLoad

namespace Patch

/-- A value that overrides a child. -/
structure Part where
  /-- The index of the child, unless the key of the part denotes none. -/
  index? : Option Nat
  /-- The step to the part, as it is reported. -/
  segment : String
  value : Json

/-- Parses a part by itself. -/
def Part.read (part : Part) : Except PatchFault (Nat × Patch) :=
  match part.index? with
  | none => .error ⟨[.key part.segment], .childKey⟩
  | some index => (PatchFault.place part.segment (parse part.value)).map (index, ·)

/-- The part at a position, where a `null` is none. -/
def itemPart? : Json × Nat → Option Part
  | (.null, _) => none
  | (item, index) => some ⟨some index, toString index, item⟩

/-- The part under a key. -/
def keyedPart (entry : String × Json) : Part := ⟨Text.parseIndex entry.1, entry.1, entry.2⟩

/-- The parts of a value that holds the patches of children, in authored order. -/
def parts : Json → List Part
  | .arr items => items.zipIdx.filterMap itemPart?
  | .obj entries => entries.map keyedPart
  | _ => []

/-- Whether a value can hold the patches of children. -/
def holdsParts : Json → Bool
  | .null | .arr _ | .obj _ => true
  | _ => false

/-- Parses parts in order. -/
def parseParts (children : List (Nat × Patch)) :
    List Part → Except PatchFault (List (Nat × Patch))
  | [] => .ok children
  | part :: rest =>
    match part.read with
    | .error fault => .error fault
    | .ok (index, child) => parseParts (SortedMap.insert index child children) rest

/-! ## Both forms are parts -/

theorem itemPart?_of_ne_null {item : Json} (h : item ≠ .null) (index : Nat) :
    itemPart? (item, index) = some ⟨some index, toString index, item⟩ := by
  cases item with
  | null => exact absurd rfl h
  | _ => rfl

theorem itemPart?_eq_some_iff {item : Json} {index : Nat} {part : Part} :
    itemPart? (item, index) = some part ↔
      item ≠ .null ∧ part = ⟨some index, toString index, item⟩ := by
  by_cases hnull : item = .null
  · rw [hnull]
    exact iff_of_false nofun fun h => h.1 rfl
  · rw [itemPart?_of_ne_null hnull, Option.some_inj, eq_comm]
    exact (and_iff_right hnull).symm

theorem parseItems_eq : ∀ (items : List Json) (index : Nat) (children : List (Nat × Patch)),
    parseItems index children items =
      parseParts children ((items.zipIdx index).filterMap itemPart?)
  | [], _, _ => by rw [parseItems, List.zipIdx_nil, List.filterMap_nil, parseParts]
  | item :: rest, index, children => by
    rw [List.zipIdx_cons]
    by_cases hnull : item = .null
    · rw [hnull, parseItems, parseItems_eq rest, List.filterMap_cons_none rfl]
    · rw [parseItems_cons index children rest hnull,
        List.filterMap_cons_some (itemPart?_of_ne_null hnull index), parseParts, Part.read]
      cases PatchFault.place (toString index) (parse item) with
      | error fault => rfl
      | ok child => exact parseItems_eq rest _ _

theorem parseKeyed_eq : ∀ (entries : Object) (children : List (Nat × Patch)),
    parseKeyed children entries = parseParts children (entries.map keyedPart)
  | [], _ => by rw [parseKeyed, List.map_nil, parseParts]
  | (key, value) :: rest, children => by
    rw [parseKeyed, List.map_cons, parseParts, Part.read, keyedPart]
    dsimp only
    cases Text.parseIndex key with
    | none => rfl
    | some index =>
      cases PatchFault.place key (parse value) with
      | error fault => rfl
      | ok child => exact parseKeyed_eq rest _

theorem parseChildren_eq (value : Json) :
    parseChildren value =
      if holdsParts value then parseParts [] (parts value)
      else .error ⟨[], .childrenForm⟩ := by
  cases value with
  | arr items =>
    rw [parseChildren, parseItems_eq]
    rfl
  | obj entries =>
    rw [parseChildren, parseKeyed_eq]
    rfl
  | _ =>
    simp only [parseChildren]
    rfl

/-- The entry of a patch for the children. One that is missing overrides nothing. -/
def childrenOf (entries : Object) : Json := (Object.find? entries childrenKey).getD .null

/-- New entries before the one for the children are added in their order. -/
theorem parseEntries_append (rest : Object) : ∀ {entries : Object} (patch : Patch),
    childrenKey ∉ Object.keys entries → (Object.keys (patch.components ++ entries)).Nodup →
      parseEntries patch (entries ++ rest) =
        parseEntries ⟨patch.components ++ entries, patch.children⟩ rest
  | [], ⟨components, children⟩, _, _ => by rw [List.append_nil, List.nil_append]
  | (key, value) :: entries, patch, hchildren, hnodup => by
    obtain ⟨hkey, hentries⟩ := not_or.1 (mt List.mem_cons.2 hchildren)
    have hnew : key ∉ Object.keys patch.components := by
      intro hmem
      rw [Object.keys, List.map_append] at hnodup
      exact (List.nodup_append.1 hnodup).2.2 key hmem key List.mem_cons_self rfl
    rw [List.cons_append, parseEntries, if_neg (Ne.symm hkey), Object.insert_of_notMem value hnew,
      parseEntries_append rest _ hentries (by simpa using hnodup)]
    simp

theorem parseEntries_others {entries : Object} (patch : Patch)
    (hchildren : childrenKey ∉ Object.keys entries)
    (hnodup : (Object.keys (patch.components ++ entries)).Nodup) :
    parseEntries patch entries = .ok ⟨patch.components ++ entries, patch.children⟩ := by
  have happend := parseEntries_append [] patch hchildren hnodup
  rwa [List.append_nil, parseEntries] at happend

theorem erase_childrenKey {others : Object} (h : childrenKey ∉ Object.keys others) :
    Object.erase childrenKey others = others :=
  List.filter_eq_self.2 fun _ hentry => by simpa using Object.ne_of_notMem_keys h hentry

/-- Wherever the entry for the children stands, it is parsed by itself. -/
theorem parse_middle {before after : Object} (hothers : childrenKey ∉ Object.keys (before ++ after))
    (hnodup : (Object.keys (before ++ after)).Nodup) (value : Json) :
    parse (.obj (before ++ (childrenKey, value) :: after)) =
      (PatchFault.place childrenKey (parseChildren value)).map fun children =>
        ⟨before ++ after, children⟩ := by
  rw [Object.keys, List.map_append] at hothers hnodup
  obtain ⟨hbefore, hafter⟩ := not_or.1 (mt List.mem_append.2 hothers)
  rw [parse, parseEntries_append _ {} hbefore (List.nodup_append.1 hnodup).1, parseEntries,
    if_pos rfl]
  cases PatchFault.place childrenKey (parseChildren value) with
  | error fault => rfl
  | ok children =>
    dsimp only
    rw [parseEntries_others _ hafter (by rwa [Object.keys, List.map_append])]
    rfl

/-- A patch is parsed from its entry for the children and from the other ones. -/
theorem parse_obj {entries : Object} (h : (Object.keys entries).Nodup) :
    parse (.obj entries) =
      (PatchFault.place childrenKey (parseChildren (childrenOf entries))).map fun children =>
        ⟨Object.erase childrenKey entries, children⟩ := by
  rw [childrenOf]
  cases hfind : Object.find? entries childrenKey with
  | none =>
    have hnone := (Object.find?_eq_none_iff entries childrenKey).1 hfind
    rw [parse, parseEntries_others {} hnone h, Option.getD_none, parseChildren,
      erase_childrenKey hnone]
    rfl
  | some value =>
    obtain ⟨before, after, rfl, -⟩ := List.lookup_eq_some_iff.1 hfind
    rw [Object.keys, List.map_append, List.map_cons, List.nodup_middle, ← List.map_append] at h
    obtain ⟨hothers, hnodup⟩ := List.nodup_cons.1 h
    rw [parse_middle hothers hnodup, Option.getD_some, ← erase_childrenKey hothers, Object.erase,
      Object.erase, List.filter_append, List.filter_append, List.filter_cons_of_neg (by simp)]

/-! ## Members of the parts -/

theorem mem_parts_arr {items : List Json} {part : Part} :
    part ∈ parts (.arr items) ↔
      ∃ index item, items[index]? = some item ∧ item ≠ .null ∧
        part = ⟨some index, toString index, item⟩ := by
  rw [parts, List.mem_filterMap]
  constructor
  · rintro ⟨⟨item, index⟩, hmem, hpart⟩
    exact ⟨index, item, List.mem_zipIdx_iff_getElem?.1 hmem, itemPart?_eq_some_iff.1 hpart⟩
  · rintro ⟨index, item, hitem, hpart⟩
    exact ⟨(item, index), List.mem_zipIdx_iff_getElem?.2 hitem, itemPart?_eq_some_iff.2 hpart⟩

theorem mem_parts_obj {entries : Object} {part : Part} :
    part ∈ parts (.obj entries) ↔
      ∃ key value, (key, value) ∈ entries ∧ part = ⟨Text.parseIndex key, key, value⟩ := by
  rw [parts, List.mem_map, Prod.exists]
  exact exists₂_congr fun key value => and_congr_right fun _ => eq_comm

/-! ## Reading parts -/

theorem Part.read_eq_ok_iff {part : Part} {index : Nat} {child : Patch} :
    part.read = .ok (index, child) ↔ part.index? = some index ∧ parse part.value = .ok child := by
  unfold Part.read
  cases part.index? with
  | none => simp
  | some index' =>
    cases parse part.value with
    | error fault => simp [PatchFault.place, Except.map]
    | ok child' => simp [PatchFault.place, Except.map]

theorem parseParts_cons {children : List (Nat × Patch)} {list : List Part} {part : Part}
    {index : Nat} {child : Patch} (h : part.read = .ok (index, child)) :
    parseParts children (part :: list) =
      parseParts (SortedMap.insert index child children) list := by
  rw [parseParts, h]

theorem exists_parseParts_iff : ∀ {list : List Part} {children : List (Nat × Patch)},
    (∃ result, parseParts children list = .ok result) ↔
      ∀ part ∈ list, ∃ entry, part.read = .ok entry
  | [], children => iff_of_true ⟨children, rfl⟩ (by simp)
  | part :: rest, children => by
    rw [List.forall_mem_cons]
    cases hread : part.read with
    | error fault => simp [parseParts, hread]
    | ok entry =>
      rw [parseParts_cons hread, exists_parseParts_iff]
      exact (and_iff_right ⟨entry, rfl⟩).symm

/-- The first part that is not read is to blame. -/
theorem parseParts_eq_error {fault : PatchFault} :
    ∀ {list : List Part} {children : List (Nat × Patch)},
      parseParts children list = .error fault →
        ∃ before part after, list = before ++ part :: after ∧
          (∀ earlier ∈ before, ∃ entry, earlier.read = .ok entry) ∧ part.read = .error fault
  | [], _, h => by simp [parseParts] at h
  | part :: rest, _, h => by
    cases hread : part.read with
    | error fault' =>
      rw [parseParts, hread] at h
      obtain rfl := Except.error.inj h
      exact ⟨[], part, rest, rfl, nofun, hread⟩
    | ok entry =>
      rw [parseParts_cons hread] at h
      obtain ⟨before, part', after, rfl, hbefore, hfault⟩ := parseParts_eq_error h
      exact ⟨part :: before, part', after, rfl, List.forall_mem_cons.2 ⟨⟨entry, hread⟩, hbefore⟩,
        hfault⟩

theorem pairwise_parseParts : ∀ {list : List Part} {children result : List (Nat × Patch)},
    (SortedMap.keys children).Pairwise (· < ·) → parseParts children list = .ok result →
      (SortedMap.keys result).Pairwise (· < ·)
  | [], _, _, hchildren, h => by
    obtain rfl := Except.ok.inj h
    exact hchildren
  | part :: rest, _, _, hchildren, h => by
    cases hread : part.read with
    | error fault => simp [parseParts, hread] at h
    | ok entry =>
      rw [parseParts_cons hread] at h
      exact pairwise_parseParts (SortedMap.pairwise_insert entry.1 entry.2 hchildren) h

/-- Of the parts for an index the last one counts. -/
theorem find?_parseParts (index : Nat) :
    ∀ {list : List Part} {children result : List (Nat × Patch)},
      parseParts children list = .ok result →
        SortedMap.find? result index =
          ((list.filter fun part => part.index? = some index).getLast?.bind fun part =>
            (parse part.value).toOption).or (SortedMap.find? children index)
  | [], _, _, h => by
    obtain rfl := Except.ok.inj h
    rfl
  | part :: rest, children, result, h => by
    cases hread : part.read with
    | error fault => simp [parseParts, hread] at h
    | ok entry =>
      obtain ⟨index', child⟩ := entry
      obtain ⟨hindex, hchild⟩ := Part.read_eq_ok_iff.1 hread
      rw [parseParts_cons hread] at h
      rw [find?_parseParts index h, SortedMap.find?_insert, List.filter_cons, hindex]
      by_cases heq : index' = index
      · subst heq
        rw [if_pos rfl, if_pos (decide_eq_true rfl), List.getLast?_cons]
        cases hlast : (rest.filter fun part => part.index? = some index').getLast? with
        | none => simp [hchild, Except.toOption]
        | some last =>
          have hmem : last ∈ rest := List.mem_of_mem_filter (List.mem_of_getLast? hlast)
          obtain ⟨entry, hlastRead⟩ := exists_parseParts_iff.1 ⟨result, h⟩ last hmem
          simp [(Part.read_eq_ok_iff.1 hlastRead).2, Except.toOption]
      · simp [heq, Ne.symm heq]

/-! ## Patches from their parts -/

theorem parse_of_not_obj {value : Json} (h : ∀ entries, value ≠ .obj entries) :
    parse value = .error ⟨[], .notObject⟩ := by
  cases value with
  | obj entries => exact absurd rfl (h entries)
  | _ => simp only [parse]

variable {entries : Object} (hnodup : (Object.keys entries).Nodup)
include hnodup

theorem parse_obj_eq_ok_iff {patch : Patch} :
    parse (.obj entries) = .ok patch ↔
      holdsParts (childrenOf entries) = true ∧
        patch.components = Object.erase childrenKey entries ∧
        parseParts [] (parts (childrenOf entries)) = .ok patch.children := by
  obtain ⟨components, children⟩ := patch
  rw [parse_obj hnodup, parseChildren_eq]
  split_ifs with hholds
  · cases parseParts [] (parts (childrenOf entries)) with
    | error fault => simp [PatchFault.place, Except.map]
    | ok found => simp [PatchFault.place, Except.map, hholds, eq_comm]
  · simp [PatchFault.place, Except.map, hholds]

theorem exists_parse_obj_iff :
    (∃ patch, parse (.obj entries) = .ok patch) ↔
      holdsParts (childrenOf entries) = true ∧
        ∀ part ∈ parts (childrenOf entries), ∃ entry, part.read = .ok entry := by
  rw [← @exists_parseParts_iff (parts (childrenOf entries)) []]
  constructor
  · rintro ⟨patch, hpatch⟩
    obtain ⟨hholds, -, hread⟩ := (parse_obj_eq_ok_iff hnodup).1 hpatch
    exact ⟨hholds, patch.children, hread⟩
  · rintro ⟨hholds, children, hread⟩
    exact ⟨⟨_, children⟩, (parse_obj_eq_ok_iff hnodup).2 ⟨hholds, rfl, hread⟩⟩

theorem parse_obj_eq_error {fault : PatchFault} (h : parse (.obj entries) = .error fault) :
    holdsParts (childrenOf entries) = false ∧ fault = ⟨[.key childrenKey], .childrenForm⟩ ∨
      holdsParts (childrenOf entries) = true ∧
        ∃ inner, parseParts [] (parts (childrenOf entries)) = .error inner ∧
          fault = ⟨.key childrenKey :: inner.path, inner.cause⟩ := by
  rw [parse_obj hnodup, parseChildren_eq] at h
  split_ifs at h with hholds
  · cases hread : parseParts [] (parts (childrenOf entries)) with
    | error inner =>
      rw [hread] at h
      exact .inr ⟨hholds, inner, rfl, (Except.error.inj h).symm⟩
    | ok children =>
      rw [hread] at h
      cases h
  · exact .inl ⟨Bool.eq_false_iff.2 hholds, (Except.error.inj h).symm⟩

end Patch

end SceneLoad

import SceneLoad.Proofs.PatchParts

/-!
# Patches by position and by index

The patches of children can be written as an array or as an object. Under the decimal indices of its
items, and without its `null`s, an array becomes an object with the same parts, in some order
(`parts_perm`). The order does not matter, because no two of the parts are for the same index
(`parseParts_perm`), and where the entry for the children stands does not matter either. So both
spellings are parsed to the same patch or not at all (`parse_respelled`).
-/

namespace SceneLoad

namespace Patch

/-- An object has exactly the items of an array that are not `null`, each under its index. -/
structure Respells (items : List Json) (keyed : Object) : Prop where
  nodup : (Object.keys keyed).Nodup
  mem_iff : ∀ key value, (key, value) ∈ keyed ↔
    ∃ index : Nat, items[index]? = some value ∧ value ≠ .null ∧ key = toString index

/-- The parts of an array are for different indices. -/
theorem pairwise_parts_arr (items : List Json) :
    (parts (.arr items)).Pairwise fun part part' => part.index? ≠ part'.index? := by
  have hpositions : items.zipIdx.Pairwise fun item item' => item.2 < item'.2 := by
    rw [← List.pairwise_map, List.zipIdx_map_snd]
    exact List.pairwise_lt_range'
  refine List.pairwise_filterMap.2 (hpositions.imp ?_)
  rintro ⟨item, index⟩ ⟨item', index'⟩ hlt part hpart part' hpart' heq
  obtain ⟨-, rfl⟩ := itemPart?_eq_some_iff.1 hpart
  obtain ⟨-, rfl⟩ := itemPart?_eq_some_iff.1 hpart'
  exact Nat.ne_of_lt hlt (Option.some.inj heq)

/-- Both spellings have the same parts. -/
theorem parts_perm {items : List Json} {keyed : Object} (hlength : items.length ≤ Text.maxIndex + 1)
    (h : Respells items keyed) : (parts (.arr items)).Perm (parts (.obj keyed)) := by
  have hitems : (parts (.arr items)).Nodup :=
    (pairwise_parts_arr items).imp fun hne heq => hne (congrArg Part.index? heq)
  have hkeyed : (parts (.obj keyed)).Nodup := by
    refine List.Nodup.of_map Part.segment ?_
    rw [parts, List.map_map]
    exact h.nodup
  refine (List.perm_ext_iff_of_nodup hitems hkeyed).2 fun part => ?_
  rw [mem_parts_arr, mem_parts_obj]
  have hindex : ∀ {index : Nat} {value : Json}, items[index]? = some value →
      Text.parseIndex (toString index) = some index := by
    intro index value hitem
    obtain ⟨hlt, -⟩ := List.getElem?_eq_some_iff.1 hitem
    exact Text.parseIndex_toString (Nat.le_of_lt_succ (Nat.lt_of_lt_of_le hlt hlength))
  constructor
  · rintro ⟨index, value, hitem, hnull, rfl⟩
    refine ⟨toString index, value, (h.mem_iff _ _).2 ⟨index, hitem, hnull, rfl⟩, ?_⟩
    rw [hindex hitem]
  · rintro ⟨key, value, hmem, rfl⟩
    obtain ⟨index, hitem, hnull, rfl⟩ := (h.mem_iff _ _).1 hmem
    refine ⟨index, value, hitem, hnull, ?_⟩
    rw [hindex hitem]

/-- Of parts for different indices, the same one is for an index in any order. -/
theorem filter_eq_of_perm {list list' : List Part} (hperm : list.Perm list')
    (hdistinct : list.Pairwise fun part part' => part.index? ≠ part'.index?) (index : Nat) :
    (list.filter fun part => part.index? = some index) =
      list'.filter fun part => part.index? = some index := by
  have hdistinct' := (hperm.pairwise_iff fun h => h.symm).1 hdistinct
  refine (hperm.filter _).eq_of_pairwise (fun part part' hpart hpart' hne _ => ?_)
    (hdistinct.filter _) (hdistinct'.filter _)
  have hindex := of_decide_eq_true (List.mem_filter.1 hpart).2
  have hindex' := of_decide_eq_true (List.mem_filter.1 hpart').2
  exact absurd (hindex.trans hindex'.symm) hne

/-- Parts for different indices are read in any order, or in none. -/
theorem parseParts_perm {list list' : List Part} (hperm : list.Perm list')
    (hdistinct : list.Pairwise fun part part' => part.index? ≠ part'.index?) :
    (parseParts [] list).toOption = (parseParts [] list').toOption := by
  have hexists : (∃ result, parseParts [] list = .ok result) ↔
      ∃ result, parseParts [] list' = .ok result := by
    rw [exists_parseParts_iff, exists_parseParts_iff]
    exact forall_congr' fun part => imp_congr_left hperm.mem_iff
  cases hlist : parseParts [] list with
  | error fault =>
    cases hlist' : parseParts [] list' with
    | error fault' => rfl
    | ok result' =>
      obtain ⟨result, hresult⟩ := hexists.2 ⟨result', hlist'⟩
      cases hlist.symm.trans hresult
  | ok result =>
    obtain ⟨result', hresult'⟩ := hexists.1 ⟨result, hlist⟩
    have heq : result = result' := by
      refine SortedMap.eq_of_find? (pairwise_parseParts .nil hlist)
        (pairwise_parseParts .nil hresult') fun index => ?_
      rw [find?_parseParts index hlist, find?_parseParts index hresult',
        filter_eq_of_perm hperm hdistinct]
    rw [hresult', heq]

/-- By position or by index, the same children are parsed. -/
theorem parseChildren_respelled {items : List Json} {keyed : Object}
    (hlength : items.length ≤ Text.maxIndex + 1) (h : Respells items keyed) :
    (parseChildren (.arr items)).toOption = (parseChildren (.obj keyed)).toOption := by
  rw [parseChildren_eq, parseChildren_eq]
  exact parseParts_perm (parts_perm hlength h) (pairwise_parts_arr items)

theorem toOption_place_map {α β : Type} (key : String) (f : α → β)
    (result : Except PatchFault α) :
    ((PatchFault.place key result).map f).toOption = result.toOption.map f := by
  cases result <;> rfl

/-- A patch whose children are written by position, and the same one with its children by index, in
any order and at any place among the other entries, are both parsed to the same patch or both not
parsed. So they do the same to every template. There may be an item for every index, but no more. -/
theorem parse_respelled {before after before' after' : Object} {items : List Json} {keyed : Object}
    (hothers : before ++ after = before' ++ after')
    (hchildren : childrenKey ∉ Object.keys (before ++ after))
    (hnodup : (Object.keys (before ++ after)).Nodup) (hlength : items.length ≤ Text.maxIndex + 1)
    (h : Respells items keyed) :
    let byPosition := parse (.obj (before ++ (childrenKey, .arr items) :: after))
    let byIndex := parse (.obj (before' ++ (childrenKey, .obj keyed) :: after'))
    ((∃ patch, byPosition = .ok patch ∧ byIndex = .ok patch) ∨
        (∃ fault, byPosition = .error fault) ∧ ∃ fault, byIndex = .error fault) ∧
      ∀ patch patch', byPosition = .ok patch → byIndex = .ok patch' →
        ∀ template, patch.apply template = patch'.apply template := by
  intro byPosition byIndex
  have hsame : byPosition.toOption = byIndex.toOption := by
    unfold byPosition byIndex
    rw [parse_middle hchildren hnodup, parse_middle (hothers ▸ hchildren) (hothers ▸ hnodup),
      toOption_place_map, toOption_place_map, parseChildren_respelled hlength h, hothers]
  clear_value byPosition byIndex
  cases byPosition with
  | error fault =>
    cases byIndex with
    | error fault' => exact ⟨.inr ⟨⟨fault, rfl⟩, fault', rfl⟩, nofun⟩
    | ok patch' => cases hsame
  | ok patch =>
    cases byIndex with
    | error fault' => cases hsame
    | ok patch' =>
      obtain rfl := Option.some.inj hsame
      refine ⟨.inl ⟨patch, rfl, rfl⟩, fun first second hfirst hsecond template => ?_⟩
      rw [← Except.ok.inj hfirst, ← Except.ok.inj hsecond]

/-- Patches for two of four children, one of them with a child of its own. -/
def fourItems : List Json :=
  [.null, .obj [("Light", .null)], .null, .obj [(childrenKey, .arr [.null, .obj []])]]

/-- The same, backwards. -/
def fourKeyed : Object :=
  [("3", .obj [(childrenKey, .arr [.null, .obj []])]), ("1", .obj [("Light", .null)])]

theorem respells_four : Respells fourItems fourKeyed := by
  refine ⟨by decide, fun key value => ⟨fun hmem => ?_, ?_⟩⟩
  · simp only [fourKeyed, List.mem_cons, List.not_mem_nil, or_false, Prod.mk.injEq] at hmem
    rcases hmem with ⟨rfl, rfl⟩ | ⟨rfl, rfl⟩
    · exact ⟨3, rfl, Json.noConfusion, rfl⟩
    · exact ⟨1, rfl, Json.noConfusion, rfl⟩
  · rintro ⟨index, hitem, hnull, rfl⟩
    match index, hitem with
    | 0, hitem | 2, hitem => exact absurd (Option.some.inj hitem).symm hnull
    | 1, hitem =>
      rw [← Option.some.inj hitem]
      exact .tail _ (.head _)
    | 3, hitem =>
      rw [← Option.some.inj hitem]
      exact .head _

/-- The entry for the children comes first in one spelling and last in the other. -/
theorem parse_respelled_four :
    ∃ patch, parse (.obj [(childrenKey, .arr fourItems), ("Light", .null)]) = .ok patch ∧
      parse (.obj [("Light", .null), (childrenKey, .obj fourKeyed)]) = .ok patch := by
  obtain ⟨hpatch | ⟨⟨fault, hfault⟩, -⟩, -⟩ := @parse_respelled [] [("Light", .null)]
    [("Light", .null)] [] fourItems fourKeyed rfl (by decide) (by decide) (by decide) respells_four
  · exact hpatch
  · cases hfault

end Patch

end SceneLoad

import SceneLoad.Proofs.DecoderRegistries
import SceneLoad.Scene.Record

/-!
# Components of an entity, one by one

Components are decoded one after another, each on its own. So what is reported of several lists of
them is reported list by list (`diagnostics_decodeEntries_append`), and to leave out a kind before
decoding is to leave it out afterwards (`components_decodeEntries_erase`). What is stored under a
kind is what is decoded of its payload (`find?_decodeEntries`).
-/

namespace SceneLoad

namespace Object

/-- The entries without those under a key. -/
def erase (key : String) (object : Object) : Object := object.filter fun (k, _) => k ≠ key

theorem nodup_keys_erase {object : Object} (h : (keys object).Nodup) (key : String) :
    (keys (erase key object)).Nodup :=
  h.sublist (List.filter_sublist.map _)

theorem find?_erase_self (key : String) (object : Object) :
    find? (erase key object) key = none := by
  rw [find?_eq_none_iff]
  intro hmem
  obtain ⟨entry, hentry, hkey⟩ := List.mem_map.1 hmem
  have hne : entry.1 ≠ key := by simpa using (List.mem_filter.1 hentry).2
  exact hne hkey

theorem find?_erase_of_ne {key other : String} (hne : other ≠ key) :
    ∀ object : Object, find? (erase key object) other = find? object other
  | [] => rfl
  | (first, value) :: rest => by
    have ih := find?_erase_of_ne hne rest
    unfold erase at ih ⊢
    by_cases hfirst : first = key
    · have hother : other ≠ first := fun h => hne (h.trans hfirst)
      rw [List.filter_cons_of_neg (by simp [hfirst]), ih, find?_cons, if_neg hother]
    · rw [List.filter_cons_of_pos (by simp [hfirst]), find?_cons, find?_cons, ih]

/-- An entry stands somewhere among the others. -/
theorem exists_split (key : String) : ∀ {object : Object}, (keys object).Nodup →
    ∃ first rest, object = first ++ (object.filter fun (k, _) => k = key) ++ rest ∧
      erase key object = first ++ rest
  | [], _ => ⟨[], [], rfl, rfl⟩
  | (k, value) :: object, h => by
    obtain ⟨hk, hobject⟩ := List.nodup_cons.1 h
    by_cases hkey : k = key
    · subst hkey
      refine ⟨[], object, ?_, ?_⟩
      · rw [List.filter_cons_of_pos (by simp), filter_eq_nil_of_notMem hk]
        rfl
      · rw [erase, List.filter_cons_of_neg (by simp)]
        exact List.filter_eq_self.2 fun entry hmem => by simpa using ne_of_notMem_keys hk hmem
    · obtain ⟨first, rest, hsplit, herase⟩ := exists_split key hobject
      refine ⟨(k, value) :: first, rest, ?_, ?_⟩
      · rw [List.filter_cons_of_neg (by simp [hkey]), List.cons_append, List.cons_append, ← hsplit]
      · rw [erase, List.filter_cons_of_pos (by simp [hkey]), List.cons_append]
        exact congrArg _ herase

end Object

namespace SortedMap

section Erase

variable {κ α : Type} [DecidableEq κ] [LT κ] [DecidableLT κ]

/-- The map without a key. -/
def erase (key : κ) (map : SortedMap κ α) : SortedMap κ α := map.filter fun (k, _) => k ≠ key

omit [LT κ] [DecidableLT κ] in
theorem erase_cons_self (key : κ) (value : α) (map : SortedMap κ α) :
    erase key ((key, value) :: map) = erase key map :=
  List.filter_cons_of_neg (by simp)

omit [LT κ] [DecidableLT κ] in
theorem erase_cons_of_ne {key first : κ} (h : first ≠ key) (value : α) (map : SortedMap κ α) :
    erase key ((first, value) :: map) = (first, value) :: erase key map :=
  List.filter_cons_of_pos (by simpa using h)

omit [LT κ] [DecidableLT κ] in
theorem find?_erase_self (key : κ) (map : SortedMap κ α) : find? (erase key map) key = none := by
  rw [find?, List.lookup_eq_none_iff]
  intro entry hmem
  have hne : entry.1 ≠ key := by simpa using (List.mem_filter.1 hmem).2
  simpa using Ne.symm hne

/-- A key below all others comes first. -/
theorem insert_of_forall_lt (key : κ) (value : α) {map : SortedMap κ α}
    (h : ∀ entry ∈ map, key < entry.1) : insert key value map = (key, value) :: map := by
  cases map with
  | nil => rfl
  | cons first rest => rw [insert, if_pos (h first List.mem_cons_self)]

/-- Storing a value and leaving out another key can be done in either order. -/
theorem erase_insert [LE κ] [Std.IsLinearOrder κ] [Std.LawfulOrderLT κ] (erased key : κ)
    (value : α) : ∀ {map : SortedMap κ α}, (keys map).Pairwise (· < ·) →
      erase erased (insert key value map) =
        if key = erased then erase erased map else insert key value (erase erased map)
  | [], _ => by
    split_ifs with hkey
    · subst hkey
      exact erase_cons_self key value []
    · exact erase_cons_of_ne hkey value []
  | (first, stored) :: rest, h => by
    obtain ⟨hfirst, hrest⟩ := List.pairwise_cons.1 h
    have ih := erase_insert erased key value hrest
    rw [insert]
    split_ifs at ih ⊢ with hlt hkey heq hkey hkey
    · rw [hkey, erase_cons_self]
    · have hbelow : ∀ entry ∈ erase erased ((first, stored) :: rest), key < entry.1 := by
        intro entry hmem
        rcases List.mem_cons.1 (List.mem_filter.1 hmem).1 with rfl | hmem
        · exact hlt
        · exact Std.lt_trans hlt (hfirst _ (List.mem_map_of_mem hmem))
      rw [erase_cons_of_ne hkey, insert_of_forall_lt key value hbelow]
    · subst heq hkey
      rw [erase_cons_self, erase_cons_self]
    · subst heq
      rw [erase_cons_of_ne hkey, erase_cons_of_ne hkey, insert, if_neg hlt, if_pos rfl]
    · by_cases herased : first = erased
      · rw [herased, erase_cons_self, erase_cons_self, ih]
      · rw [erase_cons_of_ne herased, erase_cons_of_ne herased, ih]
    · by_cases herased : first = erased
      · rw [herased, erase_cons_self, erase_cons_self, ih]
      · rw [erase_cons_of_ne herased, erase_cons_of_ne herased, ih, insert, if_neg hlt,
          if_neg heq]

end Erase

end SortedMap

namespace DecoderRegistry

variable (registry : DecoderRegistry) (entity : String)

/-- Reports follow the components. -/
theorem diagnostics_decodeEntries_append (entries more : Object) :
    (registry.decodeEntries entity (entries ++ more)).diagnostics =
      (registry.decodeEntries entity entries).diagnostics ++
        (registry.decodeEntries entity more).diagnostics := by
  simp [decodeEntries]

theorem components_decodeEntries (entries : Object) :
    (registry.decodeEntries entity entries).components =
      entries.foldl (fun stored entry => (registry.decode entry.1 entry.2).store stored) [] :=
  List.foldl_map

theorem pairwise_store {components : SortedMap String DecodedComponent} (outcome : DecodeOutcome)
    (h : (SortedMap.keys components).Pairwise (· < ·)) :
    (SortedMap.keys (outcome.store components)).Pairwise (· < ·) := by
  unfold DecodeOutcome.store
  split
  · exact SortedMap.pairwise_insert _ _ h
  · exact h

theorem erase_store {components : SortedMap String DecodedComponent} (erased kind : String)
    (payload : Json) (h : (SortedMap.keys components).Pairwise (· < ·)) :
    SortedMap.erase erased ((registry.decode kind payload).store components) =
      if kind = erased then SortedMap.erase erased components
      else (registry.decode kind payload).store (SortedMap.erase erased components) := by
  unfold DecodeOutcome.store
  split
  · next decoded hok =>
    rw [← kind_of_result_ok hok]
    exact SortedMap.erase_insert erased decoded.kind _ h
  · split_ifs <;> rfl

theorem erase_foldl_store (erased : String) :
    ∀ (entries : Object) {components : SortedMap String DecodedComponent},
      (SortedMap.keys components).Pairwise (· < ·) →
        SortedMap.erase erased (entries.foldl
            (fun stored entry => (registry.decode entry.1 entry.2).store stored) components) =
          (Object.erase erased entries).foldl
            (fun stored entry => (registry.decode entry.1 entry.2).store stored)
            (SortedMap.erase erased components)
  | [], _, _ => rfl
  | (kind, payload) :: rest, components, h => by
    have hstored := erase_store registry erased kind payload h
    rw [List.foldl_cons, erase_foldl_store erased rest (pairwise_store _ h), hstored]
    unfold Object.erase
    split_ifs with hkind
    · rw [List.filter_cons_of_neg (by simp [hkind])]
    · rw [List.filter_cons_of_pos (by simp [hkind]), List.foldl_cons]

/-- To leave out a kind before decoding is to leave it out afterwards. -/
theorem components_decodeEntries_erase (kind : String) (entries : Object) :
    (registry.decodeEntries entity (Object.erase kind entries)).components =
      SortedMap.erase kind (registry.decodeEntries entity entries).components := by
  rw [components_decodeEntries, components_decodeEntries, erase_foldl_store registry kind _ .nil]
  rfl

theorem find?_store (components : SortedMap String DecodedComponent) (kind : String)
    (payload : Json) (other : String) :
    SortedMap.find? ((registry.decode kind payload).store components) other =
      if other = kind then
        (registry.decode kind payload).result.toOption.or (SortedMap.find? components other)
      else SortedMap.find? components other := by
  unfold DecodeOutcome.store
  split
  · next decoded hok =>
    rw [SortedMap.find?_insert, kind_of_result_ok hok, hok]
    rfl
  · next error herror =>
    rw [herror]
    split_ifs <;> rfl

theorem find?_foldl_store (kind : String) :
    ∀ {entries : Object} (components : SortedMap String DecodedComponent),
      (Object.keys entries).Nodup →
        SortedMap.find? (entries.foldl
            (fun stored entry => (registry.decode entry.1 entry.2).store stored) components) kind =
          ((Object.find? entries kind).bind fun payload =>
            (registry.decode kind payload).result.toOption).or (SortedMap.find? components kind)
  | [], components, _ => rfl
  | (first, payload) :: rest, components, h => by
    obtain ⟨hfirst, hrest⟩ := List.nodup_cons.1 h
    rw [List.foldl_cons, find?_foldl_store kind _ hrest, find?_store, Object.find?_cons]
    by_cases hkind : kind = first
    · subst hkind
      rw [(Object.find?_eq_none_iff rest kind).2 hfirst]
      simp
    · simp [hkind]

/-- What is stored under a kind is what is decoded of its payload. -/
theorem find?_decodeEntries (kind : String) {entries : Object}
    (h : (Object.keys entries).Nodup) :
    SortedMap.find? (registry.decodeEntries entity entries).components kind =
      (Object.find? entries kind).bind fun payload =>
        (registry.decode kind payload).result.toOption := by
  rw [components_decodeEntries, find?_foldl_store registry kind [] h]
  exact Option.or_none

end DecoderRegistry

end SceneLoad

import Mathlib.Data.List.Nodup
import Mathlib.Tactic.SplitIfs
import SceneLoad.Json.Basic
import SceneLoad.SortedMap

/-!
# Maps after an insertion

Both kinds of map are lists of entries. What is stored under a key after an insertion does not
depend on where the entry was put, so `SortedMap.find?_insert` needs no order of the entries. With
their keys in order, maps that answer alike are equal (`SortedMap.eq_of_find?`).

In an object the places matter too. An insertion keeps the entries that are there, and a new key
comes last. `Object.insertAll_eq` says what many of them do : the old entries in their order, each
with its new value if it has one, and then the new entries in theirs. This needs keys that occur
once, on both sides.
-/

namespace SceneLoad

theorem lookup_cons_ite {κ α : Type} [DecidableEq κ] (entry : κ × α) (map : List (κ × α))
    (key : κ) : List.lookup key (entry :: map) =
      if key = entry.1 then some entry.2 else List.lookup key map := by
  obtain ⟨first, value⟩ := entry
  by_cases h : key = first
  · simp [h]
  · simp only [List.lookup_cons, beq_eq_false_iff_ne.2 h, if_neg h]

/-- What is found is an entry. -/
theorem mem_of_lookup {κ α : Type} [DecidableEq κ] {map : List (κ × α)} {key : κ} {value : α}
    (h : List.lookup key map = some value) : (key, value) ∈ map := by
  obtain ⟨before, after, rfl, -⟩ := List.lookup_eq_some_iff.1 h
  simp

/-- With keys that occur once, an entry is what is found under its key. -/
theorem lookup_eq_some_iff_mem {κ α : Type} [DecidableEq κ] {key : κ} {value : α} :
    ∀ {map : List (κ × α)}, (map.map Prod.fst).Nodup →
      (List.lookup key map = some value ↔ (key, value) ∈ map)
  | [], _ => by simp
  | (first, stored) :: rest, hnodup => by
    obtain ⟨hfirst, hrest⟩ := List.nodup_cons.1 hnodup
    rw [lookup_cons_ite, List.mem_cons, Prod.mk.injEq]
    split_ifs with hkey
    · subst hkey
      have hnot : (key, value) ∉ rest := fun hmem =>
        hfirst (List.mem_map.2 ⟨_, hmem, rfl⟩)
      simp [hnot, eq_comm]
    · simp [hkey, lookup_eq_some_iff_mem hrest]

namespace SortedMap

variable {κ α : Type} [DecidableEq κ] [LT κ] [DecidableLT κ]

theorem find?_insert (key : κ) (value : α) (map : SortedMap κ α) (key' : κ) :
    find? (insert key value map) key' = if key' = key then some value else find? map key' := by
  unfold find?
  induction map with
  | nil => simp [insert, lookup_cons_ite]
  | cons entry rest ih =>
    obtain ⟨first, stored⟩ := entry
    by_cases hlt : key < first
    · simp [insert, hlt, lookup_cons_ite]
    by_cases heq : key = first
    · subst heq
      by_cases hkey : key' = key <;> simp [insert, hlt, lookup_cons_ite, hkey]
    · by_cases hkey : key' = first
      · simp [insert, hlt, heq, lookup_cons_ite, hkey, Ne.symm heq]
      · simp [insert, hlt, heq, lookup_cons_ite, hkey, ih]

theorem mem_insert {key : κ} {value : α} {map : SortedMap κ α} {entry : κ × α}
    (h : entry ∈ insert key value map) : entry = (key, value) ∨ entry ∈ map := by
  induction map with
  | nil => simpa [insert] using h
  | cons first rest ih =>
    unfold insert at h
    split_ifs at h
    · exact List.mem_cons.1 h
    · rcases List.mem_cons.1 h with h | h
      · exact .inl h
      · exact .inr (List.mem_cons_of_mem _ h)
    · rcases List.mem_cons.1 h with rfl | h
      · exact .inr List.mem_cons_self
      · exact (ih h).imp_right (List.mem_cons_of_mem _)

omit [LT κ] [DecidableLT κ] in
theorem mem_keys_of_find? {map : SortedMap κ α} {key : κ} {value : α}
    (h : find? map key = some value) : key ∈ keys map :=
  List.mem_map_of_mem (mem_of_lookup h)

omit [LT κ] [DecidableLT κ] in
theorem find?_eq_none_iff (map : SortedMap κ α) (key : κ) :
    find? map key = none ↔ key ∉ keys map := by
  rw [find?, List.lookup_eq_none_iff, keys, List.mem_map]
  constructor
  · rintro h ⟨entry, hmem, rfl⟩
    simpa using h entry hmem
  · intro h entry hmem
    have hne : key ≠ entry.1 := fun heq => h ⟨entry, hmem, heq.symm⟩
    simpa using hne

omit [LT κ] [DecidableLT κ] in
/-- A key is stored as it is asked for. -/
theorem entry?_eq (map : SortedMap κ α) (key : κ) :
    entry? map key = (find? map key).map fun value => (key, value) := by
  unfold entry? find?
  induction map with
  | nil => rfl
  | cons entry rest ih =>
    rw [lookup_cons_ite]
    by_cases hkey : key = entry.1
    · rw [List.find?_cons_of_pos (by simpa using hkey.symm), if_pos hkey, hkey, Option.map_some]
    · rw [List.find?_cons_of_neg (by simpa using Ne.symm hkey), if_neg hkey, ih]

/-- Keys stay in ascending order. -/
theorem pairwise_insert [LE κ] [Std.IsLinearOrder κ] [Std.LawfulOrderLT κ] (key : κ) (value : α) :
    ∀ {map : SortedMap κ α}, (keys map).Pairwise (· < ·) →
      (keys (insert key value map)).Pairwise (· < ·)
  | [], _ => List.pairwise_singleton _ _
  | (first, stored) :: rest, h => by
    obtain ⟨hfirst, hrest⟩ := List.pairwise_cons.1 h
    unfold insert
    split_ifs with hlt heq
    · refine List.pairwise_cons.2 ⟨fun key' hkey' => ?_, h⟩
      rcases List.mem_cons.1 hkey' with rfl | hkey'
      · exact hlt
      · exact Std.lt_trans hlt (hfirst key' hkey')
    · subst heq
      exact h
    · refine List.pairwise_cons.2 ⟨fun key' hkey' => ?_, pairwise_insert key value hrest⟩
      obtain ⟨entry, hentry, rfl⟩ := List.mem_map.1 hkey'
      rcases mem_insert hentry with rfl | hentry
      · exact Std.lt_of_le_of_ne (Std.not_lt.1 hlt) (Ne.symm heq)
      · exact hfirst _ (List.mem_map_of_mem hentry)

omit [DecidableLT κ] in
/-- Maps in key order that answer alike are equal. -/
theorem eq_of_find? [LE κ] [Std.IsLinearOrder κ] [Std.LawfulOrderLT κ] {map map' : SortedMap κ α}
    (hmap : (keys map).Pairwise (· < ·)) (hmap' : (keys map').Pairwise (· < ·))
    (hfind : ∀ key, find? map key = find? map' key) : map = map' := by
  have hnodup : (keys map).Nodup := hmap.imp Std.ne_of_lt
  have hnodup' : (keys map').Nodup := hmap'.imp Std.ne_of_lt
  have hmem : ∀ entry, entry ∈ map ↔ entry ∈ map' := by
    intro (key, value)
    rw [← lookup_eq_some_iff_mem hnodup, ← lookup_eq_some_iff_mem hnodup']
    exact iff_of_eq (congrArg (· = some value) (hfind key))
  have hperm : map.Perm map' :=
    (List.perm_ext_iff_of_nodup hnodup.of_map hnodup'.of_map).2 hmem
  refine hperm.eq_of_pairwise (fun a b _ _ hab hba => ?_) (List.pairwise_map.1 hmap)
    (List.pairwise_map.1 hmap')
  exact absurd hba (Std.not_gt_of_lt hab)

end SortedMap

namespace Object

theorem find?_cons (entry : String × Json) (object : Object) (key : String) :
    find? (entry :: object) key = if key = entry.1 then some entry.2 else find? object key :=
  lookup_cons_ite entry object key

theorem mem_insert {key : String} {value : Json} {object : Object} {entry : String × Json}
    (h : entry ∈ insert key value object) : entry = (key, value) ∨ entry ∈ object := by
  induction object with
  | nil => simpa [insert] using h
  | cons first rest ih =>
    unfold insert at h
    split_ifs at h with hfirst
    · rcases List.mem_cons.1 h with rfl | h
      · exact .inl (by rw [hfirst])
      · exact .inr (List.mem_cons_of_mem _ h)
    · rcases List.mem_cons.1 h with rfl | h
      · exact .inr List.mem_cons_self
      · exact (ih h).imp_right (List.mem_cons_of_mem _)

theorem find?_insert (key : String) (value : Json) :
    ∀ (object : Object) (key' : String),
      find? (insert key value object) key' = if key' = key then some value else find? object key'
  | [], key' => find?_cons (key, value) [] key'
  | (first, stored) :: rest, key' => by
    have ih := find?_insert key value rest key'
    unfold insert
    by_cases hfirst : first = key
    · subst hfirst
      rw [if_pos rfl, find?_cons, find?_cons]
      by_cases hkey : key' = first <;> simp [hkey]
    · rw [if_neg hfirst, find?_cons, find?_cons, ih]
      by_cases hkey : key' = first
      · simp [hkey, hfirst]
      · simp [hkey]

/-- Storing what is there changes nothing. -/
theorem insert_of_find? {key : String} {value : Json} :
    ∀ {object : Object}, find? object key = some value → insert key value object = object
  | (first, stored) :: rest, h => by
    rw [find?_cons] at h
    unfold insert
    by_cases hfirst : first = key
    · rw [if_pos hfirst.symm] at h
      obtain rfl : stored = value := Option.some.inj h
      rw [if_pos hfirst]
    · rw [if_neg (Ne.symm hfirst)] at h
      rw [if_neg hfirst, insert_of_find? h]

theorem contains_iff (object : Object) (key : String) :
    contains object key = true ↔ key ∈ keys object := by
  rw [contains, find?, List.lookup_isSome_iff]
  simp [keys]

theorem find?_eq_none_iff (object : Object) (key : String) :
    find? object key = none ↔ key ∉ keys object := by
  rw [← contains_iff, contains]
  cases find? object key <;> simp

theorem ne_of_notMem_keys {object : Object} {key : String} (hkey : key ∉ keys object)
    {entry : String × Json} (h : entry ∈ object) : entry.1 ≠ key := by
  rintro rfl
  exact hkey (List.mem_map_of_mem h)

theorem filter_eq_nil_of_notMem {key : String} {object : Object} (h : key ∉ keys object) :
    (object.filter fun (k, _) => k = key) = [] :=
  List.filter_eq_nil_iff.2 fun entry hmem => by simpa using ne_of_notMem_keys h hmem

theorem filter_eq_of_find? {key : String} {value : Json} : ∀ {object : Object},
    (keys object).Nodup → find? object key = some value →
      (object.filter fun (k, _) => k = key) = [(key, value)]
  | (k, stored) :: object, hkeys, h => by
    obtain ⟨hk, hobject⟩ := List.nodup_cons.1 hkeys
    rw [find?_cons] at h
    split_ifs at h with hkey
    · obtain rfl := Option.some.inj h
      subst hkey
      rw [List.filter_cons_of_pos (by simp), filter_eq_nil_of_notMem hk]
    · rw [List.filter_cons_of_neg (by simpa using Ne.symm hkey), filter_eq_of_find? hobject h]

/-- A key that is present keeps its place. -/
theorem insert_of_mem {key : String} (value : Json) :
    ∀ {object : Object}, (keys object).Nodup → key ∈ keys object →
      insert key value object = object.map fun (k, v) => (k, if k = key then value else v)
  | (first, stored) :: rest, hnodup, hmem => by
    obtain ⟨hfirst, hrest⟩ := List.nodup_cons.1 hnodup
    by_cases heq : first = key
    · subst heq
      have hsame : rest.map (fun (k, v) => (k, if k = first then value else v)) = rest := by
        refine (List.map_congr_left (g := id) fun entry hentry => ?_).trans (List.map_id rest)
        simp [ne_of_notMem_keys hfirst hentry]
      simp [insert, hsame]
    · have hmem' : key ∈ keys rest := (List.mem_cons.1 hmem).resolve_left (Ne.symm heq)
      simp [insert, heq, insert_of_mem value hrest hmem']

/-- A new key comes last. -/
theorem insert_of_notMem {key : String} (value : Json) :
    ∀ {object : Object}, key ∉ keys object → insert key value object = object ++ [(key, value)]
  | [], _ => rfl
  | (first, stored) :: rest, h => by
    obtain ⟨hfirst, hrest⟩ := not_or.1 (mt List.mem_cons.2 h)
    simp [insert, Ne.symm hfirst, insert_of_notMem value hrest]

theorem keys_insert (key : String) (value : Json) {object : Object}
    (hnodup : (keys object).Nodup) :
    keys (insert key value object) =
      if key ∈ keys object then keys object else keys object ++ [key] := by
  split_ifs with hmem
  · rw [insert_of_mem value hnodup hmem]
    simp [keys, Function.comp_def]
  · rw [insert_of_notMem value hmem]
    simp [keys]

theorem nodup_keys_insert (key : String) (value : Json) {object : Object}
    (hnodup : (keys object).Nodup) : (keys (insert key value object)).Nodup := by
  rw [keys_insert key value hnodup]
  split_ifs with hmem
  · exact hnodup
  · exact hnodup.append (List.nodup_singleton key) (by simpa using hmem)

/-- After many insertions a key has its new value, if it has one. -/
theorem find?_insertAll (key : String) : ∀ {fields : Object}, (keys fields).Nodup →
    ∀ object : Object,
      find? (insertAll object fields) key = (find? fields key).or (find? object key)
  | [], _, _ => rfl
  | (field, value) :: rest, hfields, object => by
    obtain ⟨hfield, hrest⟩ := List.nodup_cons.1 hfields
    have hstep : insertAll object ((field, value) :: rest) =
        insertAll (insert field value object) rest := rfl
    rw [hstep, find?_insertAll key hrest, find?_insert, find?_cons]
    by_cases hkey : key = field
    · rw [if_pos hkey, if_pos hkey, hkey, (find?_eq_none_iff rest field).2 hfield]
      rfl
    · rw [if_neg hkey, if_neg hkey]

theorem insertAll_of_find? {object : Object} :
    ∀ {fields : Object}, (∀ field ∈ fields, find? object field.1 = some field.2) →
      insertAll object fields = object
  | [], _ => rfl
  | field :: rest, h => by
    obtain ⟨hfield, hrest⟩ := List.forall_mem_cons.1 h
    have hstep : insertAll object (field :: rest) =
        insertAll (insert field.1 field.2 object) rest := rfl
    rw [hstep, insert_of_find? hfield, insertAll_of_find? hrest]

/-- Fields that are stored in turn : those that are there keep their places, each with its new
value if it has one, and the new ones follow. -/
theorem insertAll_eq : ∀ {fields object : Object}, (keys fields).Nodup → (keys object).Nodup →
    insertAll object fields =
      (object.map fun (field, value) => (field, (find? fields field).getD value)) ++
        fields.filter fun (field, _) => field ∉ keys object
  | [], object, _, _ => by simp [insertAll, find?]
  | (key, value) :: rest, object, hfields, hobject => by
    obtain ⟨hkey, hrest⟩ := List.nodup_cons.1 hfields
    have hstep : insertAll object ((key, value) :: rest) =
        insertAll (insert key value object) rest := rfl
    have hfind : find? rest key = none := (find?_eq_none_iff rest key).2 hkey
    have hnodup := nodup_keys_insert key value hobject
    have hkeys := keys_insert key value hobject
    by_cases hmem : key ∈ keys object
    · rw [if_pos hmem] at hkeys
      rw [hstep, insertAll_eq hrest hnodup, hkeys, insert_of_mem value hobject hmem,
        List.map_map, List.filter_cons_of_neg (by simpa using hmem)]
      congr 1
      refine List.map_congr_left fun entry _ => ?_
      by_cases heq : entry.1 = key
      · simp [heq, hfind, find?_cons]
      · simp [heq, find?_cons]
    · rw [if_neg hmem] at hkeys
      rw [hstep, insertAll_eq hrest hnodup, hkeys, insert_of_notMem value hmem,
        List.filter_cons_of_pos (by simpa using hmem), List.map_append, List.append_assoc]
      congr 1
      · refine List.map_congr_left fun entry hentry => ?_
        simp [find?_cons, ne_of_notMem_keys hmem hentry]
      · simp only [List.map_cons, List.map_nil, hfind, Option.getD_none, List.singleton_append]
        congr 1
        refine List.filter_congr fun entry hentry => ?_
        simp [ne_of_notMem_keys hkey hentry]

end Object

end SceneLoad

import Mathlib.Data.List.TakeWhile
import SceneLoad.Proofs.RegistrationOrder

/-!
# What becomes of the prefabs of a document

Each prefab value of a document has one fate. It is malformed, or its definition is refused or
accepted. `Fares` says which, for a registry of what was accepted before, and `Accounts` goes
through the values in order.

A document's prefabs have one account (`existsUnique_accounts`), which tells what is reported and
what is registered (`registration_of_accounts`). Under each id that is the definition that was
accepted last (`get?_foldl_install`).
-/

namespace SceneLoad

namespace Text

theorem trimList_eq_nil_iff {cs : List Char} : trimList cs = [] ↔ ∀ c ∈ cs, isBlank c = true := by
  rw [trimList, List.reverse_eq_nil_iff, List.dropWhile_eq_nil_iff]
  refine ⟨fun h c hc => ?_, fun h c hc => ?_⟩
  · rw [← List.takeWhile_append_dropWhile (p := isBlank) (l := cs), List.mem_append] at hc
    rcases hc with hc | hc
    · exact List.mem_takeWhile_imp hc
    · exact h c (List.mem_reverse.2 hc)
  · exact h c (List.dropWhile_subset isBlank (List.mem_reverse.1 hc))

/-- A text holds nothing but blanks exactly if nothing is left of it without its blank ends. -/
theorem isBlankText_iff {text : String} : isBlankText text = true ↔ trim text = "" := by
  rw [isBlankText, List.all_eq_true, ← trimList_eq_nil_iff, trim, String.ofList_eq_empty_iff]

end Text

/-! ## Fates -/

/-- What becomes of a prefab value. -/
inductive Fate where
  | malformed (report : Diagnostic)
  | refused (report : Diagnostic)
  | accepted (definition : Definition)

namespace Fate

def malformed? : Fate → Option Diagnostic
  | .malformed report => some report
  | .refused _ | .accepted _ => none

def refused? : Fate → Option Diagnostic
  | .refused report => some report
  | .malformed _ | .accepted _ => none

def accepted? : Fate → Option Definition
  | .accepted definition => some definition
  | .malformed _ | .refused _ => none

end Fate

/-- What a report calls the prefab value at a position : its id, if that is a text, and else its
position. -/
inductive Labelled (index : Nat) (value : Json) : String → Prop
  | id {id : String} (hid : value.field? "id" = some (.str id)) : Labelled index value id
  | position (hid : ∀ id, value.field? "id" ≠ some (.str id)) :
    Labelled index value ("prefabs[" ++ toString index ++ "]")

theorem Json.text?_eq_some_iff {value : Json} {text : String} :
    value.text? = some text ↔ value = .str text := by
  cases value with
  | str stored => rw [text?, Option.some.injEq, Json.str.injEq]
  | _ => exact iff_of_false nofun nofun

theorem labelled_iff {index : Nat} {value : Json} {label : String} :
    Labelled index value label ↔ label = Definition.label index value := by
  have htext : ∀ id, (value.field? "id").bind Json.text? = some id ↔
      value.field? "id" = some (.str id) := by
    intro id
    simp only [Option.bind_eq_some_iff, Json.text?_eq_some_iff, exists_eq_right]
  constructor
  · rintro (hid | hid)
    · rw [Definition.label, (htext label).2 hid, Option.getD_some]
    · have hnone : (value.field? "id").bind Json.text? = none :=
        Option.eq_none_iff_forall_ne_some.2 fun id => mt (htext id).1 (hid id)
      rw [Definition.label, hnone, Option.getD_none]
  · rintro rfl
    rw [Definition.label]
    cases hlabel : (value.field? "id").bind Json.text? with
    | some id => exact .id ((htext id).1 hlabel)
    | none =>
      refine .position fun id hid => ?_
      rw [(htext id).2 hid] at hlabel
      cases hlabel

namespace PrefabRegistry

/-- What becomes of the prefab value at a position, and how it is reported, when it comes to a
registry. -/
inductive Fares (registry : PrefabRegistry) (index : Nat) (value : Json) : Fate → Prop
  | unread {fault : Fault} {label : String} (hread : Definition.read value = .error fault)
    (hlabel : Labelled index value label) :
    Fares registry index value (.malformed
      { code := .malformedPrefab, message := (PayloadError.ofFault fault).render
        entity := some label })
  | unnamed {definition : Definition} {label : String}
    (hread : Definition.read value = .ok definition) (hid : Text.trim definition.id = "")
    (hlabel : Labelled index value label) :
    Fares registry index value (.malformed
      { code := .malformedPrefab, message := "prefab id is empty", entity := some label })
  | refused {definition : Definition} {error : CycleError}
    (hread : Definition.read value = .ok definition) (hid : Text.trim definition.id ≠ "")
    (hregister : registry.register definition = .error error) :
    Fares registry index value (.refused
      { code := .cyclicDependency, message := error.message, entity := some definition.id })
  | accepted {definition : Definition} {registry' : PrefabRegistry}
    (hread : Definition.read value = .ok definition) (hid : Text.trim definition.id ≠ "")
    (hregister : registry.register definition = .ok registry') :
    Fares registry index value (.accepted definition)

/-- The registry after a prefab value with the given fate. -/
def after (registry : PrefabRegistry) : Fate → PrefabRegistry
  | .malformed _ | .refused _ => registry
  | .accepted definition => registry.install definition

/-- Prefab values from a position on, with the fate of each. What is accepted is in the registry for
the later ones. -/
inductive Accounts : PrefabRegistry → (index : Nat) → List Json → List Fate → Prop
  | nil (registry : PrefabRegistry) (index : Nat) : Accounts registry index [] []
  | cons {registry : PrefabRegistry} {index : Nat} {value : Json} {fate : Fate}
    {rest : List Json} {fates : List Fate} (hfate : Fares registry index value fate)
    (hrest : Accounts (registry.after fate) (index + 1) rest fates) :
    Accounts registry index (value :: rest) (fate :: fates)

variable {registry : PrefabRegistry} {index : Nat} {value : Json} {values : List Json}

/-! ## One account of all values -/

theorem diagnostic_of_register {definition : Definition} {error : CycleError}
    (h : registry.register definition = .error error) :
    error.diagnostic =
      { code := .cyclicDependency, message := error.message, entity := some definition.id } := by
  rw [register_eq] at h
  cases hcycle : registry.cycleThrough definition with
  | none => simp [hcycle] at h
  | some cycle =>
    simp only [hcycle, Except.error.injEq] at h
    subst h
    rfl

/-- What becomes of the prefab value at a position. -/
def fate (registry : PrefabRegistry) (index : Nat) (value : Json) : Fate :=
  match Definition.parse index value with
  | .error report => .malformed report
  | .ok definition =>
    match registry.register definition with
    | .error error => .refused error.diagnostic
    | .ok _ => .accepted definition

theorem fares_iff {result : Fate} :
    registry.Fares index value result ↔ result = registry.fate index value := by
  unfold fate Definition.parse
  constructor
  · rintro (⟨hread, hlabel⟩ | ⟨hread, hid, hlabel⟩ | ⟨hread, hid, hregister⟩ |
      ⟨hread, hid, hregister⟩)
    · rw [hread, ← labelled_iff.1 hlabel]
    · simp only [hread, Text.isBlankText_iff, if_pos hid, ← labelled_iff.1 hlabel]
    · simp only [hread, Text.isBlankText_iff, if_neg hid, hregister,
        diagnostic_of_register hregister]
    · simp only [hread, Text.isBlankText_iff, if_neg hid, hregister]
  · rintro rfl
    cases hread : Definition.read value with
    | error fault => exact .unread hread (labelled_iff.2 rfl)
    | ok definition =>
      simp only [Text.isBlankText_iff]
      split_ifs with hid
      · exact .unnamed hread hid (labelled_iff.2 rfl)
      · dsimp only
        cases hregister : registry.register definition with
        | error error =>
          dsimp only
          rw [diagnostic_of_register hregister]
          exact .refused hread hid hregister
        | ok registry' => exact .accepted hread hid hregister

theorem existsUnique_accounts : ∀ (registry : PrefabRegistry) (index : Nat) (values : List Json),
    ∃! fates, registry.Accounts index values fates
  | registry, index, [] => by
    refine ⟨[], .nil registry index, ?_⟩
    rintro _ ⟨⟩
    rfl
  | registry, index, value :: rest => by
    obtain ⟨fates, hfates, hunique⟩ :=
      existsUnique_accounts (registry.after (registry.fate index value)) (index + 1) rest
    refine ⟨_ :: fates, .cons (fares_iff.2 rfl) hfates, ?_⟩
    rintro _ (- | ⟨hfate, hrest⟩)
    obtain rfl := fares_iff.1 hfate
    exact congrArg _ (hunique _ hrest)

/-! ## What a registration comes to -/

/-- The fates tell what is reported as malformed and as refused, and what is registered. -/
theorem registration_of_accounts {fates : List Fate} (h : registry.Accounts index values fates) :
    (Definition.parseFrom index values).2 = fates.filterMap Fate.malformed? ∧
      (registry.registerAll (Definition.parseFrom index values).1).2.2 =
        fates.filterMap Fate.refused? ∧
      (registry.registerAll (Definition.parseFrom index values).1).1 =
        (fates.filterMap Fate.accepted?).foldl install registry := by
  induction h with
  | nil registry index => exact ⟨rfl, rfl, rfl⟩
  | @cons registry index value fate rest fates hfate _ ih =>
    obtain rfl := fares_iff.1 hfate
    obtain ⟨hmalformed, hrefused, hregistered⟩ := ih
    rw [Definition.parseFrom]
    unfold PrefabRegistry.fate at hrefused hregistered ⊢
    cases hparse : Definition.parse index value with
    | error report =>
      simp only [hparse] at hrefused hregistered
      exact ⟨congrArg (report :: ·) hmalformed, hrefused, hregistered⟩
    | ok definition =>
      cases hcycle : registry.cycleThrough definition with
      | some cycle =>
        have hregister := registry.register_eq definition
        rw [hcycle] at hregister
        simp only [hparse, hregister, registerAll] at hrefused hregistered ⊢
        exact ⟨hmalformed, congrArg (_ :: ·) hrefused, hregistered⟩
      | none =>
        have hregister := registry.register_eq definition
        rw [hcycle] at hregister
        simp only [hparse, hregister, registerAll] at hrefused hregistered ⊢
        exact ⟨hmalformed, hrefused, hregistered⟩

/-- Of the definitions that are stored under one id, the last one stays. -/
theorem get?_foldl_install (id : String) : ∀ (definitions : List Definition)
    (registry : PrefabRegistry),
    (definitions.foldl install registry).get? id =
      ((definitions.filter (·.id = id)).getLast?).or (registry.get? id)
  | [], _ => rfl
  | definition :: rest, registry => by
    rw [List.foldl_cons, get?_foldl_install id rest, get?, install, SortedMap.find?_insert,
      List.filter_cons]
    by_cases hid : id = definition.id
    · rw [if_pos hid, if_pos (by simpa using hid.symm), List.getLast?_cons]
      cases (rest.filter (·.id = id)).getLast? <;> rfl
    · rw [if_neg hid, if_neg (by simpa using Ne.symm hid), get?]

theorem mem_ids_iff {id : String} : id ∈ registry.ids ↔ registry.get? id ≠ none := by
  rw [ids, get?, Ne, SortedMap.find?_eq_none_iff, not_not]

/-- Every prefab value of a document has one fate. The log names the malformed ones and then the
refused ones, both in order. Each id has the definition that was accepted for it last, and the ids
are those of the accepted definitions, ascending. -/
theorem ofJson_fates (values : List Json) :
    (∃! fates, empty.Accounts 0 values fates) ∧
    ∀ fates, empty.Accounts 0 values fates →
      (ofJson values).2 = fates.filterMap Fate.malformed? ++ fates.filterMap Fate.refused? ∧
      (∀ id, (ofJson values).1.get? id =
        ((fates.filterMap Fate.accepted?).filter (·.id = id)).getLast?) ∧
      (ofJson values).1.ids.Pairwise (· < ·) ∧
      ∀ id, id ∈ (ofJson values).1.ids ↔
        ∃ definition ∈ fates.filterMap Fate.accepted?, definition.id = id := by
  refine ⟨existsUnique_accounts empty 0 values, fun fates h => ?_⟩
  obtain ⟨hmalformed, hrefused, hregistered⟩ := registration_of_accounts h
  have hget : ∀ id, (ofJson values).1.get? id =
      ((fates.filterMap Fate.accepted?).filter (·.id = id)).getLast? := by
    intro id
    show (empty.registerAll (Definition.parseFrom 0 values).1).1.get? id = _
    rw [hregistered, get?_foldl_install]
    exact Option.or_none
  refine ⟨?_, hget, pairwise_ids_registerAll _, fun id => ?_⟩
  · show (Definition.parseFrom 0 values).2 ++
      (empty.registerAll (Definition.parseFrom 0 values).1).2.2 = _
    rw [hmalformed, hrefused]
  · rw [mem_ids_iff, hget, Ne, List.getLast?_eq_none_iff, List.filter_eq_nil_iff]
    simp only [decide_eq_true_eq, not_forall, not_not, exists_prop]

/-- A drawer that is refused as long as the desk has it, and a desk without one. -/
def furniture : List Json :=
  [.null, desk.toJson, drawerOfDesk.toJson, (Definition.ofRoot "desk" {}).toJson,
    drawerOfDesk.toJson]

theorem ofJson_fates_furniture :
    (ofJson furniture).2.map (fun report => (report.code, report.entity)) =
        [(.malformedPrefab, some "prefabs[0]"), (.cyclicDependency, some "drawer")] ∧
      (ofJson furniture).1.get? "desk" = some (Definition.ofRoot "desk" {}) ∧
      "drawer" ∈ (ofJson furniture).1.ids := by
  have hdesk : empty.Accounts 0 furniture [_, .accepted desk, _,
      .accepted (Definition.ofRoot "desk" {}), .accepted drawerOfDesk] :=
    .cons (.unread rfl (.position nofun)) <|
    .cons (.accepted rfl (by decide) rfl) <|
    .cons (.refused rfl (by decide) rfl) <|
    .cons (.accepted rfl (by decide) rfl) <|
    .cons (.accepted rfl (by decide) rfl) <| .nil _ _
  obtain ⟨hlog, hget, -, hids⟩ := (ofJson_fates furniture).2 _ hdesk
  refine ⟨?_, hget "desk", (hids "drawer").2 ⟨drawerOfDesk, by simp [Fate.accepted?], rfl⟩⟩
  rw [hlog]
  rfl

end PrefabRegistry

end SceneLoad

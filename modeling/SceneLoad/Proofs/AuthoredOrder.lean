import Mathlib.Data.List.Nodup
import SceneLoad.Proofs.DecimalIndices
import SceneLoad.Proofs.WellFormed

/-!
# The order in which a value is written

The parts of a value are named by the steps to them, the keys of objects and the positions of items
(`Json.members`). Of two such addresses the one above is written before the one below, and otherwise
they part somewhere, and the earlier member is written first (`Json.Before`). In a well-formed value
there is one member for each step, so no address is before another one and after it
(`Json.Before.asymm`).
-/

namespace SceneLoad

namespace Json

/-- The members of a value in authored order, each with the step to it. -/
def members : Json → List (String × Json)
  | .arr items => items.zipIdx.map fun (item, index) => (toString index, item)
  | .obj entries => entries
  | _ => []

/-- One address is written before another. -/
inductive Before : Json → List String → List String → Prop
  | above (value : Json) (step : String) (address : List String) :
      Before value [] (step :: address)
  | beside {value part part' : Json} {step step' : String} (address address' : List String)
      (h : List.Sublist [(step, part), (step', part')] value.members) :
      Before value (step :: address) (step' :: address')
  | under {value part : Json} {step : String} {address address' : List String}
      (hmem : (step, part) ∈ value.members) (h : Before part address address') :
      Before value (step :: address) (step :: address')

/-- There is one member for each step. -/
theorem WellFormed.nodup_members {value : Json} (h : value.WellFormed) :
    (value.members.map Prod.fst).Nodup := by
  cases h with
  | @arr items _ =>
    have hsteps : (members (.arr items)).map Prod.fst =
        (items.zipIdx.map Prod.snd).map toString := by
      rw [members, List.map_map, List.map_map]
      rfl
    rw [hsteps, List.zipIdx_map_snd]
    exact List.Nodup.map (fun _ _ => Text.toString_injective) List.nodup_range'
  | obj hkeys _ => exact hkeys
  | _ => exact List.nodup_nil

theorem WellFormed.of_mem_members {value : Json} {member : String × Json} (h : value.WellFormed)
    (hmem : member ∈ value.members) : member.2.WellFormed := by
  cases h with
  | arr hitems =>
    obtain ⟨⟨item, index⟩, hitem, rfl⟩ := List.mem_map.1 hmem
    exact hitems item (List.fst_mem_of_mem_zipIdx hitem)
  | obj _ hentries => exact hentries member hmem
  | _ => cases hmem

end Json

theorem not_sublist_swap {α : Type} {a b : α} : ∀ {list : List α}, list.Nodup →
    List.Sublist [a, b] list → ¬List.Sublist [b, a] list
  | first :: rest, hnodup, h, h' => by
    obtain ⟨hfirst, hrest⟩ := List.nodup_cons.1 hnodup
    cases h with
    | cons _ h =>
      cases h' with
      | cons _ h' => exact not_sublist_swap hrest h h'
      | cons_cons _ h' => exact hfirst (h.subset (List.mem_cons_of_mem _ List.mem_cons_self))
    | cons_cons _ h =>
      cases h' with
      | cons _ h' => exact hfirst (h'.subset (List.mem_cons_of_mem _ List.mem_cons_self))
      | cons_cons _ h' => exact hfirst (h'.subset List.mem_cons_self)

/-- In a well-formed value nothing is written both before and after something else. -/
theorem Json.Before.asymm {value : Json} {address address' : List String}
    (h : value.Before address address') (hvalue : value.WellFormed) :
    ¬value.Before address' address := by
  induction h with
  | above value step address => exact nofun
  | @beside value part part' step step' address address' hpair =>
    have hsteps := hpair.map Prod.fst
    rintro (_ | ⟨_, _, hpair'⟩ | ⟨-, -⟩)
    · exact not_sublist_swap hvalue.nodup_members hsteps (hpair'.map Prod.fst)
    · exact List.not_nodup_pair step (hvalue.nodup_members.sublist hsteps)
  | @under value part step address address' hmem h ih =>
    rintro (_ | ⟨_, _, hpair'⟩ | ⟨hmem', h'⟩)
    · exact List.not_nodup_pair step (hvalue.nodup_members.sublist (hpair'.map Prod.fst))
    · have hfind := (lookup_eq_some_iff_mem hvalue.nodup_members).2 hmem
      have hfind' := (lookup_eq_some_iff_mem hvalue.nodup_members).2 hmem'
      obtain rfl := Option.some.inj (hfind.symm.trans hfind')
      exact ih (hvalue.of_mem_members hmem) h'

end SceneLoad

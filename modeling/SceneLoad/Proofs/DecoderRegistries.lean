import Mathlib.Data.List.Induction
import Mathlib.Tactic.SplitIfs
import Mathlib.Tactic.TFAE
import SceneLoad.Component.Registry
import SceneLoad.Proofs.Maps

/-!
# What a registry answers after its registrations

A registration puts the decoder behind those that are there and points the kinds that it declares at
its position. Decoders that have lost a kind stay where they are, so no position is ever moved, and
every position that a kind points at holds a decoder (`WellFormed`). The decoder that answers for a
kind is then the last one registered that declares it (`decoder?_registerAll`). All the questions
that a registry can be asked about a kind are answered by that decoder, or by none
(`registerAll_answers`).
-/

namespace SceneLoad

namespace DecoderRegistry

/-! ## Kinds and their decoders -/

theorem claim?_eq (registry : DecoderRegistry) (kind : String) :
    registry.claim? kind =
      ((SortedMap.find? registry.slots kind).bind fun slot => registry.decoders[slot]?).map
        fun decoder => (kind, decoder) := by
  rw [claim?, SortedMap.entry?_eq, Option.bind_map, Option.map_bind]
  rfl

theorem decoder?_eq (registry : DecoderRegistry) (kind : String) :
    registry.decoder? kind =
      (SortedMap.find? registry.slots kind).bind fun slot => registry.decoders[slot]? := by
  rw [decoder?, claim?_eq, Option.map_map]
  exact Option.map_id'

theorem kind?_eq (registry : DecoderRegistry) (kind : String) :
    registry.kind? kind = (SortedMap.find? registry.slots kind).map fun _ => kind := by
  rw [kind?, SortedMap.entry?_eq, Option.map_map]
  rfl

theorem claim?_of_decoder? {registry : DecoderRegistry} {kind : String} {decoder : Decoder}
    (h : registry.decoder? kind = some decoder) : registry.claim? kind = some (kind, decoder) := by
  rw [claim?_eq, ← decoder?_eq, h, Option.map_some]

/-- A kind that nothing answers for is unknown. -/
theorem decode_of_decoder?_eq_none {registry : DecoderRegistry} {kind : String}
    (h : registry.decoder? kind = none) (payload : Json) :
    registry.decode kind payload = { result := .error (.unknownKind kind) } := by
  rw [decode, Option.map_eq_none_iff.1 h]

theorem reported_decode {registry : DecoderRegistry} {kind : String} {decoder : Decoder}
    (h : registry.decoder? kind = some decoder) (payload : Json) :
    (registry.decode kind payload).reported = (decoder.decode payload).diagnostics := by
  rw [decode, claim?_of_decoder? h]

/-- A component carries the kind that was asked for. -/
theorem decode_of_ok {registry : DecoderRegistry} {kind : String} {decoder : Decoder}
    (h : registry.decoder? kind = some decoder) {payload : Json} {value : Component}
    (hvalue : (decoder.decode payload).result = .ok value) :
    (registry.decode kind payload).result = .ok { kind, value } := by
  rw [decode, claim?_of_decoder? h]
  dsimp only
  rw [hvalue]

theorem decode_of_error {registry : DecoderRegistry} {kind : String} {decoder : Decoder}
    (h : registry.decoder? kind = some decoder) {payload : Json} {source : PayloadError}
    (hsource : (decoder.decode payload).result = .error source) :
    (registry.decode kind payload).result = .error (.malformedPayload kind source) := by
  rw [decode, claim?_of_decoder? h]
  dsimp only
  rw [hsource]

/-- Decoding a payload has one of three ends. -/
theorem decode_cases (registry : DecoderRegistry) (kind : String) (payload : Json) :
    (registry.decode kind payload).result = .error (.unknownKind kind) ∨
      (∃ source, (registry.decode kind payload).result =
        .error (.malformedPayload kind source)) ∨
      ∃ value, (registry.decode kind payload).result = .ok { kind, value } := by
  cases hdecoder : registry.decoder? kind with
  | none =>
    rw [decode_of_decoder?_eq_none hdecoder]
    exact .inl rfl
  | some decoder =>
    cases hresult : (decoder.decode payload).result with
    | ok value => exact .inr (.inr ⟨value, decode_of_ok hdecoder hresult⟩)
    | error source => exact .inr (.inl ⟨source, decode_of_error hdecoder hresult⟩)

theorem kind_of_result_ok {registry : DecoderRegistry} {kind : String} {payload : Json}
    {decoded : DecodedComponent} (h : (registry.decode kind payload).result = .ok decoded) :
    decoded.kind = kind := by
  rcases registry.decode_cases kind payload with hend | ⟨source, hend⟩ | ⟨value, hend⟩
  · rw [h] at hend
    cases hend
  · rw [h] at hend
    cases hend
  · rw [h] at hend
    rw [Except.ok.inj hend]

theorem kind_of_decode {registry : DecoderRegistry} {kind : String} {payload : Json}
    {error : DecodeError} (h : (registry.decode kind payload).result = .error error) :
    error.kind = kind := by
  rcases registry.decode_cases kind payload with hend | ⟨source, hend⟩ | ⟨value, hend⟩
  · rw [h] at hend
    rw [Except.error.inj hend]
    rfl
  · rw [h] at hend
    rw [Except.error.inj hend]
    rfl
  · rw [h] at hend
    cases hend

/-! ## One registration -/

/-- Kinds are stored in ascending order, and each points at a decoder. -/
structure WellFormed (registry : DecoderRegistry) : Prop where
  slot_lt : ∀ kind slot, SortedMap.find? registry.slots kind = some slot →
    slot < registry.decoders.length
  keys : (SortedMap.keys registry.slots).Pairwise (· < ·)

theorem find?_foldl_insert (kind : String) (slot : Nat) :
    ∀ (kinds : List String) (slots : SortedMap String Nat),
      SortedMap.find? (kinds.foldl (fun slots kind => SortedMap.insert kind slot slots) slots)
          kind =
        if kind ∈ kinds then some slot else SortedMap.find? slots kind
  | [], slots => rfl
  | first :: rest, slots => by
    rw [List.foldl_cons, find?_foldl_insert kind slot rest, SortedMap.find?_insert]
    by_cases hfirst : kind = first
    · simp [hfirst]
    · simp [hfirst]

theorem find?_register (registry : DecoderRegistry) (decoder : Decoder) (kind : String) :
    SortedMap.find? (registry.register decoder).slots kind =
      if kind ∈ decoder.kinds then some registry.decoders.length
      else SortedMap.find? registry.slots kind :=
  find?_foldl_insert ..

theorem decoders_register (registry : DecoderRegistry) (decoder : Decoder) :
    (registry.register decoder).decoders = registry.decoders ++ [decoder] := rfl

theorem pairwise_foldl_insert (slot : Nat) :
    ∀ (kinds : List String) {slots : SortedMap String Nat},
      (SortedMap.keys slots).Pairwise (· < ·) →
        (SortedMap.keys
          (kinds.foldl (fun slots kind => SortedMap.insert kind slot slots) slots)).Pairwise
            (· < ·)
  | [], _, h => h
  | first :: rest, _, h => pairwise_foldl_insert slot rest (SortedMap.pairwise_insert first slot h)

theorem wellFormed_empty : WellFormed empty where
  slot_lt := by simp [empty, SortedMap.find?]
  keys := .nil

theorem WellFormed.register {registry : DecoderRegistry} (h : registry.WellFormed)
    (decoder : Decoder) : (registry.register decoder).WellFormed where
  slot_lt kind slot hslot := by
    rw [decoders_register, List.length_append, List.length_singleton]
    rw [find?_register] at hslot
    split_ifs at hslot
    · rw [← Option.some.inj hslot]
      exact Nat.lt_succ_self _
    · exact Nat.lt_succ_of_lt (h.slot_lt kind slot hslot)
  keys := pairwise_foldl_insert _ decoder.kinds h.keys

/-- The new decoder answers for what it declares, and for everything else the same one as
before. -/
theorem WellFormed.decoder?_register {registry : DecoderRegistry} (h : registry.WellFormed)
    (decoder : Decoder) (kind : String) :
    (registry.register decoder).decoder? kind =
      if kind ∈ decoder.kinds then some decoder else registry.decoder? kind := by
  rw [decoder?_eq, decoder?_eq, find?_register, decoders_register]
  split_ifs
  · rw [Option.bind_some, List.getElem?_concat_length]
  · cases hslot : SortedMap.find? registry.slots kind with
    | none => rfl
    | some slot =>
      rw [Option.bind_some, Option.bind_some,
        List.getElem?_append_left (h.slot_lt kind slot hslot)]

theorem WellFormed.isSome_decoder? {registry : DecoderRegistry} (h : registry.WellFormed)
    (kind : String) :
    (registry.decoder? kind).isSome = (SortedMap.find? registry.slots kind).isSome := by
  rw [decoder?_eq]
  cases hslot : SortedMap.find? registry.slots kind with
  | none => rfl
  | some slot => simpa using h.slot_lt kind slot hslot

/-! ## Registrations in a row -/

theorem registerAll_concat (registry : DecoderRegistry) (decoders : List Decoder)
    (decoder : Decoder) :
    registry.registerAll (decoders ++ [decoder]) =
      (registry.registerAll decoders).register decoder := by
  rw [registerAll, List.foldl_append]
  rfl

theorem wellFormed_registerAll (decoders : List Decoder) :
    (empty.registerAll decoders).WellFormed := by
  induction decoders using List.reverseRecOn with
  | nil => exact wellFormed_empty
  | append_singleton decoders decoder ih =>
    rw [registerAll_concat]
    exact ih.register decoder

/-- The last of the decoders that declare a kind answers for it. -/
theorem decoder?_registerAll (decoders : List Decoder) (kind : String) :
    (empty.registerAll decoders).decoder? kind =
      decoders.reverse.find? fun decoder => kind ∈ decoder.kinds := by
  induction decoders using List.reverseRecOn with
  | nil => rfl
  | append_singleton decoders decoder ih =>
    rw [registerAll_concat, (wellFormed_registerAll decoders).decoder?_register, ih,
      List.reverse_concat, List.find?_cons]
    by_cases hkind : kind ∈ decoder.kinds
    · simp [hkind]
    · simp [hkind]

theorem isSome_decoder?_registerAll (decoders : List Decoder) (kind : String) :
    ((empty.registerAll decoders).decoder? kind).isSome = true ↔
      ∃ decoder ∈ decoders, kind ∈ decoder.kinds := by
  rw [decoder?_registerAll, List.find?_isSome]
  simp

/-- What a registry answers does not depend on how it is asked. -/
theorem WellFormed.tfae {registry : DecoderRegistry} (h : registry.WellFormed) (kind : String) :
    [(registry.decoder? kind).isSome = true,
      registry.hasDecoder kind = true,
      (registry.kind? kind).isSome = true,
      (registry.capabilities? kind).isSome = true,
      kind ∈ registry.registeredKinds,
      ∀ payload unknown,
        (registry.decode kind payload).result ≠ .error (.unknownKind unknown),
      ∃ payload, ∀ unknown,
        (registry.decode kind payload).result ≠ .error (.unknownKind unknown)].TFAE := by
  have hslot := h.isSome_decoder? kind
  have hkeys : kind ∈ registry.registeredKinds ↔
      (SortedMap.find? registry.slots kind).isSome = true := by
    rw [registeredKinds, ← not_iff_not, ← SortedMap.find?_eq_none_iff,
      Option.not_isSome_iff_eq_none]
  have hdecode : ∀ payload, (registry.decoder? kind).isSome = true ↔
      ∀ unknown, (registry.decode kind payload).result ≠ .error (.unknownKind unknown) := by
    intro payload
    cases hdecoder : registry.decoder? kind with
    | none =>
      rw [decode_of_decoder?_eq_none hdecoder]
      simp
    | some decoder =>
      refine ⟨fun _ unknown hunknown => ?_, fun _ => rfl⟩
      cases hresult : (decoder.decode payload).result with
      | ok value =>
        rw [decode_of_ok hdecoder hresult] at hunknown
        cases hunknown
      | error source =>
        rw [decode_of_error hdecoder hresult] at hunknown
        cases hunknown
  tfae_have 1 ↔ 2 := by rw [hslot, hasDecoder, SortedMap.contains]
  tfae_have 1 ↔ 3 := by rw [hslot, kind?_eq, Option.isSome_map]
  tfae_have 1 ↔ 4 := by rw [capabilities?, Option.isSome_map]
  tfae_have 1 ↔ 5 := by rw [hslot, hkeys]
  tfae_have 1 → 6 := fun hsome payload => (hdecode payload).1 hsome
  tfae_have 6 → 7 := fun hknown => ⟨.null, hknown .null⟩
  tfae_have 7 → 1 := fun ⟨payload, hknown⟩ => (hdecode payload).2 hknown
  tfae_finish

/-- A kind that a new decoder does not declare is answered for as before. -/
theorem WellFormed.register_of_notMem {registry : DecoderRegistry} (h : registry.WellFormed)
    {decoder : Decoder} {kind : String} (hkind : kind ∉ decoder.kinds) :
    (registry.register decoder).hasDecoder kind = registry.hasDecoder kind ∧
      (registry.register decoder).kind? kind = registry.kind? kind ∧
      (registry.register decoder).capabilities? kind = registry.capabilities? kind ∧
      (kind ∈ (registry.register decoder).registeredKinds ↔ kind ∈ registry.registeredKinds) ∧
      ∀ payload, (registry.register decoder).decode kind payload =
        registry.decode kind payload := by
  have hslot := find?_register registry decoder kind
  have hdecoder := h.decoder?_register decoder kind
  rw [if_neg hkind] at hslot hdecoder
  refine ⟨?_, ?_, ?_, ?_, fun payload => ?_⟩
  · rw [hasDecoder, hasDecoder, SortedMap.contains, SortedMap.contains, hslot]
  · rw [kind?_eq, kind?_eq, hslot]
  · rw [capabilities?, capabilities?, hdecoder]
  · rw [registeredKinds, registeredKinds, ← not_iff_not, ← SortedMap.find?_eq_none_iff,
      ← SortedMap.find?_eq_none_iff, hslot]
  · rw [decode, decode, claim?_eq, claim?_eq, ← decoder?_eq, ← decoder?_eq, hdecoder]

/-- After any registrations, all questions about a kind say alike whether some decoder declares it.
If one does, the last of them answers, and the component or the error carries the kind. Every kind
points at a decoder, another registration changes nothing for the kinds that it does not declare,
and the kinds are listed in ascending order. -/
theorem registerAll_answers (decoders : List Decoder) :
    let registry := empty.registerAll decoders
    (∀ kind,
      [∃ decoder ∈ decoders, kind ∈ decoder.kinds,
        registry.hasDecoder kind = true,
        (registry.kind? kind).isSome = true,
        (registry.capabilities? kind).isSome = true,
        kind ∈ registry.registeredKinds,
        ∀ payload unknown,
          (registry.decode kind payload).result ≠ .error (.unknownKind unknown),
        ∃ payload, ∀ unknown,
          (registry.decode kind payload).result ≠ .error (.unknownKind unknown)].TFAE) ∧
    (∀ kind decoder,
      (decoders.reverse.find? fun decoder => kind ∈ decoder.kinds) = some decoder →
        registry.kind? kind = some kind ∧
        registry.capabilities? kind = some decoder.capabilities ∧
        ∀ payload,
          (registry.decode kind payload).reported = (decoder.decode payload).diagnostics ∧
          (∀ value, (decoder.decode payload).result = .ok value →
            (registry.decode kind payload).result = .ok { kind, value }) ∧
          ∀ source, (decoder.decode payload).result = .error source →
            (registry.decode kind payload).result = .error (.malformedPayload kind source)) ∧
    (∀ kind slot, SortedMap.find? registry.slots kind = some slot →
      slot < registry.decoders.length) ∧
    (∀ (decoder : Decoder) (kind : String), kind ∉ decoder.kinds →
      (registry.register decoder).hasDecoder kind = registry.hasDecoder kind ∧
        (registry.register decoder).kind? kind = registry.kind? kind ∧
        (registry.register decoder).capabilities? kind = registry.capabilities? kind ∧
        (kind ∈ (registry.register decoder).registeredKinds ↔ kind ∈ registry.registeredKinds) ∧
        ∀ payload, (registry.register decoder).decode kind payload =
          registry.decode kind payload) ∧
    registry.registeredKinds.Pairwise (· < ·) := by
  intro registry
  have hwell : registry.WellFormed := wellFormed_registerAll decoders
  refine ⟨fun kind => ?_, fun kind decoder hlast => ?_, hwell.slot_lt,
    fun decoder kind hkind => hwell.register_of_notMem hkind, hwell.keys⟩
  · have hanswers := hwell.tfae kind
    rwa [isSome_decoder?_registerAll] at hanswers
  · have hdecoder : registry.decoder? kind = some decoder :=
      (decoder?_registerAll decoders kind).trans hlast
    obtain ⟨slot, hslot, -⟩ :=
      Option.bind_eq_some_iff.1 ((decoder?_eq registry kind).symm.trans hdecoder)
    refine ⟨?_, ?_, fun payload => ⟨reported_decode hdecoder payload, fun value hvalue => ?_,
      fun source hsource => ?_⟩⟩
    · rw [kind?_eq, hslot, Option.map_some]
    · rw [capabilities?, hdecoder, Option.map_some]
    · exact decode_of_ok hdecoder hvalue
    · exact decode_of_error hdecoder hsource

end DecoderRegistry

end SceneLoad

import Mathlib.Tactic.SplitIfs
import SceneLoad.Proofs.DecoderRegistries

/-!
# What the standard decoders report

A decoder may report something beside its component. Of the standard ones only that of transforms
does, about vectors of the wrong length (`reported_standard`).
-/

namespace SceneLoad

/-- A kind is decoded by one of the standard payloads, if at all. -/
theorem exists_payload_of_decoder? {kind : String} {decoder : Decoder}
    (h : DecoderRegistry.standard.decoder? kind = some decoder) :
    ∃ payload ∈ Payload.standard, decoder = payload.decoder := by
  rw [DecoderRegistry.standard, DecoderRegistry.decoder?_registerAll] at h
  have hmem : decoder ∈ Payload.standard.map Payload.decoder :=
    List.mem_reverse.1 (List.mem_of_find?_eq_some h)
  obtain ⟨payload, hpayload, heq⟩ := List.mem_map.1 hmem
  exact ⟨payload, hpayload, heq.symm⟩

/-- What decodes a kind is a standard payload that declares it. -/
theorem exists_declaring_payload {kind : String} {decoder : Decoder}
    (h : DecoderRegistry.standard.decoder? kind = some decoder) :
    ∃ payload ∈ Payload.standard, decoder = payload.decoder ∧ kind ∈ payload.kinds := by
  obtain ⟨payload, hpayload, rfl⟩ := exists_payload_of_decoder? h
  rw [DecoderRegistry.standard, DecoderRegistry.decoder?_registerAll] at h
  have hkind : kind ∈ payload.decoder.kinds := by simpa using List.find?_some h
  exact ⟨payload, hpayload, rfl, hkind⟩

theorem diagnostics_ensure (condition : Bool) (path message : String) (component : Component) :
    (Decoding.ensure condition path message component).diagnostics = [] := by
  unfold Decoding.ensure
  split_ifs <;> rfl

/-- Only the first of the standard payloads, a transform, comes with reports. -/
theorem diagnostics_complete : ∀ payload ∈ Payload.standard.tail, ∀ content,
    (payload.complete content).diagnostics = [] := by
  simp only [Payload.standard, List.tail_cons, List.forall_mem_cons]
  exact ⟨fun _ => rfl, fun _ => rfl, fun _ => rfl, fun _ => rfl, fun _ => rfl, fun _ => rfl,
    fun _ => rfl, fun _ => rfl, fun _ => rfl, fun _ => rfl, fun _ => rfl, fun _ => rfl,
    fun _ => rfl, fun _ => diagnostics_ensure .., fun _ => diagnostics_ensure ..,
    fun _ => diagnostics_ensure .., by simp⟩

/-- The standard decoders report nothing, unless they make a transform. -/
theorem reported_standard (kind : String) (value : Json) :
    (DecoderRegistry.standard.decode kind value).reported = [] ∨
      (∃ transform, (DecoderRegistry.standard.decode kind value).result =
        .ok { kind, value := .transform transform }) ∧
        ∀ diagnostic ∈ (DecoderRegistry.standard.decode kind value).reported,
          diagnostic.code = .invalidTransformArity := by
  cases hdecoder : DecoderRegistry.standard.decoder? kind with
  | none =>
    rw [DecoderRegistry.decode_of_decoder?_eq_none hdecoder]
    exact .inl rfl
  | some decoder =>
    rw [DecoderRegistry.reported_decode hdecoder]
    obtain ⟨payload, hpayload, rfl⟩ := exists_payload_of_decoder? hdecoder
    simp only [Payload.decoder, Payload.decode]
    cases hread : payload.layout.shape.read value with
    | error fault => exact .inl rfl
    | ok content =>
      rcases List.mem_cons.1 hpayload with rfl | hpayload
      · have hresult : (Payload.transform.decoder.decode value).result =
            .ok (.transform (AuthoredTransform.transform content)) := by
          simp only [Payload.decoder, Payload.decode, hread]
          rfl
        refine .inr ⟨⟨_, DecoderRegistry.decode_of_ok hdecoder hresult⟩, fun diagnostic hmem => ?_⟩
        obtain ⟨error, -, rfl⟩ := List.mem_map.1 hmem
        rfl
      · exact .inl (diagnostics_complete payload hpayload content)

end SceneLoad

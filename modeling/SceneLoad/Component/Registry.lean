import SceneLoad.Component.Decoder
import SceneLoad.SortedMap

/-!
# Decoder registries

A registry keeps every decoder in the order of registration and, for each component kind, the
position of the decoder that answers for it: the last one registered that claims the kind.
-/

namespace SceneLoad

/-- Why a component could not be decoded. -/
inductive DecodeError where
  | unknownKind (kind : String)
  | malformedPayload (kind : String) (source : PayloadError)
deriving DecidableEq

namespace DecodeError

def code : DecodeError → DiagnosticCode
  | .unknownKind _ => .unknownComponentKind
  | .malformedPayload _ _ => .malformedComponentPayload

/-- The kind that was to be decoded. -/
def kind : DecodeError → String
  | .unknownKind kind => kind
  | .malformedPayload kind _ => kind

def message : DecodeError → String
  | .unknownKind kind => "no decoder registered for component kind '" ++ kind ++ "'"
  | .malformedPayload kind source => "malformed " ++ kind ++ " payload: " ++ source.render

def diagnostic (error : DecodeError) : Diagnostic :=
  { code := error.code, message := error.message, component := some error.kind }

end DecodeError

/-- A component with the kind that it was decoded as. `==` compares both. -/
structure DecodedComponent where
  kind : String
  value : Component
deriving BEq

/-- A component or the reason why there is none, with what the decoder reported on the way. -/
structure DecodeOutcome where
  result : Except DecodeError DecodedComponent
  reported : List Diagnostic := []

/-- What a failed decoding adds to the log after what the decoder reported. -/
def DecodeOutcome.diagnostics (outcome : DecodeOutcome) : List Diagnostic :=
  outcome.reported ++
    match outcome.result with
    | .ok _ => []
    | .error error => [error.diagnostic]

/-- Decoders by component kind. -/
structure DecoderRegistry where
  /-- Every registered decoder, replaced ones included. -/
  decoders : List Decoder := []
  /-- For each kind the position of its decoder. -/
  slots : SortedMap String Nat := []

namespace DecoderRegistry

def empty : DecoderRegistry := {}

/-- Adds a decoder, which answers for its kinds from now on. -/
def register (registry : DecoderRegistry) (decoder : Decoder) : DecoderRegistry where
  decoders := registry.decoders ++ [decoder]
  slots := decoder.kinds.foldl
    (fun slots kind => SortedMap.insert kind registry.decoders.length slots) registry.slots

/-- Adds decoders in order. -/
def registerAll (registry : DecoderRegistry) (decoders : List Decoder) : DecoderRegistry :=
  decoders.foldl register registry

/-- The registry of the built-in components. -/
def standard : DecoderRegistry := empty.registerAll (Payload.standard.map Payload.decoder)

/-- A kind as it is registered, with the decoder that answers for it. -/
def claim? (registry : DecoderRegistry) (kind : String) : Option (String × Decoder) :=
  (SortedMap.entry? registry.slots kind).bind fun (registered, slot) =>
    registry.decoders[slot]?.map fun decoder => (registered, decoder)

/-- The decoder that answers for a kind. -/
def decoder? (registry : DecoderRegistry) (kind : String) : Option Decoder :=
  (registry.claim? kind).map Prod.snd

/-- Whether some decoder claims a kind. -/
def hasDecoder (registry : DecoderRegistry) (kind : String) : Bool :=
  SortedMap.contains registry.slots kind

/-- The kind as it is registered, if some decoder claims it. -/
def kind? (registry : DecoderRegistry) (kind : String) : Option String :=
  (SortedMap.entry? registry.slots kind).map Prod.fst

/-- What a kind affects, if some decoder claims it. -/
def capabilities? (registry : DecoderRegistry) (kind : String) : Option Capabilities :=
  (registry.decoder? kind).map Decoder.capabilities

/-- The claimed kinds, ascending. -/
def registeredKinds (registry : DecoderRegistry) : List String := SortedMap.keys registry.slots

/-- Decodes one payload. The component carries the kind as it is registered. -/
def decode (registry : DecoderRegistry) (kind : String) (payload : Json) : DecodeOutcome :=
  match registry.claim? kind with
  | none => { result := .error (.unknownKind kind) }
  | some (registered, decoder) =>
    let decoding := decoder.decode payload
    { result :=
        match decoding.result with
        | .ok value => .ok { kind := registered, value }
        | .error source => .error (.malformedPayload registered source)
      reported := decoding.diagnostics }

/-- One line that counts the decoders and lists the kinds. -/
def describe (registry : DecoderRegistry) : String :=
  let kinds := registry.registeredKinds.map fun kind =>
    "ComponentKindId(" ++ Text.quoted kind ++ ")"
  "DecoderRegistry \x7b decoders: " ++ toString registry.decoders.length ++ ", kinds: [" ++
    String.intercalate ", " kinds ++ "] \x7d"

end DecoderRegistry

end SceneLoad

import SceneLoad.Component.Vectors
import SceneLoad.Space.Transform

/-!
# Placement

The authored form of a `Transform` component: three optional vectors. Their lengths are judged after
the payload has been read, so a wrong length costs that one field and not the component.
-/

namespace SceneLoad

/-- A transform as it is authored, field by field. -/
structure AuthoredTransform where
  position : Option (List Binary32)
  rotation : Option (List Binary32)
  scale : Option (List Binary32)
deriving DecidableEq

namespace AuthoredTransform

def layout : Layout Empty AuthoredTransform where
  name := "AuthoredTransform"
  fields :=
    .optional "position" .vector <|
    .optional "rotation" .vector <|
    .optional "scale" .vector .nil
  build := fun (position, rotation, scale, _) => { position, rotation, scale }

/-- The transform, with the identity's value for a field of the wrong length. -/
def transform (authored : AuthoredTransform) : Transform :=
  let defaults := Transform.identity
  { position := Transform.orElse defaults.position (Transform.readPosition authored.position)
    rotation := Transform.orElse defaults.rotation (Transform.readRotation authored.rotation)
    scale := Transform.orElse defaults.scale (Transform.readScale authored.scale) }

/-- The fields of the wrong length. -/
def arityErrors (authored : AuthoredTransform) : List ArityError :=
  Transform.arityErrors authored.position authored.rotation authored.scale

end AuthoredTransform

end SceneLoad

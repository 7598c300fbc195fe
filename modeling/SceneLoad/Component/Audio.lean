import SceneLoad.Schema.Shape
import SceneLoad.Text.Blank

/-!
# Sounds
-/

namespace SceneLoad

/-- A sound source. -/
structure Sound where
  /-- Empty while no clip is assigned. -/
  audioPath : String
  enabled : Bool
  autoplay : Bool
  looping : Bool
  volume : Binary32
  pitch : Binary32
  playbackRate : Binary32
  muted : Bool
  is3D : Bool
  minDistance : Binary32
  maxDistance : Binary32
  rolloffFactor : Binary32
  coneInnerAngle : Binary32
  coneOuterAngle : Binary32
  coneOuterGain : Binary32
  isPlaying : Bool
  currentTime : Binary32
  duration : Binary32
  format : Option String
deriving DecidableEq, BEq

namespace Sound

def layout : Layout Empty Sound where
  name := "Sound"
  fields :=
    .cons "audioPath" ["audio_path"] (some "") .text <|
    .field "enabled" true .bool <|
    .field "autoplay" false .bool <|
    .field "loop" false .bool <|
    .field "volume" 1 .float32 <|
    .field "pitch" 1 .float32 <|
    .field "playbackRate" 1 .float32 <|
    .field "muted" false .bool <|
    .cons "is3D" ["is3d"] (some true) .bool <|
    .field "minDistance" 1 .float32 <|
    .field "maxDistance" 10000 .float32 <|
    .field "rolloffFactor" 1 .float32 <|
    .field "coneInnerAngle" 360 .float32 <|
    .field "coneOuterAngle" 360 .float32 <|
    .field "coneOuterGain" 0 .float32 <|
    .field "isPlaying" false .bool <|
    .field "currentTime" 0 .float32 <|
    .field "duration" 0 .float32 <|
    .optional "format" .text .nil
  build := fun
    | (audioPath, enabled, autoplay, looping, volume, pitch, playbackRate, muted, is3D,
      minDistance, maxDistance, rolloffFactor, coneInnerAngle, coneOuterAngle, coneOuterGain,
      isPlaying, currentTime, duration, format, _) =>
      { audioPath, enabled, autoplay, looping, volume, pitch, playbackRate, muted, is3D,
        minDistance, maxDistance, rolloffFactor, coneInnerAngle, coneOuterAngle, coneOuterGain,
        isPlaying, currentTime, duration, format }

/-- Whether a clip is assigned. -/
def hasClip (sound : Sound) : Bool := !Text.isBlankText sound.audioPath

end Sound

end SceneLoad

/-!
# Capabilities

What a component kind affects, for schedulers of render passes.
-/

namespace SceneLoad

/-- What a component kind affects. -/
structure Capabilities where
  affectsRendering : Bool := false
  requiredPass : Option String := none
  stable : Bool := true
deriving DecidableEq

namespace Capabilities

/-- Affects nothing. -/
def none : Capabilities := {}

/-- Is drawn in the given pass. -/
def rendering (pass : String) : Capabilities :=
  { affectsRendering := true, requiredPass := some pass }

/-- Needs the given pass, drawn or not. -/
def withPass (pass : String) (capabilities : Capabilities) : Capabilities :=
  { capabilities with requiredPass := some pass }

/-- May still change. -/
def unstable (capabilities : Capabilities) : Capabilities :=
  { capabilities with stable := false }

end Capabilities

end SceneLoad

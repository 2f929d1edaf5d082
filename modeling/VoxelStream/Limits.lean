/-!
# Graphics limits

Two limits of the graphics hardware bound the texture budget: the largest texture edge and the
number of textures a shader may sample at once.  Rendering needs `Limits.minimum` in both.  Below
it there is no reduced mode.

Limits are read off the graphics adapter of the host.  Whether there is one is up to the host, so
`Limits.probe` takes what came of asking for it.
-/

namespace VoxelStream

/-- The two limits that matter to the texture budget. -/
structure Limits where
  /-- Largest edge of a square texture. -/
  maxTextureDimension : UInt32
  /-- Textures that a shader stage may sample at once. -/
  maxBoundTextures : UInt32
deriving DecidableEq

/-- Why textures cannot be planned: the hardware is below the minimum. -/
inductive PlannerError where
  | unsupportedHardware (limits : Limits)
deriving DecidableEq

/-- The limits of a graphics device, as far as the texture budget reads them. -/
structure DeviceLimits where
  maxTextureDimension2d : UInt32
  maxSampledTexturesPerShaderStage : UInt32
deriving DecidableEq

/-- A graphics adapter of the host. -/
structure Adapter where
  /-- The name of the device. -/
  name : String
  /-- The graphics interface that drives it. -/
  backend : String
  limits : DeviceLimits
deriving DecidableEq

/-- Why limits cannot be read: there is no graphics adapter. -/
inductive ProbeError where
  | noAdapter
deriving DecidableEq

namespace Limits

/-- The least limits that rendering works with. -/
def minimum : Limits := ⟨4096, 8⟩

/-- The limits taken where there is no graphics adapter at all. -/
def headless : Limits := ⟨4096, 8192⟩

/-- The limits of a device. -/
def ofDevice (device : DeviceLimits) : Limits :=
  ⟨device.maxTextureDimension2d, device.maxSampledTexturesPerShaderStage⟩

/-- Both limits reach the minimum. -/
def meetsMinimum (limits : Limits) : Bool :=
  minimum.maxTextureDimension ≤ limits.maxTextureDimension
    && minimum.maxBoundTextures ≤ limits.maxBoundTextures

/-- Refuses limits below the minimum. -/
def validate (limits : Limits) : Except PlannerError Unit :=
  if limits.meetsMinimum then .ok () else .error (.unsupportedHardware limits)

/-- The limits of the host's graphics adapter, if it has one. -/
def probe : Option Adapter → Except ProbeError Limits
  | some adapter => .ok (ofDevice adapter.limits)
  | none => .error .noAdapter

end Limits

def PlannerError.message : PlannerError → String
  | .unsupportedHardware limits =>
    s!"Minimum hardware requirements are not met. GPU should support at least a texture size of "
      ++ s!"{Limits.minimum.maxTextureDimension} and {Limits.minimum.maxBoundTextures} textures "
      ++ s!"(got {limits.maxTextureDimension} and {limits.maxBoundTextures})"

def ProbeError.message : ProbeError → String
  | .noAdapter => "No graphics adapter could be acquired"

end VoxelStream

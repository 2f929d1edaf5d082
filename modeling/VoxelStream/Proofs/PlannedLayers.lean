import VoxelStream.Proofs.Outcomes
import VoxelStream.Proofs.PlannedRoom
import VoxelStream.Proofs.SessionIndependence

/-!
# The layer that is planned and the layer that is fetched

A fetch takes the first layer of a name, and a setup plans for the last one (`Dataset.lastLayer?`).
Both are the same layer if its name tells it from all others of the dataset.  The textures of a
session then fit the buckets that it fetches, after any steps (`textureSetup_of_named`).

No configuration is refused for repeating a name.  If the two layers pack differently, the textures
are planned for buckets that are never fetched (`planned_otherwise`).
-/

namespace VoxelStream

namespace Dataset

variable {dataset : Dataset} {name : String} {layer : Layer}

/-- The last layer of a name. -/
def lastLayer? (dataset : Dataset) (name : String) : Option Layer :=
  dataset.layers.reverse.find? (·.name == name)

theorem mem_of_find?_name {layers : List Layer}
    (found : layers.find? (·.name == name) = some layer) : layer ∈ layers ∧ layer.name = name :=
  ⟨List.mem_of_find?_eq_some found, by simpa using List.find?_some found⟩

/-- A name with a first layer has a last one. -/
theorem exists_lastLayer? (found : dataset.layer? name = some layer) :
    ∃ last, dataset.lastLayer? name = some last := by
  obtain ⟨member, named⟩ := mem_of_find?_name found
  rw [← Option.isSome_iff_exists, lastLayer?, List.find?_isSome]
  exact ⟨layer, List.mem_reverse.mpr member, by simpa using named⟩

/-- A name tells a layer from all others of the dataset. -/
def Names (dataset : Dataset) (name : String) (layer : Layer) : Prop :=
  ∀ other ∈ dataset.layers, other.name = name → other = layer

end Dataset

namespace Session

variable {session : Session} {name : String} {layer : Layer}

/-- A supported session with a faithful cache plans for the last layer of every name. -/
theorem exists_textureSetup (faithful : session.cache.Faithful)
    (supported : session.limits.validate = .ok ()) :
    ∃ planned, session.textureSetup.1 = .ok planned ∧ ∀ name,
      planned.setup.plans.plan? name =
        (session.config.dataset.lastLayer? name).map
          (·.packing session.limits session.config.pipeline.requiredCapacity) := by
  have answer := (faithful.getOrPlan session.setupInputs).1
  rw [SetupInputs.plan_of_meetsMinimum (Limits.validate_eq_ok_iff.mp supported)] at answer
  obtain ⟨planned, answered, setup⟩ := map_eq_ok_iff.mp answer
  refine ⟨planned, answered, fun name => ?_⟩
  rw [setup]
  exact PlanTable.plan?_ofLayers_eq ..

/-- The textures that a session plans under a name are those of the layer that it fetches there. -/
structure PlansFetched (session : Session) (name : String) (layer : Layer) : Prop where
  fetch : ∀ batch, session.fetch name batch = session.fetchLayer layer batch
  plan : ∃ planned, session.textureSetup.1 = .ok planned ∧
    planned.setup.plans.plan? name =
      some (PackingPlan.choose session.limits layer.byteCount layer.elementClass
        session.config.pipeline.requiredCapacity)

/-- The textures fit the fetched buckets if the last layer of the name packs as the first. -/
theorem plansFetched_iff (faithful : session.cache.Faithful)
    (supported : session.limits.validate = .ok ())
    (found : session.config.dataset.layer? name = some layer) :
    session.PlansFetched name layer ↔ ∀ last, session.config.dataset.lastLayer? name = some last →
      last.packing session.limits session.config.pipeline.requiredCapacity =
        layer.packing session.limits session.config.pipeline.requiredCapacity := by
  obtain ⟨planned, answered, plans⟩ := exists_textureSetup faithful supported
  obtain ⟨last, named⟩ := Dataset.exists_lastLayer? found
  have plan := plans name
  rw [named, Option.map_some] at plan
  constructor
  · rintro ⟨-, other, answeredOther, planOther⟩ last' namedToo
    rw [answered] at answeredOther
    cases answeredOther
    rw [named] at namedToo
    cases namedToo
    exact Option.some.inj (plan.symm.trans planOther)
  · intro same
    refine ⟨fun batch => ?_, planned, answered, plan.trans (congrArg some (same last named))⟩
    rw [fetch, found]

/-- On supported limits, whatever steps a session took, the textures fit the buckets fetched under
a name exactly if the last layer of the name packs as the first, and so if the name tells the layer
from all others. -/
theorem textureSetup_of_named (config : Config) (limits : Limits) (threads : Nat) (stage : Stage)
    (steps : List Step) (name : String) (layer : Layer)
    (supported : (limitsAfter limits steps).validate = .ok ())
    (found : config.dataset.layer? name = some layer) :
    (config.dataset.Names name layer →
      ((start config limits threads stage).run steps).2.PlansFetched name layer) ∧
    (((start config limits threads stage).run steps).2.PlansFetched name layer ↔
      ∀ last, config.dataset.lastLayer? name = some last →
        last.packing (limitsAfter limits steps) config.pipeline.requiredCapacity =
          layer.packing (limitsAfter limits steps) config.pipeline.requiredCapacity) := by
  have sameConfig : ((start config limits threads stage).run steps).2.config = config :=
    config_run _ steps
  have lastLimits : ((start config limits threads stage).run steps).2.limits =
      limitsAfter limits steps := limits_run _ steps
  have faithful : ((start config limits threads stage).run steps).2.cache.Faithful :=
    faithful_run SetupCache.faithful_empty steps
  have exact_iff := plansFetched_iff faithful (lastLimits ▸ supported) (sameConfig ▸ found)
  rw [sameConfig, lastLimits] at exact_iff
  refine ⟨fun names => exact_iff.mpr fun last named => ?_, exact_iff⟩
  obtain ⟨member, sameName⟩ := Dataset.mem_of_find?_name named
  rw [names last (List.mem_reverse.mp member) sameName]

/-- Two layers of different names. -/
def distinctConfig : Config :=
  { dataset := { layers := [.color "a" .uint8, .color "b" .uint16] } }

/-- The setup after the limits became unsupported and were raised is that of the fetched layer. -/
theorem textureSetup_of_named_raised :
    (limitsAfter ⟨4096, 8⟩
      [.textureSetup, .updateLimits ⟨2048, 4⟩, .textureSetup, .updateLimits ⟨8192, 16⟩]).validate =
        .ok () ∧
    distinctConfig.dataset.layer? "b" = some (.color "b" .uint16) ∧
    ((start distinctConfig ⟨4096, 8⟩ 1 rehearsal).run
      [.textureSetup, .updateLimits ⟨2048, 4⟩, .textureSetup,
        .updateLimits ⟨8192, 16⟩]).2.PlansFetched "b" (.color "b" .uint16) := by
  have supported : (limitsAfter ⟨4096, 8⟩
      [.textureSetup, .updateLimits ⟨2048, 4⟩, .textureSetup, .updateLimits ⟨8192, 16⟩]).validate =
        .ok () := by decide
  have found : distinctConfig.dataset.layer? "b" = some (.color "b" .uint16) := by decide
  have names : distinctConfig.dataset.Names "b" (.color "b" .uint16) := by
    unfold Dataset.Names
    decide
  obtain ⟨fits, -⟩ := textureSetup_of_named distinctConfig ⟨4096, 8⟩ 1 rehearsal
    [.textureSetup, .updateLimits ⟨2048, 4⟩, .textureSetup, .updateLimits ⟨8192, 16⟩] "b"
    (.color "b" .uint16) supported found
  exact ⟨supported, found, fits names⟩

/-- A text that gives two layers one name. -/
def repeatedText : String :=
  "[[dataset.layers]]\nname = \"a\"\nelement_class = \"uint8\"\n\n"
    ++ "[[dataset.layers]]\nname = \"a\"\nelement_class = \"uint16\"\n"

/-- What it configures. -/
def repeatedConfig : Config :=
  { dataset := { layers := [.color "a" .uint8, .color "a" .uint16] } }

/-- A configuration may repeat a name.  Here the fetched layer takes two textures with four values
to a texel, and the setup has four with two values to a texel. -/
theorem planned_otherwise :
    (Config.parse repeatedText).1 = .ok repeatedConfig ∧
    (⟨4096, 16⟩ : Limits).validate = .ok () ∧
    repeatedConfig.dataset.layer? "a" = some (.color "a" .uint8) ∧
    PackingPlan.choose ⟨4096, 16⟩ 1 .uint8 repeatedConfig.pipeline.requiredCapacity =
      ⟨4096, 2, 4⟩ ∧
    ((start repeatedConfig ⟨4096, 16⟩ 1 rehearsal).textureSetup.1.map
      (·.setup.plans.plan? "a")) = .ok (some ⟨4096, 4, 2⟩) ∧
    ¬(start repeatedConfig ⟨4096, 16⟩ 1 rehearsal).PlansFetched "a" (.color "a" .uint8) := by
  have supported : (⟨4096, 16⟩ : Limits).validate = .ok () := by decide
  have found : repeatedConfig.dataset.layer? "a" = some (.color "a" .uint8) := by decide
  have faithful : (start repeatedConfig ⟨4096, 16⟩ 1 rehearsal).cache.Faithful :=
    SetupCache.faithful_empty
  obtain ⟨planned, answered, plans⟩ := exists_textureSetup faithful supported
  have plan : planned.setup.plans.plan? "a" = some ⟨4096, 4, 2⟩ := by
    rw [plans]
    decide +kernel
  refine ⟨by decide +kernel, supported, found, by decide +kernel, ?_, ?_⟩
  · rw [answered, Except.map, plan]
  · rw [plansFetched_iff faithful supported found]
    intro same
    have packed := same (.color "a" .uint16) (by decide)
    exact absurd packed (by decide +kernel)

end Session

end VoxelStream

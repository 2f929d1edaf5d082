import VoxelStream.Address
import VoxelStream.Layer

/-!
# Datasets

A dataset is known by its organization and name, and has a list of layers and a table of voxel
scales.  Its buckets come from two stores.  The *data store* holds the layers as they were
imported.  The *tracing store* holds the edits of a *volume annotation*, if there is one.

While there is an annotation, segmentation layers are fetched from the tracing store with the
version of the annotation.  Color layers may travel with two voxels in one byte.
-/

namespace VoxelStream

/-- An annotation that is being edited on top of a dataset. -/
structure VolumeAnnotation where
  version : UInt64
  /-- The dataset layer that has the buckets the annotation lacks. -/
  fallbackLayer : Option String
deriving DecidableEq

/-- Everything the library is told of a dataset. -/
structure Dataset where
  organization : String := ""
  name : String := ""
  /-- Where the data store is. -/
  dataStoreUrl : String := "http://localhost:9000"
  /-- Where the tracing store is. -/
  tracingStoreUrl : String := "http://localhost:9000"
  resolutions : Resolutions := [⟨1, 1, 1⟩]
  /-- Whether color buckets travel with two voxels in one byte. -/
  fourBit : Bool := false
  layers : List Layer := []
  volume : Option VolumeAnnotation := none
deriving DecidableEq

/-- The two stores. -/
inductive StoreTarget where
  | dataStore
  | tracingStore
deriving DecidableEq

namespace Dataset

/-- The voxel scale of a zoom step. -/
def resolution? (dataset : Dataset) (zoomStep : UInt32) : Option Vec3 :=
  dataset.resolutions[zoomStep.toNat]?

/-- The first layer of a name. -/
def layer? (dataset : Dataset) (name : String) : Option Layer :=
  dataset.layers.find? (·.name == name)

/-- Whether some layer holds segment ids. -/
def hasSegmentation (dataset : Dataset) : Bool := dataset.layers.any Layer.isSegmentation

/-- Whether the edits of a layer are on the tracing store. -/
def isEdited (dataset : Dataset) (layer : Layer) : Bool :=
  layer.isSegmentation && dataset.volume.isSome

/-- Whether the buckets of a layer travel with two voxels in one byte. -/
def usesFourBit (dataset : Dataset) (layer : Layer) : Bool :=
  dataset.fourBit && !layer.isSegmentation

/-- The version that the buckets of a layer are asked for in. -/
def requestVersion (dataset : Dataset) (layer : Layer) : Option UInt64 :=
  if layer.isSegmentation then dataset.volume.map (·.version) else none

/-- The layer that has the buckets the annotation lacks. -/
def fallbackLayer (dataset : Dataset) : Option String := dataset.volume.bind (·.fallbackLayer)

/-- The store that a layer is fetched from. -/
def target (dataset : Dataset) (layer : Layer) : StoreTarget :=
  if dataset.isEdited layer then .tracingStore else .dataStore

/-! ## Store addresses -/

/-- A text without the slashes at its end. -/
def trimSlashes (url : String) : String :=
  String.ofList (url.toList.reverse.dropWhile (· = '/')).reverse

/-- Where the data store has a layer. -/
def dataStoreLayerUrl (dataset : Dataset) (layerName : String) : String :=
  s!"{trimSlashes dataset.dataStoreUrl}/data/datasets/{dataset.organization}/{dataset.name}"
    ++ s!"/layers/{layerName}"

/-- Where the tracing store has a layer. -/
def tracingStoreLayerUrl (dataset : Dataset) (layerName : String) : String :=
  s!"{trimSlashes dataset.tracingStoreUrl}/tracings/volume/{layerName}"

/-- Where a layer is fetched from. -/
def layerUrl (dataset : Dataset) (layer : Layer) : String :=
  match dataset.target layer with
  | .dataStore => dataset.dataStoreLayerUrl layer.name
  | .tracingStore => dataset.tracingStoreLayerUrl layer.name

end Dataset

end VoxelStream

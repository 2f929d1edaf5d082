import VoxelStream.Dataset
import VoxelStream.MemoryFactor
import VoxelStream.Toml.Parser

/-!
# Configurations

A configuration is a TOML document of two tables, `dataset` and `pipeline`.  Both may be left out,
and so may each of their keys, which then keep their standard values.  Unknown keys are ignored.

A record may also be written as an array of its fields in order.  Missing fields at its end count
as left out and surplus items are ignored.  A date or time counts as a record without known fields.

Values are read in the order of the document.  A multiplier that is no memory factor is noticed
when it is read, even if a later value is refused.
-/

namespace VoxelStream

/-- How the library is to work. -/
structure PipelineSettings where
  /-- How long a request may take. -/
  requestTimeoutMs : Nat := 30000
  /-- Codec workers.  Zero stands for one per processor. -/
  workerThreads : Nat := 0
  /-- How much graphics memory to claim. -/
  memoryFactor : MemoryFactor := .standard
  /-- Buckets that every layer needs room for. -/
  requiredCapacity : UInt32 := 4096
deriving DecidableEq

/-- The codec workers to start, where the host has `processors`.  There is at least one. -/
def PipelineSettings.resolvedThreads (settings : PipelineSettings) (processors : Nat) : Nat :=
  if settings.workerThreads = 0 then max processors 1 else settings.workerThreads

/-- A configuration. -/
structure Config where
  dataset : Dataset := {}
  pipeline : PipelineSettings := {}
deriving DecidableEq

/-- Why a configuration file cannot be used. -/
inductive ConfigError where
  /-- There is no such file. -/
  | notFound (path : String)
  /-- The bytes of the file are no UTF-8 text. -/
  | notText (path : String)
  /-- The text is no configuration. -/
  | malformed
deriving DecidableEq

def ConfigError.message : ConfigError → String
  | notFound path => s!"Failed to read config {path}: No such file or directory"
  | notText path => s!"Failed to read config {path}: stream did not contain valid UTF-8"
  | malformed => "Failed to parse config: the text is no configuration"

/-! ## Reading values -/

/-- A value being read: it may be refused, and there may be notices either way. -/
abbrev Reading := OptionT (StateM (List Notice))

namespace Reading

/-- Hands on a value that was accepted. -/
def accept (value : Option α) : Reading α := OptionT.mk (pure value)

/-- Keeps some notices. -/
def note (notices : List Notice) : Reading Unit :=
  OptionT.mk fun earlier => (some (), earlier ++ notices)

def text : Toml → Reading String
  | .string value => pure value
  | _ => failure

def flag : Toml → Reading Bool
  | .boolean value => pure value
  | _ => failure

def below (bound : Nat) : Toml → Reading Nat
  | .integer value => if 0 ≤ value ∧ value < bound then pure value.toNat else failure
  | _ => failure

def word32 (value : Toml) : Reading UInt32 := do return UInt32.ofNat (← below UInt32.size value)

def listOf (read : Toml → Reading α) : Toml → Reading (List α)
  | .array _ items => items.mapM read
  | _ => failure

/-- A name out of a fixed set, as a text or as the only key of a table with an empty value. -/
def variant (ofName? : String → Option α) : Toml → Reading α
  | .string name => accept (ofName? name)
  | .table _ [(name, .table _ [])] => accept (ofName? name)
  | .table _ [(name, .array _ [])] => accept (ofName? name)
  | _ => failure

/-- An array that starts with three 32-bit numbers. -/
def vec3 : Toml → Reading Vec3
  | .array _ (x :: y :: z :: _) => do return ⟨← word32 x, ← word32 y, ← word32 z⟩
  | _ => failure

/-- The field of a record: its key, and how its value changes what was read so far. -/
structure Field (ρ : Type) where
  key : String
  /-- Reads the value. -/
  read : Toml → ρ → Reading ρ

/-- Reads a record of some fields.  Fields that are left out keep what they have at the start. -/
def record (fields : List (Field ρ)) (start : ρ) : Toml → Reading ρ
  | .table _ entries =>
    entries.foldlM (fun read (key, value) =>
      match fields.find? (·.key == key) with
      | some field => field.read value read
      | none => pure read) start
  | .array _ items =>
    (fields.zip items).foldlM (fun read (field, value) => field.read value read) start
  | .datetime _ => pure start
  | _ => failure

/-! ## Records -/

/-- What was read of a layer so far. -/
structure LayerDraft where
  name : Option String := none
  elementClass : Option ElementClass := none
  category : LayerCategory := .color

/-- The layer, if nothing is missing. -/
def LayerDraft.layer? (draft : LayerDraft) : Option Layer := do
  return .ofClass (← draft.name) (← draft.elementClass) draft.category

def layer (value : Toml) : Reading Layer := do
  let draft ← record
    [⟨"name", fun value draft => return { draft with name := some (← text value) }⟩,
     ⟨"element_class", fun value draft =>
        return { draft with elementClass := some (← variant ElementClass.ofName? value) }⟩,
     ⟨"category", fun value draft =>
        return { draft with category := ← variant LayerCategory.ofName? value }⟩]
    ({} : LayerDraft) value
  accept draft.layer?

/-- What was read of an annotation so far. -/
structure VolumeDraft where
  version : Option UInt64 := none
  fallbackLayer : Option String := none

/-- The annotation, if nothing is missing. -/
def VolumeDraft.volume? (draft : VolumeDraft) : Option VolumeAnnotation :=
  draft.version.map fun version => ⟨version, draft.fallbackLayer⟩

def volume (value : Toml) : Reading VolumeAnnotation := do
  let draft ← record
    [⟨"version", fun value draft =>
        return { draft with version := some (UInt64.ofNat (← below UInt64.size value)) }⟩,
     ⟨"fallback_layer", fun value draft =>
        return { draft with fallbackLayer := some (← text value) }⟩]
    ({} : VolumeDraft) value
  accept draft.volume?

def dataset (value : Toml) : Reading Dataset :=
  record
    [⟨"organization", fun value read => return { read with organization := ← text value }⟩,
     ⟨"name", fun value read => return { read with name := ← text value }⟩,
     ⟨"data_store_url", fun value read => return { read with dataStoreUrl := ← text value }⟩,
     ⟨"tracing_store_url", fun value read =>
        return { read with tracingStoreUrl := ← text value }⟩,
     ⟨"resolutions", fun value read => return { read with resolutions := ← listOf vec3 value }⟩,
     ⟨"four_bit", fun value read => return { read with fourBit := ← flag value }⟩,
     ⟨"layers", fun value read => return { read with layers := ← listOf layer value }⟩,
     ⟨"volume", fun value read => return { read with volume := some (← volume value) }⟩]
    ({} : Dataset) value

def memoryFactor (value : Toml) : Reading MemoryFactor := do
  let multiplier ← word32 value
  note (MemoryFactor.notices multiplier)
  return MemoryFactor.ofMultiplier multiplier

def settings (value : Toml) : Reading PipelineSettings :=
  record
    [⟨"request_timeout_ms", fun value read =>
        return { read with requestTimeoutMs := ← below UInt64.size value }⟩,
     ⟨"worker_threads", fun value read =>
        return { read with workerThreads := ← below UInt64.size value }⟩,
     ⟨"gpu_factor", fun value read => return { read with memoryFactor := ← memoryFactor value }⟩,
     ⟨"required_bucket_capacity", fun value read =>
        return { read with requiredCapacity := ← word32 value }⟩]
    ({} : PipelineSettings) value

def config (value : Toml) : Reading Config :=
  record
    [⟨"dataset", fun value read => return { read with dataset := ← dataset value }⟩,
     ⟨"pipeline", fun value read => return { read with pipeline := ← settings value }⟩]
    ({} : Config) value

end Reading

/-! ## Reading texts and files -/

namespace Config

/-- The configuration of a text, and the notices of reading it. -/
def parse (source : String) : Except ConfigError Config × List Notice :=
  match Toml.parse? source with
  | none => (.error .malformed, [])
  | some document =>
    match (Reading.config document).run [] with
    | (some read, notices) => (.ok read, notices)
    | (none, notices) => (.error .malformed, notices)

/-- The configuration of a file, given its bytes or that there is no such file. -/
def load (path : String) (content : Option (List UInt8)) :
    Except ConfigError Config × List Notice :=
  match content with
  | none => (.error (.notFound path), [])
  | some bytes =>
    match String.fromUTF8? ⟨bytes.toArray⟩ with
    | none => (.error (.notText path), [])
    | some source => parse source

end Config

end VoxelStream

import VoxelStream.Bucket
import VoxelStream.Layer
import VoxelStream.Limits
import VoxelStream.Packing
import VoxelStream.Notice
import VoxelStream.MemoryFactor
import VoxelStream.Setup.Basic
import VoxelStream.Setup.WordHash
import VoxelStream.Setup.Cache
import VoxelStream.Address
import VoxelStream.Base64
import VoxelStream.FourBit
import VoxelStream.Decimal
import VoxelStream.Json.Basic
import VoxelStream.Json.Parser
import VoxelStream.Json.Decode
import VoxelStream.Wire
import VoxelStream.MissingList
import VoxelStream.Toml.Basic
import VoxelStream.Toml.Scalar
import VoxelStream.Toml.Parser
import VoxelStream.Dataset
import VoxelStream.Config
import VoxelStream.Store
import VoxelStream.Slices
import VoxelStream.TokenScope
import VoxelStream.Fetch
import VoxelStream.Push
import VoxelStream.CodecPool
import VoxelStream.Script
import VoxelStream.Session
import VoxelStream.Url.Percent
import VoxelStream.Url.Host
import VoxelStream.Url.Basic
import VoxelStream.HttpClient
import VoxelStream.HttpStore
import VoxelStream.Report
import VoxelStream.Main
import VoxelStream.Proofs.Slicing
import VoxelStream.Proofs.Joining
import VoxelStream.Proofs.FetchRuns
import VoxelStream.Proofs.FetchSafety
import VoxelStream.Proofs.FourBitQuantization
import VoxelStream.Proofs.HonestStores
import VoxelStream.Proofs.SetupCaching
import VoxelStream.Proofs.PushAtomicity
import VoxelStream.Proofs.TextureNeed
import VoxelStream.Proofs.PlanTables
import VoxelStream.Proofs.SetupAggregation
import VoxelStream.Proofs.SetupMonotonicity
import VoxelStream.Proofs.StoreCalls
import VoxelStream.Proofs.Base64RoundTrip
import VoxelStream.Proofs.SavedEdits
import VoxelStream.Proofs.ReadYourWrites
import VoxelStream.Proofs.SetupReuse
import VoxelStream.Proofs.Confinement
import VoxelStream.Proofs.SessionIndependence
import VoxelStream.Proofs.SavedTransactions
import VoxelStream.Proofs.TokenRedaction
import VoxelStream.Proofs.PackingOptimality
import VoxelStream.Proofs.PlannedRoom
import VoxelStream.Proofs.PlannedLayers
import VoxelStream.Proofs.PoolProgress
import VoxelStream.Proofs.PoolAccounts
import VoxelStream.Proofs.PoolBatches
import VoxelStream.Proofs.PayloadRanks
import VoxelStream.Proofs.PlannedClosure
import VoxelStream.Proofs.PackedSlices
import VoxelStream.Proofs.PositionBounds
import VoxelStream.Proofs.FourBitInverses
import VoxelStream.Proofs.Base64Canonicity
import VoxelStream.Proofs.PlannerWords
import VoxelStream.Proofs.JsonLiterals
import VoxelStream.Proofs.JsonTexts
import VoxelStream.Proofs.MemberOrder
import VoxelStream.Proofs.WireShapes
import VoxelStream.Proofs.JsonNumerals
import VoxelStream.Proofs.IndexArrays
import VoxelStream.Proofs.MissingHeaders
import VoxelStream.Proofs.LastWriters

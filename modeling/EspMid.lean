import EspMid.Lib.Framing
import EspMid.Lib.StoreProg
import EspMid.Lib.StoreRun
import EspMid.Lib.StoreLogic
import EspMid.Lib.StoreLayer
import EspMid.Lib.StoreHazards
import EspMid.Lib.Base64Url
import EspMid.Lib.Numeral
import EspMid.Lib.Base58
import EspMid.Lib.Runs
import EspMid.Lib.Ring
import EspMid.Lib.Pinning
import EspMid.Lib.Memo
import EspMid.Lib.Ecdsa
import EspMid.Lib.SortedMap
import EspMid.Model.Core
import EspMid.Model.Identity
import EspMid.Model.Capability
import EspMid.Model.Envelope
import EspMid.Model.Key
import EspMid.Model.SettingsAdoption
import EspMid.Model.Messages
import EspMid.Model.Nonce
import EspMid.Model.Seal
import EspMid.Model.Document
import EspMid.Codec.Capability
import EspMid.Codec.Envelope
import EspMid.Codec.Messages
import EspMid.Codec.Did
import EspMid.Adopting.Plan
import EspMid.Adopting.PowerCuts
import EspMid.Adopting.Presented
import EspMid.Adopting.Provisional
import EspMid.Adopting.Holding
import EspMid.Adopting.OwnerGrant
import EspMid.Adopting.TrustOnFirstUse
import EspMid.Adopting.OwnerBinding
import EspMid.Adopting.Exits
import EspMid.Adopting.GivenAway
import EspMid.Adopting.SignedContent
import EspMid.Keeping.Entries
import EspMid.Keeping.CachedLoad
import EspMid.Keeping.SignatureCache
import EspMid.Keeping.DeviceIdentity
import EspMid.Keeping.ReplayWindow
import EspMid.Keeping.SealedStore
import EspMid.Keeping.SealedFormat
import EspMid.Keeping.Keyless
import EspMid.Keeping.SealInPlace
import EspMid.Adopting.SealedIdentity
import EspMid.Signing.Canonical
import EspMid.Signing.SignedStatus
import EspMid.Signing.Attestation
import EspMid.Model.Nvs
import EspMid.Keeping.NvsWrites
import EspMid.Model.Flash
import EspMid.Keeping.OpenPartitions
import EspMid.Lib.Records
import EspMid.Model.Partitions
import EspMid.Codec.PartitionTable
import EspMid.Lib.Footprint
import EspMid.Codec.BufferSizes
import EspMid.Codec.DeclaredLengths
import EspMid.Lib.Barrett
import EspMid.Lib.Cubic
import EspMid.Lib.Divsteps
import EspMid.Lib.DivstepsBound
import EspMid.Lib.Limbs
import EspMid.Lib.Montgomery
import EspMid.Lib.MultiplesTable
import EspMid.Lib.Pocklington
import EspMid.Lib.SignedWords
import EspMid.Lib.While
import EspMid.Lib.Windows
import EspMid.Model.Affine
import EspMid.Model.Scalar32
import EspMid.Model.ScalarField
import EspMid.P256.BaseField
import EspMid.P256.CompleteAddition
import EspMid.P256.Curve
import EspMid.P256.Encoding
import EspMid.P256.Keys
import EspMid.Signing.CurveCrates
import EspMid.Signing.VendoredCurve

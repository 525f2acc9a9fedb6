import Rf2a4m1.Crypto.Ccmp
import Rf2a4m1.Crypto.Sae
import Rf2a4m1.Crypto.Cmac
import Rf2a4m1.Wire.Mgmt
import Rf2a4m1.Wire.Pmf
import Rf2a4m1.Wire.Ht
import Rf2a4m1.Wire.Tdls
import Rf2a4m1.Sme.Dispatch
import Rf2a4m1.Sme.Core
import Rf2a4m1.Sme.Accept
import Rf2a4m1.Sme.Roaming
import Rf2a4m1.Sme.Exchange
import Rf2a4m1.Sme.Effect
import Rf2a4m1.Safety.Coherence
import Rf2a4m1.Sme.Demo
import Rf2a4m1.Safety.MfpPolicy
import Rf2a4m1.Safety.SaeFirst
import Rf2a4m1.Safety.ApKeyed
import Rf2a4m1.Lib.Counter
import Rf2a4m1.Safety.Nonces
import Rf2a4m1.Safety.Teardown
import Rf2a4m1.Safety.ActionGuard
import Rf2a4m1.Safety.LiveLink
import Rf2a4m1.Lib.Network
import Rf2a4m1.Lib.Replay
import Rf2a4m1.Sme.DataPath
import Rf2a4m1.Safety.DataChannel
import Rf2a4m1.Crypto.Codec
import Rf2a4m1.Safety.ActionReplay
import Rf2a4m1.Safety.FtMic
import Rf2a4m1.Glue.Segment
import Rf2a4m1.Glue.Netdev
import Rf2a4m1.Safety.RxSpan
import Rf2a4m1.Safety.Bridging
import Rf2a4m1.Safety.BridgeReplay
import Rf2a4m1.Crypto.Limbs
import Rf2a4m1.Lib.CurveOrder
import Rf2a4m1.Lib.Primality
import Rf2a4m1.Crypto.Field
import Rf2a4m1.Lib.Cubic
import Rf2a4m1.Crypto.Curve
import Rf2a4m1.Crypto.Points
import Rf2a4m1.Crypto.OweAgreement
import Rf2a4m1.Crypto.SaeAgreement
import Rf2a4m1.Wire.QosCodec
import Rf2a4m1.Wire.RoamCodec
import Rf2a4m1.Sme.FtMessages
import Rf2a4m1.Safety.FtRoam
import Rf2a4m1.Safety.FtRefusal
import Rf2a4m1.Crypto.AesInverse
import Rf2a4m1.Crypto.KeyWrap
import Rf2a4m1.Lib.FourWay
import Rf2a4m1.Sme.EapolFrames
import Rf2a4m1.Sme.MgmtFrames
import Rf2a4m1.Sme.KeyData
import Rf2a4m1.Sme.Notes
import Rf2a4m1.Sme.Ladder
import Rf2a4m1.Sme.Keyless
import Rf2a4m1.Safety.HandshakeEnds
import Rf2a4m1.Glue.Firmware
import Rf2a4m1.Safety.Agreement
import Rf2a4m1.Safety.ApLadder
import Rf2a4m1.Safety.Rejection
import Rf2a4m1.Safety.EapolReplay
import Rf2a4m1.Safety.ForeignFrames
import Rf2a4m1.Safety.InternalForm
import Rf2a4m1.Glue.Hal
import Rf2a4m1.Glue.Cfg80211
import Rf2a4m1.Glue.Frame
import Rf2a4m1.Safety.HwKeys
import Rf2a4m1.Safety.LinkChannel
import Rf2a4m1.Safety.Removal
import Rf2a4m1.Glue.ScanSteps
import Rf2a4m1.Safety.ScanOnce
import Rf2a4m1.Sme.Admission
import Rf2a4m1.Safety.Reservations
import Rf2a4m1.Safety.Aggregation
import Rf2a4m1.Wire.SaQuery
import Rf2a4m1.Sme.Rest
import Rf2a4m1.Safety.SaDefence
import Rf2a4m1.Safety.Duplicate
import Rf2a4m1.Safety.FtResponse
import Rf2a4m1.Safety.Announce
import Rf2a4m1.Crypto.Sswu
import Rf2a4m1.Crypto.CcmBlocks
import Rf2a4m1.Crypto.AadNonce
import Rf2a4m1.Safety.CcmpContext
import Rf2a4m1.Wire.MediumTime
import Rf2a4m1.Safety.GroupNumbers
import Rf2a4m1.Sme.BlockAck
import Rf2a4m1.Sme.KeyDataFound
import Rf2a4m1.Sme.EapolOnAir
import Rf2a4m1.Lib.Walk
import Rf2a4m1.Lib.Fields
import Rf2a4m1.Wire.Elements
import Rf2a4m1.Sme.Walkers
import Rf2a4m1.Wire.Rsne
import Rf2a4m1.Wire.TdlsCodec
import Rf2a4m1.Safety.TdlsLink
import Rf2a4m1.Safety.TdlsMic
import Rf2a4m1.Safety.BulkIn
import Rf2a4m1.Safety.FailedConnect
import Rf2a4m1.Crypto.FieldStore
import Rf2a4m1.Crypto.Reductions
import Rf2a4m1.Crypto.GroupLaw
import Rf2a4m1.Lib.BlockHash
import Rf2a4m1.Crypto.Sha1
import Rf2a4m1.Crypto.ShaStream
import Rf2a4m1.Lib.KeyDerivation
import Rf2a4m1.Crypto.Kdf
import Rf2a4m1.Glue.Mcu
import Rf2a4m1.Safety.McuAnswers
import Rf2a4m1.Safety.BurstWrite
import Rf2a4m1.Lib.Fifo
import Rf2a4m1.Sme.AssocFrames
import Rf2a4m1.Safety.Association
import Rf2a4m1.Glue.SmeCrypto
import Rf2a4m1.Safety.ConnectRequest
import Rf2a4m1.Lib.Pipe
import Rf2a4m1.Safety.DataOrder
import Rf2a4m1.Glue.TxDesc
import Rf2a4m1.Safety.TxBuffer
import Rf2a4m1.Safety.TxStatus
import Rf2a4m1.Safety.FirstData
import Rf2a4m1.Glue.Regs
import Rf2a4m1.Safety.KeyRegs

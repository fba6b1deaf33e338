import CausalAttention.Filler
import CausalAttention.Proofs.AcceptedLengths
import CausalAttention.Proofs.Batch.Layer
import CausalAttention.Proofs.BlockSearch
import CausalAttention.Proofs.CachedStep
import CausalAttention.Proofs.Causality
import CausalAttention.Proofs.Config.FirstViolation
import CausalAttention.Proofs.Config.Reload
import CausalAttention.Proofs.Config.Rules
import CausalAttention.Proofs.Decoding.CachedLength
import CausalAttention.Proofs.Decoding.Contents
import CausalAttention.Proofs.Decoding.Eviction
import CausalAttention.Proofs.Decoding.Global
import CausalAttention.Proofs.Decoding.Local
import CausalAttention.Proofs.Decoding.Sizes
import CausalAttention.Proofs.Heads.Contributions
import CausalAttention.Proofs.Heads.Layout
import CausalAttention.Proofs.Layer.Dispatch
import CausalAttention.Proofs.LeftPadding
import CausalAttention.Proofs.LookBack
import CausalAttention.Proofs.MaskShape
import CausalAttention.Proofs.PaddedPositions
import CausalAttention.Proofs.ProbabilityRows
import CausalAttention.Proofs.WindowMask
import CausalAttention.Proofs.WindowedDense
import CausalAttention.Rearrange
import CausalAttention.Session

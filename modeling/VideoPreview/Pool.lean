import VideoPreview.Options
import VideoPreview.Picture

/-!
A bounded pool of pixel buffers. Buffers that are given back are parked and handed out again for
pictures of the same size, as long as neither limit of the pool is passed.
-/
namespace VideoPreview

structure PictureSize where
  width : UInt32
  height : UInt32
  deriving DecidableEq, Repr

def PictureSize.bytes (s : PictureSize) : Nat := s.width.toNat * s.height.toNat * bytesPerPixel

structure Buffer where
  size : PictureSize
  data : Pixels
  deriving DecidableEq, Repr

structure PoolStats where
  parkedBuffers : Nat
  parkedBytes : Nat
  reused : Nat
  allocatedBuffers : Nat
  allocatedBytes : Nat
  dropped : Nat
  deriving DecidableEq, Repr

def PoolStats.zero : PoolStats := ⟨0, 0, 0, 0, 0, 0⟩

structure Pool where
  options : PoolOptions
  stats : PoolStats
  parked : List Buffer
  deriving DecidableEq, Repr

namespace Pool

def empty (options : PoolOptions) : Pool := ⟨options, .zero, []⟩

def bucket (p : Pool) (size : PictureSize) : List Buffer := p.parked.filter (·.size = size)

def unpark (p : Pool) (size : PictureSize) : Pool where
  options := p.options
  stats := { p.stats with
    parkedBuffers := p.stats.parkedBuffers - 1
    parkedBytes := p.stats.parkedBytes - size.bytes
    reused := p.stats.reused + 1 }
  parked := p.parked.eraseP (·.size = size)

def allocate (p : Pool) (size : PictureSize) : Pool where
  options := p.options
  stats := { p.stats with
    allocatedBuffers := p.stats.allocatedBuffers + 1
    allocatedBytes := p.stats.allocatedBytes + size.bytes }
  parked := p.parked

def borrow (p : Pool) (size : PictureSize) : Pool × Buffer :=
  match p.parked.find? (·.size = size) with
  | some b => (p.unpark size, b)
  | none => (p.allocate size, ⟨size, Array.replicate size.bytes 0⟩)

def canPark (p : Pool) (b : Buffer) : Bool :=
  b.data.size = b.size.bytes
    && (p.bucket b.size).length < p.options.maxPerSize.toNat
    && p.stats.parkedBytes + b.size.bytes ≤ p.options.maxBytes.toNat

def release (p : Pool) (b : Buffer) : Pool :=
  if p.canPark b then
    { p with
      stats := { p.stats with
        parkedBuffers := p.stats.parkedBuffers + 1
        parkedBytes := p.stats.parkedBytes + b.size.bytes }
      parked := b :: p.parked }
  else { p with stats := { p.stats with dropped := p.stats.dropped + 1 } }

end Pool
end VideoPreview

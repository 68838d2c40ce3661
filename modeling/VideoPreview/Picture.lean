/-!
Decoded pictures, whose rows may be padded and stored bottom-up, and their copy into tightly packed
top-down pixels.
-/
namespace VideoPreview

abbrev Pixels := Array UInt8

def bytesPerPixel : Nat := 4

structure Picture where
  width : UInt32
  height : UInt32
  stride : Nat
  /-- The last row is stored first. -/
  flipped : Bool
  data : Pixels
  deriving DecidableEq, Repr

namespace Picture

def rowBytes (p : Picture) : Nat := p.width.toNat * bytesPerPixel

def isWellFormed (p : Picture) : Bool :=
  p.rowBytes ≤ p.stride && p.stride * p.height.toNat ≤ p.data.size

def storedRow (p : Picture) (y : Nat) : Nat := if p.flipped then p.height.toNat - 1 - y else y

def row (p : Picture) (y : Nat) : Pixels :=
  p.data.extract (p.storedRow y * p.stride) (p.storedRow y * p.stride + p.rowBytes)

def packed (p : Picture) : Pixels := (Array.range p.height.toNat).flatMap p.row

def copyInto (p : Picture) (target : Pixels) : Pixels :=
  p.packed ++ target.extract p.packed.size target.size

end Picture
end VideoPreview

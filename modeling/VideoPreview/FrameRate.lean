/-!
Frame rates as fractions of frames per second, and the conversions between frame numbers and
times in milliseconds. All arithmetic is exact; only the final answer is cut off at the largest
time or frame number there is.
-/
namespace VideoPreview

/-- A rate of `num / den` frames per second. A rate with a zero term is a possible value (a file
may declare one), but no video is opened with it. -/
structure FrameRate where
  num : UInt32
  den : UInt32
  deriving DecidableEq, Repr

namespace FrameRate

inductive Fault where
  | zeroDenominator
  | zeroNumerator
  deriving DecidableEq, Repr

def ofTerms (num den : UInt32) : Except Fault FrameRate :=
  if den = 0 then .error .zeroDenominator
  else if num = 0 then .error .zeroNumerator
  else .ok ⟨num, den⟩

def isValid (r : FrameRate) : Bool := r.num != 0 && r.den != 0

def toFloat (r : FrameRate) : Float := r.num.toFloat / r.den.toFloat

end FrameRate

def maxTime : Nat := UInt64.size / 2 - 1

def maxFrame : Nat := UInt64.size - 1

def timeOfNat (ms : Nat) : Int64 := Int64.ofNat (min ms maxTime)

def frameOfNat (n : Nat) : UInt64 := UInt64.ofNat (min n maxFrame)

namespace FrameRate

def period (r : FrameRate) : Nat := 1000 * r.den.toNat

def timeOfFrame (r : FrameRate) (f : UInt64) : Int64 :=
  timeOfNat (f.toNat * r.period / r.num.toNat)

def frameAt (r : FrameRate) (ms : Int64) : UInt64 :=
  frameOfNat (ms.toInt.toNat * r.num.toNat / r.period)

/-- The first frame that starts at `ms` or later, so that what begins at `ms` is shown in it.
Times before the start and rates with a zero term give 0. -/
def firstFrameFrom (r : FrameRate) (ms : Int64) : UInt64 :=
  frameOfNat ((ms.toInt.toNat * r.num.toNat + r.period - 1) / r.period)

end FrameRate
end VideoPreview

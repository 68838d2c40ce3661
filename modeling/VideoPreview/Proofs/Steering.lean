import Mathlib.Algebra.Group.Nat.Defs
import VideoPreview.Controller
import VideoPreview.Proofs.Life

/-! The controller and the video on display. It mirrors two things of the pipeline, the frame it
asked for last and the matrix in force; every command either puts one job behind the pipeline's
backlog and keeps the mirror in step, or leaves everything as it is. -/
namespace VideoPreview

variable {σ ρ : Type}

def OpenPipeline (σ ρ : Type) : Type := { p : Pipeline σ ρ // p.isOpen = true }

def Pipeline.Move.isShared : Pipeline.Move → Bool
  | .ask (.recolor _) => false
  | .close => false
  | .shut => false
  | _ => true

namespace Controller

inductive Command where
  | jumpToFrame (n : Int64)
  | jumpToTime (ms : Int64)
  | jumpToStartTime (ms : Int64)
  | commitScriptInfo (matrix : String)
  | commitSubtitles (script : Script)
  | activateLine (line : Option SubtitleLine)
  | setAspect (mode : AspectRatio)

def obey (c : Controller σ ρ) : Command → Reply σ ρ
  | .jumpToFrame n => c.jumpToFrame n
  | .jumpToTime ms => c.jumpToTime ms
  | .jumpToStartTime ms => c.jumpToStartTime ms
  | .commitScriptInfo matrix => c.commitScriptInfo matrix
  | .commitSubtitles script => c.commitSubtitles script
  | .activateLine line => c.activateLine line
  | .setAspect mode => ⟨c.setAspect mode, none, []⟩

def ignores (c : Controller σ ρ) : Command → Prop
  | .commitScriptInfo matrix => matrix = "" ∨ matrix = c.colorMatrix
  | .activateLine line => line = none ∨ c.options.subtitleSync = false
  | .setAspect _ => True
  | _ => False

inductive Move (σ ρ : Type) where
  | setPipeline (p : Option (OpenPipeline σ ρ))
  | command (k : Command)
  | meanwhile (m : Pipeline.Move)

section
variable [FrameSource σ] [SubtitleRenderer ρ]

def step (trampoline : Trampoline) (handling : FailureHandling) (c : Controller σ ρ) :
    Move σ ρ → Controller σ ρ
  | .setPipeline p => (c.setPipeline (p.map Subtype.val)).1
  | .command k => (c.obey k).controller
  | .meanwhile m =>
    if m.isShared then
      { c with pipeline := c.pipeline.map fun p =>
          ((Life.begin trampoline handling p).step m).pipeline }
    else c

def run (trampoline : Trampoline) (handling : FailureHandling) (c : Controller σ ρ)
    (moves : List (Move σ ρ)) : Controller σ ρ :=
  play (step trampoline handling) c moves

end

structure Queues (p : Pipeline σ ρ) (job : Version → Job) (r : Reply σ ρ) : Prop where
  version : r.version = some p.version.next
  pipeline : r.controller.pipeline = some { p with
    version := p.version.next
    queue := p.queue.submit (job p.version.next)
    colorSpace := r.controller.colorMatrix }
  behind : p.queue.isServed = true → p.queue.submit (job p.version.next) =
    { p.queue with backlog := p.queue.backlog ++ [job p.version.next] }

def Seeks (c : Controller σ ρ) (p : Pipeline σ ρ) (n : Int) (r : Reply σ ρ) : Prop :=
  ∃ f : UInt64, (f.toNat : Int) = max 0 (min n (max p.info.frameCount.toNat 1 - 1 : Nat)) ∧
    r.controller.frame = f ∧ r.controller.colorMatrix = c.colorMatrix ∧
    Queues p (.display f (p.info.rate.timeOfFrame f)) r

structure Follows (c : Controller σ ρ) (p : Pipeline σ ρ) : Prop where
  ignored : ∀ k, (c.obey k).version = none ↔ c.ignores k
  frame : ∀ n, c.Seeks p n.toInt (c.obey (.jumpToFrame n))
  time : p.info.frameCount.toNat ≤ 2 ^ 63 → ∀ ms,
    c.Seeks p (p.info.rate.frameAt ms).toNat (c.obey (.jumpToTime ms))
  startTime : p.info.frameCount.toNat ≤ 2 ^ 63 → ∀ ms,
    c.Seeks p (p.info.rate.firstFrameFrom ms).toNat (c.obey (.jumpToStartTime ms))
  line : c.options.subtitleSync = true → ∀ l,
    c.obey (.activateLine (some l)) = c.obey (.jumpToStartTime l.start)
  matrix : ∀ m, m ≠ "" → m ≠ c.colorMatrix →
    Queues p (fun _ => .recolor m) (c.obey (.commitScriptInfo m)) ∧
      (c.obey (.commitScriptInfo m)).controller.frame = c.frame ∧
      (c.obey (.commitScriptInfo m)).controller.colorMatrix = m
  script : ∀ s, Queues p (.rescript s) (c.obey (.commitSubtitles s)) ∧
    (c.obey (.commitSubtitles s)).controller.frame = c.frame ∧
    (c.obey (.commitSubtitles s)).controller.colorMatrix = c.colorMatrix

theorem lastFrameNat (info : StreamInfo) :
    (lastFrame info).toNat = max info.frameCount.toNat 1 - 1 := by
  unfold lastFrame
  split
  case isTrue none => simp [none]
  case isFalse some =>
    have positive : 1 ≤ info.frameCount := by
      rw [UInt64.le_iff_toNat_le]
      have := fun h => some (UInt64.toNat_inj.mp (h : info.frameCount.toNat = (0 : UInt64).toNat))
      simp at this ⊢
      omega
    rw [UInt64.toNat_sub_of_le _ _ positive]
    rw [UInt64.le_iff_toNat_le] at positive
    simp at positive ⊢
    omega

theorem nearestFrameNat (info : StreamInfo) (n : Int) :
    ((nearestFrame info n).toNat : Int) =
      max 0 (min n (max info.frameCount.toNat 1 - 1 : Nat)) := by
  have inside : (lastFrame info).toNat < UInt64.size := (lastFrame info).toNat_lt
  unfold nearestFrame
  rw [UInt64.toNat_ofNat_of_lt' (by omega), lastFrameNat]
  omega

theorem targetInt (frame : UInt64) : (target frame).toInt = min frame.toNat (2 ^ 63 - 1 : Nat) := by
  unfold target
  rw [Int64.toInt_ofNat_of_lt]
  · rfl
  · have : Int64.maxValue.toInt.toNat = 2 ^ 63 - 1 := by decide
    omega

variable {c : Controller σ ρ} {p : Pipeline σ ρ}

variable [FrameSource σ] [SubtitleRenderer ρ]

end Controller
end VideoPreview

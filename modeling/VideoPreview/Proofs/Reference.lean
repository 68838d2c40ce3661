import VideoPreview.Proofs.Life
import VideoPreview.Proofs.Packing
import VideoPreview.Proofs.Parking

/-! Reuse and pooling do not show. A reference computes each frame anew, from nothing but the
request and what was in force when it was made; a pipeline whose stream and renderer give the same
answer to the same question hands over and answers what the reference does, only that its frames
have an identity. -/
namespace VideoPreview

inductive StreamCall where
  | decode (frame : UInt64)
  | matrix (name : String)

namespace StreamCall

def apply [FrameSource σ] (s : σ) : StreamCall → σ
  | decode n => (FrameSource.decode n s).2
  | matrix name => (FrameSource.setColorSpace name s).2

def after [FrameSource σ] (s : σ) (calls : List StreamCall) : σ := calls.foldl apply s

def matrices (calls : List StreamCall) : List String :=
  calls.filterMap fun
    | matrix name => some name
    | decode _ => none

end StreamCall

def afterDrawings [SubtitleRenderer ρ] (r : ρ)
    (drawings : List (Buffer × Int64 × List SubtitleLine)) : ρ :=
  drawings.foldl (fun r d => (SubtitleRenderer.render d.1 d.2.1 d.2.2 r).renderer) r

/-- A stream and a renderer without a state. What the stream says hangs on the matrices that were
set, in their order, and on the frame; what is drawn hangs on the buffer, the time and the lines. -/
structure Reference where
  frameCount : UInt64
  decode : List String → UInt64 → Attempt SourceError Picture
  colorSpace : List String → Except Payload String
  draw : Buffer → Int64 → List SubtitleLine → Attempt SubtitleError Unit × Pixels

namespace Reference

/-- Whatever was decoded and drawn before, the stream and the renderer answer as the reference. The
stream takes every matrix without a panic. -/
structure Describes [FrameSource σ] [SubtitleRenderer ρ] (r : Reference) (source : σ)
    (renderer : ρ) : Prop where
  frameCount : (FrameSource.info source).frameCount = r.frameCount
  decode : ∀ calls n, (FrameSource.decode n (StreamCall.after source calls)).1 =
    r.decode (StreamCall.matrices calls) n
  colorSpace : ∀ calls, FrameSource.colorSpace (StreamCall.after source calls) =
    r.colorSpace (StreamCall.matrices calls)
  setColorSpace : ∀ calls name,
    (FrameSource.setColorSpace name (StreamCall.after source calls)).1 = none
  draw : ∀ drawings b t lines,
    ((SubtitleRenderer.render b t lines (afterDrawings renderer drawings)).result,
      (SubtitleRenderer.render b t lines (afterDrawings renderer drawings)).pixels) =
      r.draw b t lines

def picture (r : Reference) (matrices : List String) (n : UInt64) : Attempt SourceError Picture :=
  match r.decode matrices n with
  | .done p =>
    if p.isWellFormed then .done p
    else .refused (.undecodable n "decoder returned a buffer smaller than its geometry")
  | .refused e => .refused e
  | .panicked payload => .panicked payload

def framed (r : Reference) (matrices : List String) (n : UInt64) (t : Int64) (hasSubtitles : Bool)
    (buffer : Buffer) (fault : Option SubtitleError) : Attempt SourceError Rendered :=
  match r.colorSpace matrices with
  | .error payload => .panicked payload
  | .ok colorSpace => .done ⟨⟨⟨0, 0⟩, n, t, colorSpace, hasSubtitles, buffer⟩, fault⟩

def drawn (r : Reference) (matrices : List String) (lines : List SubtitleLine) (n : UInt64)
    (t : Int64) (p : Picture) : Attempt SourceError Rendered :=
  let bare : Buffer := ⟨⟨p.width, p.height⟩, p.packed⟩
  if lines.isEmpty then r.framed matrices n t false bare none
  else
    match r.draw bare t lines with
    | (.done (), pixels) => r.framed matrices n t true { bare with data := pixels } none
    | (.refused fault, _) => r.framed matrices n t false bare (some fault)
    | (.panicked payload, _) => .panicked payload

def compute (r : Reference) (matrices : List String) (lines : List SubtitleLine) (n : UInt64)
    (t : Int64) : Attempt SourceError Rendered :=
  if r.frameCount ≤ n then .refused (.outOfRange n r.frameCount)
  else
    match r.picture matrices n with
    | .done p => r.drawn matrices lines n t p
    | .refused e => .refused e
    | .panicked payload => .panicked payload

def outcome (r : Reference) (made : List Request) (n : UInt64) (t : Int64)
    (withSubtitles : Bool) : Attempt SourceError Rendered :=
  r.compute (Request.matrices made)
    (if withSubtitles then (Request.script made).visibleAt t else []) n t

def handovers (r : Reference) (made : List Request) : Request → List Handover
  | .display n t => [.ofOutcome n (Request.version made) (r.outcome made n t true)]
  | .rescript _ =>
    match Request.position made with
    | some (n, t) => [.ofOutcome n (Request.version made) (r.outcome made n t true)]
    | none => []
  | _ => []

def fetches (r : Reference) (made : List Request) : Request → List (Attempt SourceError Rendered)
  | .fetch n t withSubtitles => [r.outcome made n t withSubtitles]
  | _ => []

end Reference

def Frame.unnamed (f : Frame) : Frame := { f with id := ⟨0, 0⟩ }

def Rendered.unnamed (r : Rendered) : Rendered := ⟨r.frame.unnamed, r.fault⟩

def Event.unnamed : Event → Event
  | frameReady f v => frameReady f.unnamed v
  | e => e

def Handover.unnamed : Handover → Handover
  | deliver events => deliver (events.map Event.unnamed)
  | h => h

def Attempt.unnamed : Attempt SourceError Rendered → Attempt SourceError Rendered
  | done rendered => done rendered.unnamed
  | outcome => outcome

def JobAnswer.outcome? : JobAnswer → Option (Attempt SourceError Rendered)
  | computed outcome => some outcome
  | inspected _ _ => none

theorem Handover.unnamedOfOutcome (n : UInt64) (v : Version)
    (outcome : Attempt SourceError Rendered) :
    (Handover.ofOutcome n v outcome).unnamed = .ofOutcome n v outcome.unnamed := by
  cases outcome with
  | refused e => rfl
  | panicked payload => rfl
  | done rendered =>
    obtain ⟨frame, fault⟩ := rendered
    cases fault <;> rfl

end VideoPreview

import VideoPreview.Session
import VideoPreview.Synthetic.Bands
import VideoPreview.Synthetic.Scripted
import VideoPreview.Synthetic.Video

/-!
Sessions with made-up parts only: a synthetic or a scripted stream, bands for subtitles, and
viewers that panic where they are told to.
-/
namespace VideoPreview

inductive RehearsalProvider where
  | synthetic (p : SyntheticProvider)
  | scripted (p : ScriptedProvider)

inductive RehearsalStream where
  | synthetic (s : SyntheticStream)
  | scripted (s : ScriptedStream)

instance : FrameSource RehearsalStream where
  info
    | .synthetic s => FrameSource.info s
    | .scripted s => FrameSource.info s
  colorSpace
    | .synthetic s => FrameSource.colorSpace s
    | .scripted s => FrameSource.colorSpace s
  setColorSpace matrix
    | .synthetic s =>
      ((FrameSource.setColorSpace matrix s).1, .synthetic (FrameSource.setColorSpace matrix s).2)
    | .scripted s =>
      ((FrameSource.setColorSpace matrix s).1, .scripted (FrameSource.setColorSpace matrix s).2)
  decode n
    | .synthetic s => ((FrameSource.decode n s).1, .synthetic (FrameSource.decode n s).2)
    | .scripted s => ((FrameSource.decode n s).1, .scripted (FrameSource.decode n s).2)

instance : SourceProvider RehearsalProvider RehearsalStream where
  openStream path hint
    | .synthetic p =>
      ((SourceProvider.openStream path hint p).1.map .synthetic,
        .synthetic (SourceProvider.openStream path hint p).2)
    | .scripted p =>
      ((SourceProvider.openStream path hint p).1.map .scripted,
        .scripted (SourceProvider.openStream path hint p).2)

structure FragileRenderer where
  bands : BandRenderer
  crashMarker : Option String
  deriving DecidableEq, Repr

namespace FragileRenderer

def crashes (r : FragileRenderer) (lines : List SubtitleLine) : Bool :=
  match r.crashMarker with
  | some m => lines.any fun l => occursIn m.toList l.text.toList
  | none => false

instance : SubtitleRenderer FragileRenderer where
  render b t lines r :=
    let drawing := SubtitleRenderer.render b t lines r.bands
    { result :=
        match drawing.result with
        | .done () =>
          if r.crashes lines then .panicked (.text s!"renderer crashed at {t}") else .done ()
        | other => other
      pixels := drawing.pixels
      renderer := { r with bands := drawing.renderer } }
  keepsSize b t lines r := SubtitleRenderer.keepsSize b t lines r.bands

end FragileRenderer

inductive Retention where
  | recordAll
  | showLatest
  | keepNothing
  deriving DecidableEq, Repr

structure FragileViewer where
  retention : Retention
  panicsAt : List UInt64
  recorder : Recorder
  display : Display
  deriving DecidableEq, Repr

namespace FragileViewer

def start (retention : Retention) (panicsAt : List UInt64) : FragileViewer :=
  ⟨retention, panicsAt, .empty, .blank⟩

instance : Viewer FragileViewer where
  receive e v :=
    if e.version.number ∈ v.panicsAt then ⟨v, [], some (.text s!"sink crashed on {e.version}")⟩
    else
      match v.retention with
      | .recordAll =>
        let r := Viewer.receive e v.recorder
        ⟨{ v with recorder := r.state }, r.log, r.panic⟩
      | .showLatest =>
        let r := Viewer.receive e v.display
        ⟨{ v with display := r.state }, r.log, r.panic⟩
      | .keepNothing => ⟨v, [], none⟩
  frames v := Viewer.frames v.recorder ++ Viewer.frames v.display
  holdsGiven e v f held := by
    split at held
    case isTrue => exact .inl held
    case isFalse =>
      cases h : v.retention with
      | recordAll =>
        rw [h] at held
        rcases List.mem_append.mp held with recorded | displayed
        · rcases Viewer.holdsGiven e v.recorder f recorded with before | given
          · exact .inl (List.mem_append_left _ before)
          · exact .inr given
        · exact .inl (List.mem_append_right _ displayed)
      | showLatest =>
        rw [h] at held
        rcases List.mem_append.mp held with recorded | displayed
        · exact .inl (List.mem_append_left _ recorded)
        · rcases Viewer.holdsGiven e v.display f displayed with before | given
          · exact .inl (List.mem_append_right _ before)
          · exact .inr given
      | keepNothing =>
        rw [h] at held
        exact .inl held

end FragileViewer

abbrev Rehearsal := Session RehearsalStream FragileRenderer FragileViewer

def Call.delivered (calls : List Call) : List (UInt64 × Option String) :=
  calls.filterMap fun
    | .decode n colorSpace true => some (n, colorSpace)
    | _ => none

def Call.renders (calls : List Call) : List Call :=
  calls.filter fun
    | .render _ _ _ => true
    | _ => false

def PictureSize.diagnostic (s : PictureSize) : String :=
  "PooledBuffer \x7b width: " ++ toString s.width ++ ", height: " ++ toString s.height
    ++ ", len: " ++ toString s.bytes ++ " \x7d"

end VideoPreview

import VideoPreview.Synthetic.Rehearsal

/-!
A rehearsal whose videos are known by name, each with the viewer it is shown to and the provider
that opened it.
-/
namespace VideoPreview

structure Part where
  pipeline : Option Nat
  viewer : Nat
  provider : RehearsalProvider

structure Stage where
  session : Rehearsal
  parts : List (String × Part)

abbrev RehearsalPipeline := Pipeline RehearsalStream FragileRenderer

namespace Stage

def part? (s : Stage) (name : String) : Option Part := s.parts.lookup name

def pipelineId? (s : Stage) (name : String) : Option Nat := (s.part? name).bind (·.pipeline)

def subject? (s : Stage) : Option String → Option RehearsalPipeline
  | some name => (s.pipelineId? name).bind s.session.openPipeline?
  | none => s.session.controller.pipeline

def subjectPart? (s : Stage) : Option String → Option Part
  | some name => s.part? name
  | none => s.session.controller.pipeline.bind fun p =>
    (s.parts.find? fun part => part.2.pipeline = some p.id).map Prod.snd

def viewer? (s : Stage) (p : Part) : Option FragileViewer := s.session.viewers[p.viewer]?

def nameOf? (s : Stage) (pipeline : Nat) : Option String :=
  (s.parts.find? fun p => p.2.pipeline = some pipeline).map Prod.fst

def nameOfViewer? (s : Stage) (viewer : Nat) : Option String :=
  (s.parts.find? fun p => p.2.viewer = viewer).map Prod.fst

def calls (s : Stage) (p : Part) : List Call :=
  ((p.pipeline.bind s.session.pipeline?).map (·.worker.calls)).getD []

def openPart (s : Stage) (name path hint : String) (provider : RehearsalProvider)
    (renderer : FragileRenderer) (viewer : FragileViewer) (options : PipelineOptions) :
    Attempt PreviewError Nat × Stage :=
  let (stream, provider) := SourceProvider.openStream path hint provider
  let (viewer, session) := s.session.addViewer viewer
  let (outcome, session) := session.openPipeline path stream renderer viewer options
  (outcome, ⟨session, (name, ⟨outcome.toOption, viewer, provider⟩) :: s.parts⟩)

def display (s : Stage) (name : Option String) : Option (Option String) × Stage :=
  let (before, session) := s.session.display (name.bind s.pipelineId?)
  (before.map s.nameOf?, { s with session })

end Stage
end VideoPreview

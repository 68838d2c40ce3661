import VideoPreview.Options
import VideoPreview.Fault
import VideoPreview.Text.Blank

/-!
All options in one document. Sections and their options may be left out; a section that does not
exist is refused, and so are values that no queue can be set up with.
-/
namespace VideoPreview

structure Config where
  dispatch : DispatchOptions
  pipeline : PipelineOptions
  controller : ControllerOptions
  deriving DecidableEq, Repr

namespace Config

def default : Config := ⟨.default, .default, .default⟩

def record : Json.Record Config where
  name := "RuntimeConfig"
  fields := [
    .of "dispatch" .defaulted DispatchOptions.record.read fun v c => { c with dispatch := v },
    .of "pipeline" .defaulted PipelineOptions.record.read fun v c => { c with pipeline := v },
    .of "controller" .defaulted ControllerOptions.record.read fun v c => { c with controller := v }]
  start := default
  strict := true

def toTree (c : Config) : Json.Tree := .ofFields [
  ("dispatch", c.dispatch.toTree),
  ("pipeline", c.pipeline.toTree),
  ("controller", c.controller.toTree)]

def fault? (c : Config) : Option InvalidInput :=
  if c.dispatch.backgroundThreads = some 0 then some .noBackgroundThreads
  else if Text.blank c.dispatch.serialThreadName then some .blankThreadName
  else none

def ofBytes (raw : Json.Bytes) : Except PreviewError Config :=
  match record.read.run raw with
  | .error e => .error (.validation (.unreadableConfig e))
  | .ok c =>
    match c.fault? with
    | some e => .error (.validation e)
    | none => .ok c

def ofString (s : String) : Except PreviewError Config := ofBytes s.toByteArray.toList

end Config
end VideoPreview

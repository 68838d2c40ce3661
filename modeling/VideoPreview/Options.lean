import VideoPreview.Json.Record

/-!
The options of the parts, each with its defaults and its written form. Every option may be left
out, and members that are no option are skipped.
-/
namespace VideoPreview

structure DispatchOptions where
  backgroundThreads : Option UInt64
  serialThreadName : String
  deriving DecidableEq, Repr

namespace DispatchOptions

def default : DispatchOptions := ⟨none, "serial-queue"⟩

def singleThreaded : DispatchOptions := { default with backgroundThreads := some 1 }

def record : Json.Record DispatchOptions where
  name := "DispatchOpts"
  fields := [
    .of "background_threads" .defaulted (.option .size) fun v o =>
      { o with backgroundThreads := v },
    .of "serial_thread_name" .defaulted .string fun v o => { o with serialThreadName := v }]
  start := default
  strict := false

def toTree (o : DispatchOptions) : Json.Tree := .ofFields [
  ("background_threads", .ofOption .ofUInt64 o.backgroundThreads),
  ("serial_thread_name", .ofString o.serialThreadName)]

end DispatchOptions

structure PoolOptions where
  maxBytes : UInt64
  maxPerSize : UInt64
  deriving DecidableEq, Repr

namespace PoolOptions

def default : PoolOptions := ⟨64 * 1024 * 1024, 4⟩

def record : Json.Record PoolOptions where
  name := "BufferPoolOpts"
  fields := [
    .of "max_pool_bytes" .defaulted .size fun v o => { o with maxBytes := v },
    .of "max_buffers_per_size" .defaulted .size fun v o => { o with maxPerSize := v }]
  start := default
  strict := false

def toTree (o : PoolOptions) : Json.Tree := .ofFields [
  ("max_pool_bytes", .ofUInt64 o.maxBytes),
  ("max_buffers_per_size", .ofUInt64 o.maxPerSize)]

end PoolOptions

structure PipelineOptions where
  pool : PoolOptions
  reuseDecoded : Bool
  reuseRendered : Bool
  deriving DecidableEq, Repr

namespace PipelineOptions

def default : PipelineOptions := ⟨.default, true, true⟩

def record : Json.Record PipelineOptions where
  name := "PipelineOpts"
  fields := [
    .of "pool" .defaulted PoolOptions.record.read fun v o => { o with pool := v },
    .of "reuse_decoded_frame" .defaulted .bool fun v o => { o with reuseDecoded := v },
    .of "reuse_rendered_frame" .defaulted .bool fun v o => { o with reuseRendered := v }]
  start := default
  strict := false

def toTree (o : PipelineOptions) : Json.Tree := .ofFields [
  ("pool", o.pool.toTree),
  ("reuse_decoded_frame", .bool o.reuseDecoded),
  ("reuse_rendered_frame", .bool o.reuseRendered)]

end PipelineOptions

structure ControllerOptions where
  subtitleSync : Bool
  deriving DecidableEq, Repr

namespace ControllerOptions

def default : ControllerOptions := ⟨true⟩

def record : Json.Record ControllerOptions where
  name := "ControllerOpts"
  fields := [.of "subtitle_sync" .defaulted .bool fun v _ => ⟨v⟩]
  start := default
  strict := false

def toTree (o : ControllerOptions) : Json.Tree :=
  .ofFields [("subtitle_sync", .bool o.subtitleSync)]

end ControllerOptions
end VideoPreview

import VideoPreview.AspectRatio
import VideoPreview.Config
import VideoPreview.Controller
import VideoPreview.Dispatch.Context
import VideoPreview.Dispatch.Errand
import VideoPreview.Dispatch.Hub
import VideoPreview.Dispatch.MainLoop
import VideoPreview.Dispatch.Registry
import VideoPreview.Dispatch.SerialQueue
import VideoPreview.Dispatch.Work
import VideoPreview.Event
import VideoPreview.Fault
import VideoPreview.Frame
import VideoPreview.FrameRate
import VideoPreview.Json.Numeral
import VideoPreview.Json.ReadError
import VideoPreview.Json.Reader
import VideoPreview.Json.Record
import VideoPreview.Json.Spelling
import VideoPreview.Json.Token
import VideoPreview.Json.Tree
import VideoPreview.Json.Variant
import VideoPreview.Log
import VideoPreview.Options
import VideoPreview.Picture
import VideoPreview.Pipeline
import VideoPreview.Pool
import VideoPreview.Renderer
import VideoPreview.Session
import VideoPreview.Source
import VideoPreview.StreamInfo
import VideoPreview.Subtitle
import VideoPreview.Synthetic.Bands
import VideoPreview.Synthetic.Rehearsal
import VideoPreview.Synthetic.Screening
import VideoPreview.Synthetic.Scripted
import VideoPreview.Synthetic.Stage
import VideoPreview.Synthetic.Video
import VideoPreview.Text.Blank
import VideoPreview.Text.Hexadecimal
import VideoPreview.Text.Location
import VideoPreview.Text.PixelRows
import VideoPreview.Text.Quoted
import VideoPreview.Text.Shapeless
import VideoPreview.Version
import VideoPreview.Viewer
import VideoPreview.Worker
import VideoPreview.Proofs.Packing
import VideoPreview.Proofs.Run
import VideoPreview.Proofs.Life
import VideoPreview.Proofs.Parking
import VideoPreview.Proofs.Reference
import VideoPreview.Proofs.Reuse
import VideoPreview.Proofs.Refinement
import VideoPreview.Proofs.Outcomes
import VideoPreview.Proofs.Moves
import VideoPreview.Proofs.Measures
import VideoPreview.Proofs.Strands
import VideoPreview.Proofs.Trampolines
import VideoPreview.Proofs.Waiting
import VideoPreview.Proofs.Lanes
import VideoPreview.Proofs.Serial
import VideoPreview.Proofs.Failures
import VideoPreview.Proofs.Latest
import VideoPreview.Proofs.Stock
import VideoPreview.Proofs.Custody
import VideoPreview.Proofs.Drawing
import VideoPreview.Proofs.Reception
import VideoPreview.Proofs.Holders
import VideoPreview.Proofs.Rounds
import VideoPreview.Proofs.Exchanges
import VideoPreview.Proofs.Steering
import VideoPreview.Proofs.Metering
import VideoPreview.Proofs.Replacement
import VideoPreview.Proofs.Literals
import VideoPreview.Proofs.Nesting
import VideoPreview.Proofs.Meaning
import VideoPreview.Proofs.Overlay
import VideoPreview.Proofs.Episodes
import VideoPreview.Proofs.Timing
import VideoPreview.Proofs.Views
import VideoPreview.Proofs.Remembering
import VideoPreview.Proofs.ActiveLine
import VideoPreview.Proofs.Copying
import VideoPreview.Proofs.Strictness
import VideoPreview.Proofs.Rounding
import VideoPreview.Proofs.Layers
import VideoPreview.Proofs.Painting
import VideoPreview.Proofs.Stacking
import VideoPreview.Proofs.Draining
import VideoPreview.Proofs.Restoring

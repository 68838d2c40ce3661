import VideoPreview.FrameRate
import VideoPreview.Json.ReadError

/-!
What can go wrong, by cause, and the one place where each cause is put into words.
-/
namespace VideoPreview

inductive SourceError where
  | notFound (path : String)
  | unopenable (path reason : String)
  | undecodable (frame : UInt64) (reason : String)
  | outOfRange (frame count : UInt64)
  deriving DecidableEq, Repr

def SourceError.message : SourceError → String
  | notFound path => s!"file not found: {path}"
  | unopenable path reason => s!"failed to open {path}: {reason}"
  | undecodable frame reason => s!"failed to decode frame {frame}: {reason}"
  | outOfRange frame count => s!"frame {frame} out of range (frame count {count})"

structure SubtitleError where
  reason : String
  deriving DecidableEq, Repr

def SubtitleError.message (e : SubtitleError) : String := s!"render failed: {e.reason}"

inductive DispatchError where
  | alreadyInitialized
  | threadSpawn (reason : String)
  | backgroundPool (reason : String)
  | invalidOption (reason : String)
  deriving DecidableEq, Repr

namespace DispatchError

def message : DispatchError → String
  | alreadyInitialized => "dispatch is already initialized"
  | threadSpawn reason => s!"failed to spawn worker thread: {reason}"
  | backgroundPool reason => s!"failed to build background pool: {reason}"
  | invalidOption reason => s!"invalid dispatch option: {reason}"

def causes : DispatchError → List String
  | threadSpawn reason => [reason]
  | _ => []

end DispatchError

inductive Cause where
  | text (message : String)
  | source (e : SourceError)
  | subtitle (e : SubtitleError)
  | passedOn (e : SourceError)
  deriving DecidableEq, Repr

def Cause.chain : Cause → List String
  | text message => [message]
  | source e => [e.message]
  | subtitle e => [e.message]
  | passedOn e => [s!"source error: {e.message}", e.message]

/-- An error with the contexts it was met in, the innermost first. -/
structure Report where
  cause : Cause
  contexts : List String
  deriving DecidableEq, Repr

namespace Report

def chain (r : Report) : List String := r.contexts.reverse ++ r.cause.chain

def message (r : Report) : String := r.chain.headD ""

def fullMessage (r : Report) : String := String.intercalate ": " r.chain

def sourceError? (r : Report) : Option SourceError :=
  match r.cause with
  | .source e => some e
  | _ => none

def subtitleError? (r : Report) : Option SubtitleError :=
  match r.cause with
  | .subtitle e => some e
  | _ => none

end Report

inductive Payload where
  | literal (message : String)
  | text (message : String)
  | number (n : UInt64)
  | source (e : SourceError)
  | other
  deriving DecidableEq, Repr

def Payload.message : Payload → String
  | literal message => message
  | text message => message
  | _ => "<non-string panic payload>"

def Payload.isReadable : Payload → Bool
  | other => false
  | _ => true

inductive Failure where
  | panicked (message : String) (payload : Payload)
  | failed (r : Report)
  | abandoned (queue : String)
  deriving DecidableEq, Repr

namespace Failure

def ofPanic (p : Payload) : Failure := .panicked p.message p

def message : Failure → String
  | panicked message _ => s!"work panicked: {message}"
  | failed r => s!"work failed: {r.fullMessage}"
  | abandoned queue => s!"work abandoned: {queue} queue is closed"

def isPanic : Failure → Bool
  | panicked _ _ => true
  | _ => false

def panicMessage? : Failure → Option String
  | panicked message _ => some message
  | _ => none

def payload? : Failure → Option Payload
  | panicked _ payload => some payload
  | _ => none

def report? : Failure → Option Report
  | failed r => some r
  | _ => none

def mapPayload (f : Payload → Payload) : Failure → Failure
  | panicked message payload => .panicked message (f payload)
  | other => other

def raised : Failure → Payload
  | panicked _ payload => payload
  | other => .text other.message

def diagnostic? : Failure → Option String
  | panicked message _ =>
    some ("Panicked \x7b message: " ++ Text.quoted message
      ++ ", payload: PanicPayload \x7b .. \x7d \x7d")
  | abandoned queue => some ("Abandoned \x7b queue: " ++ Text.quoted queue ++ " \x7d")
  | failed _ => none

end Failure

inductive InvalidInput where
  | rate (fault : FrameRate.Fault)
  | unreadableConfig (e : Json.ReadError)
  | missingConfig (path : String)
  | noBackgroundThreads
  | blankThreadName
  | custom (reason : String)
  deriving DecidableEq, Repr

def InvalidInput.message : InvalidInput → String
  | rate .zeroDenominator => "Fps den must be > 0"
  | rate .zeroNumerator => "Fps num must be > 0"
  | unreadableConfig e => s!"parse runtime config JSON: {e.message}"
  | missingConfig path =>
    s!"open runtime config '{path}': No such file or directory (os error 2)"
  | noBackgroundThreads => "dispatch.background_threads must be > 0 when set"
  | blankThreadName => "dispatch.serial_thread_name must not be empty"
  | custom reason => reason

inductive PreviewError where
  | validation (e : InvalidInput)
  | source (e : SourceError)
  | subtitle (e : SubtitleError)
  | dispatch (e : DispatchError)
  | work (e : Failure)
  | other (r : Report)
  deriving DecidableEq, Repr

namespace PreviewError

def message : PreviewError → String
  | validation e => s!"validation error: {e.message}"
  | source e => s!"source error: {e.message}"
  | subtitle e => s!"subtitle error: {e.message}"
  | dispatch e => s!"dispatch error: {e.message}"
  | work e => s!"work error: {e.message}"
  | other r => r.message

def fullMessage : PreviewError → String
  | other r => r.fullMessage
  | e => e.message

def causes : PreviewError → List String
  | validation _ => []
  | source e => [e.message]
  | subtitle e => [e.message]
  | dispatch e => e.message :: e.causes
  | work e => [e.message]
  | other r => r.chain.tail

end PreviewError
end VideoPreview

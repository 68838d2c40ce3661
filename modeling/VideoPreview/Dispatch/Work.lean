import VideoPreview.Fault

/-!
Work items: what an item does on its queue, step by step, and what it notes down about it.
-/
namespace VideoPreview

inductive QueueRef where
  | main
  | background
  | serial (name : String)
  deriving DecidableEq, Repr

inductive CallResult (V : Type) where
  | returned (v : Option V)
  | reported (r : Report)
  | failed (f : Failure)
  deriving DecidableEq, Repr

inductive Work (V : Type) where
  | done
  | note (v : V) (rest : Work V)
  | answer (v : V) (rest : Work V)
  | noteThread (rest : Work V)
  | noteCurrent (q : QueueRef) (rest : Work V)
  | noteQueue (name : String) (rest : Work V)
  | tally (rest : Work V)
  | submit (q : QueueRef) (fallible : Bool) (item rest : Work V)
  | call (q : QueueRef) (item rest : Work V)
  | close (name : String) (rest : Work V)
  | panic (p : Payload)
  | fail (r : Report)
  deriving DecidableEq, Repr, Inhabited

namespace Work

def weight : Work V → Nat
  | done => 1
  | note _ rest => rest.weight + 1
  | answer _ rest => rest.weight + 1
  | noteThread rest => rest.weight + 1
  | noteCurrent _ rest => rest.weight + 1
  | noteQueue _ rest => rest.weight + 1
  | tally rest => rest.weight + 1
  | submit _ _ item rest => item.weight + rest.weight + 2
  | call _ item rest => item.weight + rest.weight + 3
  | close _ rest => rest.weight + 2
  | panic _ => 3
  | fail _ => 3

def submitTallied (q : QueueRef) (fallible : Bool) (item rest : Work V) : Work V :=
  .submit q fallible (if q = .main then .tally item else item) rest

def closeFromInside (name : String) (farewell : V) : Work V :=
  .submit (.serial name) false (.noteQueue name (.close name (.note farewell .done))) .done

def submitSeries (q : QueueRef) (item : Nat → Work V) (first : Nat) : Nat → Work V → Work V
  | 0, rest => rest
  | count + 1, rest => .submit q false (item first) (submitSeries q item (first + 1) count rest)

def flood (q : QueueRef) (mark : Nat → Nat → V) (sources count : Nat) : Work V :=
  (List.range sources).foldr
    (fun s rest => submitSeries q (fun i => .note (mark s i) .done) 0 count rest)
    (.call q .done .done)

end Work

inductive Note (V : Type) where
  | value (v : V)
  | thread (name : String)
  | current (b : Bool)
  | queue (name : String) (current : Bool)
  | result (r : CallResult V)
  deriving DecidableEq, Repr

end VideoPreview

/-!
File locations are the same when their steps are: empty steps and steps to where one is already do
not count, except that a location may begin with such a step.
-/
namespace VideoPreview.Text

def steps (location : String) : List String :=
  match location.splitOn "/" with
  | [] => []
  | first :: rest =>
    let inner := rest.filter fun step => step ≠ "" ∧ step ≠ "."
    if location = "" then inner else first :: inner

def sameLocation (a b : String) : Bool := steps a = steps b

end VideoPreview.Text

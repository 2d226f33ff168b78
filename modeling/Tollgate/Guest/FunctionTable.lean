namespace Tollgate.Guest

structure FunctionTable where
  size : Nat
  runs : List (Nat × Array (Option Nat)) := []
deriving Repr, DecidableEq, Inhabited

namespace FunctionTable

-- What the runs hold at a place: the latest run that covers it counts, and elsewhere is nothing.
def entryIn (place : Nat) : List (Nat × Array (Option Nat)) → Option Nat
  | [] => none
  | (first, entries) :: rest =>
    if first ≤ place ∧ place < first + entries.size then entries.getD (place - first) none
    else entryIn place rest

def get? (t : FunctionTable) (place : Nat) : Option (Option Nat) :=
  if place < t.size then some (entryIn place t.runs) else none

def put? (t : FunctionTable) (first : Nat) (entries : List (Option Nat)) :
    Option FunctionTable :=
  if first + entries.length ≤ t.size then
    some { t with runs := (first, entries.toArray) :: t.runs }
  else none

end FunctionTable

end Tollgate.Guest

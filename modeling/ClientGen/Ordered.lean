/-
# Association lists in insertion order

A finite map as the list of its pairs.  A new key goes to the end; a new value
for a key already there takes the old one's place.  So the keys stand in the
order of their first insertion, each once.
-/

namespace ClientGen.Ordered

variable {κ α : Type} [DecidableEq κ]

/-- The value of a key. -/
def get? (key : κ) : List (κ × α) → Option α
  | [] => none
  | (k, v) :: rest => if k = key then some v else get? key rest

/-- Whether there is a value for a key. -/
def has (key : κ) (m : List (κ × α)) : Bool := (get? key m).isSome

/-- Gives a key a value. -/
def put (key : κ) (value : α) : List (κ × α) → List (κ × α)
  | [] => [(key, value)]
  | (k, v) :: rest => if k = key then (key, value) :: rest else (k, v) :: put key value rest

/-- The map of a list of pairs put in one after the other. -/
def ofPairs (pairs : List (κ × α)) : List (κ × α) :=
  pairs.foldl (fun m (k, v) => put k v m) []

/-- Appends a value to the list of a key, which is empty where there is none. -/
def append (key : κ) (value : α) : List (κ × List α) → List (κ × List α)
  | [] => [(key, [value])]
  | (k, vs) :: rest =>
    if k = key then (k, vs ++ [value]) :: rest else (k, vs) :: append key value rest

/-- The values of a list of pairs grouped by their keys. -/
def groups (pairs : List (κ × α)) : List (κ × List α) :=
  pairs.foldl (fun m (k, v) => append k v m) []

/-- The elements of a list without repetitions, each at its first place. -/
def distinct : List κ → List κ
  | [] => []
  | a :: rest => a :: (distinct rest).filter (· ≠ a)

end ClientGen.Ordered

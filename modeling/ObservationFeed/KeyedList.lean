/-!
# Keyed lists

A finite map as a list of entries in no particular order.  Storing a value
keeps the place of an entry that is already there.
-/

namespace ObservationFeed.KeyedList

variable {κ ν : Type} [DecidableEq κ]

def find? (key : κ) : List (κ × ν) → Option ν
  | [] => none
  | (k, v) :: rest => if k = key then some v else find? key rest

/-- The list with a value stored under a key. -/
def put (key : κ) (value : ν) : List (κ × ν) → List (κ × ν)
  | [] => [(key, value)]
  | (k, v) :: rest => if k = key then (k, value) :: rest else (k, v) :: put key value rest

def erase (key : κ) (entries : List (κ × ν)) : List (κ × ν) :=
  entries.filter fun e => e.1 ≠ key

def keys (entries : List (κ × ν)) : List κ := entries.map (·.1)

/-- No key has two entries. -/
def Distinct (entries : List (κ × ν)) : Prop := (keys entries).Nodup

/-- The total of a measure over the values. -/
def total (measure : ν → Nat) (entries : List (κ × ν)) : Nat :=
  entries.foldr (fun e sum => measure e.2 + sum) 0

end ObservationFeed.KeyedList

/-!
# Ordered dictionaries

A dictionary is a list of pairs in which no key stands twice. A key keeps the place where it was
first set and has the value that was set last.
-/

namespace Voicemail.Assoc

variable {κ α β : Type}

/-- Sets a key: in its place if the dictionary has it, else at the end. -/
def set [BEq κ] (key : κ) (value : α) : List (κ × α) → List (κ × α)
  | [] => [(key, value)]
  | (k, v) :: rest => if k == key then (k, value) :: rest else (k, v) :: set key value rest

/-- Sets the keys of a list of pairs one after another. -/
def setAll [BEq κ] (d : List (κ × α)) (pairs : List (κ × α)) : List (κ × α) :=
  pairs.foldl (fun d p => set p.1 p.2 d) d

/-- The dictionary that a list of pairs writes. -/
def ofPairs [BEq κ] (pairs : List (κ × α)) : List (κ × α) := setAll [] pairs

/-- The keys in order. -/
def keys (d : List (κ × α)) : List κ := d.map (·.1)

/-- The dictionary without a key. -/
def erase [BEq κ] (key : κ) (d : List (κ × α)) : List (κ × α) :=
  d.filter fun p => !(p.1 == key)

/-- Whether a dictionary has a key. -/
def contains [BEq κ] (key : κ) (d : List (κ × α)) : Bool := d.any fun p => p.1 == key

end Voicemail.Assoc

/-!
# Ordered entries

Lists of keys with values whose order is kept: a key that is set again keeps its place and takes the
new value.
-/

namespace SqlBridge.Entries

variable {κ α : Type} [DecidableEq κ]

/-- The value of the first entry with the key. -/
def get? (key : κ) : List (κ × α) → Option α
  | [] => none
  | (k, a) :: rest => if k = key then some a else get? key rest

/-- Gives the key the value, at its place if it has one, else at the end. -/
def set (key : κ) (a : α) : List (κ × α) → List (κ × α)
  | [] => [(key, a)]
  | (k, b) :: rest => if k = key then (k, a) :: rest else (k, b) :: set key a rest

/-- The entries set one after the other. -/
def ofList (entries : List (κ × α)) : List (κ × α) :=
  entries.foldl (fun acc e => set e.1 e.2 acc) []

/-- Adds the value at the end of the key's values; a new key comes last. -/
def push (key : κ) (a : α) : List (κ × List α) → List (κ × List α)
  | [] => [(key, [a])]
  | (k, as) :: rest => if k = key then (k, as ++ [a]) :: rest else (k, as) :: push key a rest

/-- The values of a key, none for a new key. -/
def all (key : κ) (entries : List (κ × List α)) : List α :=
  (get? key entries).getD []

end SqlBridge.Entries

import UwbRadio.Error

/-!
The ranging table: one entry for each pair of nodes other than the master, in the
order in which the schedule visits them. The master is the first address of the
list a table is built from, and ranges with nobody.
-/

namespace UwbRadio.Ranging

/-- A range estimate, as the bits of a single-precision number. -/
structure Range where
  bits : UInt32
  deriving DecidableEq

structure Pair where
  first : UInt16
  second : UInt16
  range : Option Range
  deriving DecidableEq

def Pair.joins (pair : Pair) (one other : UInt16) : Bool :=
  (pair.first == one && pair.second == other) || (pair.first == other && pair.second == one)

/-- The number of pairs among the nodes other than the master. -/
def pairCount (nodes : Nat) : Nat :=
  (nodes - 1) * (nodes - 1 - 1) / 2

/-- Every pair of positions, in lexicographic order. -/
def pairsOf : List UInt16 → List Pair
  | [] => []
  | first :: rest => rest.map (fun second => ⟨first, second, none⟩) ++ pairsOf rest

structure Table (capacity : Nat) where
  master : UInt16
  nodes : Nat
  pairs : List Pair
  deriving DecidableEq

namespace Table

variable {capacity : Nat}

/-- Take over new addresses and forget all ranges. Pairs beyond the capacity would
be left out, so a list with too many of them is refused. -/
def fill {fault : Type} (table : Table capacity) (addresses : List UInt16) :
    Except (Error fault) (Table capacity) :=
  let required := pairCount addresses.length
  if required > capacity then
    .error (.tableCapacity required)
  else
    .ok { table with
      master := addresses.headD 0
      pairs := (pairsOf addresses.tail).take capacity }

def ofAddresses {fault : Type} (addresses : List UInt16) : Except (Error fault) (Table capacity) :=
  fill { master := 0, nodes := addresses.length, pairs := [] } addresses

def withAddresses {fault : Type} (table : Table capacity) (addresses : List UInt16) :
    Except (Error fault) (Table capacity) :=
  if addresses.length ≠ table.nodes then
    .error (.tableResize table.pairs.length (pairCount addresses.length))
  else
    table.fill addresses

def size (table : Table capacity) : Nat := table.pairs.length

def find? (table : Table capacity) (one other : UInt16) : Option Pair :=
  table.pairs.find? fun pair => pair.joins one other

def setRange (one other : UInt16) (range : Range) : List Pair → Option (Pair × List Pair)
  | [] => none
  | pair :: rest =>
      if pair.joins one other then
        let updated := { pair with range := some range }
        some (updated, updated :: rest)
      else
        (setRange one other range rest).map fun (updated, rest) => (updated, pair :: rest)

def update (table : Table capacity) (one other : UInt16) (range : Range) :
    Option (Pair × Table capacity) :=
  (setRange one other range table.pairs).map fun (updated, pairs) =>
    (updated, { table with pairs })

end Table

end UwbRadio.Ranging

import Mathlib.Data.List.Lex
import Mathlib.Data.Nat.Choose.Basic
import UwbRadio.Proofs.Ranging.Lookup
import UwbRadio.Proofs.Ranging.Table

/-!
The entries of a ranging table. They follow the pairs of positions of the nodes other than
the master, in lexicographic order, whatever addresses stand there; which ranges they show
depends only on the updates since the last list of addresses was taken over. A record of
the calls says both, and every call keeps the table in step with it.
-/

namespace UwbRadio.Ranging

/-- The pairs of two positions among so many, the earlier position first, in
lexicographic order. -/
def positionPairs (count : Nat) : List (Nat × Nat) :=
  (List.range count).flatMap fun i => ((List.range count).filter (i < ·)).map fun j => (i, j)

theorem mem_positionPairs {count i j : Nat} :
    (i, j) ∈ positionPairs count ↔ i < j ∧ j < count := by
  simp only [positionPairs, List.mem_flatMap, List.mem_range, List.mem_map, List.mem_filter,
    decide_eq_true_eq, Prod.mk.injEq]
  constructor
  · rintro ⟨_, _, _, ⟨inside, before⟩, rfl, rfl⟩
    exact ⟨before, inside⟩
  · rintro ⟨before, inside⟩
    exact ⟨i, before.trans inside, j, ⟨inside, before⟩, rfl, rfl⟩

theorem positionPairs_sorted (count : Nat) :
    (positionPairs count).Pairwise (Prod.Lex (· < ·) (· < ·)) := by
  rw [positionPairs, List.pairwise_flatMap]
  constructor
  · intro i _
    rw [List.pairwise_map]
    exact (List.pairwise_lt_range.filter _).imp fun before => Prod.Lex.right _ before
  · refine List.pairwise_lt_range.imp ?_
    intro i later before one isOne other isOther
    obtain ⟨_, _, rfl⟩ := List.mem_map.mp isOne
    obtain ⟨_, _, rfl⟩ := List.mem_map.mp isOther
    exact Prod.Lex.left _ _ before

theorem positionPairs_succ (count : Nat) :
    positionPairs (count + 1) =
      (List.range count).map (fun j => (0, j + 1)) ++
        (positionPairs count).map fun (i, j) => (i + 1, j + 1) := by
  have first : (List.range (count + 1)).filter (0 < ·) = (List.range count).map (· + 1) := by
    rw [List.range_succ_eq_map]
    simp [List.filter_map, Function.comp_def]
  have others (i : Nat) : (List.range (count + 1)).filter (i + 1 < ·) =
      ((List.range count).filter (i < ·)).map (· + 1) := by
    rw [List.range_succ_eq_map]
    simp [List.filter_map, Function.comp_def]
  rw [positionPairs, List.range_succ_eq_map, List.flatMap_cons, ← List.range_succ_eq_map, first,
    List.flatMap_map, positionPairs, List.map_flatMap, List.map_map]
  simp only [Nat.succ_eq_add_one, others, List.map_map, Function.comp_def]

theorem positionPairs_length (count : Nat) : (positionPairs count).length = count.choose 2 := by
  induction count with
  | zero => rfl
  | succ count ih =>
      rw [positionPairs_succ, List.length_append, List.length_map, List.length_range,
        List.length_map, ih, Nat.choose_succ_succ, Nat.choose_one_right]

theorem pairCount_eq_choose (nodes : Nat) : pairCount nodes = (nodes - 1).choose 2 :=
  (Nat.choose_two_right _).symm

/-- The pairs of a list go through the pairs of its positions. -/
theorem pairsOf_eq (nodes : List UInt16) :
    pairsOf nodes =
      (positionPairs nodes.length).map fun (i, j) => ⟨nodes.getD i 0, nodes.getD j 0, none⟩ := by
  induction nodes with
  | nil => rfl
  | cons first rest ih =>
      have row : rest.map (fun second => (⟨first, second, none⟩ : Pair)) =
          (List.range rest.length).map fun j => ⟨first, rest.getD j 0, none⟩ := by
        refine List.ext_getElem (by simp) ?_
        intro j inside _
        rw [List.length_map] at inside
        simp [inside]
      rw [pairsOf, ih, row, List.length_cons, positionPairs_succ, List.map_append, List.map_map,
        List.map_map]
      rfl

inductive TableCall
  | update (one other : UInt16) (range : Range)
  | readdress (addresses : List UInt16)

structure TableLog where
  addresses : List UInt16
  stored : List (Sym2 UInt16 × Range)

namespace TableLog

def note (log : TableLog) : TableCall → TableLog
  | .update one other range => { log with stored := (s(one, other), range) :: log.stored }
  | .readdress addresses =>
      if addresses.length = log.addresses.length then { addresses, stored := [] } else log

def positions (log : TableLog) : List (Nat × Nat) := positionPairs (log.addresses.length - 1)

def node (log : TableLog) (position : Nat) : UInt16 := log.addresses.tail.getD position 0

def nodesAt (log : TableLog) (spot : Nat × Nat) : Sym2 UInt16 := s(log.node spot.1, log.node spot.2)

def place? (log : TableLog) (nodes : Sym2 UInt16) : Option Nat :=
  log.positions.findIdx? fun spot => log.nodesAt spot = nodes

def range? (log : TableLog) (place : Nat) : Option Range :=
  (log.stored.find? fun told => log.place? told.1 = some place).map Prod.snd

def entries (log : TableLog) : List Pair :=
  log.positions.mapIdx fun place spot => ⟨log.node spot.1, log.node spot.2, log.range? place⟩

/-- A range for two nodes shows at their first place, and at no other. -/
theorem range?_note (log : TableLog) (one other : UInt16) (range : Range) (place : Nat) :
    (log.note (.update one other range)).range? place =
      if log.place? s(one, other) = some place then some range else log.range? place := by
  change (List.find? (fun told => log.place? told.1 = some place)
    ((s(one, other), range) :: log.stored)).map Prod.snd = _
  by_cases here : log.place? s(one, other) = some place
  · simp only [List.find?_cons, here, decide_true, Option.map_some, if_true]
  · simp only [List.find?_cons, here, decide_false, if_false]
    rfl

theorem notes_length (log : TableLog) (calls : List TableCall) :
    (calls.foldl note log).addresses.length = log.addresses.length := by
  induction calls generalizing log with
  | nil => rfl
  | cons call rest ih =>
      refine (ih (log.note call)).trans ?_
      cases call with
      | update one other range => rfl
      | readdress addresses =>
          unfold note
          dsimp only
          split
          · rename_i same
            exact same
          · rfl

theorem getElem?_entries (log : TableLog) (place : Nat) :
    log.entries[place]? = log.positions[place]?.map fun spot =>
      ⟨log.node spot.1, log.node spot.2, log.range? place⟩ :=
  List.getElem?_mapIdx

theorem entries_note_of_missing {log : TableLog} {one other : UInt16}
    (missing : log.place? s(one, other) = none) (range : Range) :
    (log.note (.update one other range)).entries = log.entries := by
  refine List.ext_getElem? fun place => ?_
  rw [getElem?_entries, getElem?_entries, range?_note, if_neg (by rw [missing]; nofun)]
  rfl

theorem entries_note_of_found {log : TableLog} {one other : UInt16} {here : Nat} {entry : Pair}
    (found : log.place? s(one, other) = some here) (there : log.entries[here]? = some entry)
    (range : Range) :
    (log.note (.update one other range)).entries =
      log.entries.set here { entry with range := some range } := by
  refine List.ext_getElem? fun place => ?_
  rw [getElem?_entries, range?_note, found, List.getElem?_set]
  by_cases same : here = place
  · subst same
    have inside := (List.getElem?_eq_some_iff.mp there).1
    rw [if_pos rfl, if_pos rfl, if_pos inside]
    rw [getElem?_entries] at there
    obtain ⟨spot, stands, rfl⟩ := Option.map_eq_some_iff.mp there
    exact congrArg (Option.map _) stands
  · rw [if_neg same, if_neg (same ∘ Option.some.inj), getElem?_entries]
    rfl

end TableLog

namespace Table

variable {fault : Type} {capacity : Nat} {table after : Table capacity} {addresses : List UInt16}
  {log : TableLog}

def call (table : Table capacity) : TableCall → Table capacity
  | .update one other range =>
      match table.update one other range with
      | none => table
      | some (_, after) => after
  | .readdress addresses =>
      match (table.withAddresses addresses : Except (Error Empty) _) with
      | .error _ => table
      | .ok after => after

/-- The table shows what it has been told. -/
structure Shows (table : Table capacity) (log : TableLog) : Prop where
  master : table.master = log.addresses.headD 0
  nodes : table.nodes = log.addresses.length
  pairs : table.pairs = log.entries
  fits : pairCount log.addresses.length ≤ capacity

theorem fill_eq_ok :
    (table.fill addresses : Except (Error fault) _) = .ok after ↔
      pairCount addresses.length ≤ capacity ∧
        after = { table with master := addresses.headD 0, pairs := pairsOf addresses.tail } := by
  have whole (fits : pairCount addresses.length ≤ capacity) :
      (pairsOf addresses.tail).take capacity = pairsOf addresses.tail := by
    refine List.take_of_length_le ?_
    rw [pairsOf_length, List.length_tail]
    exact fits
  unfold fill
  dsimp only
  split
  · rename_i exceeds
    simp only [reduceCtorEq, false_iff, not_and]
    intro fits
    omega
  · rename_i fits
    rw [Except.ok.injEq, whole (Nat.le_of_not_gt fits)]
    constructor
    · rintro rfl
      exact ⟨Nat.le_of_not_gt fits, rfl⟩
    · rintro ⟨_, rfl⟩
      rfl

theorem entries_of_accepted (addresses : List UInt16) :
    (TableLog.mk addresses []).entries = pairsOf addresses.tail := by
  rw [pairsOf_eq, List.length_tail]
  refine List.ext_getElem (by simp [TableLog.entries, TableLog.positions]) ?_
  intro place inside _
  simp only [TableLog.entries, List.getElem_mapIdx, List.getElem_map]
  rfl

theorem shows_of_fill_ok (built : table.nodes = addresses.length)
    (filled : (table.fill addresses : Except (Error fault) _) = .ok after) :
    after.Shows ⟨addresses, []⟩ := by
  obtain ⟨fits, rfl⟩ := fill_eq_ok.mp filled
  exact ⟨rfl, built, (entries_of_accepted addresses).symm, fits⟩

private theorem placeOf_mapIdx {α : Type} (nodes : Sym2 UInt16) (nodesAt : α → Sym2 UInt16) :
    ∀ (items : List α) (entry : Nat → α → Pair),
      (∀ place item, (entry place item).nodes = nodesAt item) →
        placeOf nodes (items.mapIdx entry) = items.findIdx? fun item => nodesAt item = nodes
  | [], _, _ => rfl
  | item :: rest, entry, same => by
      have behind := placeOf_mapIdx nodes nodesAt rest (fun place => entry (place + 1))
        fun place => same (place + 1)
      unfold placeOf at behind ⊢
      rw [List.mapIdx_cons, List.findIdx?_cons, List.findIdx?_cons, behind, same]

theorem placeOf_entries (log : TableLog) (nodes : Sym2 UInt16) :
    placeOf nodes log.entries = log.place? nodes :=
  placeOf_mapIdx nodes log.nodesAt _ _ fun _ _ => rfl

theorem Shows.update (shown : table.Shows log) (one other : UInt16) (range : Range) :
    (table.call (.update one other range)).Shows (log.note (.update one other range)) := by
  have placed := placeOf_entries log s(one, other)
  rw [← shown.pairs] at placed
  unfold call
  dsimp only
  split
  · rename_i missing
    have nowhere : log.place? s(one, other) = none := placed ▸ update_eq_none.mp missing
    refine ⟨shown.master, shown.nodes, ?_, shown.fits⟩
    rw [TableLog.entries_note_of_missing nowhere, shown.pairs]
  · rename_i updated after stored
    obtain ⟨here, entry, found, there, rfl, rfl⟩ := update_eq_some.mp stored
    refine ⟨shown.master, shown.nodes, ?_, shown.fits⟩
    rw [shown.pairs] at there ⊢
    exact (TableLog.entries_note_of_found (placed ▸ found) there range).symm

theorem withAddresses_eq_ok :
    (table.withAddresses addresses : Except (Error fault) _) = .ok after ↔
      addresses.length = table.nodes ∧
        (table.fill addresses : Except (Error fault) _) = .ok after := by
  unfold withAddresses
  split
  · rename_i other
    simp [other]
  · rename_i same
    simp [Decidable.not_not.mp same]

theorem Shows.accepts (shown : table.Shows log) :
    (∃ later, (table.withAddresses addresses : Except (Error fault) _) = .ok later) ↔
      addresses.length = log.addresses.length := by
  constructor
  · rintro ⟨later, accepted⟩
    rw [← shown.nodes]
    exact (withAddresses_eq_ok.mp accepted).1
  · intro same
    have fits : pairCount addresses.length ≤ capacity := same ▸ shown.fits
    exact ⟨_, withAddresses_eq_ok.mpr ⟨same.trans shown.nodes.symm, fill_eq_ok.mpr ⟨fits, rfl⟩⟩⟩

theorem Shows.readdress (shown : table.Shows log) (addresses : List UInt16) :
    (table.call (.readdress addresses)).Shows (log.note (.readdress addresses)) := by
  unfold call TableLog.note
  dsimp only
  split
  · rename_i refused
    have other : addresses.length ≠ log.addresses.length := by
      intro same
      have accepts : ∃ later, (table.withAddresses addresses : Except (Error Empty) _) = .ok later :=
        shown.accepts.mpr same
      obtain ⟨later, accepted⟩ := accepts
      rw [refused] at accepted
      cases accepted
    rw [if_neg other]
    exact shown
  · rename_i after accepted
    obtain ⟨same, filled⟩ := withAddresses_eq_ok.mp accepted
    rw [if_pos (same.trans shown.nodes)]
    exact shows_of_fill_ok same.symm filled

theorem Shows.call (shown : table.Shows log) (call : TableCall) :
    (table.call call).Shows (log.note call) := by
  cases call with
  | update one other range => exact shown.update one other range
  | readdress addresses => exact shown.readdress addresses

/-- Whatever a table is told, it shows. -/
theorem Shows.calls (shown : table.Shows log) (calls : List TableCall) :
    (calls.foldl Table.call table).Shows (calls.foldl TableLog.note log) := by
  induction calls generalizing table log with
  | nil => exact shown
  | cons call rest ih => exact ih (shown.call call)

theorem ofAddresses_iff :
    (∃ table : Table capacity, (ofAddresses addresses : Except (Error fault) _) = .ok table) ↔
      pairCount addresses.length ≤ capacity := by
  constructor
  · rintro ⟨table, made⟩
    exact (fill_eq_ok.mp made).1
  · intro fits
    exact ⟨_, fill_eq_ok.mpr ⟨fits, rfl⟩⟩

/-- A table is made if its capacity takes every pair of its nodes. Whatever it is told
after that, its entries go through the pairs of positions of the nodes last accepted, none
left out, and show the ranges stored since. -/
theorem entries_follow_positions {fault : Type} {capacity : Nat} {addresses : List UInt16}
    (short : addresses.length < 2 ^ 32) :
    (addresses.length - 1) * (addresses.length - 1 - 1) < 2 ^ 64 ∧
    ((∃ table : Table capacity, (ofAddresses addresses : Except (Error fault) _) = .ok table) ↔
      (addresses.length - 1).choose 2 ≤ capacity) ∧
    ∀ table : Table capacity, (ofAddresses addresses : Except (Error fault) _) = .ok table →
      ∀ calls : List TableCall,
        let after := calls.foldl Table.call table
        let log := calls.foldl TableLog.note ⟨addresses, []⟩
        after.master = log.addresses.headD 0 ∧ after.pairs = log.entries ∧
        after.pairs.length = (addresses.length - 1).choose 2 ∧
        log.positions.Pairwise (Prod.Lex (· < ·) (· < ·)) ∧
        (∀ i j, (i, j) ∈ log.positions ↔ i < j ∧ j < addresses.length - 1) ∧
        ∀ nodes : List UInt16,
          ((∃ later, (after.withAddresses nodes : Except (Error fault) _) = .ok later) ↔
            nodes.length = addresses.length) ∧
          (nodes.length ≠ addresses.length → after.call (.readdress nodes) = after) := by
  refine ⟨?_, ?_, ?_⟩
  · have bound : (addresses.length - 1) * (addresses.length - 1 - 1) < 2 ^ 32 * 2 ^ 32 :=
      Nat.mul_lt_mul'' (by omega) (by omega)
    exact bound
  · rw [ofAddresses_iff, pairCount_eq_choose]
  · intro table made calls after log
    have shown : after.Shows log := (shows_of_fill_ok rfl made).calls calls
    have same : log.addresses.length = addresses.length := TableLog.notes_length _ calls
    refine ⟨shown.master, shown.pairs, ?_, positionPairs_sorted _, ?_, ?_⟩
    · rw [shown.pairs, TableLog.entries, List.length_mapIdx, TableLog.positions,
        positionPairs_length, same]
    · intro i j
      rw [TableLog.positions, mem_positionPairs, same]
    · intro nodes
      rw [← same]
      refine ⟨shown.accepts, ?_⟩
      intro other
      unfold Table.call
      dsimp only
      split
      · rfl
      · rename_i later accepted
        exact absurd (shown.accepts.mp ⟨later, accepted⟩) other

def sharesAddress : List TableCall :=
  [.update 1 2 ⟨1⟩, .readdress [9, 7, 7, 8], .update 8 7 ⟨2⟩, .readdress [9, 7], .update 7 7 ⟨3⟩]

theorem entries_of_shared_address :
    ([5, 1, 1, 2] : List UInt16).length < 2 ^ 32 ∧
    ∃ table : Table 3, (ofAddresses [5, 1, 1, 2] : Except (Error Empty) _) = .ok table ∧
      (sharesAddress.foldl Table.call table).master = 9 ∧
      (sharesAddress.foldl Table.call table).pairs =
        [⟨7, 7, some ⟨3⟩⟩, ⟨7, 8, some ⟨2⟩⟩, ⟨7, 8, none⟩] := by
  have short : ([5, 1, 1, 2] : List UInt16).length < 2 ^ 32 := by decide
  obtain ⟨_, made, later⟩ := @entries_follow_positions Empty 3 [5, 1, 1, 2] short
  obtain ⟨table, made⟩ := made.mpr (by decide)
  obtain ⟨master, pairs, _⟩ := later table made sharesAddress
  exact ⟨short, table, made, master.trans (by decide), pairs.trans (by decide)⟩

end Table

end UwbRadio.Ranging

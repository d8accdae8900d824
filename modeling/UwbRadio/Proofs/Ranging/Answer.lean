import UwbRadio.Proofs.Ranging.Lookup
import UwbRadio.Proofs.Ranging.Message
import UwbRadio.Ranging.Session

/-!
What a session makes of a payload. Only a whole response for a pair in the table is of
use: the first entry for the pair takes the range, and the payload is passed on. Nothing
else leaves a trace.
-/

namespace UwbRadio.Ranging

def Message.nodes (message : Message) : Sym2 UInt16 := s(message.first, message.second)

namespace Session

variable {capacity : Nat}

/-- What is made of a payload, with the message in its first bytes: the result, and the
session later. -/
structure Answered (session : Session capacity) (payload : Bytes) (message : Message)
    (result : Except (Error BusFault) (Option Pair)) (later : Session capacity) : Prop where
  short : result = .error (.frame .incomplete) ↔ payload.length < Message.length
  ignored : result = .ok none ↔ Message.length ≤ payload.length ∧
    (message.code ≠ Message.responseCode ∨
      ∀ pair ∈ session.table.pairs, pair.nodes ≠ message.nodes)
  unchanged : result = .error (.frame .incomplete) ∨ result = .ok none → later = session
  stored : Message.length ≤ payload.length → message.code = Message.responseCode →
    (∃ pair ∈ session.table.pairs, pair.nodes = message.nodes) →
      ∃ place pair updated, session.table.pairs[place]? = some pair ∧
        pair.nodes = message.nodes ∧
        (∀ earlier < place, ∀ other, session.table.pairs[earlier]? = some other →
          other.nodes ≠ message.nodes) ∧
        updated = { pair with
          range := some (session.estimator (Duration.ofTicks message.timeOfFlight)) } ∧
        result = .ok (some updated) ∧
        later = { session with
          table := { session.table with pairs := session.table.pairs.set place updated }
          valid := true
          downstream := session.downstream.map fun passed => payload :: passed }

theorem process_answered (session : Session capacity) (payload : Bytes) :
    session.Answered payload (Message.decode .little payload) (session.process payload).1
      (session.process payload).2 := by
  unfold process
  rw [Message.read_zero]
  by_cases short : payload.length < Message.length
  · rw [if_pos short]
    have long : ¬ Message.length ≤ payload.length := Nat.not_le_of_gt short
    exact ⟨by simp [short], by simp [long], fun _ => rfl, fun enough => absurd enough long⟩
  · rw [if_neg short]
    have enough : Message.length ≤ payload.length := Nat.le_of_not_gt short
    dsimp only
    split
    · rename_i code
      exact ⟨by simp [short], by simp [enough, code], fun _ => rfl,
        fun _ response => absurd response code⟩
    · rename_i response
      have response := Decidable.not_not.mp response
      split
      · rename_i missing
        have absent := Table.placeOf_eq_none.mp (Table.update_eq_none.mp missing)
        refine ⟨by simp [short], ?_, fun _ => rfl, ?_⟩
        · exact iff_of_true rfl ⟨enough, .inr absent⟩
        · rintro _ _ ⟨pair, there, joins⟩
          exact absurd joins (absent pair there)
      · rename_i updated table stored
        obtain ⟨place, pair, found, there, isUpdated, isTable⟩ := Table.update_eq_some.mp stored
        obtain ⟨⟨_, here, joins⟩, first⟩ := Table.placeOf_eq_some.mp found
        cases there.symm.trans here
        refine ⟨by simp [short], ?_, ?_, ?_⟩
        · refine iff_of_false nofun ?_
          rintro ⟨_, other | absent⟩
          · exact other response
          · exact absent pair (List.mem_of_getElem? there) joins
        · rintro (impossible | impossible) <;> cases impossible
        · intro _ _ _
          exact ⟨place, pair, updated, there, joins, first, isUpdated, rfl, by rw [isTable]⟩

end Session

end UwbRadio.Ranging

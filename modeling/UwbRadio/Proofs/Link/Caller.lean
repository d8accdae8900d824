import UwbRadio.Link.Caller
import UwbRadio.Proofs.Link.Basic

/-!
What one step of a caller can do, as a relation with a constructor for each way
that it can turn out. `callerStep_turns` is the only place that opens the step
function; every property of a caller's run is proved by cases on the relation.
-/

namespace UwbRadio

namespace CallerPoint

def begun : CallerPoint → Bool
  | .gate | .silenceLock | .silencing _ | .reserving _ _ => false
  | .startLock _ _ | .starting _ _ | .checking _ | .cancelling _ | .waiting _ => true

def reserves : CallerPoint → Bool
  | .reserving _ _ => true
  | _ => false

end CallerPoint

namespace Link

variable {slots size : Nat}

def entered (link : Link slots size) (self : TaskId) : Link slots size :=
  { link with gate := Lock.heldBy self }.discardPhase

def failed (link : Link slots size) (error : Error BusFault) (counted : Bool) :
    Link slots size :=
  (link.releaseRegisters.abort error counted).releaseGate

inductive Preparation (link : Link slots size) (exchange : Exchange) :
    CallerTurn slots size → Prop
  | receive {mode timeout} (receives : exchange = .receive mode timeout) :
      Preparation link exchange (.next link (.reserving [] mode.deadline))
  | refused {request error} (sends : exchange = .send request)
      (tooLong : encodeFrame (List.replicate maxFrameLength 0)
        (link.nextHeader request.destination) request.payload = .error error) :
      Preparation link exchange (.done link.releaseGate (.error error))
  | reserve {request length buffer} (sends : exchange = .send request)
      (encoded : (encodeFrame (List.replicate maxFrameLength 0)
        (link.nextHeader request.destination) request.payload :
          Except (Error BusFault) (Nat × Bytes)) = .ok (length, buffer))
      (answered : request.waitForResponse = true) :
      Preparation link exchange
        (.next link (.reserving (buffer.take length) request.mode.deadline))
  | begin {request length buffer} (sends : exchange = .send request)
      (encoded : (encodeFrame (List.replicate maxFrameLength 0)
        (link.nextHeader request.destination) request.payload :
          Except (Error BusFault) (Nat × Bytes)) = .ok (length, buffer))
      (unanswered : request.waitForResponse = false) :
      Preparation link exchange
        (.next (link.beginTransaction (.sending none) true)
          (.startLock (buffer.take length) request.mode.deadline))

theorem prepare_turns (link : Link slots size) (exchange : Exchange) :
    Preparation link exchange (link.prepare exchange) := by
  cases exchange with
  | receive mode timeout => exact .receive rfl
  | send request =>
      unfold prepare
      dsimp only
      split
      · rename_i error tooLong
        exact .refused rfl tooLong
      · rename_i length buffer encoded
        split
        · rename_i answered
          exact .reserve rfl encoded answered
        · rename_i unanswered
          exact .begin rfl encoded (by simpa using unanswered)

/-- How one step of a caller turns out. -/
inductive CallerTurns (link : Link slots size) (self : TaskId) (exchange : Exchange) :
    CallerPoint → CallerTurn slots size → Prop
  | wait {point} : CallerTurns link self exchange point .wait
  | silence (free : link.gate.isFree = true) (leftOver : link.phase.unfinished = true) :
      CallerTurns link self exchange .gate (.next (link.entered self) .silenceLock)
  | enter {turn} (free : link.gate.isFree = true) (settled : link.phase.unfinished = false)
      (prepared : Preparation (link.entered self) exchange turn) :
      CallerTurns link self exchange .gate turn
  | silenceLock (free : link.registers.isFree = true) :
      CallerTurns link self exchange .silenceLock
        (.next { link with registers := Lock.heldBy self } (.silencing silenceAccesses))
  | silenceFailed {accesses fault bus}
      (performed : (Access.advance accesses).perform link.bus = (.error fault, bus)) :
      CallerTurns link self exchange (.silencing accesses)
        (.done { link with bus }.releaseRegisters.releaseGate (.error (.bus fault)))
  | silenced {accesses bus turn}
      (performed : (Access.advance accesses).perform link.bus = (.ok [], bus))
      (prepared : Preparation { link with bus }.releaseRegisters exchange turn) :
      CallerTurns link self exchange (.silencing accesses) turn
  | silencing {accesses rest bus}
      (performed : (Access.advance accesses).perform link.bus = (.ok rest, bus))
      (more : rest ≠ []) :
      CallerTurns link self exchange (.silencing accesses)
        (.next { link with bus } (.silencing rest))
  | begin {frame deadline slot pool} (reserved : link.pool.reserve = (some slot, pool)) :
      CallerTurns link self exchange (.reserving frame deadline)
        (.next ({ link with pool }.beginTransaction
          (exchange.initialPhase (some slot)) exchange.counted) (.startLock frame deadline))
  | starved {frame deadline pool} (exhausted : link.pool.reserve = (none, pool))
      (expired : deadline.reached link.bus.clock = true) :
      CallerTurns link self exchange (.reserving frame deadline)
        (.done { link with pool }.starve.releaseGate (.error .requestTimeout))
  | reserving {frame deadline pool} (exhausted : link.pool.reserve = (none, pool)) :
      CallerTurns link self exchange (.reserving frame deadline)
        (.next { link with pool } (.reserving frame (deadline.started link.bus.clock)))
  | startLock {frame deadline} (free : link.registers.isFree = true) :
      CallerTurns link self exchange (.startLock frame deadline)
        (.next { link with registers := Lock.heldBy self }
          (.starting (exchange.accesses frame) deadline))
  | startFailed {accesses deadline fault bus}
      (performed : (Access.advance accesses).perform link.bus = (.error fault, bus)) :
      CallerTurns link self exchange (.starting accesses deadline)
        (.done ({ link with bus }.failed (.bus fault) exchange.counted) (.error (.bus fault)))
  | startedSend {accesses deadline request bus}
      (performed : (Access.advance accesses).perform link.bus = (.ok [], bus))
      (sends : exchange = .send request) :
      CallerTurns link self exchange (.starting accesses deadline)
        (.next { link with bus } (.checking deadline))
  | startedReceive {accesses deadline mode timeout bus}
      (performed : (Access.advance accesses).perform link.bus = (.ok [], bus))
      (receives : exchange = .receive mode timeout) :
      CallerTurns link self exchange (.starting accesses deadline)
        (.next { link with bus }.releaseRegisters (.waiting deadline))
  | starting {accesses deadline rest bus}
      (performed : (Access.advance accesses).perform link.bus = (.ok rest, bus))
      (more : rest ≠ []) :
      CallerTurns link self exchange (.starting accesses deadline)
        (.next { link with bus } (.starting rest deadline))
  | checkFailed {deadline fault bus}
      (performed : Register.systemStatus.read.perform link.bus = (.error fault, bus)) :
      CallerTurns link self exchange (.checking deadline)
        (.done ({ link with bus }.failed (.bus fault) exchange.counted) (.error (.bus fault)))
  | started {deadline status bus}
      (performed : Register.systemStatus.read.perform link.bus = (.ok status, bus))
      (inTime : status &&& Bits.halfPeriodWarning = 0) :
      CallerTurns link self exchange (.checking deadline)
        (.next { link with bus }.releaseRegisters (.waiting deadline))
  | late {deadline status bus}
      (performed : Register.systemStatus.read.perform link.bus = (.ok status, bus))
      (warned : status &&& Bits.halfPeriodWarning ≠ 0) :
      CallerTurns link self exchange (.checking deadline)
        (.next { link with bus } (.cancelling cancelAccesses))
  | cancelFailed {accesses fault bus}
      (performed : (Access.advance accesses).perform link.bus = (.error fault, bus)) :
      CallerTurns link self exchange (.cancelling accesses)
        (.done ({ link with bus }.failed (.bus fault) exchange.counted) (.error (.bus fault)))
  | cancelled {accesses bus}
      (performed : (Access.advance accesses).perform link.bus = (.ok [], bus)) :
      CallerTurns link self exchange (.cancelling accesses)
        (.done ({ link with bus }.failed .transmitFault exchange.counted)
          (.error .transmitFault))
  | cancelling {accesses rest bus}
      (performed : (Access.advance accesses).perform link.bus = (.ok rest, bus))
      (more : rest ≠ []) :
      CallerTurns link self exchange (.cancelling accesses)
        (.next { link with bus } (.cancelling rest))
  | finished {deadline outcome} (woken : link.completion = true)
      (ended : link.phase = .finished outcome) :
      CallerTurns link self exchange (.waiting deadline)
        (.done ({ link with completion := false, phase := .idle }.conclude outcome
            exchange.counted).2.releaseGate
          ({ link with completion := false, phase := .idle }.conclude outcome
            exchange.counted).1)
  | woken {deadline} (woken : link.completion = true)
      (unended : ∀ outcome, link.phase ≠ .finished outcome) :
      CallerTurns link self exchange (.waiting deadline)
        (.next { link with completion := false } (.waiting deadline))
  | abandoned {deadline} (unwoken : link.completion = false)
      (expired : deadline.reached link.bus.clock = true) :
      CallerTurns link self exchange (.waiting deadline)
        (.done (link.abandon.2.conclude link.abandon.1 exchange.counted).2.releaseGate
          (link.abandon.2.conclude link.abandon.1 exchange.counted).1)
  | waiting {deadline} (unwoken : link.completion = false) :
      CallerTurns link self exchange (.waiting deadline)
        (.next link (.waiting (deadline.started link.bus.clock)))

theorem takeFinished_turns (link : Link slots size) :
    (∃ outcome, link.phase = .finished outcome ∧
      link.takeFinished = some (outcome, { link with phase := .idle })) ∨
    ((∀ outcome, link.phase ≠ .finished outcome) ∧ link.takeFinished = none) := by
  unfold takeFinished
  split
  · rename_i outcome ended
    exact .inl ⟨outcome, ended, rfl⟩
  · rename_i unended
    exact .inr ⟨unended, rfl⟩

/-- How the next of several accesses turns out: it fails, it is the last, or more follow. -/
theorem advance_turns (link : Link slots size) (accesses : List Access) :
    (∃ fault bus, (Access.advance accesses).perform link.bus = (.error fault, bus) ∧
      link.perform (Access.advance accesses) = (.error (.bus fault), { link with bus })) ∨
    (∃ bus, (Access.advance accesses).perform link.bus = (.ok [], bus) ∧
      link.perform (Access.advance accesses) = (.ok [], { link with bus })) ∨
    ∃ access rest bus, (Access.advance accesses).perform link.bus = (.ok (access :: rest), bus) ∧
      link.perform (Access.advance accesses) = (.ok (access :: rest), { link with bus }) := by
  rw [perform_eq]
  cases performed : (Access.advance accesses).perform link.bus with
  | mk result bus =>
      cases result with
      | error fault => exact .inl ⟨fault, bus, rfl, rfl⟩
      | ok rest =>
          cases rest with
          | nil => exact .inr (.inl ⟨bus, rfl, rfl⟩)
          | cons access rest => exact .inr (.inr ⟨access, rest, bus, rfl, rfl⟩)

theorem callerStep_turns (link : Link slots size) (self : TaskId) (exchange : Exchange)
    (point : CallerPoint) :
    CallerTurns link self exchange point (link.callerStep self exchange point) := by
  cases point with
  | gate =>
      rw [callerStep]
      split
      · rename_i free
        split
        · rename_i leftOver
          exact .silence free leftOver
        · rename_i settled
          exact .enter free (by simpa using settled)
            (prepare_turns (link.entered self) exchange)
      · exact .wait
  | silenceLock =>
      rw [callerStep]
      split
      · rename_i free
        exact .silenceLock free
      · exact .wait
  | silencing accesses =>
      rw [callerStep]
      split
      · exact .wait
      · rcases link.advance_turns accesses with
          ⟨fault, bus, performed, same⟩ | ⟨bus, performed, same⟩ | ⟨_, rest, bus, performed, same⟩
        · rw [same]
          exact .silenceFailed performed
        · rw [same]
          exact .silenced performed (prepare_turns _ exchange)
        · rw [same]
          exact .silencing performed (List.cons_ne_nil _ rest)
  | reserving frame deadline =>
      rw [callerStep]
      split
      · rename_i slot pool reserved
        exact .begin reserved
      · rename_i pool exhausted
        dsimp only
        split
        · rename_i expired
          exact .starved exhausted expired
        · split
          · exact .wait
          · exact .reserving exhausted
  | startLock frame deadline =>
      rw [callerStep]
      split
      · rename_i free
        exact .startLock free
      · exact .wait
  | starting accesses deadline =>
      rw [callerStep]
      split
      · exact .wait
      · rcases link.advance_turns accesses with
          ⟨fault, bus, performed, same⟩ | ⟨bus, performed, same⟩ | ⟨_, rest, bus, performed, same⟩
        · rw [same]
          exact .startFailed performed
        · rw [same]
          cases exchange with
          | send request => exact .startedSend performed rfl
          | receive mode timeout => exact .startedReceive performed rfl
        · rw [same]
          exact .starting performed (List.cons_ne_nil _ rest)
  | checking deadline =>
      rw [callerStep]
      split
      · exact .wait
      · rw [perform_eq]
        cases performed : Register.systemStatus.read.perform link.bus with
        | mk result bus =>
            cases result with
            | error fault => exact .checkFailed performed
            | ok status =>
                simp only [mapError_ok]
                split
                · rename_i inTime
                  exact .started performed inTime
                · rename_i warned
                  exact .late performed warned
  | cancelling accesses =>
      rw [callerStep]
      split
      · exact .wait
      · rcases link.advance_turns accesses with
          ⟨fault, bus, performed, same⟩ | ⟨bus, performed, same⟩ | ⟨_, rest, bus, performed, same⟩
        · rw [same]
          exact .cancelFailed performed
        · rw [same]
          exact .cancelled performed
        · rw [same]
          exact .cancelling performed (List.cons_ne_nil _ rest)
  | waiting deadline =>
      rw [callerStep]
      dsimp only
      split
      · rename_i woken
        rcases takeFinished_turns { link with completion := false } with
          ⟨outcome, ended, taken⟩ | ⟨unended, missed⟩
        · rw [taken]
          exact .finished woken ended
        · rw [missed]
          exact .woken woken unended
      · rename_i unwoken
        have unwoken : link.completion = false := by simpa using unwoken
        split
        · rename_i expired
          exact .abandoned unwoken expired
        · split
          · exact .wait
          · exact .waiting unwoken

theorem callerTurns_of_eq {link : Link slots size} {self : TaskId} {exchange : Exchange}
    {point : CallerPoint} {turn : CallerTurn slots size}
    (stepped : link.callerStep self exchange point = turn) :
    CallerTurns link self exchange point turn := by
  rw [← stepped]
  exact callerStep_turns link self exchange point

end Link

end UwbRadio

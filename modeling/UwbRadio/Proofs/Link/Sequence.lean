import UwbRadio.Proofs.Frame.RoundTrip
import UwbRadio.Proofs.Link.Writes

/-!
The sequence number of a call. A send that begins takes the number that the counter
has, and gives it back if it fails. Until it begins it has encoded its frame with that
number, and it loads this frame and no other.
-/

namespace UwbRadio

def frameNumber? (frame : Bytes) : Option UInt8 :=
  (decodeFrame? frame).map LinkFrame.sequence

theorem length_of_frameNumber? {frame : Bytes} {number : UInt8}
    (carries : frameNumber? frame = some number) : frame.length ≤ maxFrameLength := by
  obtain ⟨read, decoded, _⟩ := Option.map_eq_some_iff.mp carries
  unfold decodeFrame? at decoded
  obtain ⟨body, found, _⟩ := Option.bind_eq_some_iff.mp decoded
  unfold frameBody? at found
  by_cases sized : addressingOffset ≤ frame.length ∧ frame.length ≤ maxFrameLength
  · exact sized.2
  · rw [guard, if_neg sized] at found
    cases found

theorem frameNumber?_of_encodeFrame {fault : Type} {header : LinkHeader} {payload : Bytes}
    {length : Nat} {buffer : Bytes}
    (encoded : (encodeFrame (List.replicate maxFrameLength 0) header payload :
      Except (Error fault) (Nat × Bytes)) = .ok (length, buffer)) :
    frameNumber? (buffer.take length) = some header.sequence := by
  obtain ⟨same, fits⟩ := frame_of_encodeFrame encoded
  rw [frameNumber?, same, decodeFrame?_frame header payload fits]
  rfl

def Written.frame? (write : Written) : Option Bytes :=
  if write.index = Register.transmitBuffer.index then some write.data else none

namespace Access

def SparesFrame (access : Access) : Prop :=
  access.register.index ≠ Register.transmitBuffer.index

theorem SparesFrame.loads_nothing {access : Access} (spares : access.SparesFrame) :
    access.written?.bind Written.frame? = none := by
  cases written : access.written? with
  | none => rfl
  | some write =>
      rw [Option.bind_some, Written.frame?, index_of_written? written]
      exact if_neg spares

theorem written?_load {frame : Bytes} {number : UInt8}
    (carries : frameNumber? frame = some number) :
    (Access.load Register.transmitBuffer frame).written?.bind Written.frame? = some frame := by
  have short := length_of_frameNumber? carries
  have fits : frame.length ≤ maxSubAddress := by
    have limits : maxFrameLength ≤ maxSubAddress := by decide
    omega
  have start := writing?_start Register.transmitBuffer.index frame (by decide) fits
  rw [written?]
  exact congrArg (fun write => Option.bind write Written.frame?) start

theorem spares_advance {accesses rest : List Access} {bus after : Bus}
    (spares : ∀ access ∈ accesses, access.SparesFrame)
    (performed : (advance accesses).perform bus = (.ok rest, after)) :
    ∀ access ∈ rest, access.SparesFrame :=
  @advance_registers (fun register => register.index ≠ Register.transmitBuffer.index) _ _ _ _ spares
    performed

end Access

theorem silenceAccesses_spare : ∀ access ∈ silenceAccesses, access.SparesFrame := by
  unfold Access.SparesFrame
  decide

theorem cancelAccesses_spare : ∀ access ∈ cancelAccesses, access.SparesFrame := by
  unfold Access.SparesFrame
  decide

theorem receiveTimeoutAccesses_spare (timeout : UInt16) :
    ∀ access ∈ receiveTimeoutAccesses timeout, access.SparesFrame := by
  intro access member
  simp only [receiveTimeoutAccesses, List.mem_cons, List.not_mem_nil, or_false] at member
  rcases member with rfl | rfl
  · exact (by decide : Register.receiveTimeout.index ≠ Register.transmitBuffer.index)
  · exact (by decide : Register.systemConfig.index ≠ Register.transmitBuffer.index)

theorem control_spares (value : UInt64) :
    (Access.write Register.systemControl value).SparesFrame :=
  (by decide : Register.systemControl.index ≠ Register.transmitBuffer.index)

theorem receiveAccesses_spare (timeout : UInt16) :
    ∀ access ∈ receiveAccesses timeout, access.SparesFrame := by
  intro access member
  rcases List.mem_append.mp member with early | start
  · exact receiveTimeoutAccesses_spare timeout access early
  · rw [List.mem_singleton.mp start]
    exact control_spares _

theorem transmitAccesses_load (request : Request) (frame : Bytes) :
    ∃ rest, transmitAccesses request frame = .load Register.transmitBuffer frame :: rest ∧
      ∀ access ∈ rest, access.SparesFrame := by
  refine ⟨_, rfl, ?_⟩
  intro access member
  rcases List.mem_cons.mp member with rfl | start
  · exact (by decide : Register.transmitControl.index ≠ Register.transmitBuffer.index)
  · split at start
    · rcases List.mem_append.mp start with early | last
      · exact receiveTimeoutAccesses_spare _ access early
      · rw [List.mem_singleton.mp last]
        exact control_spares _
    · rw [List.mem_singleton.mp start]
      exact control_spares _

/-- By how much the counter is ahead of the calls that have succeeded. -/
def lead (exchange : Exchange) (point : CallerPoint) : UInt8 :=
  if exchange.counted && point.begun then 1 else 0

def gain (exchange : Exchange) (result : Except (Error BusFault) Status) : UInt8 :=
  if exchange.counted && result.isOk then 1 else 0

theorem lead_before {point : CallerPoint} (exchange : Exchange) (before : point.begun = false) :
    lead exchange point = 0 := by
  rw [lead, before, Bool.and_false]
  rfl

theorem lead_begun {point : CallerPoint} (exchange : Exchange) (begun : point.begun = true) :
    lead exchange point = if exchange.counted then 1 else 0 := by
  rw [lead, begun, Bool.and_true]

theorem gain_error (exchange : Exchange) (error : Error BusFault) :
    gain exchange (.error error) = 0 := by
  cases exchange <;> rfl

def CallerPoint.frame? (point : CallerPoint) : Option Bytes :=
  point.writing?.bind Written.frame?

namespace Link

variable {slots size : Nat} {link after : Link slots size} {exchange : Exchange} {id : TaskId}
  {point later : CallerPoint} {turn : CallerTurn slots size} {number : UInt8}
  {loaded : Option Bytes}

@[simp] theorem entered_sequence (link : Link slots size) (id : TaskId) :
    (link.entered id).sequence = link.sequence := by
  unfold entered discardPhase
  exact releaseSlot?_sequence _ _

theorem failed_sequence (link : Link slots size) (error : Error BusFault) (counted : Bool) :
    (link.failed error counted).sequence =
      if counted then link.sequence - 1 else link.sequence := by
  unfold failed abort
  cases error with
  | transmitFault => exact releaseSlot?_sequence _ _
  | _ => rfl

@[simp] theorem abandon_sequence (link : Link slots size) :
    link.abandon.2.sequence = link.sequence := by
  unfold abandon
  split <;> rfl

/-- After a step of a call that got the gate at the number. -/
def Counts (number : UInt8) (exchange : Exchange) : CallerTurn slots size → Prop
  | .wait => True
  | .next after later => after.sequence = number + lead exchange later
  | .done after result => after.sequence = number + gain exchange result

theorem counts_before (before : later.begun = false) (same : after.sequence = number) :
    Counts number exchange (.next after later : CallerTurn slots size) := by
  rw [Counts, lead_before exchange before, UInt8.add_zero]
  exact same

theorem counts_error (error : Error BusFault) (same : after.sequence = number) :
    Counts number exchange (.done after (.error error) : CallerTurn slots size) := by
  rw [Counts, gain_error, UInt8.add_zero]
  exact same

theorem sequence_undone
    (taken : link.sequence = number + if exchange.counted then 1 else 0) :
    (if exchange.counted then link.sequence - 1 else link.sequence) = number := by
  rw [taken]
  split
  · exact UInt8.add_sub_cancel number 1
  · exact UInt8.add_zero number

theorem Preparation.counts (prepared : Preparation link exchange turn)
    (before : link.sequence = number) : Counts number exchange turn := by
  cases prepared with
  | receive => exact counts_before rfl before
  | refused => exact counts_error _ before
  | reserve => exact counts_before rfl before
  | begin sends =>
      subst sends
      exact congrArg (· + 1) before

theorem counts_failed (fault error : Error BusFault)
    (taken : link.sequence = number + if exchange.counted then 1 else 0) :
    Counts number exchange (.done (link.failed fault exchange.counted) (.error error)) := by
  apply counts_error
  rw [failed_sequence]
  exact sequence_undone taken

theorem counts_conclude (outcome : Outcome)
    (taken : link.sequence = number + if exchange.counted then 1 else 0) :
    Counts number exchange (.done (link.conclude outcome exchange.counted).2.releaseGate
      (link.conclude outcome exchange.counted).1) := by
  have undone := sequence_undone taken
  cases outcome with
  | completed =>
      have kept : gain exchange (.ok link.status) = if exchange.counted then 1 else 0 := by
        cases exchange <;> rfl
      exact taken.trans (congrArg (number + ·) kept.symm)
  | receiveTimeout => exact counts_error .receiveTimeout undone
  | receiveFault => exact counts_error .receiveFault undone
  | requestTimeout => exact counts_error .requestTimeout undone

/-- A step of a caller counts for its own transaction, also across the wrap-around. -/
theorem CallerTurns.counts (turns : CallerTurns link id exchange point turn)
    (ahead : link.sequence = number + lead exchange point) : Counts number exchange turn := by
  have unmoved (before : point.begun = false) : link.sequence = number := by
    rw [ahead, lead_before exchange before, UInt8.add_zero]
  have taken (begun : point.begun = true) :
      link.sequence = number + if exchange.counted then 1 else 0 := by
    rw [ahead, lead_begun exchange begun]
  have goesOn (after : Link slots size) (later : CallerPoint)
      (same : after.sequence = link.sequence) (begun : point.begun = true)
      (still : later.begun = true) : Counts number exchange (.next after later) := by
    rw [Counts, lead_begun exchange still]
    exact same.trans (taken begun)
  cases turns with
  | wait => trivial
  | silence => exact counts_before rfl ((entered_sequence link id).trans (unmoved rfl))
  | enter free settled prepared =>
      exact prepared.counts ((entered_sequence link id).trans (unmoved rfl))
  | silenceLock => exact counts_before rfl (unmoved rfl)
  | silenceFailed => exact counts_error _ (unmoved rfl)
  | silenced performed prepared => exact prepared.counts (unmoved rfl)
  | silencing => exact counts_before rfl (unmoved rfl)
  | begin =>
      have before := unmoved rfl
      cases exchange with
      | send request => exact congrArg (· + 1) before
      | receive mode timeout => exact before.trans (UInt8.add_zero number).symm
  | starved => exact counts_error _ (unmoved rfl)
  | reserving => exact counts_before rfl (unmoved rfl)
  | startLock => exact goesOn _ _ rfl rfl rfl
  | startFailed =>
      refine counts_failed _ _ ?_
      exact taken rfl
  | startedSend => exact goesOn _ _ rfl rfl rfl
  | startedReceive => exact goesOn _ _ rfl rfl rfl
  | starting => exact goesOn _ _ rfl rfl rfl
  | checkFailed =>
      refine counts_failed _ _ ?_
      exact taken rfl
  | started => exact goesOn _ _ rfl rfl rfl
  | late => exact goesOn _ _ rfl rfl rfl
  | cancelFailed =>
      refine counts_failed _ _ ?_
      exact taken rfl
  | cancelled =>
      refine counts_failed _ _ ?_
      exact taken rfl
  | cancelling => exact goesOn _ _ rfl rfl rfl
  | finished =>
      refine counts_conclude _ ?_
      exact taken rfl
  | woken => exact goesOn _ _ rfl rfl rfl
  | abandoned =>
      refine counts_conclude _ ?_
      exact (abandon_sequence link).trans (taken rfl)
  | waiting => exact goesOn _ _ rfl rfl rfl

def HasLoaded (number : UInt8) (exchange : Exchange) (loaded : Option Bytes) : Prop :=
  exchange.counted = true → loaded.bind frameNumber? = some number

/-- What is left of the start: the frame and what is behind it, or nothing of it. -/
def Starts (number : UInt8) (exchange : Exchange) (loaded : Option Bytes)
    (accesses : List Access) : Prop :=
  (HasLoaded number exchange loaded ∧ ∀ access ∈ accesses, access.SparesFrame) ∨
    ∃ frame rest, accesses = .load Register.transmitBuffer frame :: rest ∧
      exchange.counted = true ∧ frameNumber? frame = some number ∧
      ∀ access ∈ rest, access.SparesFrame

/-- What a call that got the gate at the number carries with it, having loaded this
much. -/
def Carries (number : UInt8) (exchange : Exchange) (loaded : Option Bytes) :
    CallerPoint → Prop
  | .gate | .silenceLock => True
  | .silencing accesses | .cancelling accesses => ∀ access ∈ accesses, access.SparesFrame
  | .reserving frame _ | .startLock frame _ =>
      exchange.counted = true → frameNumber? frame = some number
  | .starting accesses _ => Starts number exchange loaded accesses
  | .checking _ | .waiting _ => HasLoaded number exchange loaded

private theorem first_spared {accesses : List Access}
    (spares : ∀ access ∈ accesses, access.SparesFrame) :
    (accesses.head?.bind Access.written?).bind Written.frame? = none := by
  cases accesses with
  | nil => rfl
  | cons access rest => exact (spares access List.mem_cons_self).loads_nothing

theorem Carries.frame_number (carries : Carries number exchange loaded point) :
    ∀ frame ∈ point.frame?, exchange.counted = true ∧ frameNumber? frame = some number := by
  intro frame loads
  cases point with
  | silencing accesses =>
      have nothing := first_spared carries
      rw [Option.mem_def, CallerPoint.frame?, CallerPoint.writing?, nothing] at loads
      cases loads
  | cancelling accesses =>
      have nothing := first_spared carries
      rw [Option.mem_def, CallerPoint.frame?, CallerPoint.writing?, nothing] at loads
      cases loads
  | starting accesses deadline =>
      rcases carries with ⟨_, spares⟩ | ⟨own, rest, rfl, counted, numbered, _⟩
      · have nothing := first_spared spares
        rw [Option.mem_def, CallerPoint.frame?, CallerPoint.writing?, nothing] at loads
        cases loads
      · have loads : some own = some frame := (Access.written?_load numbered).symm.trans loads
        cases loads
        exact ⟨counted, numbered⟩
  | _ => cases loads

theorem Starts.advance {accesses rest : List Access} {bus : Bus}
    (starts : Starts number exchange loaded accesses)
    (performed : (Access.advance accesses).perform link.bus = (.ok rest, bus)) :
    Starts number exchange
      (((accesses.head?.bind Access.written?).bind Written.frame?).or loaded) rest := by
  rcases starts with ⟨has, spares⟩ | ⟨frame, others, rfl, counted, numbered, spares⟩
  · left
    rw [first_spared spares]
    exact ⟨has, Access.spares_advance spares performed⟩
  · left
    obtain ⟨_, remaining, remains, rfl⟩ := Access.advance_ok performed
    cases remains
    refine ⟨fun _ => ?_, spares⟩
    rw [List.head?_cons, Option.bind_some, Access.written?_load numbered]
    exact numbered

theorem Starts.all_done (starts : Starts number exchange loaded []) :
    HasLoaded number exchange loaded := by
  rcases starts with ⟨has, _⟩ | ⟨_, _, empty, _⟩
  · exact has
  · cases empty

theorem Preparation.carries (prepared : Preparation link exchange (.next after later))
    (before : link.sequence = number) : Carries number exchange loaded later := by
  cases prepared with
  | receive receives =>
      subst receives
      intro counted
      cases counted
  | reserve sends encoded =>
      intro _
      exact (frameNumber?_of_encodeFrame encoded).trans (congrArg some before)
  | begin sends encoded =>
      intro _
      exact (frameNumber?_of_encodeFrame encoded).trans (congrArg some before)

/-- A call carries its number on from point to point, and notes the frame it loads. -/
theorem CallerTurns.carries (turns : CallerTurns link id exchange point (.next after later))
    (ahead : link.sequence = number + lead exchange point)
    (carries : Carries number exchange loaded point) :
    Carries number exchange (point.frame?.or loaded) later := by
  have unmoved (before : point.begun = false) : link.sequence = number := by
    rw [ahead, lead_before exchange before, UInt8.add_zero]
  cases turns with
  | silence => trivial
  | enter free settled prepared =>
      exact prepared.carries ((entered_sequence link id).trans (unmoved rfl))
  | silenceLock => exact silenceAccesses_spare
  | silenced performed prepared => exact prepared.carries (unmoved rfl)
  | silencing performed => exact Access.spares_advance carries performed
  | begin => exact carries
  | reserving => exact carries
  | @startLock frame deadline =>
      cases exchange with
      | send request =>
          obtain ⟨rest, same, spares⟩ := transmitAccesses_load request frame
          exact .inr ⟨frame, rest, same, rfl, carries rfl, spares⟩
      | receive mode timeout =>
          exact .inl ⟨(by intro counted; cases counted), receiveAccesses_spare timeout⟩
  | startedSend performed => exact (Starts.advance carries performed).all_done
  | startedReceive performed => exact (Starts.advance carries performed).all_done
  | starting performed => exact Starts.advance carries performed
  | started => exact carries
  | late => exact cancelAccesses_spare
  | cancelling performed => exact Access.spares_advance carries performed
  | woken => exact carries
  | waiting => exact carries

theorem CallerTurns.has_loaded {result : Except (Error BusFault) Status}
    (turns : CallerTurns link id exchange point (.done after result))
    (succeeds : result.isOk = true) (carries : Carries number exchange loaded point) :
    HasLoaded number exchange loaded := by
  cases turns with
  | enter free settled prepared => cases prepared; cases succeeds
  | silenced performed prepared => cases prepared; cases succeeds
  | finished => exact carries
  | abandoned => exact carries
  | _ => cases succeeds

theorem clearing_loads_nothing (pending : UInt64) :
    (Register.systemStatus.writing? pending).bind Written.frame? = none := by
  rw [Register.writing?_whole (by decide) rfl (by decide)]
  rfl

end Link

end UwbRadio

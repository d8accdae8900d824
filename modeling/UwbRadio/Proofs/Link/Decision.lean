import UwbRadio.Proofs.Link.Flags
import UwbRadio.Proofs.Link.LeftOver
import UwbRadio.Proofs.Link.Reading

/-!
The first event that ends a transaction decides it. `Told` keeps what the event side has
been told, and `Told.decides?` reads the outcome off it without any phase. `Link.Shows`
relates the two as long as the caller is there, and `Link.Drains` for good: then every
other event passes without a trace.
-/

namespace UwbRadio

/-- What the event side has been told since a transaction began: the events in the order
in which they were fed in, and what the first copy of a frame found. -/
structure Told where
  events : List Event := []
  copied : Option Bool := none

namespace Told

/-- The event that ends the transaction, by whether a frame is to end it. -/
def terminal? (told : Told) (answered : Bool) : Option Event :=
  told.events.find? fun event => event.ends answered

def decides? (told : Told) (answered : Bool) : Option Outcome :=
  match told.terminal? answered with
  | none => none
  | some .sent => some .completed
  | some .received => told.copied.map fun good => if good then .completed else .receiveFault
  | some .receiveTimeout => some .receiveTimeout
  | some .receiveError => some .receiveFault

/-- The outcome that the caller reports, by whether its time is over. -/
def verdict? (told : Told) (answered expired : Bool) : Option Outcome :=
  (told.decides? answered).or (if expired then some .requestTimeout else none)

/-- The event ends nothing, or something else has ended the transaction before. -/
def passes (told : Told) (answered : Bool) (event : Event) : Bool :=
  !event.ends answered || (told.terminal? answered).isSome

def hears (told : Told) (events : List Event) : Told :=
  { told with events := told.events ++ events }

variable {told : Told} {answered : Bool} {event : Event}

theorem hears_hears (told : Told) (first second : List Event) :
    (told.hears first).hears second = told.hears (first ++ second) :=
  congrArg (Told.mk · told.copied) (List.append_assoc told.events first second)

theorem hears_nil (told : Told) : told.hears [] = told :=
  congrArg (Told.mk · told.copied) (List.append_nil told.events)

theorem terminal?_hears (told : Told) (answered : Bool) (events : List Event) :
    (told.hears events).terminal? answered =
      (told.terminal? answered).or (events.find? fun event => event.ends answered) :=
  List.find?_append

theorem terminal?_unended (open_ : told.terminal? answered = none)
    (other : event.ends answered = false) : (told.hears [event]).terminal? answered = none := by
  rw [terminal?_hears, open_, Option.none_or]
  exact List.find?_cons_of_neg (Bool.eq_false_iff.mp other)

theorem terminal?_first (open_ : told.terminal? answered = none)
    (ends : event.ends answered = true) :
    (told.hears [event]).terminal? answered = some event := by
  rw [terminal?_hears, open_, Option.none_or]
  exact List.find?_cons_of_pos ends

theorem terminal?_late {first : Event} (ended : told.terminal? answered = some first)
    (events : List Event) : (told.hears events).terminal? answered = some first := by
  rw [terminal?_hears, ended, Option.some_or]

theorem decides?_late {outcome : Outcome} (decided : told.decides? answered = some outcome)
    (events : List Event) : (told.hears events).decides? answered = some outcome := by
  cases ended : told.terminal? answered with
  | none =>
      rw [decides?, ended] at decided
      cases decided
  | some first =>
      rw [decides?, terminal?_late ended events]
      rw [decides?, ended] at decided
      exact decided

end Told

namespace Phase

/-- A phase in which an end is still awaited comes from such a phase, and by an event
that ends nothing. The note of a lost buffer is none of them. -/
theorem awaits_onEvent {event : Event} {phase : Phase} {answered : Bool}
    (later : (phase.onEvent event).1.awaits? = some answered)
    (kept : (phase.onEvent event).1 ≠ .abandoned none) :
    phase.awaits? = some answered ∧ phase ≠ .abandoned none ∧ event.ends answered = false := by
  cases phase with
  | sending slot =>
      cases slot <;> cases event <;> cases later <;> exact ⟨rfl, nofun, rfl⟩
  | waitingResponse slot =>
      cases event <;> cases later
      exact ⟨rfl, nofun, rfl⟩
  | abandoned slot =>
      cases slot with
      | none => cases event <;> cases later
      | some slot =>
          cases event <;> cases later
          exact ⟨rfl, nofun, rfl⟩
  | idle => cases event <;> cases later
  | delivering => cases event <;> cases later
  | finished outcome => cases event <;> cases later

theorem awaiting {phase : Phase} {answered : Bool} (awaits : phase.awaits? = some answered)
    (present : phase.underWay = true) :
    (answered = false ∧ phase = .sending none) ∨
      (answered = true ∧ ∃ slot, phase = .sending (some slot) ∨ phase = .waitingResponse slot) := by
  cases phase with
  | sending slot =>
      cases slot with
      | none => exact .inl ⟨(Option.some.inj awaits).symm, rfl⟩
      | some slot => exact .inr ⟨(Option.some.inj awaits).symm, slot, .inl rfl⟩
  | waitingResponse slot => exact .inr ⟨(Option.some.inj awaits).symm, slot, .inr rfl⟩
  | abandoned => cases present
  | _ => cases awaits

theorem onEvent_awaiting {event : Event} {phase : Phase} {answered : Bool}
    (awaits : phase.awaits? = some answered) (present : phase.underWay = true)
    (other : event.ends answered = false) :
    (phase.onEvent event).1.awaits? = some answered ∧ (phase.onEvent event).1.underWay = true := by
  refine ⟨?_, Link.onEvent_underWay event present⟩
  rcases awaiting awaits present with ⟨rfl, rfl⟩ | ⟨rfl, slot, rfl | rfl⟩
  · cases event <;> cases other <;> rfl
  · cases event <;> cases other
    rfl
  · cases event <;> cases other
    rfl

theorem copies_awaiting {event : Event} {before phase : Phase} {flags : Status} {slot : Slot}
    (moved : before.onEvent event = (phase, flags, .copy slot)) :
    event = .received ∧ before.awaits? = some true ∧ before ≠ .abandoned none := by
  cases before with
  | sending held => cases held <;> cases event <;> cases moved; exact ⟨rfl, rfl, nofun⟩
  | waitingResponse held => cases event <;> cases moved; exact ⟨rfl, rfl, nofun⟩
  | abandoned held => cases held <;> cases event <;> cases moved
  | idle => cases event <;> cases moved
  | delivering => cases event <;> cases moved
  | finished outcome => cases event <;> cases moved

theorem onEvent_passing {event : Event} {phase : Phase}
    (other : ∀ kind, phase.awaits? = some kind → phase ≠ .abandoned none →
      event.ends kind = false) :
    (phase.onEvent event).2 = (.empty, .nothing) ∨ (phase.onEvent event).2 = (.empty, .spurious) ∨
      (phase.onEvent event).2 = (.empty, .drain none) := by
  cases phase with
  | sending slot =>
      have unended := other slot.isSome rfl nofun
      cases slot <;> cases event <;> cases unended
      · exact .inr (.inl rfl)
      · exact .inr (.inl rfl)
      · exact .inr (.inl rfl)
      · exact .inl rfl
  | waitingResponse slot =>
      have unended := other true rfl nofun
      cases event <;> cases unended
      exact .inr (.inl rfl)
  | abandoned slot =>
      cases slot with
      | none => cases event <;> exact .inr (.inr rfl)
      | some slot =>
          have unended := other true rfl nofun
          cases event <;> cases unended
          exact .inl rfl
  | idle => cases event <;> exact .inr (.inl rfl)
  | delivering => cases event <;> exact .inr (.inl rfl)
  | finished outcome => cases event <;> exact .inr (.inl rfl)

end Phase

def Outcome.of? : Except (Error BusFault) Status → Option Outcome
  | .ok _ => some .completed
  | .error .receiveTimeout => some .receiveTimeout
  | .error .receiveFault => some .receiveFault
  | .error .requestTimeout => some .requestTimeout
  | .error _ => none

namespace Link

variable {slots size : Nat} {link after : Link slots size} {answered : Bool} {told : Told}
  {turn : InterruptTurn slots size}

/-- How far the transaction is, as its caller sees it. -/
inductive Shows (link : Link slots size) (answered : Bool) (told : Told) : Prop
  | unended (open_ : told.terminal? answered = none) (uncopied : told.copied = none)
      (awaits : link.phase.awaits? = some answered) (present : link.phase.underWay = true)
      (silent : link.completion = false)
  | copying (ended : told.terminal? answered = some .received) (uncopied : told.copied = none)
      (delivering : link.phase = .delivering) (silent : link.completion = false)
  | decided {outcome} (decides : told.decides? answered = some outcome)
      (finished : link.phase = .finished outcome) (woken : link.completion = true)

/-- As long as the phase waits for an end, none has been told. A lost buffer is waited
for no more. -/
def Drains (link : Link slots size) (answered : Bool) (told : Told) : Prop :=
  ∀ kind, link.phase.awaits? = some kind → link.phase ≠ .abandoned none →
    kind = answered ∧ told.terminal? answered = none

theorem Shows.congr (shows_ : link.Shows answered told) (phase : after.phase = link.phase)
    (completion : after.completion = link.completion) : after.Shows answered told := by
  cases shows_ with
  | unended open_ uncopied awaits present silent =>
      rw [← phase] at awaits present
      exact .unended open_ uncopied awaits present (completion.trans silent)
  | copying ended uncopied delivering silent =>
      exact .copying ended uncopied (phase.trans delivering) (completion.trans silent)
  | decided decides finished woken =>
      exact .decided decides (phase.trans finished) (completion.trans woken)

theorem Drains.congr (drains : link.Drains answered told) (phase : after.phase = link.phase) :
    after.Drains answered told := by
  rw [Drains, phase]
  exact drains

theorem Shows.drains (shows_ : link.Shows answered told) : link.Drains answered told := by
  intro kind awaits _
  cases shows_ with
  | unended open_ _ same =>
      rw [same] at awaits
      exact ⟨(Option.some.inj awaits).symm, open_⟩
  | copying _ _ delivering => rw [delivering] at awaits; cases awaits
  | decided _ finished => rw [finished] at awaits; cases awaits

/-! ### Events -/

theorem Feeding.turn_eq {event : Event} (fed : Feeding link event turn) :
    turn = link.feed event := by
  unfold feed observe
  cases fed with
  | passed moved idle =>
      rw [moved]
      rcases idle with rfl | rfl
      · rfl
      · rfl
  | signalled moved => rw [moved]; rfl
  | copying moved => rw [moved]; rfl
  | released moved => rw [moved]; rfl
  | drained moved => rw [moved]; rfl

theorem feed_phase (link : Link slots size) (event : Event) :
    (link.feed event).Leaves fun after => after.phase = (link.phase.onEvent event).1 := by
  have fed := feed_turns link event
  generalize link.feed event = turn at fed ⊢
  cases fed with
  | drained moved => rw [moved]; exact releaseSlot?_phase _ _
  | passed moved => rw [moved]; rfl
  | signalled moved => rw [moved]; rfl
  | copying moved => rw [moved]; rfl
  | released moved => rw [moved]; rfl

theorem Drains.feed_passing {event : Event} (drains : link.Drains answered told)
    (passes : told.passes answered event = true) :
    link.feed event = .done { link with phase := (link.phase.onEvent event).1 } (.ok ()) := by
  have unended (kind : Bool) (awaits : link.phase.awaits? = some kind)
      (kept : link.phase ≠ .abandoned none) : event.ends kind = false := by
    obtain ⟨rfl, open_⟩ := drains kind awaits kept
    rw [Told.passes, open_] at passes
    simpa using passes
  unfold feed observe
  cases moved : link.phase.onEvent event with
  | mk phase rest =>
      have quiet := Phase.onEvent_passing unended
      rw [moved] at quiet
      rcases quiet with rfl | rfl | rfl
      · dsimp only
        rw [Status.insert_empty]
      · dsimp only
        rw [Status.insert_empty]
      · dsimp only
        rw [Status.insert_empty]
        rfl

/-- The event that ends the transaction gives it its outcome, or begins the copy. -/
theorem feed_terminal {event : Event} (open_ : told.terminal? answered = none)
    (uncopied : told.copied = none) (awaits : link.phase.awaits? = some answered)
    (present : link.phase.underWay = true) (silent : link.completion = false)
    (ends : event.ends answered = true) :
    (link.feed event).Leaves fun after => after.Shows answered (told.hears [event]) := by
  have terminal := Told.terminal?_first open_ ends
  rcases Phase.awaiting awaits present with ⟨rfl, sending⟩ | ⟨rfl, slot, holds⟩
  · cases event <;> cases ends
    rw [feed, observe, sending]
    exact .decided (by rw [Told.decides?, terminal]) rfl rfl
  · have moved : link.phase.onEvent event = (Phase.waitingResponse slot).onEvent event := by
      rcases holds with sending | waiting
      · rw [sending]
        cases event <;> cases ends <;> rfl
      · rw [waiting]
    rw [feed, observe, moved]
    cases event with
    | sent => cases ends
    | received => exact .copying terminal uncopied rfl silent
    | receiveTimeout => exact .decided (by rw [Told.decides?, terminal]) rfl rfl
    | receiveError => exact .decided (by rw [Told.decides?, terminal]) rfl rfl

theorem Shows.feed (shows_ : link.Shows answered told) (event : Event) :
    (link.feed event).Leaves fun after => after.Shows answered (told.hears [event]) := by
  cases passes : told.passes answered event with
  | true =>
      have phase := link.feed_phase event
      rw [shows_.drains.feed_passing passes] at phase ⊢
      cases shows_ with
      | unended open_ uncopied awaits present silent =>
          have other : event.ends answered = false := by
            rw [Told.passes, open_] at passes
            simpa using passes
          obtain ⟨kept, still⟩ := Phase.onEvent_awaiting awaits present other
          exact .unended (Told.terminal?_unended open_ other) uncopied kept still silent
      | copying ended uncopied delivering silent =>
          refine .copying (Told.terminal?_late ended [event]) uncopied ?_ silent
          rw [delivering]
          cases event <;> rfl
      | decided decides finished woken =>
          refine .decided (Told.decides?_late decides [event]) ?_ woken
          rw [finished]
          cases event <;> rfl
  | false =>
      have terminal : event.ends answered = true ∧ told.terminal? answered = none := by
        simpa [Told.passes] using passes
      cases shows_ with
      | unended open_ uncopied awaits present silent =>
          exact feed_terminal open_ uncopied awaits present silent terminal.1
      | copying ended => rw [ended] at terminal; cases terminal.2
      | decided decides => rw [Told.decides?, terminal.2] at decides; cases decides

theorem Drains.feed (drains : link.Drains answered told) (event : Event) :
    (link.feed event).Leaves fun after => after.Drains answered (told.hears [event]) := by
  refine (link.feed_phase event).mono fun after phase kind awaits kept => ?_
  rw [phase] at awaits kept
  obtain ⟨before, left, other⟩ := Phase.awaits_onEvent awaits kept
  obtain ⟨rfl, open_⟩ := drains kind before left
  exact ⟨rfl, Told.terminal?_unended open_ other⟩

theorem FeedingAll.shows {events : List Event} (fed : FeedingAll link events turn)
    (shows_ : link.Shows answered told) :
    turn.Leaves fun after => after.Shows answered (told.hears events) := by
  induction fed generalizing told with
  | nil =>
      rw [Told.hears_nil]
      exact shows_
  | last fed =>
      rw [fed.turn_eq]
      exact shows_.feed _
  | @cons link first next events turn fed later ih =>
      have heard := shows_.feed first
      rw [← fed.turn_eq] at heard
      have rest := ih heard
      rw [Told.hears_hears] at rest
      exact rest

theorem FeedingAll.drains {events : List Event} (fed : FeedingAll link events turn)
    (drains : link.Drains answered told) :
    turn.Leaves fun after => after.Drains answered (told.hears events) := by
  induction fed generalizing told with
  | nil =>
      rw [Told.hears_nil]
      exact drains
  | last fed =>
      rw [fed.turn_eq]
      exact drains.feed _
  | @cons link first next events turn fed later ih =>
      have heard := drains.feed first
      rw [← fed.turn_eq] at heard
      have rest := ih heard
      rw [Told.hears_hears] at rest
      exact rest

theorem FeedingAll.copy_begins {events : List Event} {later : InterruptPoint}
    (fed : FeedingAll link events (.next after later)) (drains : link.Drains answered told) :
    told.terminal? answered = none ∧ (told.hears events).terminal? answered = some .received := by
  generalize went : (Turn.next after later : InterruptTurn slots size) = turn at fed
  -- What has been told grows with each event, and only the last of them goes on to a copy.
  induction fed generalizing told with
  | nil => cases went
  | @last link event turn fed =>
      subst went
      cases fed with
      | copying moved =>
          obtain ⟨rfl, holds⟩ := Phase.copies_awaiting moved
          obtain ⟨rfl, open_⟩ := drains true holds.1 holds.2
          exact ⟨open_, Told.terminal?_first open_ rfl⟩
  | @cons link first next events turn fed more ih =>
      have heard := drains.feed first
      rw [← fed.turn_eq] at heard
      obtain ⟨open_, begun⟩ := ih heard went
      rw [Told.hears_hears] at begun
      rw [Told.terminal?_hears, Option.or_eq_none_iff] at open_
      exact ⟨open_.1, begun⟩

variable {id : TaskId} {point : InterruptPoint}

def tells (link : Link slots size) (point : InterruptPoint) (told : Told) : Told where
  events := told.events ++ link.feeds point
  copied := told.copied.or (link.finds? point)

theorem tells_hears {events : List Event} (feeds : link.feeds point = events)
    (finds : link.finds? point = none) : link.tells point told = told.hears events := by
  rw [tells, feeds, finds, Option.or_none]
  rfl

theorem tells_uncopied (uncopied : told.copied = none) (finds : link.finds? point = none) :
    (link.tells point told).copied = none := by
  rw [tells, uncopied, finds]
  rfl

theorem feeds_of_copies (link : Link slots size) {slot : Slot}
    (copies : point.copies? = some slot) : link.feeds point = [] := by
  cases point with
  | event => cases copies
  | clearStatus => cases copies
  | _ => rfl

theorem finds_of_no_copy (link : Link slots size) (idle : point.copies? = none) :
    link.finds? point = none := by
  cases point with
  | readLength => cases idle
  | bufferLock => cases idle
  | readFrame => cases idle
  | _ => rfl

theorem copyOutcome_eq {copied : Except (Error BusFault) Bool} {good : Bool}
    (same : copied = .ok true ↔ good = true) :
    copyOutcome copied = if good then .completed else .receiveFault := by
  cases good with
  | true => rw [same.mpr rfl]; rfl
  | false =>
      have bad : copied ≠ .ok true := fun fine => Bool.false_ne_true (same.mp fine)
      cases copied with
      | error fault => rfl
      | ok found =>
          cases found with
          | true => exact absurd rfl bad
          | false => rfl

/-- The end of the only copy decides the transaction. -/
theorem InterruptTurns.shows (turns : InterruptTurns link id point turn)
    (own : link.ClaimedAt id point) (shows_ : link.Shows answered told)
    (current : point.copies?.isSome = true →
      told.terminal? answered = some .received ∧ told.copied = none) :
    turn.Leaves fun after => after.Shows answered (link.tells point told) := by
  cases copies : point.copies? with
  | some slot =>
      have feeds := link.feeds_of_copies copies
      rcases turns.finds copies own with rfl | ⟨next, later, rfl, _, agrees, finds⟩ |
        ⟨middle, copied, good, agrees, ended, finds, same⟩
      · trivial
      · rw [tells_hears feeds finds, Told.hears_nil]
        exact shows_.congr agrees.phase agrees.completion
      · obtain ⟨terminal, uncopied⟩ := current (by rw [copies]; rfl)
        have delivering : middle.phase = .delivering := by
          rw [agrees.phase]
          cases shows_ with
          | unended open_ => rw [open_] at terminal; cases terminal
          | copying _ _ delivering => exact delivering
          | decided decides =>
              rw [Told.decides?, terminal, uncopied] at decides
              cases decides
        refine (ended.of_delivering delivering).mono fun after finished => ?_
        refine .decided ?_ finished.1 finished.2
        have found : (link.tells point told).copied = some good := by
          rw [tells, uncopied, finds, Option.none_or]
        have told_ : (link.tells point told).terminal? answered = some .received :=
          Told.terminal?_late terminal _
        rw [Told.decides?, told_, found, copyOutcome_eq same]
        rfl
  | none =>
      have silent := link.finds_of_no_copy copies
      rcases turns.feeding copies with rfl | ⟨middle, same, fed⟩ | ⟨nothing, still, _⟩
      · trivial
      · rw [tells_hears rfl silent]
        exact fed.shows (shows_.congr same.phase same.completion)
      · rw [tells_hears nothing silent, Told.hears_nil]
        exact still.mono fun after same => shows_.congr same.phase same.completion

theorem CopyEnding.drains {slot : Slot} {copied : Except (Error BusFault) Bool}
    (ended : CopyEnding link slot copied turn) (drains : link.Drains answered told) :
    turn.Leaves fun after => after.Drains answered told := by
  by_cases delivering : link.phase = .delivering
  · refine (ended.of_delivering delivering).mono fun after finished kind awaits => ?_
    rw [finished.1] at awaits
    cases awaits
  · by_cases abandoned : link.phase = .abandoned none
    · refine (ended.of_abandoned abandoned).mono fun after idle kind awaits => ?_
      rw [idle] at awaits
      cases awaits
    · rw [ended.stale_eq delivering abandoned]
      exact drains.congr rfl

theorem InterruptTurns.drains (turns : InterruptTurns link id point turn)
    (drains : link.Drains answered told) :
    turn.Leaves fun after => after.Drains answered (link.tells point told) := by
  have quiet (nothing : link.feeds point = []) (next : Link slots size)
      (kept : next.Drains answered told) : next.Drains answered (link.tells point told) := by
    rw [Drains, tells, nothing, Told.terminal?, List.append_nil]
    exact kept
  cases copies : point.copies? with
  | some slot =>
      have nothing := link.feeds_of_copies copies
      rcases turns.copying copies with rfl | ⟨next, later, rfl, _, agrees⟩ |
        ⟨middle, copied, agrees, ended⟩
      · trivial
      · exact quiet nothing next (drains.congr agrees.phase)
      · exact (ended.drains (drains.congr agrees.phase)).mono fun after => quiet nothing after
  | none =>
      rcases turns.feeding copies with rfl | ⟨middle, same, fed⟩ | ⟨nothing, still, _⟩
      · trivial
      · exact fed.drains (drains.congr same.phase)
      · exact still.mono fun after same => quiet nothing after (drains.congr same.phase)

def copiesOn : InterruptTurn slots size → Bool
  | .next _ later => later.copies?.isSome
  | .wait | .done _ _ => false

theorem InterruptTurns.copy_begins (turns : InterruptTurns link id point turn)
    (idle : point.copies? = none) (copies : copiesOn turn = true)
    (drains : link.Drains answered told) :
    told.terminal? answered = none ∧
      (link.tells point told).terminal? answered = some .received := by
  cases turn with
  | wait => cases copies
  | done => cases copies
  | next after later =>
      rcases turns.feeding idle with waits | ⟨middle, same, fed⟩ | ⟨_, _, goesOn⟩
      · cases waits
      · exact fed.copy_begins (drains.congr same.phase)
      · rw [copiesOn, goesOn after later rfl] at copies
        cases copies

theorem InterruptTurns.copy_goes_on {slot : Slot} (turns : InterruptTurns link id point turn)
    (own : link.ClaimedAt id point) (copies : point.copies? = some slot)
    (goesOn : copiesOn turn = true) : link.finds? point = none := by
  rcases turns.finds copies own with rfl | ⟨next, later, rfl, _, _, finds⟩ |
    ⟨middle, copied, good, _, ended, _, _⟩
  · cases goesOn
  · exact finds
  · cases ended <;> cases goesOn

/-- While a copy is under way the frame has ended the transaction, and nothing has been
found in it. -/
theorem InterruptTurns.copies_tell (turns : InterruptTurns link id point turn)
    (own : link.ClaimedAt id point) (drains : link.Drains answered told)
    (current : point.copies?.isSome = true →
      told.terminal? answered = some .received ∧ told.copied = none)
    (untouched : told.terminal? answered = none → told.copied = none)
    (copies : copiesOn turn = true) :
    (link.tells point told).terminal? answered = some .received ∧
      (link.tells point told).copied = none := by
  cases mine : point.copies? with
  | some slot =>
      obtain ⟨terminal, uncopied⟩ := current (by rw [mine]; rfl)
      exact ⟨Told.terminal?_late terminal _,
        tells_uncopied uncopied (turns.copy_goes_on own mine copies)⟩
  | none =>
      obtain ⟨open_, terminal⟩ := turns.copy_begins mine copies drains
      exact ⟨terminal, tells_uncopied (untouched open_) (link.finds_of_no_copy mine)⟩

/-! ### The caller -/

section caller

variable {exchange : Exchange} {at_ : CallerPoint} {turn : CallerTurn slots size}

theorem CallerTurns.shows {later : CallerPoint}
    (turns : CallerTurns link id exchange at_ (.next after later)) (begun : at_.begun = true)
    (shows_ : link.Shows answered told) : after.Shows answered told := by
  cases turns with
  | silence => cases begun
  | enter => cases begun
  | silenceLock => cases begun
  | silenced => cases begun
  | silencing => cases begun
  | begin => cases begun
  | reserving => cases begun
  | woken woken unended =>
      cases shows_ with
      | unended _ _ _ _ silent => rw [silent] at woken; cases woken
      | copying _ _ _ silent => rw [silent] at woken; cases woken
      | decided _ finished => exact absurd finished (unended _)
  | _ => exact shows_.congr rfl rfl

theorem Drains.left (drains : link.Drains answered told)
    (left : after.phase = .idle ∨ after.phase = .abandoned link.phase.slot?) :
    after.Drains answered told := by
  intro kind awaits kept
  rcases left with idle | abandoned
  · rw [idle] at awaits
    cases awaits
  · rw [abandoned] at awaits kept
    cases held : link.phase.slot? with
    | none => rw [held] at kept; exact absurd rfl kept
    | some slot =>
        rw [held] at awaits
        cases awaits
        cases phase : link.phase with
        | sending _ =>
            rw [phase] at held
            cases held
            exact drains true (by rw [phase]; rfl) (by rw [phase]; nofun)
        | waitingResponse _ => exact drains true (by rw [phase]; rfl) (by rw [phase]; nofun)
        | abandoned _ =>
            rw [phase] at held
            cases held
            exact drains true (by rw [phase]; rfl) (by rw [phase]; nofun)
        | idle => rw [phase] at held; cases held
        | delivering => rw [phase] at held; cases held
        | finished => rw [phase] at held; cases held

theorem CallerTurns.drains (turns : CallerTurns link id exchange at_ turn)
    (begun : at_.begun = true) (drains : link.Drains answered told) :
    turn.Leaves fun after => after.Drains answered told := by
  cases turns with
  | wait => trivial
  | silence => cases begun
  | enter => cases begun
  | silenceLock => cases begun
  | silenceFailed => cases begun
  | silenced => cases begun
  | silencing => cases begun
  | begin => cases begun
  | starved => cases begun
  | reserving => cases begun
  | startFailed => exact drains.left (failed_phase _ _ _)
  | checkFailed => exact drains.left (failed_phase _ _ _)
  | cancelFailed => exact drains.left (failed_phase _ _ _)
  | cancelled => exact drains.left (failed_phase _ _ _)
  | finished => exact drains.left (.inl (conclude_phase _ _ _))
  | abandoned =>
      have concluded := conclude_phase link.abandon.2 link.abandon.1 exchange.counted
      exact drains.left ((abandon_phase link).imp concluded.trans concluded.trans)
  | _ => exact drains.congr rfl

variable {deadline : Deadline}

theorem waiting_finished (id : TaskId) (exchange : Exchange) (deadline : Deadline)
    {outcome : Outcome} (woken : link.completion = true)
    (finished : link.phase = .finished outcome) :
    ∃ after, link.callerStep id exchange (.waiting deadline) =
      .done after ({ link with completion := false, phase := .idle }.conclude outcome
        exchange.counted).1 := by
  rw [callerStep]
  simp only [woken, if_true, takeFinished, finished]
  exact ⟨_, rfl⟩

theorem waiting_expired (id : TaskId) (exchange : Exchange) (silent : link.completion = false)
    (expired : deadline.reached link.bus.clock = true) :
    ∃ after, link.callerStep id exchange (.waiting deadline) =
      .done after (link.abandon.2.conclude link.abandon.1 exchange.counted).1 := by
  rw [callerStep]
  simp only [silent, expired, if_true, Bool.false_eq_true, if_false]
  exact ⟨_, rfl⟩

theorem waiting_goes_on (silent : link.completion = false)
    (early : deadline.reached link.bus.clock = false) (after : Link slots size)
    (result : Except (Error BusFault) Status) :
    link.callerStep id exchange (.waiting deadline) ≠ .done after result := by
  rw [callerStep]
  simp only [silent, early, Bool.false_eq_true, if_false]
  split
  · exact fun same => by cases same
  · exact fun same => by cases same

theorem abandon_unfinished (unended : ∀ outcome, link.phase ≠ .finished outcome) :
    link.abandon.1 = .requestTimeout := by
  unfold abandon
  split
  · rename_i outcome finished
    exact absurd finished (unended outcome)
  · rfl

theorem of?_conclude (link : Link slots size) (outcome : Outcome) (counted : Bool) :
    Outcome.of? (link.conclude outcome counted).1 = some outcome := by
  cases outcome <;> rfl

def reports? (link : Link slots size) (id : TaskId) (exchange : Exchange)
    (deadline : Deadline) : Option (Option Outcome) :=
  match link.callerStep id exchange (.waiting deadline) with
  | .done _ result => some (Outcome.of? result)
  | _ => none

theorem reports?_undecided (silent : link.completion = false)
    (unended : ∀ outcome, link.phase ≠ .finished outcome) :
    link.reports? id exchange deadline =
      if deadline.reached link.bus.clock then some (some .requestTimeout) else none := by
  cases expired : deadline.reached link.bus.clock with
  | true =>
      obtain ⟨after, stepped⟩ := waiting_expired id exchange silent expired
      rw [reports?, stepped]
      dsimp only
      rw [of?_conclude, abandon_unfinished unended]
      rfl
  | false =>
      rw [reports?]
      split
      · rename_i after result stepped
        exact absurd stepped (waiting_goes_on silent expired after result)
      · rfl

theorem Shows.reports (shows_ : link.Shows answered told) (id : TaskId) (exchange : Exchange)
    (deadline : Deadline) :
    link.reports? id exchange deadline =
      (told.verdict? answered (deadline.reached link.bus.clock)).map some := by
  have expires (undecided : told.decides? answered = none) (silent : link.completion = false)
      (unended : ∀ outcome, link.phase ≠ .finished outcome) :
      link.reports? id exchange deadline =
        (told.verdict? answered (deadline.reached link.bus.clock)).map some := by
    rw [reports?_undecided silent unended, Told.verdict?, undecided, Option.none_or]
    split <;> rfl
  cases shows_ with
  | unended open_ _ awaits _ silent =>
      refine expires (by rw [Told.decides?, open_]) silent ?_
      intro outcome finished
      rw [finished] at awaits
      cases awaits
  | copying ended uncopied delivering silent =>
      refine expires (by rw [Told.decides?, ended, uncopied]; rfl) silent ?_
      intro outcome finished
      rw [finished] at delivering
      cases delivering
  | decided decides finished woken =>
      obtain ⟨after, stepped⟩ := waiting_finished id exchange deadline woken finished
      rw [reports?, stepped, Told.verdict?, decides, Option.some_or]
      exact congrArg some (of?_conclude _ _ _)

end caller

end Link

end UwbRadio

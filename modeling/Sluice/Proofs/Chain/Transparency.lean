import Sluice.Proofs.Chain.Course

/-! Tracing in a chain. An entry into an instance that samples it is a record around the whole run of what follows: a
span is opened and received is marked before, the status of what came of it is recorded and sent is marked after. An
entry that is not sampled is the run of what follows alone. Without the events of tracing the courses of a chain are the
courses of the chain without tracing, and none is lost. -/

set_option autoImplicit false

namespace Sluice

def Party.isTracing : Party → Bool
  | .tracing _ => true
  | _ => false

namespace Event

/-- The events that are not those of tracing. -/
def untraced (events : List Event) : List Event := events.filter fun event => !event.party.isTracing

theorem untraced_append (first second : List Event) : untraced (first ++ second) = untraced first ++ untraced second :=
  List.filter_append first second

theorem untraced_cons_of_own {party : Party} (own : party.isTracing = false) (exchange : Exchange Flow.interface)
    (events : List Event) : untraced (.asked party exchange :: events) = .asked party exchange :: untraced events := by
  simp [untraced, Event.party, own]

theorem untraced_asked_of_own {party : Party} (own : party.isTracing = false) (trace : List (Exchange Flow.interface)) :
    untraced (trace.map (.asked party)) = trace.map (.asked party) := by
  simp [untraced, Event.party, own]

theorem untraced_asked_of_tracing {party : Party} (tracing : party.isTracing = true)
    (trace : List (Exchange Flow.interface)) : untraced (trace.map (.asked party)) = [] := by
  simp [untraced, Event.party, tracing]

theorem untraced_call_of_own {party : Party} (own : party.isTracing = false) (request : Request)
    (inner : List Event) (outcome : Outcome) :
    untraced (call party request inner outcome) = call party request (untraced inner) outcome := by
  simp [untraced, call, Event.party, own]

theorem untraced_call_of_tracing {party : Party} (tracing : party.isTracing = true) (request : Request)
    (inner : List Event) (outcome : Outcome) : untraced (call party request inner outcome) = untraced inner := by
  simp [untraced, call, Event.party, tracing]

end Event

namespace Conduct

variable {α β : Type} {seat : Seat} {rest : Request → List Event → Outcome → Prop} {events : List Event} {value : β}

theorem plays_bind_iff {program : Program interface α} {next : α → Program interface β} :
    Plays seat rest (program.bind next) events value ↔ ∃ first middle second,
      Plays seat rest program first middle ∧ Plays seat rest (next middle) second value ∧ events = first ++ second := by
  induction program generalizing events with
  | done middle =>
    constructor
    · exact fun plays => ⟨[], middle, events, .done, plays, rfl⟩
    · rintro ⟨first, _, second, plays, after, rfl⟩
      cases plays
      exact after
  | ask question resume ih =>
    constructor
    · intro plays
      cases plays with
      | @own question _ answer _ _ plays =>
        obtain ⟨first, middle, second, before, after, rfl⟩ := (ih answer).1 plays
        exact ⟨_, middle, second, .own before, after, rfl⟩
      | @rest request _ inner _ reached _ goes plays =>
        obtain ⟨first, middle, second, before, after, rfl⟩ := (ih reached).1 plays
        exact ⟨_, middle, second, .rest goes before, after, (List.append_assoc _ _ _).symm⟩
      | place plays =>
        obtain ⟨first, middle, second, before, after, rfl⟩ := (ih _).1 plays
        exact ⟨_, middle, second, .place before, after, rfl⟩
    · rintro ⟨first, middle, second, plays, after, rfl⟩
      cases plays with
      | @own question _ answer _ _ plays => exact .own ((ih answer).2 ⟨_, middle, second, plays, after, rfl⟩)
      | @rest request _ inner _ reached _ goes plays =>
        rw [List.append_assoc]
        exact .rest goes ((ih reached).2 ⟨_, middle, second, plays, after, rfl⟩)
      | place plays => exact .place ((ih _).2 ⟨_, middle, second, plays, after, rfl⟩)

theorem plays_lift_iff {flow : Flow β} : Plays seat rest (lift flow) events value ↔
    ∃ trace, flow.Reaches trace (.done value) ∧ events = trace.map (.asked seat.party) := by
  induction flow generalizing events with
  | done other =>
    constructor
    · intro plays
      cases plays
      exact ⟨[], .here, rfl⟩
    · rintro ⟨trace, run, rfl⟩
      cases run
      exact .done
  | ask question resume ih =>
    constructor
    · intro plays
      cases plays with
      | @own _ _ answer _ _ plays =>
        obtain ⟨trace, run, rfl⟩ := (ih answer).1 plays
        exact ⟨_, .step run, rfl⟩
    · rintro ⟨trace, run, rfl⟩
      cases run with
      | @step _ _ answer _ _ run => exact .own ((ih answer).2 ⟨_, run, rfl⟩)

theorem plays_send_iff {question : Flow.Ask} {answer : Flow.Answer question} :
    Plays seat rest (lift (Program.send (I := Flow.interface) question)) events answer ↔
      events = [.asked seat.party ⟨question, answer⟩] := by
  constructor
  · intro plays
    cases plays with
    | own plays =>
      cases plays
      rfl
  · rintro rfl
    exact .own .done

theorem plays_rest_iff {request : Request} {outcome : Outcome} :
    Plays seat rest (Conduct.rest request) events outcome ↔ rest request events outcome := by
  constructor
  · intro plays
    cases plays with
    | rest goes plays =>
      cases plays
      rwa [List.append_nil]
  · intro goes
    rw [← List.append_nil events]
    exact .rest goes .done

end Conduct

namespace Tracing

variable {tracing : Tracing} {party : Party} {rest : Request → List Event → Outcome → Prop} {request : Request}

/-- What is kept of a sampled request, around all that happens inside. -/
def kept (tracing : Tracing) (party : Party) (request : Request) (index : Nat) (inner : List Event)
    (outcome : Outcome) : List Event :=
  .asked party ⟨.openSpan (tracing.span request), index⟩ :: .asked party ⟨.mark .received, ()⟩ ::
    (inner ++ [.asked party ⟨.record index outcome.status, ()⟩, .asked party ⟨.mark .sent, ()⟩])

/-- An entry into an instance of tracing, from the decision of its sampler on. -/
inductive Entry (tracing : Tracing) (party : Party) (rest : Request → List Event → Outcome → Prop) (request : Request) :
    List Event → Outcome → Prop where
  | sampled {decision : List (Exchange Flow.interface)} {inner : List Event} {outcome : Outcome} (index : Nat) :
      tracing.sampler.sample.Reaches decision (.done true) → rest request inner outcome →
      Entry tracing party rest request
        (decision.map (.asked party) ++ tracing.kept party request index inner outcome) outcome
  | passed {decision : List (Exchange Flow.interface)} {inner : List Event} {outcome : Outcome} :
      tracing.sampler.sample.Reaches decision (.done false) → rest request inner outcome →
      Entry tracing party rest request (decision.map (.asked party) ++ inner) outcome

theorem plays_iff_entry {seat : Seat} {events : List Event} {outcome : Outcome} :
    Conduct.Plays seat rest (tracing.conduct request) events outcome ↔
      tracing.Entry seat.party rest request events outcome := by
  rw [conduct_eq, Conduct.plays_bind_iff]
  constructor
  · rintro ⟨_, sampled, events, decides, goes, rfl⟩
    obtain ⟨decision, decided, rfl⟩ := Conduct.plays_lift_iff.1 decides
    cases sampled with
    | false => exact .passed decided (Conduct.plays_rest_iff.1 goes)
    | true =>
      obtain ⟨_, index, _, opens, receives, rfl⟩ := Conduct.plays_bind_iff.1 goes
      obtain ⟨_, _, _, marks, runs, rfl⟩ := Conduct.plays_bind_iff.1 receives
      obtain ⟨inner, reached, _, inside, records, rfl⟩ := Conduct.plays_bind_iff.1 runs
      obtain ⟨_, _, _, noted, sends, rfl⟩ := Conduct.plays_bind_iff.1 records
      obtain ⟨_, _, _, sent, ends, rfl⟩ := Conduct.plays_bind_iff.1 sends
      obtain rfl := Conduct.plays_send_iff.1 opens
      obtain rfl := Conduct.plays_send_iff.1 marks
      obtain rfl := Conduct.plays_send_iff.1 noted
      obtain rfl := Conduct.plays_send_iff.1 sent
      cases ends
      exact .sampled index decided (Conduct.plays_rest_iff.1 inside)
  · intro entry
    cases entry with
    | passed decided goes =>
      exact ⟨_, false, _, Conduct.plays_lift_iff.2 ⟨_, decided, rfl⟩, Conduct.plays_rest_iff.2 goes, rfl⟩
    | @sampled decision inner _ index decided goes =>
      refine ⟨_, true, _, Conduct.plays_lift_iff.2 ⟨decision, decided, rfl⟩, ?_, rfl⟩
      exact .own (.own (.rest goes (.own (.own .done))))

theorem untraced_kept (tracing : Tracing) (place : Nat) (request : Request) (index : Nat) (inner : List Event)
    (outcome : Outcome) :
    Event.untraced (tracing.kept (.tracing place) request index inner outcome) = Event.untraced inner := by
  simp [kept, Event.untraced, Event.party, Party.isTracing]

theorem untraced_sampled (tracing : Tracing) (place : Nat) (request : Request)
    (decision : List (Exchange Flow.interface)) (index : Nat) (inner : List Event) (outcome : Outcome) :
    Event.untraced (decision.map (.asked (.tracing place)) ++
      tracing.kept (.tracing place) request index inner outcome) = Event.untraced inner := by
  rw [Event.untraced_append, Event.untraced_asked_of_tracing rfl, untraced_kept, List.nil_append]

theorem untraced_passed (place : Nat) (decision : List (Exchange Flow.interface)) (inner : List Event) :
    Event.untraced (decision.map (.asked (.tracing place)) ++ inner) = Event.untraced inner := by
  rw [Event.untraced_append, Event.untraced_asked_of_tracing rfl, List.nil_append]

theorem Entry.untraced {place : Nat} {events : List Event} {outcome : Outcome}
    (entry : tracing.Entry (.tracing place) rest request events outcome) :
    ∃ inner, rest request inner outcome ∧ Event.untraced events = Event.untraced inner := by
  cases entry with
  | sampled index decides goes => exact ⟨_, goes, untraced_sampled _ _ _ _ _ _ _⟩
  | passed decides goes => exact ⟨_, goes, untraced_passed _ _ _⟩

theorem exists_entry (tracing : Tracing) (place : Nat) {inner : List Event} {outcome : Outcome}
    (goes : rest request inner outcome) : ∃ events, tracing.Entry (.tracing place) rest request events outcome ∧
      Event.untraced events = Event.untraced inner := by
  obtain ⟨decision, sampled, decides⟩ :
      ∃ decision sampled, tracing.sampler.sample.Reaches decision (.done sampled) := by
    cases tracing.sampler with
    | always => exact ⟨[], true, .here⟩
    | never => exact ⟨[], false, .here⟩
    | rate bound => exact ⟨[⟨.draw, Binary.one⟩], _, .step .here⟩
  cases sampled with
  | true => exact ⟨_, .sampled 0 decides goes, untraced_sampled _ _ _ _ _ _ _⟩
  | false => exact ⟨_, .passed decides goes, untraced_passed _ _ _⟩

end Tracing

/-- A conduct goes the same way over a rest without tracing. -/
theorem Conduct.plays_untraced_iff {α : Type} {seat : Seat} {plain rest : Request → List Event → Outcome → Prop}
    (own : seat.party.isTracing = false)
    (runs : ∀ request events outcome, plain request events outcome ↔
      ∃ full, rest request full outcome ∧ Event.untraced full = events)
    (program : Program interface α) (events : List Event) (value : α) :
    Plays seat plain program events value ↔
      ∃ full, Plays seat rest program full value ∧ Event.untraced full = events := by
  induction program generalizing events with
  | done other =>
    constructor
    · intro plays
      cases plays
      exact ⟨[], .done, rfl⟩
    · rintro ⟨full, plays, rfl⟩
      cases plays
      exact .done
  | ask question resume ih =>
    constructor
    · intro plays
      cases plays with
      | @own question _ answer _ _ plays =>
        obtain ⟨full, played, rfl⟩ := (ih answer _).1 plays
        exact ⟨_, .own played, Event.untraced_cons_of_own own _ _⟩
      | @rest request _ _ _ reached _ goes plays =>
        obtain ⟨inner, inside, rfl⟩ := (runs _ _ _).1 goes
        obtain ⟨full, played, rfl⟩ := (ih reached _).1 plays
        exact ⟨_, .rest inside played, Event.untraced_append _ _⟩
      | place plays =>
        obtain ⟨full, played, rfl⟩ := (ih _ _).1 plays
        exact ⟨_, .place played, rfl⟩
    · rintro ⟨full, plays, rfl⟩
      cases plays with
      | @own question _ answer events _ plays =>
        rw [Event.untraced_cons_of_own own]
        exact .own ((ih answer _).2 ⟨events, plays, rfl⟩)
      | @rest request _ inner events reached _ goes plays =>
        rw [Event.untraced_append]
        exact .rest ((runs _ _ _).2 ⟨inner, goes, rfl⟩) ((ih reached _).2 ⟨events, plays, rfl⟩)
      | place plays => exact .place ((ih _ _).2 ⟨_, plays, rfl⟩)

variable {handler : Option (Request → Flow Outcome)}

theorem course_nil_untraced {request : Request} {events : List Event} {outcome : Outcome}
    (course : Next.Course handler [] request events outcome) : Event.untraced events = events := by
  cases handler with
  | none =>
    obtain ⟨rfl, -⟩ := course
    rfl
  | some handle =>
    obtain ⟨trace, -, rfl⟩ := course
    rw [Event.untraced_call_of_own rfl, Event.untraced_asked_of_own rfl]

/-- The courses of a chain without its tracing are its courses without the events of tracing. -/
theorem course_untraced_iff (seats : List Seat) (request : Request) (events : List Event) (outcome : Outcome) :
    Next.Course handler (seats.filter (·.link.isOwn)) request events outcome ↔
      ∃ full, Next.Course handler seats request full outcome ∧ Event.untraced full = events := by
  induction seats generalizing request events outcome with
  | nil =>
    constructor
    · exact fun course => ⟨events, course, course_nil_untraced course⟩
    · rintro ⟨full, course, rfl⟩
      rw [course_nil_untraced course]
      exact course
  | cons seat rest ih =>
    obtain ⟨place, shown, link⟩ := seat
    cases link with
    | own conduct =>
      have seated : (⟨place, shown, .own conduct⟩ : Seat).party.isTracing = false := rfl
      have plays := Conduct.plays_untraced_iff seated ih (conduct request)
      constructor
      · rintro ⟨inner, played, rfl⟩
        obtain ⟨full, goes, rfl⟩ := (plays _ _).1 played
        exact ⟨_, ⟨full, goes, rfl⟩, Event.untraced_call_of_own rfl _ _ _⟩
      · rintro ⟨_, ⟨full, goes, rfl⟩, rfl⟩
        rw [Event.untraced_call_of_own rfl]
        exact ⟨_, (plays _ _).2 ⟨full, goes, rfl⟩, rfl⟩
    | traced tracing =>
      rw [List.filter_cons_of_neg (by simp [Link.isOwn])]
      constructor
      · -- whatever the sampler decides, the run of the rest fits in
        intro course
        obtain ⟨full, goes, rfl⟩ := (ih _ _ _).1 course
        obtain ⟨entered, entry, same⟩ := tracing.exists_entry place goes
        refine ⟨_, ⟨entered, Tracing.plays_iff_entry.2 entry, rfl⟩, ?_⟩
        exact (Event.untraced_call_of_tracing rfl _ _ _).trans same
      · rintro ⟨_, ⟨full, played, rfl⟩, rfl⟩
        obtain ⟨inner, goes, same⟩ := (Tracing.plays_iff_entry.1 played).untraced
        rw [Event.untraced_call_of_tracing rfl, same]
        exact (ih _ _ _).2 ⟨inner, goes, rfl⟩

/-- Every call of an instance of tracing is an entry into it around a run of the chain after it. -/
def Entered (handler : Option (Request → Flow Outcome)) (seats : List Seat) (events : List Event) : Prop :=
  ∀ before place request after, events = before ++ .called (.tracing place) request :: after →
    ∃ (tracing : Tracing) (shown : Nat × Nat) (deeper : List Seat) (inner : List Event) (outcome : Outcome)
      (later : List Event), ⟨place, shown, .traced tracing⟩ :: deeper <:+ seats ∧
      tracing.Entry (.tracing place) (Next.Course handler deeper) request inner outcome ∧
      after = inner ++ .returned (.tracing place) outcome :: later

namespace Entered

variable {seats : List Seat} {first second events : List Event}

theorem append (one : Entered handler seats first) (two : Entered handler seats second) :
    Entered handler seats (first ++ second) := by
  intro before place request after split
  -- the call lies in the second part, or in the first with its return
  rcases List.append_eq_append_iff.1 split with ⟨between, rfl, rest⟩ | ⟨between, cut, rest⟩
  · exact two between place request after rest
  · cases between with
    | nil => exact two [] place request after rest.symm
    | cons event others =>
      rw [List.cons_append, List.cons.injEq] at rest
      obtain ⟨rfl, rfl⟩ := rest
      obtain ⟨tracing, shown, deeper, inner, outcome, later, seated, entry, rfl⟩ := one before place request others cut
      exact ⟨tracing, shown, deeper, inner, outcome, later ++ second, seated, entry, by simp⟩

theorem of_not_called (none : ∀ place request, .called (.tracing place) request ∉ events) :
    Entered handler seats events := by
  rintro before place request after rfl
  exact absurd (by simp) (none place request)

theorem asked (party : Party) (trace : List (Exchange Flow.interface)) :
    Entered handler seats (trace.map (.asked party)) := of_not_called (by simp)

theorem mono {more : List Seat} (entered : Entered handler seats events) (part : seats <:+ more) :
    Entered handler more events := by
  intro before place request after split
  obtain ⟨tracing, shown, deeper, inner, outcome, later, seated, entry, after⟩ :=
    entered before place request after split
  exact ⟨tracing, shown, deeper, inner, outcome, later, seated.trans part, entry, after⟩

theorem plays {α : Type} {seat : Seat} {rest : Request → List Event → Outcome → Prop}
    (inside : ∀ {request events outcome}, rest request events outcome → Entered handler seats events)
    {program : Program Conduct.interface α} {value : α} (plays : Conduct.Plays seat rest program events value) :
    Entered handler seats events := by
  induction plays with
  | done => exact asked .handler []
  | @own question _ answer _ _ _ ih => exact (asked seat.party [⟨question, answer⟩]).append ih
  | rest goes _ ih => exact (inside goes).append ih
  | place _ ih => exact ih

theorem call {party : Party} {request : Request} {outcome : Outcome} (own : party.isTracing = false)
    (entered : Entered handler seats events) : Entered handler seats (Event.call party request events outcome) := by
  have start : Entered handler seats [.called party request] := of_not_called fun place _ member => by
    obtain ⟨rfl, -⟩ : .tracing place = party ∧ _ := by simpa using member
    cases own
  have finish : Entered handler seats [.returned party outcome] := of_not_called (by simp)
  exact start.append (entered.append finish)

end Entered

theorem Tracing.Entry.entered {seats : List Seat} {tracing : Tracing} {party : Party}
    {rest : Request → List Event → Outcome → Prop} {request : Request} {events : List Event} {outcome : Outcome}
    (inside : ∀ {request events outcome}, rest request events outcome → Entered handler seats events)
    (entry : tracing.Entry party rest request events outcome) : Entered handler seats events := by
  cases entry with
  | @sampled decision inner _ index decides goes =>
    have around : Entered handler seats (tracing.kept party request index inner outcome) :=
      (Entered.asked party [_, _]).append ((inside goes).append (Entered.asked party [_, _]))
    exact (Entered.asked party decision).append around
  | passed decides goes => exact (Entered.asked party _).append (inside goes)

theorem Next.Course.entered {seats : List Seat} {request : Request} {events : List Event} {outcome : Outcome}
    (course : Next.Course handler seats request events outcome) : Entered handler seats events := by
  induction seats generalizing request events outcome with
  | nil =>
    cases handler with
    | none =>
      obtain ⟨rfl, -⟩ := course
      exact .asked .handler []
    | some handle =>
      obtain ⟨trace, -, rfl⟩ := course
      exact (Entered.asked .handler trace).call rfl
  | cons seat rest ih =>
    obtain ⟨place, shown, link⟩ := seat
    obtain ⟨inner, plays, rfl⟩ := course
    cases link with
    | own conduct => exact (Entered.plays (fun goes => (ih goes).mono (List.suffix_cons _ _)) plays).call rfl
    | traced tracing =>
      have entry : tracing.Entry (.tracing place) (Next.Course handler rest) request inner outcome :=
        Tracing.plays_iff_entry.1 plays
      have inside : Entered handler (⟨place, shown, .traced tracing⟩ :: rest)
          (inner ++ [.returned (.tracing place) outcome]) :=
        (entry.entered fun goes => (ih goes).mono (List.suffix_cons _ _)).append (.of_not_called (by simp))
      intro before entered asked after split
      -- the call is that of the instance itself, or one further in
      cases before with
      | nil =>
        obtain ⟨head, rfl⟩ := List.cons.inj split
        cases head
        exact ⟨tracing, shown, rest, inner, outcome, [], List.suffix_refl _, entry, rfl⟩
      | cons event earlier => exact inside earlier entered asked after (List.cons.inj split).2

theorem full_reaches_iff (stack : List Link) (request : Request) (trace : List (Exchange Flow.interface))
    (outcome : Outcome) :
    ((Next.start (stack.map Link.decorator) handler).run request).Reaches trace (.done outcome) ↔
      ∃ events, Next.Course handler (Seat.all stack) request events outcome ∧ Event.exchanges events = trace := by
  have seated : Seated (Seat.all stack).length 0 (Seat.all stack) := by
    rw [length_all]
    exact seated_ofStack _ _ _
  rw [← start_reaches_iff seated, link_all]

theorem plain_reaches_iff {stack : List Link} (indifferent : ∀ link ∈ stack, link.isOwn → link.decorator.Indifferent)
    (request : Request) (trace : List (Exchange Flow.interface)) (outcome : Outcome) :
    ((Next.start ((stack.filter Link.isOwn).map Link.decorator) handler).run request).Reaches trace (.done outcome) ↔
      ∃ events, Next.Course handler ((Seat.all stack).filter (·.link.isOwn)) request events outcome ∧
        Event.exchanges events = trace := by
  have links : ((Seat.all stack).filter (·.link.isOwn)).map Seat.link = stack.filter Link.isOwn := by
    have filtered := congrArg (List.filter Link.isOwn) (link_all stack)
    rwa [List.filter_map] at filtered
  have seated : Seated ((Seat.all stack).filter (·.link.isOwn)).length 0 ((Seat.all stack).filter (·.link.isOwn)) := by
    apply seated_of_indifferent
    intro seat member
    have among : seat.link ∈ stack.filter Link.isOwn := links ▸ List.mem_map_of_mem member
    exact indifferent _ (List.mem_filter.1 among).1 (List.mem_filter.1 among).2
  rw [← start_reaches_iff seated, links]

end Sluice

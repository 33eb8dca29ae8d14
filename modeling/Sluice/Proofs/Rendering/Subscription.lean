import Sluice.Proofs.Program
import Sluice.Rendering.Subscription

/-! The task of an observable and the response that waits for what it resolves to. The task sends signal after signal
to the subscriber and lets go of it; the response is made at any moment after the completion is settled. Whatever the
order, the response is the one that the stream asks for: to its first failure, or to its items as one value. -/

set_option autoImplicit false

namespace Sluice

namespace Subscriber

variable {subscriber : Subscriber}

/-- A completion that is settled stays as it is. -/
theorem completion_settle (settled : subscriber.completion ≠ .pending) (result : Except Fault Value) :
    (subscriber.settle result).completion = subscriber.completion := by
  cases completion : subscriber.completion with
  | pending => exact absurd completion settled
  | resolved earlier => simp [settle, completion]
  | canceled => simp [settle, completion]

theorem completion_receive (settled : subscriber.completion ≠ .pending) (signal : Signal) :
    (subscriber.receive signal).completion = subscriber.completion := by
  -- an end gives up the items before it looks at the completion
  have cleared : Subscriber.completion { subscriber with collected := [] } ≠ .pending := settled
  cases signal with
  | next item =>
    cases completion : subscriber.completion with
    | pending => exact absurd completion settled
    | resolved result => simp [receive, completion]
    | canceled => simp [receive, completion]
  | failed cause => exact completion_settle cleared _
  | completed => exact completion_settle cleared _

theorem completion_foldl_receive (settled : subscriber.completion ≠ .pending) (signals : List Signal) :
    (signals.foldl receive subscriber).completion = subscriber.completion := by
  induction signals generalizing subscriber with
  | nil => rfl
  | cons signal rest ih =>
    have same := completion_receive settled signal
    rw [List.foldl_cons, ih (by rwa [same]), same]

theorem release_settled (settled : subscriber.completion ≠ .pending) : subscriber.release = subscriber := by
  cases completion : subscriber.completion with
  | pending => exact absurd completion settled
  | resolved result => simp [release, completion]
  | canceled => simp [release, completion]

theorem settled_release (subscriber : Subscriber) : subscriber.release.completion ≠ .pending := by
  cases completion : subscriber.completion <;> simp [release, completion]

theorem foldl_receive_next (items collected : List Value) :
    (items.map Signal.next).foldl receive ⟨collected, .pending⟩ = ⟨items.reverse ++ collected, .pending⟩ := by
  induction items generalizing collected with
  | nil => rfl
  | cons item rest ih =>
    rw [List.map_cons, List.foldl_cons]
    simpa [receive] using ih (item :: collected)

end Subscriber

namespace Converters

variable {context : Context} {converters : Converters} {value : Value}

theorem render_of_converted (handler : FaultHandler) {reply : Reply Body}
    (converted : converters.convert context value = .ok reply) :
    converters.render context handler (.ok value) = reply := by
  simp [render, bind, Except.bind, converted]

theorem render_of_unconverted (handler : FaultHandler) {cause : Fault}
    (unconverted : converters.convert context value = .error cause) :
    converters.render context handler (.ok value) = handler.reply context cause := by
  simp [render, bind, Except.bind, unconverted]

end Converters

namespace Observable

theorem signals_items (items : List Value) :
    signals (items.map .ok) = items.map .next ++ [.completed] := by
  induction items with
  | nil => rfl
  | cons item rest ih => rw [List.map_cons, signals, ih, List.map_cons, List.cons_append]

theorem signals_failure (items : List Value) (cause : Fault) (rest : List (Except Fault Value)) :
    signals (items.map .ok ++ .error cause :: rest) = items.map .next ++ [.failed cause] := by
  induction items with
  | nil => rfl
  | cons item others ih => rw [List.map_cons, List.cons_append, signals, ih, List.map_cons, List.cons_append]

theorem outcome_items (items : List Value) :
    outcome (items.map .ok) = .resolved (.ok (Subscriber.valueOf items)) := by
  rw [outcome, signals_items, List.foldl_append, Subscriber.fresh, Subscriber.foldl_receive_next]
  simp [Subscriber.receive, Subscriber.settle, Subscriber.release]

theorem outcome_failure (items : List Value) (cause : Fault) (rest : List (Except Fault Value)) :
    outcome (items.map .ok ++ .error cause :: rest) = .resolved (.error cause) := by
  rw [outcome, signals_failure, List.foldl_append, Subscriber.fresh, Subscriber.foldl_receive_next]
  rfl

/-- A stream has a first failure, or none. -/
theorem items_or_failure (stream : List (Except Fault Value)) :
    (∃ items : List Value, stream = items.map .ok) ∨
      ∃ (items : List Value) (cause : Fault) (rest : List (Except Fault Value)),
        stream = items.map .ok ++ .error cause :: rest := by
  induction stream with
  | nil => exact .inl ⟨[], rfl⟩
  | cons signal rest ih =>
    cases signal with
    | error cause => exact .inr ⟨[], cause, rest, rfl⟩
    | ok item =>
      rcases ih with ⟨items, rfl⟩ | ⟨items, cause, others, rfl⟩
      · exact .inl ⟨item :: items, rfl⟩
      · exact .inr ⟨item :: items, cause, others, rfl⟩

section
variable (general : Converters) (handler : FaultHandler) (context : Context)

/-- The response to a value is what the chain converts it to, or the answer to why it does not. -/
inductive Converts (value : Value) : Reply Body → Prop where
  | converted {reply : Reply Body} : general.convert context value = .ok reply → Converts value reply
  | unconverted {cause : Fault} :
      general.convert context value = .error cause → Converts value (handler.reply context cause)

/-- The response that a stream asks for. -/
inductive Answers : List (Except Fault Value) → Reply Body → Prop where
  | failure (items : List Value) (cause : Fault) (rest : List (Except Fault Value)) :
      Answers (items.map .ok ++ .error cause :: rest) (handler.reply context cause)
  | nothing {reply : Reply Body} : Converts general handler context .unit reply → Answers [] reply
  | single {item : Value} {reply : Reply Body} :
      Converts general handler context item reply → Answers [.ok item] reply
  | several {first second : Value} {others : List Value} {reply : Reply Body} :
      Converts general handler context (.list (first :: second :: others)) reply →
      Answers (.ok first :: .ok second :: others.map .ok) reply

variable {general handler context}

end

end Observable

/-- The task of a source, its subscriber and the response that waits. -/
structure Subscription where
  /-- What the task has still to send. -/
  signals : List Signal
  /-- The task holds the subscriber. -/
  holds : Bool
  subscriber : Subscriber
  response : Option (Reply Body)

namespace Subscription

def start (stream : List (Except Fault Value)) : Subscription :=
  ⟨Observable.signals stream, true, Subscriber.fresh, none⟩

section
variable (general : Converters) (handler : FaultHandler) (context : Context)

/-- The task goes on, or the response is made of a completion that is settled. -/
inductive Step : Subscription → Subscription → Prop where
  | send {signal : Signal} {rest : List Signal} {subscriber : Subscriber} {response : Option (Reply Body)} :
      Step ⟨signal :: rest, true, subscriber, response⟩ ⟨rest, true, subscriber.receive signal, response⟩
  | release {subscriber : Subscriber} {response : Option (Reply Body)} :
      Step ⟨[], true, subscriber, response⟩ ⟨[], false, subscriber.release, response⟩
  | resolve {signals : List Signal} {holds : Bool} {subscriber : Subscriber} :
      subscriber.completion ≠ .pending →
      Step ⟨signals, holds, subscriber, none⟩
        ⟨signals, holds, subscriber,
          some (general.render context handler (Observable.resultOf subscriber.completion))⟩

end

/-- What the completion will be once the task is through. -/
def outlook (subscription : Subscription) : Completion :=
  if subscription.holds then (subscription.signals.foldl Subscriber.receive subscription.subscriber).release.completion
  else subscription.subscriber.completion

/-- What there is still to do. -/
def size (subscription : Subscription) : Nat :=
  subscription.signals.length + (if subscription.holds then 1 else 0) + (if subscription.response.isNone then 1 else 0)

theorem outlook_settled {subscription : Subscription} (settled : subscription.subscriber.completion ≠ .pending) :
    subscription.outlook = subscription.subscriber.completion := by
  have same := Subscriber.completion_foldl_receive settled subscription.signals
  unfold outlook
  split
  · rw [Subscriber.release_settled (by rwa [same]), same]
  · rfl

variable {general : Converters} {handler : FaultHandler} {context : Context} {subscription next : Subscription}

theorem Step.size_lt (step : Step general handler context subscription next) : next.size < subscription.size := by
  cases step with
  | send => simp only [size, List.length_cons]; omega
  | release => simp [size]
  | resolve settled => simp [size]

theorem acc (general : Converters) (handler : FaultHandler) (context : Context) (subscription : Subscription) :
    Acc (fun next subscription => Step general handler context subscription next) subscription :=
  Subrelation.accessible Step.size_lt (InvImage.accessible size (Nat.lt_wfRel.wf.apply _))

/-- The task is bound for a completion, and a response that was made is made of it. -/
structure BoundFor (general : Converters) (handler : FaultHandler) (context : Context) (completion : Completion)
    (subscription : Subscription) : Prop where
  outlook : subscription.outlook = completion
  settled : subscription.holds = false → subscription.subscriber.completion ≠ .pending
  response : ∀ reply, subscription.response = some reply →
    reply = general.render context handler (Observable.resultOf completion)

namespace BoundFor

variable {completion : Completion}

theorem start (stream : List (Except Fault Value)) :
    BoundFor general handler context (Observable.outcome stream) (start stream) where
  outlook := rfl
  settled := nofun
  response := nofun

theorem step (bound : BoundFor general handler context completion subscription)
    (step : Step general handler context subscription next) :
    BoundFor general handler context completion next := by
  cases step with
  | send => exact ⟨bound.outlook, nofun, bound.response⟩
  | @release subscriber response => exact ⟨bound.outlook, fun _ => subscriber.settled_release, bound.response⟩
  | resolve settled =>
    refine ⟨bound.outlook, bound.settled, ?_⟩
    rintro reply made
    obtain rfl := Option.some.inj made
    -- what is settled is what the task is bound for
    rw [← bound.outlook, outlook_settled settled]

/-- Where nothing can go on, the response was made. -/
theorem at_rest (bound : BoundFor general handler context completion subscription)
    (rest : ∀ next, ¬ Step general handler context subscription next) :
    subscription.response = some (general.render context handler (Observable.resultOf completion)) := by
  obtain ⟨signals, holds, subscriber, response⟩ := subscription
  cases holds with
  | true =>
    cases signals with
    | nil => exact absurd .release (rest _)
    | cons signal others => exact absurd .send (rest _)
  | false =>
    cases response with
    | none => exact absurd (.resolve (bound.settled rfl)) (rest _)
    | some reply => exact congrArg some (bound.response reply rfl)

end BoundFor

/-- An item, a failure and an item that nobody asks for. -/
def broken : List (Except Fault Value) := [.ok (.text "a"), .error (.status .badRequest), .ok (.text "b")]

end Subscription

end Sluice

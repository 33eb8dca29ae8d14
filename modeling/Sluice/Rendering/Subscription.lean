import Sluice.Rendering.Plain

/-! Observables as results. A subscriber collects the items of an observable and resolves its completion once, with
the first terminal signal: to the failure, or to no item, the single item, or the list of all items. -/

set_option autoImplicit false

namespace Sluice

inductive Signal where
  | next (item : Value)
  | failed (cause : Fault)
  | completed

/-- What became of the promise to deliver a value. -/
inductive Completion where
  | pending
  | resolved (result : Except Fault Value)
  /-- The subscriber is gone without a terminal signal. -/
  | canceled

structure Subscriber where
  /-- Items so far, latest first. -/
  collected : List Value
  completion : Completion

namespace Subscriber

def fresh : Subscriber := ⟨[], .pending⟩

/-- The value of a completed list of items. -/
def valueOf : List Value → Value
  | [] => .unit
  | [item] => item
  | items => .list items

/-- Settles the completion, unless it is settled. -/
def settle (subscriber : Subscriber) (result : Except Fault Value) : Subscriber :=
  match subscriber.completion with
  | .pending => { subscriber with completion := .resolved result }
  | _ => subscriber

/-- Takes a signal. Items are kept while the completion is pending, and given up with the first end. -/
def receive (subscriber : Subscriber) (signal : Signal) : Subscriber :=
  match signal with
  | .next item =>
    match subscriber.completion with
    | .pending => { subscriber with collected := item :: subscriber.collected }
    | _ => subscriber
  | .failed cause => settle { subscriber with collected := [] } (.error cause)
  | .completed => settle { subscriber with collected := [] } (.ok (valueOf subscriber.collected.reverse))

/-- The subscriber goes away. -/
def release (subscriber : Subscriber) : Subscriber :=
  match subscriber.completion with
  | .pending => ⟨[], .canceled⟩
  | _ => subscriber

end Subscriber

namespace Observable

/-- The signals an observable sends: its items up to the first failure, then the end. -/
def signals : List (Except Fault Value) → List Signal
  | [] => [.completed]
  | .error cause :: _ => [.failed cause]
  | .ok item :: rest => .next item :: signals rest

/-- What a subscription to an observable resolves to. -/
def outcome (items : List (Except Fault Value)) : Completion :=
  ((signals items).foldl Subscriber.receive Subscriber.fresh).release.completion

def outline : Text.Outline := .record "Observable" [] true

/-- The result of a completion; a canceled one is a failure. -/
def resultOf : Completion → Except Fault Value
  | .resolved result => result
  | _ => .error (.internal "subscription ended without a signal")

end Observable

namespace Converter

/-- Subscribes to an observable and converts what it resolves to by a general chain. Failures go to the handler of
failures, so an accepted observable never fails. -/
def observable (general : Converters) (handler : FaultHandler) : Converter :=
  ⟨.closed "ObservableResponseConverter" [("general", general.outline), ("exception", handler.outline)],
    fun context value => .ok (match value with
      | .observable items =>
        .converted (.ok (general.render context handler (Observable.resultOf (Observable.outcome items))))
      | other => .fallthrough other)⟩

/-- Makes a converter for the values of a kind, if it knows the kind. -/
abbrev Provider := Value.Kind → Converters → FaultHandler → Option Converter

def observableProvider : Provider := fun kind general handler =>
  if kind = .observable then some (observable general handler) else none

/-- The converter of the first provider that knows the kind. -/
def find? (providers : List Provider) (kind : Value.Kind) (general : Converters)
    (handler : FaultHandler) : Option Converter :=
  providers.findSome? fun provider => provider kind general handler

end Converter

namespace Converters

/-- Observables of plain values, then the plain values themselves. -/
def standard (handler : FaultHandler) : Converters :=
  (Converter.find? [Converter.observableProvider] .observable builtin handler).toList ++
    [builtin.asConverter]

end Converters

end Sluice

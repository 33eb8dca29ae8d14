import Sluice.Proofs.Exchange.Concatenation
import Sluice.Proofs.Exchange.Delivery

/-! What a request is answered with. The first operation that sends a head or fails for good settles the response;
a head that cannot be built is an error that the handler may get over, unless it comes up at completion. What is
settled is what the engine gets, in whatever order the task and the engine go on. -/

set_option autoImplicit false

namespace Sluice

/-- The outcome of a request. -/
inductive Resolution where
  /-- The target is malformed. -/
  | refused
  | committed (head : Head)
  /-- The response was completed without a head of its own. -/
  | failed (cause : Fault)

namespace Resolution

def head : Resolution → Head
  | .refused => ⟨.badRequest, HeaderMap.empty⟩
  | .committed head => head
  | .failed cause => ⟨cause.statusCode, HeaderMap.empty⟩

/-- The head comes with a live body. -/
def streams : Resolution → Bool
  | .failed _ => false
  | _ => true

/-- Nothing but the end of the body follows the head. -/
def isEmpty : Resolution → Bool
  | .committed _ => false
  | _ => true

end Resolution

namespace Handler

/-- What an operation does to a response that is not settled: it settles it, or it is answered and leaves a
response behind, having read the clock so many times. -/
inductive Turn (α : Type) where
  | settles (resolution : Resolution)
  | answers (answer : α) (response : Outbound) (readings : Nat)

/-- A normal completion. -/
def completion (now : Instant) (response : Outbound) : Resolution :=
  match response.head now with
  | .ok head => .committed head
  | .error cause => .failed cause

/-- The head on its own, or before a first chunk. -/
def opening (now : Instant) (response : Outbound) : Turn (Except Fault Unit) :=
  match response.head now with
  | .ok head => .settles (.committed head)
  | .error cause => .answers (.error cause) response 1

/-- A body and the completion after it. -/
def writing (now : Instant) (response : Outbound) : Chunks → Turn (Except Fault Unit)
  | [] => .settles (completion now response)
  | .ok _ :: _ => opening now response
  | .error cause :: _ => .settles (.failed cause)

def turn (now : Instant) (response : Outbound) : (question : Ask) → Turn (Answer question)
  | .look => .answers response response 0
  | .setStatus status => .answers true { response with status := some status } 0
  | .editHeaders edit => .answers (.ok ()) { response with headers := edit response.headers } 0
  | .addCookie cookie =>
    .answers (.ok ()) { response with cookies := response.cookies.add cookie.name cookie } 0
  | .sendHeaders => opening now response
  | .writeWith body => writing now response body
  | .writeAndFlushWith bodies => writing now response bodies.flatten
  | .setComplete none => .settles (completion now response)
  | .setComplete (some cause) => .settles (.failed cause)
  | .note _ => .answers () response 0

/-- The outcome of a handler that has come so far without settling its response. -/
def settle (clock : Nat → Instant) : Script (Except Fault Unit) → Nat → Outbound → Resolution
  | .done (.ok ()), tick, response => completion (clock tick) response
  | .done (.error cause), _, _ => .failed cause
  | .ask question resume, tick, response =>
    match turn (clock tick) response question with
    | .settles resolution => resolution
    | .answers answer response readings => settle clock (resume answer) (tick + readings) response

/-- The outcome of a request. -/
def resolution (handler : Handler) (clock : Nat → Instant) (context : Context) (request : Request) :
    Resolution :=
  match Inbound.ofRequest context request with
  | .error _ => .refused
  | .ok inbound => settle clock (handler inbound) 0 Outbound.fresh

end Handler

namespace Scene

variable {scene after : Scene} {clock : Nat → Instant}

/-- No frame is there and none will come; the body ends cleanly. -/
structure Blank (scene : Scene) : Prop where
  empty : scene.pipe.buffer = []
  let_go : scene.pipe.holdsBody = false
  clean : scene.pipe.ended = true ∨ scene.pipe.finished = true
  heard : scene.listener.heard = [] ∨ scene.listener.heard = [.finish]

theorem Blank.congr (blank : scene.Blank) (pipe : after.pipe = scene.pipe)
    (listener : after.listener = scene.listener) : after.Blank := by
  constructor
  · rw [pipe, blank.empty]
  · rw [pipe, blank.let_go]
  · rw [pipe]
    exact blank.clean
  · rw [listener]
    exact blank.heard

theorem Blank.hears (blank : scene.Blank) (hears : Hears scene after) : after.Blank := by
  obtain @⟨pipe, after, listener, later, tick, hears⟩ := hears
  cases hears with
  | head taken =>
    obtain ⟨-, rfl⟩ := Pipe.takeHead?_some taken
    exact ⟨blank.empty, blank.let_go, blank.clean, blank.heard⟩
  | frame held more read present =>
    have heard : listener.heard = [] ∨ listener.heard = [.finish] := blank.heard
    have silent : listener.heard = [] := by
      rcases heard with silent | finish
      · exact silent
      · simp [finish] at more
    have empty : pipe.buffer = [] := blank.empty
    have let_go : pipe.holdsBody = false := blank.let_go
    have clean : pipe.ended = true ∨ pipe.finished = true := blank.clean
    rw [Pipe.read_nil empty] at read
    obtain ⟨rfl, rfl⟩ := Prod.mk.inj read
    refine ⟨empty, let_go, .inl (by simp [let_go]), .inr ?_⟩
    rcases clean with ended | finished
    · simp [silent, ended]
    · simp [silent, let_go, finished]

/-- The response is settled, and the engine gets what it is settled as. -/
structure Settled (resolution : Resolution) (scene : Scene) : Prop where
  sent : scene.Sent (resolution.head, resolution.streams)
  blank : resolution.isEmpty = true → scene.Blank

namespace Settled

variable {resolution : Resolution}

theorem hears (settled : scene.Settled resolution) (hears : Hears scene after) : after.Settled resolution :=
  ⟨settled.sent.hears hears, fun empty => (settled.blank empty).hears hears⟩

theorem answer (settled : scene.Settled resolution) (question : Writer.Ask) :
    (scene.answer clock question).2.Settled resolution := by
  refine ⟨settled.sent.answer clock question, fun empty => ?_⟩
  have blank := settled.blank empty
  cases question with
  | isOpen | now | note _ => exact blank.congr rfl rfl
  | call call => exact blank.congr (Pipe.take_let_go settled.sent.gone blank.let_go call) rfl

theorem dropWriter (settled : scene.Settled resolution) :
    Settled resolution { scene with pipe := scene.pipe.dropWriter } := by
  refine ⟨settled.sent.hangUp, fun empty => ?_⟩
  have blank := settled.blank empty
  rw [Pipe.dropWriter_sent settled.sent.gone]
  exact ⟨blank.empty, rfl, blank.clean, blank.heard⟩

end Settled

end Scene

namespace Handler

open Program Scene

variable {clock : Nat → Instant} {tick : Nat} {response : Outbound} {scene : Scene}

/-- The head of a refusal is out, and nothing else yet. -/
structure Refusing (scene : Scene) : Prop where
  sent : scene.Sent (Resolution.refused.head, true)
  empty : scene.pipe.buffer = []
  holds : scene.pipe.holdsBody = true
  silent : scene.listener.heard = []

theorem Refusing.hears {after : Scene} (refusing : Refusing scene) (hears : Hears scene after) :
    Refusing after := by
  have sent := refusing.sent.hears hears
  obtain @⟨pipe, after, listener, later, tick, hears⟩ := hears
  cases hears with
  | head taken =>
    obtain ⟨-, rfl⟩ := Pipe.takeHead?_some taken
    exact ⟨sent, refusing.empty, refusing.holds, refusing.silent⟩
  | frame held more read present =>
    have empty : pipe.buffer = [] := refusing.empty
    have holds : pipe.holdsBody = true := refusing.holds
    have unended : pipe.ended = false := by
      cases ended : pipe.ended with
      | false => rfl
      | true => exact absurd (refusing.sent.ended ended) (by simp [holds])
    rw [Pipe.read_nil empty] at read
    simp [unended, holds, present.symm] at read

end Handler

namespace Delivery

variable {clock : Nat → Instant} {resolution : Resolution} {delivery next : Delivery}

/-- The delivery comes to a response settled in one way. -/
inductive Bound (clock : Nat → Instant) (resolution : Resolution) : Delivery → Prop where
  | running {program : Writing Unit} {scene : Scene} :
      program.Ensures (Scene.world clock) (fun _ after => after.Settled resolution) scene →
      Bound clock resolution ⟨program, false, scene⟩
  | ended {program : Writing Unit} {scene : Scene} :
      scene.Settled resolution → Bound clock resolution ⟨program, true, scene⟩

theorem Bound.step (bound : Bound clock resolution delivery) (step : Step clock delivery next) :
    Bound clock resolution next := by
  cases step with
  | work work =>
    cases work with
    | answer free =>
      obtain ⟨ensured⟩ := bound
      exact .running (ensured _ _ ⟨_, .refl, free, rfl⟩)
    | close free =>
      obtain ⟨settled⟩ := bound
      exact .ended (Scene.Settled.dropWriter settled)
  | hear hears =>
    cases bound with
    | running ensured => exact .running (Scene.ensures_hears Scene.Settled.hears ensured hears)
    | ended settled => exact .ended (settled.hears hears)

/-- Where nothing can go on, the engine has what the response was settled as. -/
theorem Bound.at_rest (bound : Bound clock resolution delivery) (sound : delivery.Sound)
    (rest : ∀ next, ¬ Step clock delivery next) :
    delivery.ended = true ∧ delivery.scene.listener.responses = [(resolution.head, resolution.streams)] ∧
      .finish ∈ delivery.scene.listener.heard ∧
      (resolution.isEmpty = true → delivery.scene.listener.heard = [.finish]) := by
  obtain ⟨ended, response, -, responses, finish⟩ := sound.at_rest rest
  cases bound with
  | running => cases ended
  | ended settled =>
    obtain rfl := settled.sent.unique responses
    refine ⟨rfl, responses, finish, fun empty => ?_⟩
    rcases (settled.blank empty).heard with silent | heard
    · simp [silent] at finish
    · exact heard

/-- At no time has the engine another response, as there is always a way to the end. -/
theorem Bound.responses (bound : Bound clock resolution delivery) (sound : delivery.Sound) :
    delivery.scene.listener.responses <+: [(resolution.head, resolution.streams)] := by
  obtain ⟨last, steps, rest⟩ := comes_to_rest (acc clock delivery)
  have bound := kept_throughout steps bound Bound.step
  have sound := kept_throughout steps sound Sound.step
  rw [← (bound.at_rest sound rest).2.1]
  exact responses_grow steps

def plainRequest : Request where
  method := "GET"
  uri := ⟨none, none, "/", none⟩
  version := "HTTP/1.1"
  headers := HeaderMap.empty
  body := []
  context := none

/-- The request with an escape that is cut off. -/
def cutRequest : Request := { plainRequest with uri := ⟨none, none, "/%4", none⟩ }

def allowed : HeaderMap :=
  HeaderMap.empty.append ⟨"allow", by decide, by decide, by decide⟩ ⟨Bytes.ofText "GET", by decide⟩

end Delivery

end Sluice

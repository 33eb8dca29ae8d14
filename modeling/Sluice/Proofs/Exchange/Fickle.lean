import Sluice.Proofs.Exchange.Steady

/-! A body written over a writer that answers as it likes. The write stops where the writer first refuses something, so
the writer gets a beginning of the calls that one which takes everything would get. -/

set_option autoImplicit false

namespace Sluice

namespace Writer

/-- A writer that answers as it likes, with the calls that it got. -/
def fickle : World interface (List Call)
  | .call call, calls, _, after => after = calls ++ [call]
  | .isOpen, calls, _, after | .now, calls, _, after | .note _, calls, _, after => after = calls

def call? : Exchange interface → Option Call
  | ⟨.call call, _⟩ => some call
  | _ => none

/-- The calls in a trace. -/
def called (trace : List (Exchange interface)) : List Call := trace.filterMap call?

/-- Every trace is one that this writer may give. -/
theorem fickle_gives (calls : List Call) (trace : List (Exchange interface)) :
    fickle.Gives calls trace (calls ++ called trace) := by
  induction trace generalizing calls with
  | nil => simpa [called] using World.Gives.silence
  | cons exchange rest ih =>
    obtain ⟨question, answer⟩ := exchange
    cases question with
    | call call =>
      have given := ih (calls ++ [call])
      rw [List.append_assoc] at given
      exact .answer rfl given
    | isOpen | now | note line => exact .answer rfl (ih calls)

section
variable {α : Type} {post : α → List Call → Prop} {calls : List Call}

/-- If every run to the end makes a beginning of the calls that are due, so does a run that is stopped on the way. -/
theorem called_of_ensures {due : List Call} {program rest : Writing α} {trace : List (Exchange interface)}
    (ensured : program.Ensures fickle (fun _ calls => calls <+: due) [])
    (run : program.Reaches trace rest) : called trace <+: due := by
  obtain ⟨more, value, run⟩ := run.extend
  have begun : called (trace ++ more) <+: due := ensured.of_gives run (fickle_gives [] _)
  rw [called, List.filterMap_append] at begun
  exact (List.prefix_append _ _).trans begun

@[simp] theorem ensures_fickle_call (call : Call) (resume : Except Fault Unit → Writing α) :
    (Program.ask (I := interface) (.call call) resume).Ensures fickle post calls ↔
      ∀ outcome, (resume outcome).Ensures fickle post (calls ++ [call]) := by
  simp [Program.ensures_ask, fickle]

@[simp] theorem ensures_fickle_now (resume : Instant → Writing α) :
    (Program.ask (I := interface) .now resume).Ensures fickle post calls ↔
      ∀ now, (resume now).Ensures fickle post calls := by
  simp [Program.ensures_ask, fickle]

@[simp] theorem ensures_fickle_isOpen (resume : Bool → Writing α) :
    (Program.ask (I := interface) .isOpen resume).Ensures fickle post calls ↔
      ∀ isOpen, (resume isOpen).Ensures fickle post calls := by
  simp [Program.ensures_ask, fickle]

end

end Writer

namespace Outbound

open Program Writer

variable {response : Outbound} {opening calls : List Call}

/-- The calls with which the head goes out, which is the same at all times: one, or none if it is out. -/
inductive Opens (response : Outbound) : List Call → Prop where
  | sent : response.phase = .committed → Opens response []
  | due {head : Head} : response.phase = .initial → (∀ now, response.head now = .ok head) →
      Opens response [.head head]

theorem Opens.going (opens : response.Opens opening) : response.phase ≠ .complete := by
  cases opens with
  | sent phase | due phase => simp [phase]

/-- How far a write has come: the calls are a beginning of those that are due, and if all went well only the opening
can be left of them. -/
structure Partway (due : List Call) (result : Except Fault Unit × Outbound) (calls : List Call) : Prop where
  begun : calls <+: due
  through : result.1 = .ok () → ∃ opening, result.2.Opens opening ∧ calls ++ opening = due

/-- An error leaves the rest of the calls undone. -/
theorem Partway.stop {due : List Call} {cause : Fault} {stopped : Outbound}
    (partway : Partway due (.error cause, stopped) calls) (more : List Call) :
    Partway (due ++ more) (.error cause, stopped) calls where
  begun := partway.begun.trans (List.prefix_append due more)
  through := nofun

theorem sendHeaders_fickle (opens : response.Opens opening) :
    response.sendHeaders.Ensures fickle (fun result after =>
      after = calls ++ opening ∧ result.2.phase = phaseAfter .committed result.1) calls := by
  unfold sendHeaders
  cases opens with
  | sent committed => simp [committed, phaseAfter]
  | due initial built =>
    simp only [initial, built, ensures_fickle_now, ensures_fickle_call]
    rintro now (cause | done) <;> exact ⟨rfl, rfl⟩

theorem writeData_fickle (opens : response.Opens opening) (bytes : Bytes) :
    (response.writeData bytes).Ensures fickle (Partway (calls ++ opening ++ [.data bytes])) calls := by
  rw [writeData_eq]
  refine ensures_goOn (sendHeaders_fickle opens) ?_ ?_
  · rintro cause refused after ⟨rfl, -⟩
    exact ⟨List.prefix_append _ _, nofun⟩
  · rintro sent after ⟨rfl, committed⟩
    rw [ensures_fickle_call]
    rintro (cause | done)
    · exact ⟨List.prefix_rfl, nofun⟩
    · exact ⟨List.prefix_rfl, fun _ => ⟨[], .sent committed, List.append_nil _⟩⟩

theorem forwardChunks_fickle (opens : response.Opens opening) (data : List Bytes) :
    (response.forwardChunks (data.map .ok)).Ensures fickle
      (Partway (calls ++ opening ++ data.map .data)) calls := by
  induction data generalizing response opening calls with
  | nil => exact ⟨by simp, fun _ => ⟨opening, opens, by simp⟩⟩
  | cons bytes rest ih =>
    have due : calls ++ opening ++ (bytes :: rest).map .data =
        calls ++ opening ++ [.data bytes] ++ rest.map .data := by simp
    rw [due, List.map_cons, forwardChunks_ok]
    refine ensures_goOn (writeData_fickle opens bytes) (fun _ _ _ partway => partway.stop _) ?_
    intro sent after partway
    obtain ⟨left, opens, made⟩ := partway.through rfl
    rw [← made]
    exact ih opens

theorem complete_fickle (opens : response.Opens opening) :
    (response.setComplete none).Ensures fickle (fun _ after => after <+: calls ++ opening ++ [.close]) calls := by
  unfold setComplete
  cases phase : response.phase with
  | complete => exact absurd phase opens.going
  | initial | committed =>
    rw [ensures_fickle_isOpen]
    rintro (shut | isOpen)
    · exact (List.prefix_append _ _).trans (List.prefix_append _ _)
    · refine (sendHeaders_fickle opens).bind ?_
      rintro ⟨outcome, sent⟩ after ⟨rfl, phase⟩
      cases outcome with
      | ok done =>
        rw [ensures_fickle_call]
        exact fun _ => List.prefix_rfl
      | error cause =>
        -- the head went out and was refused, so there is nothing to abort
        have complete : sent.phase = .complete := phase
        simp only [complete]
        exact List.prefix_append _ _

/-- Whatever a writer answers to a body that does not fail, it gets a beginning of the head, the chunks and the close,
in this order. -/
theorem writeWith_fickle (opens : response.Opens opening) (data : List Bytes) :
    (response.writeWith (data.map .ok)).Ensures fickle
      (fun _ after => after <+: calls ++ opening ++ data.map .data ++ [.close]) calls := by
  rw [writeWith, forward_going opens.going, finishAfter_eq]
  refine ensures_goOn (forwardChunks_fickle opens data) ?_ ?_
  · intro cause stopped after partway
    exact partway.begun.trans (List.prefix_append _ _)
  · intro forwarded after partway
    obtain ⟨left, opens, made⟩ := partway.through rfl
    rw [← made]
    exact (complete_fickle opens).bind fun _ _ begun => begun

end Outbound

end Sluice

import Sluice.Proofs.Exchange.Course

/-! Sequences of operations on a response, each run to its end over a writer that answers as it likes. What an operation
does to the fields it does before it goes to the writer; after that only the phase changes, and it never goes back.
If the writer takes a head, it is the one that the fields give at the time which was read just before. -/

set_option autoImplicit false

namespace Sluice

open Relation (ReflGen ReflTransGen)

inductive Phase.Moves : Phase → Phase → Prop where
  | commit : Moves .initial .committed
  | finish : Moves .committed .complete
  | fail : Moves .initial .complete

namespace Phase

variable {first last : Phase}

theorem Moves.leaves_initial (moves : Moves first last) : last ≠ .initial := by
  cases moves <;> exact nofun

theorem initial_of_moves (moves : ReflTransGen Moves first last) (initial : last = .initial) : first = .initial := by
  cases moves with
  | refl => exact initial
  | tail _ moves => exact absurd initial moves.leaves_initial

end Phase

namespace Outbound

open Program Writer

/-- The writer took the head, and the time was read just before. -/
def Commits (trace : List (Exchange Writer.interface)) (now : Instant) (head : Head) : Prop :=
  ∃ before after, trace = before ++ ⟨.now, now⟩ :: ⟨.call (.head head), .ok ()⟩ :: after

theorem Commits.append {trace : List (Exchange Writer.interface)} {now : Instant} {head : Head}
    (commits : Commits trace now head) (before after : List (Exchange Writer.interface)) :
    Commits (before ++ trace ++ after) now head := by
  obtain ⟨earlier, later, rfl⟩ := commits
  exact ⟨before ++ earlier, later ++ after, by simp⟩

/-- How far an operation is with the response that it took to the writer. -/
structure Goes (taken current : Outbound) (history : List (Exchange Writer.interface)) : Prop where
  fields : current = { taken with phase := current.phase }
  moves : ReflTransGen Phase.Moves taken.phase current.phase
  accepted : ∀ head, ⟨.call (.head head), .ok ()⟩ ∈ history →
    current.phase ≠ .initial ∧ ∃ now, Commits history now head ∧ taken.head now = .ok head

namespace Goes

variable {taken current : Outbound} {history : List (Exchange Writer.interface)}

theorem start (response : Outbound) : Goes response response [] where
  fields := rfl
  moves := .refl
  accepted := nofun

theorem head_eq (goes : Goes taken current history) (now : Instant) : current.head now = taken.head now := by
  rw [goes.fields]
  rfl

/-- An answer that takes no head may move the phase, and nothing else. -/
theorem next (goes : Goes taken current history) {phase : Phase} (moves : ReflGen Phase.Moves current.phase phase)
    {exchange : Exchange Writer.interface} (plain : ∀ head, exchange ≠ ⟨.call (.head head), .ok ()⟩) :
    Goes taken { current with phase } (history ++ [exchange]) where
  fields := by rw [goes.fields]
  moves := goes.moves.trans moves.to_reflTransGen
  accepted head member := by
    rcases List.mem_append.1 member with earlier | last
    · obtain ⟨left, now, commits, built⟩ := goes.accepted head earlier
      refine ⟨?_, now, by simpa using commits.append [] [exchange], built⟩
      cases moves with
      | refl => exact left
      | single moves => exact moves.leaves_initial
    · exact absurd (List.mem_singleton.1 last).symm (plain head)

/-- The head that is built goes to the writer. -/
theorem send (goes : Goes taken current history) (initial : current.phase = .initial) {now : Instant} {head : Head}
    (built : current.head now = .ok head) (outcome : Except Fault Unit) :
    Goes taken { current with phase := phaseAfter .committed outcome }
      (history ++ [⟨.now, now⟩] ++ [⟨.call (.head head), outcome⟩]) := by
  have moves : Phase.Moves current.phase (phaseAfter .committed outcome) := by
    rw [initial]
    cases outcome with
    | ok done => exact .commit
    | error cause => exact .fail
  refine ⟨by rw [goes.fields], goes.moves.tail moves, ?_⟩
  intro other member
  refine ⟨moves.leaves_initial, ?_⟩
  rw [List.mem_append, List.mem_append] at member
  rcases member with (earlier | read) | last
  · -- in the initial phase no head was taken
    exact absurd initial (goes.accepted other earlier).1
  · cases List.mem_singleton.1 read
  · cases List.mem_singleton.1 last
    exact ⟨now, ⟨history, [], by simp⟩, goes.head_eq now ▸ built⟩

theorem carries (taken : Outbound) : Carries (World.free Writer.interface) (Goes taken) where
  unbuilt _ goes read _ := by
    subst read
    exact goes.next .refl nofun
  head := by
    intro response history now asked head outcome after initial goes read built given
    subst read
    subst given
    exact goes.send initial built outcome
  data := by
    intro response bytes history outcome after committed goes given
    subst given
    refine goes.next ?_ nofun
    rw [committed]
    cases outcome with
    | ok done => exact .refl
    | error cause => exact .single .finish
  isOpen _ goes given := by
    subst given
    exact goes.next .refl nofun
  shut going goes given := by
    subst given
    exact goes.next (.single (ends going)) nofun
  close committed goes given := by
    subst given
    exact goes.next (.single (ends (by simp [committed]))) nofun
  closeWith going goes given := by
    subst given
    exact goes.next (.single (ends going)) nofun
  note goes given := by
    subst given
    exact goes.next .refl nofun
where
  ends {phase : Phase} (going : phase ≠ .complete) : Phase.Moves phase .complete := by
    cases phase with
    | initial => exact .fail
    | committed => exact .finish
    | complete => exact absurd rfl going

end Goes

section
variable {question : Handler.Ask} {answer : Handler.Answer question} {response left : Outbound}
  {trace : List (Exchange Writer.interface)}

theorem perform_goes (run : (Handler.perform question response).Reaches trace (.done (answer, left))) :
    Goes (entered question response) left trace :=
  ((Goes.carries _).perform question response [] (.start _)).of_reaches run

/-- What changes the response by itself asks the writer nothing. -/
theorem entered_eq_of_asked (run : (Handler.perform question response).Reaches trace (.done (answer, left)))
    (asked : trace ≠ []) : entered question response = response := by
  cases question with
  | setStatus | editHeaders | addCookie => exact absurd run.eq_nil_of_done asked
  | _ => simp [entered, amend]

end

/-- The response goes through operations, one after another, and becomes the last one. -/
inductive Undergoes : Outbound → List (Exchange Handler.interface) → List (Exchange Writer.interface) → Outbound → Prop where
  | rest {response : Outbound} : Undergoes response [] [] response
  | perform {response middle last : Outbound} {question : Handler.Ask} {answer : Handler.Answer question}
      {operations : List (Exchange Handler.interface)} {trace more : List (Exchange Writer.interface)} :
      (Handler.perform question response).Reaches trace (.done (answer, middle)) →
      Undergoes middle operations more last →
      Undergoes response (⟨question, answer⟩ :: operations) (trace ++ more) last

namespace Undergoes

variable {first last : Outbound} {operations : List (Exchange Handler.interface)}
  {trace : List (Exchange Writer.interface)}

theorem moves (run : Undergoes first operations trace last) : ReflTransGen Phase.Moves first.phase last.phase := by
  induction run with
  | rest => exact .refl
  | perform step _ ih =>
    have moves := (perform_goes step).moves
    rw [entered_phase] at moves
    exact moves.trans ih

/-- Once the head is out, or its time is over, only the phase changes. -/
theorem frozen (run : Undergoes first operations trace last) (left : first.phase ≠ .initial) :
    last = { first with phase := last.phase } := by
  induction run with
  | rest => rfl
  | @perform response middle last _ _ _ _ _ step run ih =>
    have goes := perform_goes step
    rw [entered, if_neg left] at goes
    have later : middle.phase ≠ .initial := fun initial => left (Phase.initial_of_moves goes.moves initial)
    rw [ih later, goes.fields]

/-- Until then the response is what the operations made of it by themselves. -/
theorem amended (run : Undergoes first operations trace last) (initial : last.phase = .initial) :
    last = operations.foldl (fun response operation => amend operation.question response) first := by
  induction run with
  | rest => rfl
  | @perform response middle last question _ operations _ _ step run ih =>
    have goes := perform_goes step
    have between : middle.phase = .initial := Phase.initial_of_moves run.moves initial
    have before : response.phase = .initial := by
      rw [← entered_phase question]
      exact Phase.initial_of_moves goes.moves between
    have same : middle = amend question response := by
      have fields := goes.fields
      rw [entered, if_pos before, between, ← before, ← amend_phase question response] at fields
      exact fields
    rw [ih initial, same]
    rfl

end Undergoes

end Outbound

/-- A script takes a response through the operations that it asks for. -/
theorem Script.undergoes_iff {α : Type} (script : Script α) {response last : Outbound} {value : α}
    {trace : List (Exchange Writer.interface)} :
    (script.onResponse response).Reaches trace (.done (value, last)) ↔
      ∃ operations, Program.Reaches script operations (.done value) ∧
        Outbound.Undergoes response operations trace last := by
  induction script generalizing response trace with
  | done result =>
    constructor
    · intro run
      cases run
      exact ⟨[], .here, .rest⟩
    · rintro ⟨operations, asked, run⟩
      cases asked
      cases run
      exact .here
  | ask question resume ih =>
    change Program.Reaches ((Handler.perform question response).bind _) _ _ ↔ _
    rw [Program.reaches_bind_iff]
    constructor
    · rintro ⟨trace, ⟨answer, middle⟩, more, step, rest, rfl⟩
      obtain ⟨operations, asked, run⟩ := (ih answer).1 rest
      exact ⟨⟨question, answer⟩ :: operations, .step asked, .perform step run⟩
    · rintro ⟨operations, asked, run⟩
      cases asked with
      | step asked =>
        cases run with
        | perform step run => exact ⟨_, _, _, step, (ih _).2 ⟨_, asked, run⟩, rfl⟩

end Sluice

import Sluice.Proofs.Exchange.Listener
import Sluice.Proofs.Exchange.Operation

/-! A response and the streaming writer under it. Each has a state of its own, and the peer takes the response, reads
on or drops what it has at any time, also in the midst of an operation. The phase of the response tells all the same
where the writer is: it still holds its head, or it holds the body, or it is shut and stays so. So no call comes at
the wrong time, and all that a call can meet is a peer that is gone. -/

set_option autoImplicit false

namespace Sluice

namespace Pipe

variable {pipe after : Pipe}

/-- The writer is not open, and nothing opens it. -/
def Shut (pipe : Pipe) : Prop := pipe.isOpen = false ∧ (pipe.holdsHead = true → pipe.holdsBody = false)

/-- Where the writer is in a phase of the response. -/
def Stage : Phase → Pipe → Prop
  | .initial, pipe => pipe.holdsHead = true ∧ pipe.holdsBody = false
  | .committed, pipe => pipe.holdsHead = false ∧ pipe.slot ≠ .waiting ∧ pipe.holdsBody = true
  | .complete, pipe => pipe.Shut

/-- What the peer leaves alone, and what it does not bring back. -/
structure Moved (pipe after : Pipe) : Prop where
  holdsHead : after.holdsHead = pipe.holdsHead
  holdsBody : after.holdsBody = pipe.holdsBody
  receives : after.receives = true → pipe.receives = true
  waiting : after.slot = .waiting → pipe.slot = .waiting
  dropped : pipe.slot = .dropped → after.slot = .dropped

theorem moved_of_hears {listener later : Listener} (hears : Listener.Hears pipe listener after later) :
    pipe.Moved after := by
  cases hears with
  | head taken =>
    obtain ⟨ready, rfl⟩ := takeHead?_some taken
    exact ⟨rfl, rfl, id, nofun, fun dropped => by simp [ready] at dropped⟩
  | frame held more read present =>
    obtain rfl := read_after read
    exact ⟨rfl, rfl, id, id, id⟩

theorem moved_of_leaves {listener later : Listener} (leaves : Listener.Leaves pipe listener after later) :
    pipe.Moved after := by
  cases leaves with
  | body held => exact ⟨rfl, rfl, nofun, id, id⟩
  | response =>
    unfold dropHead
    split
    · exact ⟨rfl, rfl, id, nofun, fun _ => rfl⟩
    · exact ⟨rfl, rfl, nofun, nofun, fun _ => rfl⟩
    · exact ⟨rfl, rfl, id, id, id⟩

/-- A writer that is shut lacks what it would need to be open. -/
theorem shut_iff : pipe.Shut ↔
    pipe.holdsHead = true ∧ pipe.slot = .dropped ∧ pipe.holdsBody = false ∨
      pipe.holdsHead = false ∧ (pipe.holdsBody = false ∨ pipe.receives = false) := by
  unfold Shut isOpen
  cases pipe.holdsHead with
  | true => simp
  | false => simp [← Bool.and_eq_false_iff]

theorem Shut.moved (shut : pipe.Shut) (moved : pipe.Moved after) : after.Shut := by
  rw [shut_iff] at shut ⊢
  rw [moved.holdsHead, moved.holdsBody]
  refine shut.imp (fun ⟨holds, dropped, without⟩ => ⟨holds, moved.dropped dropped, without⟩) ?_
  rintro ⟨sent, either⟩
  exact ⟨sent, either.imp_right fun deaf => Bool.eq_false_iff.2 fun live =>
    Bool.false_ne_true (deaf.symm.trans (moved.receives live))⟩

/-- No move of the peer takes the writer elsewhere. -/
theorem Stage.moved {phase : Phase} (stage : pipe.Stage phase) (moved : pipe.Moved after) : after.Stage phase := by
  cases phase with
  | initial => exact ⟨moved.holdsHead.trans stage.1, moved.holdsBody.trans stage.2⟩
  | committed =>
    obtain ⟨sent, handed, holds⟩ := stage
    exact ⟨moved.holdsHead.trans sent, fun waiting => handed (moved.waiting waiting), moved.holdsBody.trans holds⟩
  | complete => exact Shut.moved stage moved

/-- No call opens a writer that is shut. -/
theorem Shut.take (shut : pipe.Shut) (call : Writer.Call) : (pipe.take call).2.Shut := by
  obtain ⟨holdsHead, holdsBody, finished, slot, receives, buffer, ended⟩ := pipe
  rw [shut_iff] at shut ⊢
  -- the peer is gone before the head, the body is let go, or the peer dropped the body
  rcases shut with ⟨rfl, rfl, rfl⟩ | ⟨rfl, rfl | rfl⟩
  · cases call <;> simp [Pipe.take, sendHead, writeData, Pipe.close, Pipe.closeWith]
  · cases call <;> simp [Pipe.take, sendHead, writeData, Pipe.close, Pipe.closeWith, finishBody]
  · cases call <;> cases holdsBody <;> simp [Pipe.take, sendHead, writeData, Pipe.close, Pipe.closeWith, finishBody]

end Pipe

namespace Writer

/-- A call that went well, or met a peer that is gone. -/
def Fair (outcome : Except Fault Unit) : Prop := outcome = .ok () ∨ outcome = .error .connectionClosed

/-- The call that a question makes, with what came of it. -/
def Ask.calls : (question : Ask) → Answer question → List (Call × Except Fault Unit)
  | .call made, outcome => [(made, outcome)]
  | .isOpen, _ | .now, _ | .note _, _ => []

end Writer

namespace Pipe

open Outbound Writer

variable {pipe after : Pipe} {outcome : Except Fault Unit}

/-- The head is handed over, or the writer is shut for good. -/
theorem Stage.head {head : Head} (stage : pipe.Stage .initial) (taken : pipe.take (.head head) = (outcome, after)) :
    after.Stage (phaseAfter .committed outcome) ∧ Fair outcome := by
  obtain ⟨holdsHead, holdsBody, finished, slot, receives, buffer, ended⟩ := pipe
  obtain ⟨rfl, rfl⟩ : holdsHead = true ∧ holdsBody = false := stage
  cases slot <;> obtain ⟨rfl, rfl⟩ := Prod.mk.inj taken <;> simp [phaseAfter, Stage, Shut, isOpen, Fair]

/-- The body takes a chunk as long as the peer holds it; else the writer lets go of it. -/
theorem Stage.data {bytes : Bytes} (stage : pipe.Stage .committed)
    (taken : pipe.take (.data bytes) = (outcome, after)) :
    after.Stage (phaseAfter .committed outcome) ∧ Fair outcome := by
  obtain ⟨holdsHead, holdsBody, finished, slot, receives, buffer, ended⟩ := pipe
  obtain ⟨rfl, handed, rfl⟩ : holdsHead = false ∧ slot ≠ .waiting ∧ holdsBody = true := stage
  cases receives <;> obtain ⟨rfl, rfl⟩ := Prod.mk.inj taken <;> simp [phaseAfter, Stage, Shut, isOpen, Fair, handed]

theorem Stage.close (stage : pipe.Stage .committed) (taken : pipe.take .close = (outcome, after)) :
    after.Stage .complete ∧ Fair outcome := by
  obtain ⟨holdsHead, holdsBody, finished, slot, receives, buffer, ended⟩ := pipe
  obtain ⟨rfl, -, rfl⟩ : holdsHead = false ∧ slot ≠ .waiting ∧ holdsBody = true := stage
  obtain ⟨rfl, rfl⟩ := Prod.mk.inj taken
  simp [finishBody, Stage, Shut, isOpen, Fair]

theorem Stage.closeWith {phase : Phase} {cause : Fault} (stage : pipe.Stage phase) (going : phase ≠ .complete)
    (taken : pipe.take (.closeWith cause) = (outcome, after)) : after.Stage .complete ∧ Fair outcome := by
  obtain ⟨holdsHead, holdsBody, finished, slot, receives, buffer, ended⟩ := pipe
  cases phase with
  | complete => exact absurd rfl going
  | initial =>
    obtain ⟨rfl, rfl⟩ : holdsHead = true ∧ holdsBody = false := stage
    cases slot <;> obtain ⟨rfl, rfl⟩ := Prod.mk.inj taken <;> simp [Stage, Shut, isOpen, Fair]
  | committed =>
    obtain ⟨rfl, -, rfl⟩ : holdsHead = false ∧ slot ≠ .waiting ∧ holdsBody = true := stage
    obtain ⟨rfl, rfl⟩ := Prod.mk.inj taken
    simp [Stage, Shut, isOpen, Fair]

/-- A writer found shut stays so. -/
theorem Stage.shut {phase : Phase} (stage : pipe.Stage phase) (closed : pipe.isOpen = false) :
    pipe.Stage .complete := by
  refine ⟨closed, fun holds => ?_⟩
  cases phase with
  | initial => exact stage.2
  | committed => exact absurd (holds.symm.trans stage.1) (by simp)
  | complete => exact stage.2 holds

end Pipe

/-- A writer with the peer at its far end, and what came of the calls made so far. -/
structure Line where
  pipe : Pipe
  listener : Listener
  calls : List (Writer.Call × Except Fault Unit)

namespace Line

open Outbound Writer

def fresh : Line := ⟨Pipe.fresh, Listener.fresh, []⟩

/-- The peer takes the response, reads on, or drops what it has. -/
inductive Moves : Line → Line → Prop where
  | hears {pipe after : Pipe} {listener later : Listener} {calls : List (Call × Except Fault Unit)} :
      Listener.Hears pipe listener after later → Moves ⟨pipe, listener, calls⟩ ⟨after, later, calls⟩
  | leaves {pipe after : Pipe} {listener later : Listener} {calls : List (Call × Except Fault Unit)} :
      Listener.Leaves pipe listener after later → Moves ⟨pipe, listener, calls⟩ ⟨after, later, calls⟩

/-- The writer answers, whatever the clock shows. -/
def Answers (question : Ask) (line : Line) (reply : Answer question) (after : Line) : Prop :=
  ∃ now pipe, line.pipe.answer now question = (reply, pipe) ∧
    after = ⟨pipe, line.listener, line.calls ++ question.calls reply⟩

/-- The world of a response: before each answer the peer moves as it likes. -/
def world : World interface Line := fun question line reply after =>
  ∃ ready, Relation.ReflTransGen Moves line ready ∧ Answers question ready reply after

variable {line after : Line} {phase : Phase}

theorem Moves.moved (moves : Moves line after) : line.pipe.Moved after.pipe := by
  cases moves with
  | hears hears => exact Pipe.moved_of_hears hears
  | leaves leaves => exact Pipe.moved_of_leaves leaves

theorem Moves.calls_eq (moves : Moves line after) : after.calls = line.calls := by
  cases moves <;> rfl

theorem Answers.shut {question : Ask} {reply : Answer question} (answers : Answers question line reply after)
    (shut : line.pipe.Shut) : after.pipe.Shut := by
  obtain ⟨now, pipe, given, rfl⟩ := answers
  obtain rfl : (line.pipe.answer now question).2 = pipe := congrArg Prod.snd given
  cases question with
  | call call => exact shut.take call
  | isOpen | now | note _ => exact shut

/-- The response in its phase and the writer agree on what was done. -/
structure Agrees (phase : Phase) (line : Line) : Prop where
  stage : line.pipe.Stage phase
  handed : phase = .committed → ∃ head, (.head head, .ok ()) ∈ line.calls
  fair : ∀ made ∈ line.calls, Fair made.2

namespace Agrees

theorem fresh : Agrees .initial Line.fresh where
  stage := ⟨rfl, rfl⟩
  handed := nofun
  fair _ member := absurd member List.not_mem_nil

theorem moves (agrees : Agrees phase line) (moves : Moves line after) : Agrees phase after where
  stage := agrees.stage.moved moves.moved
  handed := moves.calls_eq ▸ agrees.handed
  fair := moves.calls_eq ▸ agrees.fair

/-- A question that is no call leaves the line as it is; at most it ends the phase. -/
theorem looked (agrees : Agrees phase line) {next : Phase} (stage : line.pipe.Stage next)
    (same : next = .committed → phase = .committed) :
    Agrees next ⟨line.pipe, line.listener, line.calls ++ []⟩ where
  stage
  handed committed := by simpa using agrees.handed (same committed)
  fair := by simpa using agrees.fair

/-- After a call all agree again if it is fair and leads to the stage of the next phase. -/
theorem called (agrees : Agrees phase line) {next : Phase} {call : Call} {outcome : Except Fault Unit} {pipe : Pipe}
    (kept : pipe.Stage next ∧ Fair outcome)
    (handed : next = .committed → phase = .committed ∨ ∃ head, (Call.head head, Except.ok ()) = (call, outcome)) :
    Agrees next ⟨pipe, line.listener, line.calls ++ [(call, outcome)]⟩ where
  stage := kept.1
  handed committed := by
    rcases handed committed with earlier | ⟨head, same⟩
    · obtain ⟨head, member⟩ := agrees.handed earlier
      exact ⟨head, List.mem_append_left _ member⟩
    · exact ⟨head, by simp [same]⟩
  fair := List.forall_mem_append.2 ⟨agrees.fair, List.forall_mem_singleton.2 kept.2⟩

end Agrees

/-- Each step of an operation keeps to what is agreed, whatever the peer did before it. -/
theorem keeps_agrees : Keeps world Agrees := by
  -- what the peer does before the answer changes nothing that is agreed
  have ready {phase : Phase} {line ready : Line} (agrees : Agrees phase line)
      (moved : Relation.ReflTransGen Moves line ready) : Agrees phase ready :=
    kept_throughout moved agrees Agrees.moves
  refine {
    now := ?now, head := ?head, data := ?data, isOpen := ?isOpen, shut := ?shut, close := ?close,
    closeWith := ?closeWith, note := ?note }
  case now =>
    rintro line reply after agrees ⟨between, moved, now, pipe, given, rfl⟩
    obtain ⟨-, rfl⟩ := Prod.mk.inj given
    exact (ready agrees moved).looked (ready agrees moved).stage id
  case head =>
    rintro head line outcome after agrees ⟨between, moved, now, pipe, taken, rfl⟩
    replace agrees := ready agrees moved
    refine agrees.called (agrees.stage.head taken) fun committed => .inr ⟨head, ?_⟩
    cases outcome with
    | ok done => rfl
    | error cause => simp [phaseAfter] at committed
  case data =>
    rintro bytes line outcome after agrees ⟨between, moved, now, pipe, taken, rfl⟩
    replace agrees := ready agrees moved
    exact agrees.called (agrees.stage.data taken) fun _ => .inl rfl
  case isOpen =>
    rintro phase line after going agrees ⟨between, moved, now, pipe, given, rfl⟩
    obtain ⟨-, rfl⟩ := Prod.mk.inj given
    exact (ready agrees moved).looked (ready agrees moved).stage id
  case shut =>
    rintro phase line after going agrees ⟨between, moved, now, pipe, given, rfl⟩
    obtain ⟨closed, rfl⟩ := Prod.mk.inj given
    exact (ready agrees moved).looked ((ready agrees moved).stage.shut closed) nofun
  case close =>
    rintro line outcome after agrees ⟨between, moved, now, pipe, taken, rfl⟩
    replace agrees := ready agrees moved
    exact agrees.called (agrees.stage.close taken) nofun
  case closeWith =>
    rintro phase cause line outcome after going agrees ⟨between, moved, now, pipe, taken, rfl⟩
    replace agrees := ready agrees moved
    exact agrees.called (agrees.stage.closeWith going taken) nofun
  case note =>
    rintro phase note line reply after agrees ⟨between, moved, now, pipe, given, rfl⟩
    obtain ⟨-, rfl⟩ := Prod.mk.inj given
    exact (ready agrees moved).looked (ready agrees moved).stage id

/-- Every question finds an answer. -/
theorem world_answers (question : Ask) (line : Line) : world question line (line.pipe.answer (0 : Int) question).1
    ⟨(line.pipe.answer (0 : Int) question).2, line.listener,
      line.calls ++ question.calls (line.pipe.answer (0 : Int) question).1⟩ :=
  ⟨line, .refl, 0, _, rfl, rfl⟩

/-- What a program ensures of all its calls in the end holds of those made before it goes on. -/
theorem fair_of_ensures {α : Type} {program : Writing α}
    (ensured : program.Ensures world (fun _ after => ∀ made ∈ after.calls, Fair made.2) line) :
    ∀ made ∈ line.calls, Fair made.2 := by
  induction program generalizing line with
  | done value => exact ensured
  | ask question resume ih =>
    -- any answer will do to go on: calls are only added
    have fair := ih _ (ensured _ _ (world_answers question line))
    exact fun made member => fair made (List.mem_append_left _ member)

/-- What is ensured after every move of the peer is so before. -/
theorem ensures_moves {α : Type} {post : α → Line → Prop} {program : Writing α}
    (kept : ∀ {value line after}, post value line → Moves line after → post value after)
    (ensured : program.Ensures world post line) (moves : Moves line after) : program.Ensures world post after := by
  cases program with
  | done value => exact kept ensured moves
  | ask question resume =>
    -- the world has the peer move before it answers, so this is one of its ways
    rintro reply later ⟨ready, moved, answers⟩
    exact ensured reply later ⟨ready, .head moves moved, answers⟩

end Line

/-- What is done with a response: nothing at the moment, or an operation with the rest of it to come. -/
inductive Activity where
  | idle (response : Outbound)
  | busy (operation : Handler.Ask) (rest : Writing (Handler.Answer operation × Outbound))

/-- A response over a line. -/
structure Pairing where
  activity : Activity
  line : Line

namespace Pairing

open Writer

def fresh : Pairing := ⟨.idle Outbound.fresh, Line.fresh⟩

/-- An operation begins, gets an answer or comes to its end; in between the peer moves at any time. Nothing goes on
before a full pipe. -/
inductive Step : Pairing → Pairing → Prop where
  | begin {response : Outbound} {line : Line} (operation : Handler.Ask) :
      Step ⟨.idle response, line⟩ ⟨.busy operation (Handler.perform operation response), line⟩
  | answer {operation : Handler.Ask} {question : Ask}
      {resume : Answer question → Writing (Handler.Answer operation × Outbound)} {line after : Line}
      {reply : Answer question} :
      line.pipe.isFull = false → Line.Answers question line reply after →
      Step ⟨.busy operation (.ask question resume), line⟩ ⟨.busy operation (resume reply), after⟩
  | finish {operation : Handler.Ask} {result : Handler.Answer operation × Outbound} {line : Line} :
      line.pipe.isFull = false → Step ⟨.busy operation (.done result), line⟩ ⟨.idle result.2, line⟩
  | move {activity : Activity} {line after : Line} :
      Line.Moves line after → Step ⟨activity, line⟩ ⟨activity, after⟩

variable {pairing next : Pairing}

/-- Response and writer agree, or will when the operation under way is done. -/
def Sound : Pairing → Prop
  | ⟨.idle response, line⟩ => Line.Agrees response.phase line
  | ⟨.busy _ rest, line⟩ => rest.Ensures Line.world (fun result after => Line.Agrees result.2.phase after) line

theorem Sound.step (sound : pairing.Sound) (step : Step pairing next) : next.Sound := by
  cases step with
  | begin operation => exact Line.keeps_agrees.perform operation _ _ sound
  | answer free answers => exact sound _ _ ⟨_, .refl, answers⟩
  | finish free => exact sound
  | @move activity line after moves =>
    cases activity with
    | idle response => exact Line.Agrees.moves sound moves
    | busy operation rest => exact Line.ensures_moves Line.Agrees.moves sound moves

theorem Sound.fair (sound : pairing.Sound) : ∀ made ∈ pairing.line.calls, Fair made.2 := by
  obtain ⟨activity, line⟩ := pairing
  cases activity with
  | idle response => exact Line.Agrees.fair sound
  | busy operation rest =>
    exact Line.fair_of_ensures (Program.Ensures.mono sound fun result after agrees => agrees.fair)

/-- A writer that is shut stays so, whatever is done with the response. -/
theorem shut_step (shut : pairing.line.pipe.Shut) (step : Step pairing next) : next.line.pipe.Shut := by
  cases step with
  | begin operation => exact shut
  | answer free answers => exact answers.shut shut
  | finish free => exact shut
  | move moves => exact shut.moved moves.moved

/-- What the phase of a response tells of the writer between two operations, and how its calls come out at all times. -/
structure Agreement (pairing : Pairing) : Prop where
  initial : ∀ response, pairing.activity = .idle response → response.phase = .initial →
    pairing.line.pipe.holdsHead = true ∧ pairing.line.pipe.holdsBody = false
  committed : ∀ response, pairing.activity = .idle response → response.phase = .committed →
    (∃ head, (.head head, .ok ()) ∈ pairing.line.calls) ∧ pairing.line.pipe.holdsHead = false ∧
      pairing.line.pipe.slot ≠ .waiting ∧ pairing.line.pipe.holdsBody = true
  complete : ∀ response, pairing.activity = .idle response → response.phase = .complete →
    ∀ later, Relation.ReflTransGen Step pairing later → later.line.pipe.isOpen = false
  outcomes : ∀ call outcome, (call, outcome) ∈ pairing.line.calls →
    outcome = .ok () ∨ outcome = .error .connectionClosed
  no_internal : ∀ call detail, (call, .error (.internal detail)) ∉ pairing.line.calls

/-- In every state that operations on a response and moves of the peer can lead to, the response and the writer under
it agree. -/
theorem agrees (reached : Relation.ReflTransGen Step fresh pairing) : pairing.Agreement := by
  have sound : pairing.Sound := kept_throughout reached Line.Agrees.fresh Sound.step
  have outcomes := sound.fair
  have agreed {response : Outbound} (idle : pairing.activity = .idle response) :
      Line.Agrees response.phase pairing.line := by
    obtain ⟨activity, line⟩ := pairing
    obtain rfl : activity = .idle response := idle
    exact sound
  refine ⟨?initial, ?committed, ?complete, fun call outcome made => outcomes _ made, ?no_internal⟩
  case initial =>
    intro response idle phase
    have stage : pairing.line.pipe.Stage .initial := phase ▸ (agreed idle).stage
    exact stage
  case committed =>
    intro response idle phase
    have stage : pairing.line.pipe.Stage .committed := phase ▸ (agreed idle).stage
    exact ⟨(agreed idle).handed phase, stage⟩
  case complete =>
    intro response idle phase later steps
    have shut : pairing.line.pipe.Stage .complete := phase ▸ (agreed idle).stage
    exact (kept_throughout steps shut shut_step).1
  case no_internal =>
    intro call detail made
    rcases outcomes _ made with fine | closed
    · cases fine
    · cases closed

/-- The peer took the response and dropped the body before the first chunk came. -/
def abandoned : Pairing where
  activity := .idle { Outbound.fresh with phase := .complete }
  line := ⟨⟨false, false, false, .taken, false, [], false⟩, ⟨[(⟨.ok, HeaderMap.empty⟩, true)], false, []⟩,
    [(.head ⟨.ok, HeaderMap.empty⟩, .ok ()), (.data [0x61], .error .connectionClosed)]⟩

theorem reaches_abandoned : Relation.ReflTransGen Step fresh abandoned := by
  refine .head (.begin .sendHeaders) ?_
  refine .head (.answer rfl ⟨(0 : Int), _, rfl, rfl⟩) ?_
  refine .head (.answer rfl ⟨(0 : Int), _, rfl, rfl⟩) ?_
  refine .head (.finish rfl) ?_
  refine .head (.begin (.writeWith [.ok [0x61], .ok [0x62]])) ?_
  refine .head (.move (.hears (.head rfl))) ?_
  refine .head (.move (.leaves (.body rfl))) ?_
  refine .head (.answer rfl ⟨(0 : Int), _, rfl, rfl⟩) ?_
  exact .single (.finish rfl)

theorem abandoned_agrees :
    Relation.ReflTransGen Step fresh abandoned ∧
      (∀ later, Relation.ReflTransGen Step abandoned later → later.line.pipe.isOpen = false) ∧
      ∀ call detail, (call, .error (.internal detail)) ∉ abandoned.line.calls :=
  ⟨reaches_abandoned, (agrees reaches_abandoned).complete _ rfl rfl, (agrees reaches_abandoned).no_internal⟩

end Pairing

end Sluice

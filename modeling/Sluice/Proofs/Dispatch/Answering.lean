import Sluice.Proofs.Dispatch.Traffic

/-! How a dispatch comes to its answer. The pipe of an invocation that a strand holds is as it was made, or it has the
head ready; so the task is not held up by anyone, and once it has ended there is a head to take. Strands are therefore
never stuck, and as both the decorators and the handler are finite programs, they do not go on for ever. What a strand
answers is what its decorators came to. -/

set_option autoImplicit false

namespace Sluice

/-- Every question of a decorator has an answer. -/
theorem Flow.answer_nonempty (question : Flow.Ask) : Nonempty (Flow.Answer question) := by
  cases question with
  | handle request => exact ⟨.error Next.noHandler⟩
  | draw => exact ⟨Binary.nan⟩
  | openSpan span => exact ⟨(0 : Nat)⟩
  | discard | note | mark | record => exact ⟨()⟩

namespace Pipe

/-- The head lies ready. -/
def Handed (pipe : Pipe) : Prop := pipe.holdsHead = false ∧ ∃ head streams, pipe.slot = .ready head streams

variable {pipe : Pipe}

theorem answer_fresh (clock : Instant) (question : Writer.Ask) :
    (fresh.answer clock question).2 = fresh ∨ (fresh.answer clock question).2.Handed := by
  cases question with
  | isOpen | now | note => exact .inl rfl
  | call call =>
    cases call with
    | data bytes => exact .inl rfl
    | head | close | closeWith => exact .inr ⟨rfl, _, _, rfl⟩

theorem Handed.answer (handed : pipe.Handed) (clock : Instant) (question : Writer.Ask) :
    (pipe.answer clock question).2.Handed := by
  cases question with
  | isOpen | now | note => exact handed
  | call call =>
    obtain ⟨sent, head, streams, ready⟩ := handed
    obtain ⟨gone, slot, -⟩ := take_sent sent call
    exact ⟨gone, head, streams, slot.trans ready⟩

theorem handed_dropWriter (awaited : pipe = fresh ∨ pipe.Handed) : pipe.dropWriter.Handed := by
  rcases awaited with rfl | ⟨sent, head, streams, ready⟩
  · exact ⟨rfl, _, _, rfl⟩
  · rw [dropWriter_sent sent]
    exact ⟨sent, head, streams, ready⟩

end Pipe

namespace Invocation

variable {handler : Handler} {before after : Invocation} {change : Int}

/-- What a strand holds: the head is ready, or the task runs and nothing was sent. -/
def Awaited : Invocation → Prop
  | .entered _ => True
  | .running task => task.pipe = Pipe.fresh ∧ task.ended = false ∨ task.pipe.Handed
  | .dropped => False

theorem Awaited.works {clock : Nat → Instant} {before after : Delivery} (awaited : Awaited (.running before.task))
    (works : Delivery.Works clock before after) : Awaited (.running after.task) := by
  cases works with
  | @answer question resume scene free =>
    rcases awaited with ⟨fresh, -⟩ | handed
    · have fresh : scene.pipe = Pipe.fresh := fresh
      rcases Pipe.answer_fresh (clock scene.tick) question with same | handed
      · exact .inl ⟨by simpa [Delivery.task, Scene.answer, fresh] using same, rfl⟩
      · exact .inr (by simpa [Delivery.task, Scene.answer, fresh] using handed)
    · exact .inr (Pipe.Handed.answer handed (clock scene.tick) question)
  | close free => exact .inr (Pipe.handed_dropWriter (awaited.imp And.left id))

theorem Awaited.throughout {clock : Nat → Instant} {first last : Delivery}
    (awaited : Awaited (.running first.task)) (works : Relation.ReflTransGen (Delivery.Works clock) first last) :
    Awaited (.running last.task) := by
  induction works with
  | refl => exact awaited
  | tail _ works ih => exact ih.works works

theorem Awaited.turns (awaited : before.Awaited) (turns : before.Turns handler change after) : after.Awaited := by
  cases turns with
  | start context request => exact .inl ⟨rfl, rfl⟩
  | work works ended | finish works ended => exact awaited.works works

theorem Awaited.falls (awaited : before.Awaited) (falls : before.Falls after) : after.Awaited := by
  cases falls with
  | fall ended => exact .inr (Pipe.handed_dropWriter (awaited.imp And.left id))

/-- A task either gets smaller or ends. -/
theorem Turns.running {task : Task} (turns : Turns handler (.running task) change after) :
    task.ended = false ∧
      ((∃ question resume answer pipe, task.program = .ask question resume ∧
        after = .running ⟨resume answer, pipe, false⟩) ∨
      ∃ last : Task, last.ended = true ∧ after = .running last) := by
  cases turns with
  | work works ended =>
    cases works with
    | answer free => exact ⟨rfl, .inl ⟨_, _, _, _, rfl, rfl⟩⟩
    | close free => cases ended
  | finish works ended => exact ⟨ended_before works, .inr ⟨_, ended, rfl⟩⟩

def Changes (handler : Handler) (after before : Invocation) : Prop :=
  (∃ change, before.Turns handler change after) ∨ before.Falls after

theorem acc_ended (handler : Handler) {task : Task} (ended : task.ended = true) :
    Acc (Changes handler) (.running task) := by
  constructor
  rintro after (⟨change, turns⟩ | falls)
  · have going := turns.running.1
    rw [ended] at going
    cases going
  · cases falls with
    | fall going =>
      rw [ended] at going
      cases going

/-- An invocation changes finitely often: its program gets smaller with every answer. -/
theorem acc (handler : Handler) (invocation : Invocation) : Acc (Changes handler) invocation := by
  have running : ∀ program pipe, Acc (Changes handler) (.running ⟨program, pipe, false⟩) := by
    intro program
    induction program with
    | done value =>
      intro pipe
      constructor
      rintro after (⟨change, turns⟩ | falls)
      · rcases turns.running.2 with ⟨question, resume, answer, pipe, same, -⟩ | ⟨last, ended, rfl⟩
        · cases same
        · exact acc_ended handler ended
      · cases falls
        exact acc_ended handler rfl
    | ask question resume ih =>
      intro pipe
      constructor
      rintro after (⟨change, turns⟩ | falls)
      · rcases turns.running.2 with ⟨other, continuation, answer, pipe, same, rfl⟩ | ⟨last, ended, rfl⟩
        · cases same
          exact ih answer pipe
        · exact acc_ended handler ended
      · cases falls
        exact acc_ended handler rfl
  cases invocation with
  | dropped =>
    constructor
    rintro after (⟨change, turns⟩ | falls)
    · cases turns
    · cases falls
  | entered request =>
    constructor
    rintro after (⟨change, turns⟩ | falls)
    · cases turns with
      | start context request => exact running _ _
    · cases falls
  | running task =>
    obtain ⟨program, pipe, ended⟩ := task
    cases ended with
    | true => exact acc_ended handler rfl
    | false => exact running program pipe

end Invocation

namespace Stage

variable {handler : Handler}

/-- A strand changes by what it does and by what it suffers. -/
def Changes (handler : Handler) (after before : Stage) : Prop :=
  (∃ index heard freed change, before.Moves handler index heard freed change after) ∨
    ∃ freed change, before.Suffers freed change after

theorem acc_over (handler : Handler) {stage : Stage} (past : stage.IsOver) : Acc (Changes handler) stage := by
  constructor
  rintro after (⟨index, heard, freed, change, moves⟩ | ⟨freed, change, suffers⟩) <;> rcases past with rfl | ⟨reply, rfl⟩
  · cases moves
  · cases moves
  · cases suffers
  · cases suffers

theorem acc_calling {resume : Outcome → Flow Outcome}
    (resumed : ∀ outcome, Acc (Changes handler) (.deciding (resume outcome))) (request : Request)
    (invocation : Invocation) : Acc (Changes handler) (.calling request invocation resume) := by
  induction invocation.acc handler with
  | intro invocation _ ih =>
    constructor
    rintro after (⟨index, heard, freed, change, moves⟩ | ⟨freed, change, suffers⟩)
    · cases moves with
      | turn turns => exact ih _ (.inl ⟨_, turns⟩)
      | take taken => exact resumed _
    · cases suffers with
      | fall falls => exact ih _ (.inr falls)
      | abandonEntered | abandonRunning => exact acc_over handler (.inl rfl)

theorem acc_deciding (handler : Handler) (flow : Flow Outcome) : Acc (Changes handler) (.deciding flow) := by
  induction flow with
  | done outcome =>
    constructor
    rintro after (⟨index, heard, freed, change, moves⟩ | ⟨freed, change, suffers⟩)
    · cases moves with
      | answer => exact acc_over handler (.inr ⟨_, rfl⟩)
    · cases suffers with
      | abandonDeciding => exact acc_over handler (.inl rfl)
  | ask question resume ih =>
    constructor
    rintro after (⟨index, heard, freed, change, moves⟩ | ⟨freed, change, suffers⟩)
    · cases moves with
      | ask answer other => exact ih answer
      | enter => exact acc_calling ih _ _
    · cases suffers with
      | abandonDeciding => exact acc_over handler (.inl rfl)

/-- A strand changes finitely often, whatever it suffers. -/
theorem acc (handler : Handler) (stage : Stage) : Acc (Changes handler) stage := by
  cases stage with
  | deciding rest => exact acc_deciding handler rest
  | calling request invocation resume =>
    exact acc_calling (fun outcome => acc_deciding handler (resume outcome)) request invocation
  | answered reply => exact acc_over handler (.inr ⟨reply, rfl⟩)
  | abandoned => exact acc_over handler (.inl rfl)

end Stage

/-- What holds of a strand at all times: it stands where what it has heard leads it. -/
inductive Strand.Sound : Strand → Prop where
  | deciding {origin rest : Flow Outcome} {heard : List (Exchange Flow.interface)} :
      origin.Reaches heard rest → Sound ⟨origin, heard, .deciding rest⟩
  | calling {origin : Flow Outcome} {heard : List (Exchange Flow.interface)} {request : Request}
      {invocation : Invocation} {resume : Outcome → Flow Outcome} :
      origin.Reaches heard (.ask (I := Flow.interface) (.handle request) resume) → invocation.Awaited →
      Sound ⟨origin, heard, .calling request invocation resume⟩
  | answered {origin : Flow Outcome} {heard : List (Exchange Flow.interface)} {outcome : Outcome} :
      origin.Reaches heard (.done outcome) → Sound ⟨origin, heard, .answered (Stage.replyOf outcome)⟩
  | abandoned {origin : Flow Outcome} {heard : List (Exchange Flow.interface)} : Sound ⟨origin, heard, .abandoned⟩

/-- What a strand has answered is what its decorators came to. For a failure it is a response of the status of that
failure. -/
def Strand.Answers (strand : Strand) : Prop :=
  ∀ reply, strand.stage = .answered reply → ∃ outcome : Outcome,
    strand.origin.Reaches strand.heard (.done outcome) ∧
    (∀ response, outcome = .ok response → reply = response) ∧
    ∀ fault, outcome = .error fault → reply.status = fault.statusCode

namespace Strand.Sound

variable {handler : Handler} {index : Nat} {strand : Strand} {origin : Flow Outcome}
  {heard more : List (Exchange Flow.interface)} {before after : Stage} {freed : List Invocation} {change : Int}

theorem fresh (flow : Flow Outcome) : (Strand.fresh flow).Sound := .deciding .here

theorem moves (sound : Sound ⟨origin, heard, before⟩) (moves : before.Moves handler index more freed change after) :
    Sound ⟨origin, heard ++ more, after⟩ := by
  cases moves with
  | ask answer other =>
    obtain ⟨run⟩ := sound
    exact .deciding (run.answer answer)
  | enter =>
    obtain ⟨run⟩ := sound
    rw [List.append_nil]
    exact .calling run trivial
  | turn turns =>
    rw [List.append_nil]
    cases sound with
    | calling run awaited => exact .calling run (awaited.turns turns)
  | take taken same =>
    cases sound with
    | calling run awaited => exact .deciding (run.answer _)
  | answer =>
    obtain ⟨run⟩ := sound
    rw [List.append_nil]
    exact .answered run

theorem suffers (sound : Sound ⟨origin, heard, before⟩) (suffers : before.Suffers freed change after) :
    Sound ⟨origin, heard, after⟩ := by
  cases suffers with
  | fall falls =>
    cases sound with
    | calling run awaited => exact .calling run (awaited.falls falls)
  | abandonDeciding | abandonEntered | abandonRunning => exact .abandoned

theorem answers (sound : strand.Sound) : strand.Answers := by
  intro reply answered
  cases sound with
  | deciding | calling | abandoned => cases answered
  | @answered origin heard outcome run =>
    obtain rfl := Stage.answered.inj answered
    refine ⟨outcome, run, ?_, ?_⟩
    · rintro response rfl
      rfl
    · rintro fault rfl
      rfl

/-- An invocation that is waited for goes on, or its head can be taken. -/
theorem calling_moves {invocation : Invocation} (awaited : invocation.Awaited) (handler : Handler) (index : Nat)
    (request : Request) (resume : Outcome → Flow Outcome) :
    ∃ more freed change after,
      Stage.Moves handler index (.calling request invocation resume) more freed change after := by
  cases invocation with
  | dropped => cases awaited
  | entered entered => exact ⟨_, _, _, _, .turn (.start default entered)⟩
  | running task =>
    obtain ⟨program, pipe, ended⟩ := task
    rcases awaited with ⟨rfl, rfl⟩ | ⟨-, head, streams, ready⟩
    · -- nothing was sent, so the pipe is not full and the task can work
      let delivery : Delivery := ⟨program, false, Scene.fresh 0⟩
      cases program with
      | done value =>
        have works : Delivery.Works (fun _ => (0 : Int)) delivery _ := .close rfl
        exact ⟨_, _, _, _, .turn (.finish works rfl)⟩
      | ask question rest =>
        have works : Delivery.Works (fun _ => (0 : Int)) delivery _ := .answer rfl
        exact ⟨_, _, _, _, .turn (.work works rfl)⟩
    · exact ⟨_, _, _, _, .take (Pipe.takeHead?_ready ready) rfl⟩

/-- A strand that is not over can go on by itself. -/
theorem over_or_moves (sound : strand.Sound) (handler : Handler) (index : Nat) :
    strand.stage.IsOver ∨ ∃ more freed change after, strand.stage.Moves handler index more freed change after := by
  cases sound with
  | answered run => exact .inl (.inr ⟨_, rfl⟩)
  | abandoned => exact .inl (.inl rfl)
  | calling run awaited => exact .inr (calling_moves awaited handler index _ _)
  | @deciding origin rest heard run =>
    right
    cases rest with
    | done outcome => exact ⟨_, _, _, _, .answer⟩
    | ask question resume =>
      by_cases called : ∃ request, question = .handle request
      · obtain ⟨request, rfl⟩ := called
        exact ⟨_, _, _, _, .enter⟩
      · obtain ⟨answer⟩ := Flow.answer_nonempty question
        exact ⟨_, _, _, _, .ask answer fun request same => called ⟨request, same⟩⟩

end Strand.Sound

namespace Traffic

variable {handler : Handler} {stack : List (Decorator Flow (Reply Source))} {traffic next : Traffic}

def Sound (traffic : Traffic) : Prop := ∀ strand ∈ traffic.strands, strand.Sound

theorem Sound.strand {earlier later : List Strand} {before after : Strand} {alone others : List Invocation}
    {count changed : Int} (sound : Sound ⟨earlier ++ before :: later, alone, count⟩)
    (kept : before.Sound → after.Sound) : Sound ⟨earlier ++ after :: later, others, changed⟩ := by
  obtain ⟨first, rest⟩ := List.forall_mem_append.1 sound
  obtain ⟨holds, last⟩ := List.forall_mem_cons.1 rest
  exact List.forall_mem_append.2 ⟨first, List.forall_mem_cons.2 ⟨kept holds, last⟩⟩

theorem Sound.concat {strands : List Strand} {alone : List Invocation} {count : Int}
    (sound : Sound ⟨strands, alone, count⟩) (flow : Flow Outcome) : Sound ⟨strands ++ [.fresh flow], alone, count⟩ :=
  List.forall_mem_append.2 ⟨sound, List.forall_mem_singleton.2 (.fresh flow)⟩

theorem Sound.step (sound : traffic.Sound) (step : Step handler stack traffic next) : next.Sound := by
  cases step with
  | arrive context request => exact sound.concat _
  | branch flow => exact sound.concat flow
  | move moves => exact sound.strand fun strand => strand.moves moves
  | suffer suffers => exact sound.strand fun strand => strand.suffers suffers
  | go goes => exact sound

/-- Where one element of a list is changed, every other one stays. -/
theorem present_after_change {α : Type} {earlier later : List α} {before found : α} {index : Nat}
    (present : (earlier ++ before :: later)[index]? = some found) (after : α) :
    (earlier ++ after :: later)[index]? = some found ∨
      found = before ∧ (earlier ++ after :: later)[index]? = some after := by
  by_cases inside : index < earlier.length
  · rw [List.getElem?_append_left inside] at present ⊢
    exact .inl present
  · rw [List.getElem?_append_right (Nat.le_of_not_lt inside)] at present ⊢
    generalize index - earlier.length = place at present ⊢
    cases place with
    | zero => exact .inr ⟨(Option.some.inj present).symm, rfl⟩
    | succ place => exact .inl present

/-- A step keeps a strand where it is and what it has heard; it changes by what it does and suffers alone. -/
theorem Step.strand (step : Step handler stack traffic next) {index : Nat} {strand : Strand}
    (present : traffic.strands[index]? = some strand) :
    ∃ more stage, next.strands[index]? = some ⟨strand.origin, strand.heard ++ more, stage⟩ ∧
      (stage = strand.stage ∨ Stage.Changes handler stage strand.stage) := by
  have same : ∀ {strands : List Strand}, strands[index]? = some strand →
      strands[index]? = some ⟨strand.origin, strand.heard ++ [], strand.stage⟩ := by
    intro strands present
    rwa [List.append_nil]
  have concat : ∀ other, (traffic.strands ++ [other])[index]? = some strand := by
    intro other
    obtain ⟨bound, -⟩ := List.getElem?_eq_some_iff.1 present
    rwa [List.getElem?_append_left bound]
  cases step with
  | arrive context request => exact ⟨[], strand.stage, same (concat _), .inl rfl⟩
  | branch flow => exact ⟨[], strand.stage, same (concat _), .inl rfl⟩
  | @move earlier later origin heard more before after alone freed count change moves =>
    rcases present_after_change present ⟨origin, heard ++ more, after⟩ with kept | ⟨rfl, changed⟩
    · exact ⟨[], strand.stage, same kept, .inl rfl⟩
    · exact ⟨more, after, changed, .inr (.inl ⟨_, _, _, _, moves⟩)⟩
  | @suffer earlier later origin heard before after alone freed count change suffers =>
    rcases present_after_change present ⟨origin, heard, after⟩ with kept | ⟨rfl, changed⟩
    · exact ⟨[], strand.stage, same kept, .inl rfl⟩
    · exact ⟨[], after, by rwa [List.append_nil], .inr (.inr ⟨_, _, suffers⟩)⟩
  | go goes => exact ⟨[], strand.stage, same present, .inl rfl⟩

end Traffic

end Sluice

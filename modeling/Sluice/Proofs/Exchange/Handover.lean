import Sluice.Proofs.Exchange.Agreement

/-! A streaming writer that is called in any order, with a peer at the far end that moves as it likes. The first call
that makes a response decides which one the peer gets, and it gets no other; what is called after that can only fill or
end the body. A writer that was closed, or met a peer that is gone, holds nothing any more, and stays so. -/

set_option autoImplicit false

namespace Sluice

open Relation (ReflTransGen)

/-- The response that a call makes, if the head is still to be sent. -/
def Writer.Call.response? : Writer.Call → Option (Head × Bool)
  | .head made => some (made, true)
  | .data _ => none
  | .close => some (⟨.ok, HeaderMap.empty⟩, false)
  | .closeWith cause => some (⟨cause.statusCode, HeaderMap.empty⟩, false)

/-- A call that ends the writer: a close, or a write to a peer that is gone. -/
def Writer.Ends : Writer.Call × Except Fault Unit → Prop
  | (.close, _) | (.closeWith _, _) => True
  | (.head _, outcome) | (.data _, outcome) => outcome = .error .connectionClosed

namespace Pipe

variable {pipe after : Pipe}

/-- The writer holds neither the head nor the body. -/
def LetGo (pipe : Pipe) : Prop := pipe.holdsHead = false ∧ pipe.holdsBody = false

theorem letGo_of_ends (tidy : pipe.holdsHead = true → pipe.holdsBody = false) {call : Writer.Call}
    (ends : Writer.Ends (call, (pipe.take call).1)) : (pipe.take call).2.LetGo := by
  obtain ⟨holdsHead, holdsBody, finished, slot, receives, buffer, ended⟩ := pipe
  cases holdsHead with
  | true =>
    obtain rfl : holdsBody = false := tidy rfl
    cases call with
    | data bytes => cases ends
    | head head =>
      cases slot with
      | waiting => cases ends
      | ready | taken | dropped => exact ⟨rfl, rfl⟩
    | close | closeWith => cases slot <;> exact ⟨rfl, rfl⟩
  | false =>
    cases call with
    | head head => cases ends
    | data bytes =>
      cases holdsBody with
      | false => exact ⟨rfl, rfl⟩
      | true =>
        cases receives with
        | true => cases ends
        | false => exact ⟨rfl, rfl⟩
    | close | closeWith => cases holdsBody <;> exact ⟨rfl, rfl⟩

theorem LetGo.take (letGo : pipe.LetGo) (call : Writer.Call) : (pipe.take call).2.LetGo := by
  rw [take_let_go letGo.1 letGo.2]
  exact letGo

theorem LetGo.moved (letGo : pipe.LetGo) (moved : pipe.Moved after) : after.LetGo :=
  ⟨moved.holdsHead.trans letGo.1, moved.holdsBody.trans letGo.2⟩

/-- While the head is unsent, every call that makes a response sends it, and so does the writer that goes away. -/
theorem take_unsent (unsent : pipe.holdsHead = true) (bare : pipe.holdsBody = false) {call : Writer.Call}
    {response : Head × Bool} (makes : call.response? = some response) :
    (pipe.take call).2 = (pipe.sendHead response.1 response.2).2 := by
  cases call with
  | head head =>
    cases makes
    rfl
  | data bytes => cases makes
  | close =>
    cases makes
    obtain ⟨holdsHead, holdsBody, finished, slot, receives, buffer, ended⟩ := pipe
    cases unsent
    cases bare
    cases slot <;> rfl
  | closeWith cause =>
    cases makes
    simp [Pipe.take, Pipe.closeWith, headOnly, unsent]

theorem dropWriter_unsent (unsent : pipe.holdsHead = true) (bare : pipe.holdsBody = false) :
    pipe.dropWriter = (pipe.sendHead ⟨.internalServerError, HeaderMap.empty⟩ false).2 := by
  obtain ⟨holdsHead, holdsBody, finished, slot, receives, buffer, ended⟩ := pipe
  cases unsent
  cases bare
  cases slot <;> rfl

theorem sendHead_waiting (unsent : pipe.holdsHead = true) (waiting : pipe.slot = .waiting) (head : Head)
    (streams : Bool) : (pipe.sendHead head streams).2 =
      { pipe with holdsHead := false, slot := .ready head streams, holdsBody := streams, receives := streams,
                  ended := !streams } := by
  simp [sendHead, unsent, waiting]

theorem sendHead_dropped (unsent : pipe.holdsHead = true) (dropped : pipe.slot = .dropped) (head : Head)
    (streams : Bool) : (pipe.sendHead head streams).2 = { pipe with holdsHead := false } := by
  simp [sendHead, unsent, dropped]

theorem dropHead_waiting (waiting : pipe.slot = .waiting) : pipe.dropHead = { pipe with slot := .dropped } := by
  simp [dropHead, waiting]

theorem dropHead_ready {head : Head} {streams : Bool} (ready : pipe.slot = .ready head streams) :
    pipe.dropHead.slot = .dropped := by
  simp [dropHead, ready]

theorem dropHead_settled (settled : pipe.slot = .taken ∨ pipe.slot = .dropped) : pipe.dropHead = pipe := by
  unfold dropHead
  rcases settled with taken | dropped
  · rw [taken]
  · rw [dropped]

theorem take_head_sent (sent : pipe.holdsHead = false) (head : Head) :
    pipe.take (.head head) = (.error (.internal "response head already sent"), pipe) := by
  simp [Pipe.take, sendHead, sent]

/-- Nothing is open any more, and of the calls only a close goes well. -/
structure Closed (pipe : Pipe) : Prop where
  isOpen : pipe.isOpen = false
  head : ∀ head, pipe.take (.head head) = (.error (.internal "response head already sent"), pipe)
  data : ∀ bytes, pipe.take (.data bytes) = (.error .connectionClosed, pipe)
  closeWith : ∀ cause, pipe.take (.closeWith cause) = (.error .connectionClosed, pipe)

theorem LetGo.closed (letGo : pipe.LetGo) : pipe.Closed where
  isOpen := by simp [Pipe.isOpen, letGo.1, letGo.2]
  head := take_head_sent letGo.1
  data bytes := by simp [Pipe.take, writeData, letGo.1, letGo.2]
  closeWith cause := by simp [Pipe.take, Pipe.closeWith, letGo.1, letGo.2]

end Pipe

namespace Line

open Writer

def called (line : Line) (call : Call) : Line :=
  ⟨(line.pipe.take call).2, line.listener, line.calls ++ [(call, (line.pipe.take call).1)]⟩

def release (line : Line) : Line := { line with pipe := line.pipe.dropWriter }

/-- The writer is called or asked, or the peer moves. -/
inductive Step : Line → Line → Prop where
  | answer {question : Ask} {reply : Answer question} {line after : Line} :
      Answers question line reply after → Step line after
  | move {line after : Line} : Moves line after → Step line after

/-- What the first call says that makes a response. -/
def decided? (line : Line) : Option (Head × Bool) := line.calls.findSome? (·.1.response?)

/-- What the peer gets: what was decided, else the server error of a writer that goes away. -/
def resolution (line : Line) : Head × Bool := line.decided?.getD (⟨.internalServerError, HeaderMap.empty⟩, false)

variable {line after : Line} {response : Head × Bool}

theorem decided?_called (line : Line) (call : Call) : (line.called call).decided? = line.decided?.or call.response? := by
  simp [decided?, called]

theorem step_called (line : Line) (call : Call) : Step line (line.called call) := by
  have answers : Answers (.call call) line (line.pipe.take call).1 (line.called call) := ⟨(0 : Int), _, rfl, rfl⟩
  exact .answer answers

theorem steps_calls (calls : List Call) (line : Line) : ReflTransGen Step line (calls.foldl called line) := by
  induction calls generalizing line with
  | nil => exact .refl
  | cons call rest ih => exact .head (step_called line call) (ih _)

theorem Step.cases (step : Step line after) :
    after = line ∨ (∃ call, after = line.called call) ∨ Moves line after := by
  cases step with
  | move moves => exact .inr (.inr moves)
  | @answer question reply _ _ answers =>
    obtain ⟨now, pipe, given, rfl⟩ := answers
    cases question with
    | call call =>
      obtain ⟨rfl, rfl⟩ : (line.pipe.take call).1 = reply ∧ (line.pipe.take call).2 = pipe := Prod.mk.inj given
      exact .inr (.inl ⟨call, rfl⟩)
    | isOpen | now | note =>
      obtain ⟨-, rfl⟩ := Prod.mk.inj given
      exact .inl (by simp [Ask.calls])

/-- Nothing was made yet. The peer may have gone. -/
structure Untouched (line : Line) : Prop where
  holdsHead : line.pipe.holdsHead = true
  holdsBody : line.pipe.holdsBody = false
  buffer : line.pipe.buffer = []
  slot : line.pipe.slot = .waiting ∨ line.pipe.slot = .dropped
  listener : line.listener = Listener.fresh

/-- The peer has the response, or finds it; it has no other. -/
def Hands (response : Head × Bool) (line : Line) : Prop :=
  (line.pipe.slot = .ready response.1 response.2 ∧ line.listener.responses = []) ∨
    (line.pipe.slot = .taken ∧ line.listener.responses = [response])

/-- The body is at its end, and there was nothing before. -/
structure Bodiless (line : Line) : Prop where
  holdsBody : line.pipe.holdsBody = false
  buffer : line.pipe.buffer = []
  ended : line.pipe.ended = true
  heard : ∀ reading ∈ line.listener.heard, reading = .finish

/-- The response is made. A peer that is still there gets it, without a body if none goes with it. -/
structure Made (response : Head × Bool) (line : Line) : Prop where
  holdsHead : line.pipe.holdsHead = false
  hands : line.pipe.slot ≠ .dropped → line.Hands response
  bodiless : line.pipe.slot ≠ .dropped → response.2 = false → line.Bodiless

theorem Untouched.moves (untouched : line.Untouched) (moves : Moves line after) : after.Untouched := by
  obtain ⟨pipe, listener, calls⟩ := line
  obtain ⟨unsent, bare, buffer, slot, rfl⟩ := untouched
  cases moves with
  | hears hears =>
    cases hears with
    | head taken =>
      have ready := (Pipe.takeHead?_some taken).1
      rcases slot with waiting | dropped
      · cases waiting.symm.trans ready
      · cases dropped.symm.trans ready
    | frame held => cases held
  | leaves leaves =>
    cases leaves with
    | body held => cases held
    | response =>
      rcases slot with waiting | dropped
      · rw [Pipe.dropHead_waiting waiting]
        exact ⟨unsent, bare, buffer, .inr rfl, rfl⟩
      · rw [Pipe.dropHead_settled (.inr dropped)]
        exact ⟨unsent, bare, buffer, .inr dropped, rfl⟩

/-- The head goes to the peer, or is given up where the peer has gone. -/
theorem Untouched.made (untouched : line.Untouched) (response : Head × Bool)
    (calls : List (Call × Except Fault Unit)) :
    Made response ⟨(line.pipe.sendHead response.1 response.2).2, line.listener, calls⟩ := by
  rcases untouched.slot with waiting | dropped
  · rw [Pipe.sendHead_waiting untouched.holdsHead waiting]
    have unheard : ∀ reading ∈ line.listener.heard, reading = .finish := by
      rw [untouched.listener]
      exact List.forall_mem_nil _
    exact {
      holdsHead := rfl
      hands := fun _ => .inl ⟨rfl, congrArg Listener.responses untouched.listener⟩
      bodiless := fun _ without => ⟨without, untouched.buffer, by simp [without], unheard⟩ }
  · rw [Pipe.sendHead_dropped untouched.holdsHead dropped]
    exact ⟨rfl, fun alive => absurd dropped alive, fun alive => absurd dropped alive⟩

theorem Bodiless.read (bodiless : line.Bodiless) : line.pipe.read = (.finish, line.pipe) := by
  unfold Pipe.read
  rw [bodiless.buffer, bodiless.ended]
  rfl

theorem Bodiless.moves (bodiless : line.Bodiless) (moves : Moves line after) : after.Bodiless := by
  obtain ⟨pipe, listener, calls⟩ := line
  have read := bodiless.read
  obtain ⟨bare, buffer, ended, heard⟩ := bodiless
  cases moves with
  | hears hears =>
    cases hears with
    | head taken =>
      obtain ⟨-, rfl⟩ := Pipe.takeHead?_some taken
      exact ⟨bare, buffer, ended, heard⟩
    | frame held more reads =>
      obtain ⟨rfl, rfl⟩ := Prod.mk.inj (read.symm.trans reads)
      exact ⟨bare, buffer, ended, List.forall_mem_append.2 ⟨heard, by simp⟩⟩
  | leaves leaves =>
    cases leaves with
    | body held => exact ⟨bare, rfl, ended, heard⟩
    | response =>
      unfold Pipe.dropHead
      split
      · exact ⟨bare, buffer, ended, heard⟩
      · exact ⟨bare, rfl, ended, heard⟩
      · exact ⟨bare, buffer, ended, heard⟩

theorem Hands.moves (hands : line.Hands response) (moves : Moves line after) (alive : after.pipe.slot ≠ .dropped) :
    after.Hands response := by
  obtain ⟨pipe, listener, calls⟩ := line
  cases moves with
  | hears hears =>
    cases hears with
    | head taken =>
      obtain ⟨ready, rfl⟩ := Pipe.takeHead?_some taken
      rcases hands with ⟨same, none⟩ | ⟨already, -⟩
      · obtain ⟨head, streams⟩ := HeadSlot.ready.inj (same.symm.trans ready)
        exact .inr ⟨rfl, by simp [show listener.responses = [] from none, Prod.ext_iff, head, streams]⟩
      · cases already.symm.trans ready
    | frame held more read =>
      obtain rfl := Pipe.read_after read
      exact hands
  | leaves leaves =>
    cases leaves with
    | body held => exact hands
    | response =>
      rcases hands with ⟨ready, -⟩ | ⟨taken, responses⟩
      · -- a response that was not taken is lost with the peer
        exact absurd (Pipe.dropHead_ready ready) alive
      · rw [Pipe.dropHead_settled (.inl taken)]
        exact .inr ⟨taken, responses⟩

theorem Made.moves (made : line.Made response) (moves : Moves line after) : after.Made response where
  holdsHead := moves.moved.holdsHead.trans made.holdsHead
  hands alive := (made.hands fun dropped => alive (moves.moved.dropped dropped)).moves moves alive
  bodiless alive without := (made.bodiless (fun dropped => alive (moves.moved.dropped dropped)) without).moves moves

/-- No call makes another response. -/
theorem Made.called (made : line.Made response) (call : Call) : (line.called call).Made response := by
  obtain ⟨holdsHead, slot, -⟩ := Pipe.take_sent made.holdsHead call
  refine ⟨holdsHead, fun alive => ?hands, fun alive without => ?bodiless⟩
  case hands =>
    have hands := made.hands (slot ▸ alive)
    unfold Hands at hands
    rwa [← slot] at hands
  case bodiless =>
    have bodiless := made.bodiless (slot ▸ alive) without
    have same : (line.pipe.take call).2 = line.pipe := Pipe.take_let_go made.holdsHead bodiless.holdsBody call
    exact {
      holdsBody := (congrArg Pipe.holdsBody same).trans bodiless.holdsBody
      buffer := (congrArg Pipe.buffer same).trans bodiless.buffer
      ended := (congrArg Pipe.ended same).trans bodiless.ended
      heard := bodiless.heard }

theorem Untouched.called (untouched : line.Untouched) {call : Call} (makesNone : call.response? = none) :
    (line.called call).Untouched := by
  cases call with
  | head | close | closeWith => cases makesNone
  | data bytes =>
    obtain ⟨unsent, bare, buffer, slot, listener⟩ := untouched
    have same : (line.pipe.take (.data bytes)).2 = line.pipe := by simp [Pipe.take, Pipe.writeData, unsent, bare]
    exact {
      holdsHead := (congrArg Pipe.holdsHead same).trans unsent
      holdsBody := (congrArg Pipe.holdsBody same).trans bare
      buffer := (congrArg Pipe.buffer same).trans buffer
      slot := slot.imp (congrArg Pipe.slot same).trans (congrArg Pipe.slot same).trans
      listener }

/-- The line is as what was decided says, and holds nothing once it was ended. -/
structure Sound (line : Line) : Prop where
  untouched : line.decided? = none → line.Untouched
  made : ∀ response, line.decided? = some response → line.Made response
  ended : ∀ made ∈ line.calls, Ends made → line.pipe.LetGo

namespace Sound

theorem fresh : Sound Line.fresh where
  untouched _ := ⟨rfl, rfl, rfl, .inl rfl, rfl⟩
  made := nofun
  ended := List.forall_mem_nil _

theorem tidy (sound : line.Sound) (unsent : line.pipe.holdsHead = true) : line.pipe.holdsBody = false := by
  cases decided : line.decided? with
  | none => exact (sound.untouched decided).holdsBody
  | some response => exact absurd (unsent.symm.trans (sound.made response decided).holdsHead) (by simp)

theorem moves (sound : line.Sound) (moves : Moves line after) : after.Sound := by
  have same : after.decided? = line.decided? := congrArg (List.findSome? _) moves.calls_eq
  exact {
    untouched := fun decided => (sound.untouched (same ▸ decided)).moves moves
    made := fun response decided => (sound.made response (same ▸ decided)).moves moves
    ended := fun made member ends => (sound.ended made (moves.calls_eq ▸ member) ends).moved moves.moved }

theorem called (sound : line.Sound) (call : Call) : (line.called call).Sound where
  untouched decided := by
    rw [decided?_called, Option.or_eq_none_iff] at decided
    exact (sound.untouched decided.1).called decided.2
  made response decided := by
    rw [decided?_called, Option.or_eq_some_iff] at decided
    rcases decided with before | ⟨undecided, makes⟩
    · exact (sound.made response before).called call
    · have untouched := sound.untouched undecided
      have made := untouched.made response (line.called call).calls
      rwa [← Pipe.take_unsent untouched.holdsHead untouched.holdsBody makes] at made
  ended made member ends := by
    rcases List.mem_append.1 member with earlier | last
    · exact (sound.ended made earlier ends).take call
    · obtain rfl := List.mem_singleton.1 last
      exact Pipe.letGo_of_ends sound.tidy ends

theorem step (sound : line.Sound) (step : Step line after) : after.Sound := by
  rcases step.cases with rfl | ⟨call, rfl⟩ | moves
  · exact sound
  · exact sound.called call
  · exact sound.moves moves

theorem released (sound : line.Sound) : line.release.Made line.resolution := by
  unfold resolution
  cases decided : line.decided? with
  | none =>
    have untouched := sound.untouched decided
    have made := untouched.made (⟨.internalServerError, HeaderMap.empty⟩, false) line.calls
    rwa [← Pipe.dropWriter_unsent untouched.holdsHead untouched.holdsBody] at made
  | some response =>
    obtain ⟨gone, hands, bodiless⟩ := sound.made response decided
    rw [release, Pipe.dropWriter_sent gone]
    refine ⟨gone, hands, fun alive without => ?_⟩
    obtain ⟨-, buffer, ended, heard⟩ := bodiless alive without
    exact ⟨rfl, buffer, ended, heard⟩

end Sound

theorem letGo_step (letGo : line.pipe.LetGo) (step : Step line after) : after.pipe.LetGo := by
  rcases step.cases with rfl | ⟨call, rfl⟩ | moves
  · exact letGo
  · exact letGo.take call
  · exact letGo.moved moves.moved

theorem Hands.comes (hands : line.Hands response) :
    ∃ last, ReflTransGen Moves line last ∧ last.listener.responses = [response] := by
  obtain ⟨pipe, listener, calls⟩ := line
  rcases hands with ⟨ready, none⟩ | ⟨-, responses⟩
  · refine ⟨_, .single (.hears (.head (Pipe.takeHead?_ready ready))), ?_⟩
    simp [show listener.responses = [] from none]
  · exact ⟨_, .refl, responses⟩

/-- What calls in any order come to, also those that make no sense. -/
structure Handover (line : Line) : Prop where
  /-- The first call that makes a response decides what a peer gets that has not gone. -/
  decided : ∀ response, line.decided? = some response → line.pipe.slot ≠ .dropped → line.Hands response
  undecided : line.decided? = none → line.listener = Listener.fresh
  /-- Once the writer is gone the response comes to the peer, and no other ever does. -/
  comes : line.release.pipe.slot ≠ .dropped →
    ∃ last, ReflTransGen Moves line.release last ∧ last.listener.responses = [line.resolution]
  once : ∀ last, ReflTransGen Moves line.release last → last.pipe.slot ≠ .dropped → last.Hands line.resolution
  /-- A response that was made without a body has none. -/
  bodiless : line.resolution.2 = false → ∀ last, ReflTransGen Moves line.release last → last.pipe.slot ≠ .dropped →
    last.pipe.read = (.finish, last.pipe) ∧ ∀ reading ∈ last.listener.heard, reading = .finish
  /-- Another head fails, and changes nothing. -/
  second : line.decided? ≠ none → ∀ head,
    line.pipe.take (.head head) = (.error (.internal "response head already sent"), line.pipe)
  /-- After a close, or a write to a peer that is gone, the writer is closed for ever. -/
  closed : ∀ made ∈ line.calls, Ends made → ∀ later, ReflTransGen Step line later → later.pipe.Closed

/-- Whatever a writer is called with, it hands over one response, and once it is closed it stays so. -/
theorem hands_over_once (reached : ReflTransGen Step Line.fresh line) : line.Handover := by
  have sound : line.Sound := kept_throughout reached Sound.fresh Sound.step
  have made {last : Line} (steps : ReflTransGen Moves line.release last) : last.Made line.resolution :=
    kept_throughout steps sound.released Made.moves
  exact {
    decided := fun response decided => (sound.made response decided).hands
    undecided := fun undecided => (sound.untouched undecided).listener
    comes := fun alive => (sound.released.hands alive).comes
    once := fun last steps => (made steps).hands
    bodiless := fun without last steps alive => by
      have bodiless := (made steps).bodiless alive without
      exact ⟨bodiless.read, bodiless.heard⟩
    second := fun decided head => by
      obtain ⟨response, same⟩ := Option.ne_none_iff_exists'.1 decided
      exact Pipe.take_head_sent (sound.made response same).holdsHead head
    closed := fun made member ends later steps =>
      (kept_throughout steps (sound.ended made member ends) letGo_step).closed }

/-- Data before the head, two heads, and data after the close. -/
def misused : Line := [.data [0x61], .head ⟨.noContent, HeaderMap.empty⟩, .head ⟨.badRequest, HeaderMap.empty⟩,
  .data [0x62], .close, .data [0x63]].foldl called Line.fresh

theorem misused_hands_over :
    ReflTransGen Step Line.fresh misused ∧ misused.Hands (⟨.noContent, HeaderMap.empty⟩, true) ∧
      (∃ last, ReflTransGen Moves misused.release last ∧
        last.listener.responses = [(⟨.noContent, HeaderMap.empty⟩, true)]) ∧
      misused.pipe.take (.head ⟨.ok, HeaderMap.empty⟩) =
        (.error (.internal "response head already sent"), misused.pipe) ∧
      (∀ later, ReflTransGen Step misused later → later.pipe.Closed) ∧
      (Line.fresh.called .close).Hands (⟨.ok, HeaderMap.empty⟩, false) ∧
      (Line.fresh.called (.closeWith (.notImplemented "later"))).Hands (⟨.notImplemented, HeaderMap.empty⟩, false) ∧
      Line.fresh.release.Hands (⟨.internalServerError, HeaderMap.empty⟩, false) ∧
      Line.fresh.release.pipe.read = (.finish, Line.fresh.release.pipe) := by
  have reached : ReflTransGen Step Line.fresh misused := steps_calls _ _
  have handover := hands_over_once reached
  have dropped := hands_over_once (.refl : ReflTransGen Step Line.fresh Line.fresh)
  have shut := hands_over_once (.single (step_called Line.fresh .close))
  have aborted := hands_over_once (.single (step_called Line.fresh (.closeWith (.notImplemented "later"))))
  have closed : (Call.close, Except.ok ()) ∈ misused.calls := .tail _ (.tail _ (.tail _ (.tail _ (.head _))))
  exact ⟨reached, handover.decided _ rfl nofun, handover.comes nofun, handover.second nofun _,
    handover.closed _ closed trivial, shut.decided _ rfl nofun, aborted.decided _ rfl nofun,
    dropped.once _ .refl nofun, (dropped.bodiless rfl _ .refl nofun).1⟩

end Line

end Sluice

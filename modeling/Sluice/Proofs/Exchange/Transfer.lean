import Sluice.Proofs.Exchange.Listener
import Sluice.Proofs.Program

/-! A body on its way from a writer to an engine, with the steps of both sides in any order. The writing side sends a
head, then chunks, and ends by closing, by aborting with a cause or by going away. Closing and aborting take two
steps: the first marks the end or sends the cause, the second lets go of the body. What the engine hears is always
the beginning of what was told, and only a closed body ends without an error. -/

set_option autoImplicit false

namespace Sluice

inductive Ending where
  | closed
  | aborted (cause : Fault)
  | dropped
  deriving DecidableEq

namespace Ending

def faults : Ending → List Fault
  | .closed => []
  | .aborted cause => [cause, .connectionClosed]
  | .dropped => [.connectionClosed]

/-- What an engine hears after the chunks. -/
def last (ending : Ending) : List Pipe.Reading := ending.faults.map .fault ++ [.finish]

theorem faults_eq_nil {ending : Ending} : ending.faults = [] ↔ ending = .closed := by
  cases ending <;> simp [faults]

end Ending

namespace Pipe

/-- The first step of an ending call: all that it does but letting go of the body. -/
def beginEnd (pipe : Pipe) (call : Writer.Call) : Pipe :=
  { (pipe.take call).2 with holdsBody := pipe.holdsBody }

/-- The second step of an ending call. -/
def hangUp (pipe : Pipe) : Pipe := { pipe with holdsBody := false }

/-- After the head, the two steps make up the whole call. -/
theorem hangUp_beginEnd {pipe : Pipe} {call : Writer.Call} (sent : pipe.holdsHead = false)
    (ends : call = .close ∨ ∃ cause, call = .closeWith cause) :
    (pipe.beginEnd call).hangUp = (pipe.take call).2 := by
  obtain ⟨holdsHead, holdsBody, finished, slot, receives, buffer, ended⟩ := pipe
  cases sent
  rcases ends with rfl | ⟨cause, rfl⟩ <;> cases holdsBody <;> rfl

theorem beginEnd_close {pipe : Pipe} (sent : pipe.holdsHead = false) :
    pipe.beginEnd .close = { pipe with finished := pipe.finished || pipe.holdsBody } := by
  obtain ⟨holdsHead, holdsBody, finished, slot, receives, buffer, ended⟩ := pipe
  cases sent
  cases holdsBody <;> cases finished <;> rfl

theorem beginEnd_closeWith {pipe : Pipe} (sent : pipe.holdsHead = false) (cause : Fault) :
    pipe.beginEnd (.closeWith cause) =
      { pipe with buffer := if pipe.holdsBody && pipe.receives then pipe.buffer ++ [.error cause]
                            else pipe.buffer } := by
  obtain ⟨holdsHead, holdsBody, finished, slot, receives, buffer, ended⟩ := pipe
  cases sent
  cases holdsBody <;> cases receives <;> rfl

theorem take_data_ok {pipe after : Pipe} {bytes : Bytes} (taken : pipe.take (.data bytes) = (.ok (), after)) :
    pipe.receives = true ∧ after = { pipe with buffer := pipe.buffer ++ [.ok bytes] } := by
  simp only [take, writeData] at taken
  split at taken
  · split at taken <;> simp at taken
  · split at taken
    · next receives =>
      simp only [Prod.mk.injEq, true_and] at taken
      exact ⟨receives, taken.symm⟩
    · simp at taken

theorem take_data_error {pipe after : Pipe} {bytes : Bytes} {cause : Fault}
    (refused : pipe.take (.data bytes) = (.error cause, after)) :
    (pipe.holdsBody = false ∨ pipe.receives = false) ∧ after = { pipe with holdsBody := false } := by
  obtain ⟨holdsHead, holdsBody, finished, slot, receives, buffer, ended⟩ := pipe
  cases holdsHead <;> cases holdsBody <;> cases receives <;> simp_all [take, writeData]

end Pipe

/-- A pipe and its engine, with the chunks of the writes that did not fail and the end of the writing side. -/
structure Transfer where
  pipe : Pipe
  listener : Listener
  accepted : List Bytes
  ending : Option Ending

namespace Transfer

def fresh : Transfer := ⟨Pipe.fresh, Listener.fresh, [], none⟩

/-- The writing side may make its next call: the last one is through. -/
def CanWrite (transfer : Transfer) : Prop :=
  transfer.ending = none ∧ transfer.pipe.holdsHead = false ∧ transfer.pipe.isFull = false

inductive Step : Transfer → Transfer → Prop where
  | head {transfer : Transfer} (head : Head) : transfer.pipe.holdsHead = true →
      Step transfer { transfer with pipe := (transfer.pipe.take (.head head)).2 }
  | accept {transfer : Transfer} {pipe : Pipe} (bytes : Bytes) : transfer.CanWrite →
      transfer.pipe.take (.data bytes) = (.ok (), pipe) →
      Step transfer { transfer with pipe, accepted := transfer.accepted ++ [bytes] }
  | refuse {transfer : Transfer} {pipe : Pipe} (bytes : Bytes) (cause : Fault) : transfer.CanWrite →
      transfer.pipe.take (.data bytes) = (.error cause, pipe) →
      Step transfer { transfer with pipe }
  | close {transfer : Transfer} : transfer.CanWrite →
      Step transfer { transfer with pipe := transfer.pipe.beginEnd .close, ending := some .closed }
  | abort {transfer : Transfer} (cause : Fault) : transfer.CanWrite →
      Step transfer
        { transfer with pipe := transfer.pipe.beginEnd (.closeWith cause), ending := some (.aborted cause) }
  | drop {transfer : Transfer} : transfer.ending = none → transfer.pipe.holdsHead = false →
      Step transfer { transfer with pipe := transfer.pipe.dropWriter, ending := some .dropped }
  | hangUp {transfer : Transfer} : transfer.ending ≠ none →
      Step transfer { transfer with pipe := transfer.pipe.hangUp }
  | hear {transfer : Transfer} {pipe : Pipe} {listener : Listener} :
      Listener.Hears transfer.pipe transfer.listener pipe listener →
      Step transfer { transfer with pipe, listener }
  | leave {transfer : Transfer} {pipe : Pipe} {listener : Listener} :
      Listener.Leaves transfer.pipe transfer.listener pipe listener →
      Step transfer { transfer with pipe, listener }

/-- What an engine that stays hears in the end, as far as the writing side has come. -/
def told (transfer : Transfer) : List Pipe.Reading :=
  transfer.accepted.map .chunk ++ (transfer.ending.map Ending.last).getD []

/-- What is on its way: the frames in the pipe, and the end once the writing side has ended. -/
def pending (transfer : Transfer) : List Pipe.Reading :=
  match transfer.ending with
  | none => transfer.pipe.buffer.map .ofFrame
  | some _ => if .finish ∈ transfer.listener.heard then [] else transfer.pipe.outlook

/-- What holds of a transfer at all times. -/
structure Sound (transfer : Transfer) : Prop where
  unsent : transfer.pipe.holdsHead = true →
    transfer.pipe.receives = false ∧ transfer.pipe.finished = false ∧ transfer.pipe.buffer = [] ∧
      transfer.accepted = [] ∧ transfer.listener.heard = [] ∧ transfer.ending = none
  ready : ∀ head streams, transfer.pipe.slot = .ready head streams → transfer.pipe.receives = true
  held : transfer.listener.holdsBody = true → transfer.pipe.receives = true ∧ transfer.pipe.slot = .taken
  holds : transfer.pipe.receives = true → transfer.ending = none → transfer.pipe.holdsBody = true
  unended : transfer.pipe.receives = true → transfer.pipe.holdsBody = true → transfer.pipe.ended = false
  finished : transfer.pipe.receives = true →
    (transfer.pipe.finished = true ↔ transfer.ending = some .closed)
  /-- Nothing is lost on the way to an engine that stays. -/
  flow : transfer.pipe.receives = true → transfer.listener.heard ++ transfer.pending = transfer.told
  heard : transfer.listener.heard <+: transfer.told

theorem Sound.fresh : Sound Transfer.fresh where
  unsent := fun _ => ⟨rfl, rfl, rfl, rfl, rfl, rfl⟩
  ready := by simp [Transfer.fresh, Pipe.fresh]
  held := by simp [Transfer.fresh, Listener.fresh]
  holds := by simp [Transfer.fresh, Pipe.fresh]
  unended := by simp [Transfer.fresh, Pipe.fresh]
  finished := by simp [Transfer.fresh, Pipe.fresh]
  flow := fun _ => rfl
  heard := List.prefix_rfl

variable {transfer : Transfer}

theorem told_going (going : transfer.ending = none) : transfer.told = transfer.accepted.map .chunk := by
  simp [told, going]

theorem told_ended {ending : Ending} (ended : transfer.ending = some ending) :
    transfer.told = transfer.accepted.map .chunk ++ ending.last := by
  simp [told, ended]

theorem pending_going (going : transfer.ending = none) :
    transfer.pending = transfer.pipe.buffer.map .ofFrame := by
  simp [pending, going]

theorem pending_ended {ending : Ending} (ended : transfer.ending = some ending)
    (more : .finish ∉ transfer.listener.heard) : transfer.pending = transfer.pipe.outlook := by
  simp [pending, ended, more]

namespace Sound

/-- Before the writing side ends, the engine hears of no end. -/
theorem no_finish (sound : transfer.Sound) (going : transfer.ending = none) :
    .finish ∉ transfer.listener.heard := by
  intro member
  have told := sound.heard.subset member
  simp [told_going going] at told

/-- Nobody holds a body before the head is sent. -/
theorem idle (sound : transfer.Sound) (holds : transfer.pipe.holdsHead = true) :
    transfer.listener.holdsBody = false := by
  cases held : transfer.listener.holdsBody with
  | false => rfl
  | true =>
    have live := (sound.held held).1
    rw [(sound.unsent holds).1] at live
    cases live

/-- A live body on which nothing has ended yet is open at both ends. -/
theorem going (sound : transfer.Sound) (live : transfer.pipe.receives = true)
    (going : transfer.ending = none) :
    transfer.pipe.holdsBody = true ∧ transfer.pipe.ended = false ∧ transfer.pipe.finished = false := by
  have holds := sound.holds live going
  refine ⟨holds, sound.unended live holds, ?_⟩
  cases finished : transfer.pipe.finished with
  | false => rfl
  | true =>
    have closed := (sound.finished live).1 finished
    rw [going] at closed
    cases closed

theorem head (sound : transfer.Sound) (head : Head) (holds : transfer.pipe.holdsHead = true) :
    Sound { transfer with pipe := (transfer.pipe.take (.head head)).2 } := by
  have idle := sound.idle holds
  obtain ⟨⟨holdsHead, holdsBody, finished, slot, receives, buffer, ended⟩, listener, accepted, ending⟩ := transfer
  obtain ⟨deaf, unfinished, empty, none, silent, going⟩ := sound.unsent holds
  simp only at holds deaf unfinished empty none silent going idle
  subst holds deaf unfinished empty none going
  cases slot with
  | ready _ _ => simpa using sound.ready _ _ rfl
  | waiting | taken | dropped =>
    constructor <;> simp [Pipe.take, Pipe.sendHead, idle, silent, pending, told]

theorem accept (sound : transfer.Sound) {bytes : Bytes} {pipe : Pipe} (can : transfer.CanWrite)
    (taken : transfer.pipe.take (.data bytes) = (.ok (), pipe)) :
    Sound { transfer with pipe, accepted := transfer.accepted ++ [bytes] } := by
  obtain ⟨going, sent, -⟩ := can
  obtain ⟨live, rfl⟩ := Pipe.take_data_ok taken
  have flow := sound.flow live
  rw [pending_going going, told_going going] at flow
  have more : transfer.told <+: Transfer.told
      { transfer with accepted := transfer.accepted ++ [bytes],
                      pipe := { transfer.pipe with buffer := transfer.pipe.buffer ++ [.ok bytes] } } := by
    simp [told_going, going]
  exact {
    unsent := fun holds => by simp [sent] at holds
    ready := sound.ready
    held := sound.held
    holds := sound.holds
    unended := sound.unended
    finished := sound.finished
    flow := fun _ => by simp [pending_going, told_going, going, ← flow, Pipe.Reading.ofFrame]
    heard := sound.heard.trans more }

/-- Without an engine nothing more is owed. -/
theorem deaf (sound : transfer.Sound) {pipe : Pipe} {listener : Listener} (sent : pipe.holdsHead = false)
    (deaf : pipe.receives = false) (taken : ∀ head streams, pipe.slot ≠ .ready head streams)
    (idle : listener.holdsBody = false) (same : listener.heard = transfer.listener.heard) :
    Sound { transfer with pipe, listener } where
  unsent := by simp [sent]
  ready := fun head streams ready => absurd ready (taken head streams)
  held := by simp [idle]
  holds := by simp [deaf]
  unended := by simp [deaf]
  finished := by simp [deaf]
  flow := by simp [deaf]
  heard := same ▸ sound.heard

theorem refuse (sound : transfer.Sound) {bytes : Bytes} {cause : Fault} {pipe : Pipe}
    (can : transfer.CanWrite) (refused : transfer.pipe.take (.data bytes) = (.error cause, pipe)) :
    Sound { transfer with pipe } := by
  obtain ⟨going, sent, -⟩ := can
  obtain ⟨unable, rfl⟩ := Pipe.take_data_error refused
  -- a live body takes every chunk, so the engine must have gone
  have gone : transfer.pipe.receives = false := by
    cases live : transfer.pipe.receives with
    | false => rfl
    | true => simp [sound.holds live going, live] at unable
  have idle : transfer.listener.holdsBody = false := by
    cases held : transfer.listener.holdsBody with
    | false => rfl
    | true => simp [(sound.held held).1] at gone
  refine sound.deaf sent gone (fun head streams ready => ?_) idle rfl
  simp [sound.ready head streams ready] at gone

/-- The writing side has ended if what is left in the pipe tells of it. -/
theorem ends (sound : transfer.Sound) (going : transfer.ending = none) {pipe : Pipe} {ending : Ending}
    (sent : pipe.holdsHead = false) (slot : pipe.slot = transfer.pipe.slot)
    (receives : pipe.receives = transfer.pipe.receives)
    (left : transfer.pipe.receives = true →
      (pipe.holdsBody = true → pipe.ended = false) ∧ (pipe.finished = true ↔ ending = .closed) ∧
        pipe.outlook = transfer.pipe.buffer.map .ofFrame ++ ending.last) :
    Sound { transfer with pipe, ending := some ending } where
  unsent := by simp [sent]
  ready := fun head streams ready => receives.trans (sound.ready head streams (slot.symm.trans ready))
  held := fun held => ⟨receives.trans (sound.held held).1, slot.trans (sound.held held).2⟩
  holds := by simp
  unended := fun live => (left (receives.symm.trans live)).1
  finished := fun live => by simpa using (left (receives.symm.trans live)).2.1
  flow := fun live => by
    have live : transfer.pipe.receives = true := receives.symm.trans live
    have flow := sound.flow live
    rw [pending_going going, told_going going] at flow
    have pending : Transfer.pending { transfer with pipe, ending := some ending } = pipe.outlook :=
      pending_ended rfl (sound.no_finish going)
    rw [pending, told_ended rfl, (left live).2.2, ← List.append_assoc, flow]
  heard := by
    have heard := sound.heard
    rw [told_going going] at heard
    exact heard.trans (List.prefix_append _ _)

theorem close (sound : transfer.Sound) (can : transfer.CanWrite) :
    Sound { transfer with pipe := transfer.pipe.beginEnd .close, ending := some .closed } := by
  obtain ⟨going, sent, -⟩ := can
  rw [Pipe.beginEnd_close sent]
  refine sound.ends going sent rfl rfl fun live => ?_
  obtain ⟨holds, unended, -⟩ := sound.going live going
  simp [Pipe.outlook, Pipe.outcome, Ending.last, Ending.faults, holds, unended]

theorem abort (sound : transfer.Sound) (cause : Fault) (can : transfer.CanWrite) :
    Sound { transfer with pipe := transfer.pipe.beginEnd (.closeWith cause),
                          ending := some (.aborted cause) } := by
  obtain ⟨going, sent, -⟩ := can
  rw [Pipe.beginEnd_closeWith sent]
  refine sound.ends going sent rfl rfl fun live => ?_
  obtain ⟨holds, unended, unfinished⟩ := sound.going live going
  simp [Pipe.outlook, Pipe.outcome, Ending.last, Ending.faults, Pipe.Reading.ofFrame, live, holds, unended,
    unfinished]

theorem drop (sound : transfer.Sound) (going : transfer.ending = none)
    (sent : transfer.pipe.holdsHead = false) :
    Sound { transfer with pipe := transfer.pipe.dropWriter, ending := some .dropped } := by
  rw [Pipe.dropWriter_sent sent]
  refine sound.ends going sent rfl rfl fun live => ?_
  obtain ⟨-, unended, unfinished⟩ := sound.going live going
  simp [Pipe.outlook, Pipe.outcome, Ending.last, Ending.faults, unended, unfinished]

theorem hangUp (sound : transfer.Sound) (ended : transfer.ending ≠ none) :
    Sound { transfer with pipe := transfer.pipe.hangUp } where
  unsent := sound.unsent
  ready := sound.ready
  held := sound.held
  holds := fun _ going => absurd going ended
  unended := fun _ holds => by cases holds
  finished := sound.finished
  flow := sound.flow
  heard := sound.heard

/-- A reading is the next thing on its way. -/
theorem pending_read (sound : transfer.Sound) {reading : Pipe.Reading} {after : Pipe}
    (held : transfer.listener.holdsBody = true) (more : .finish ∉ transfer.listener.heard)
    (read : transfer.pipe.read = (reading, after)) (present : reading ≠ .pending) :
    transfer.pending = reading ::
      pending { transfer with
        pipe := after, listener := { transfer.listener with heard := transfer.listener.heard ++ [reading] } } := by
  have live := (sound.held held).1
  cases frames : transfer.pipe.buffer with
  | cons frame rest =>
    rw [Pipe.read_cons frames] at read
    obtain ⟨rfl, rfl⟩ := Prod.mk.inj read
    cases ending : transfer.ending with
    | none => simp [pending, ending, frames]
    | some _ => simp [pending, ending, more, Pipe.outlook, frames, Pipe.outcome]
  | nil =>
    -- an empty pipe says something only once the writer has let go
    rw [Pipe.read_nil frames] at read
    obtain ⟨rfl, rfl⟩ := Prod.mk.inj read
    have let_go : transfer.pipe.holdsBody = false := by
      cases holds : transfer.pipe.holdsBody with
      | false => rfl
      | true => simp [sound.unended live holds, holds] at present
    cases ending : transfer.ending with
    | none => simp [sound.holds live ending] at let_go
    | some _ =>
      cases ended : transfer.pipe.ended <;> cases finished : transfer.pipe.finished <;>
        simp [pending, ending, more, Pipe.outlook, Pipe.outcome, frames, let_go, ended, finished]

theorem hear (sound : transfer.Sound) {pipe : Pipe} {listener : Listener}
    (hears : Listener.Hears transfer.pipe transfer.listener pipe listener) :
    Sound { transfer with pipe, listener } := by
  cases hears with
  | head taken =>
    obtain ⟨ready, rfl⟩ := Pipe.takeHead?_some taken
    exact {
      unsent := sound.unsent
      ready := fun _ _ same => by cases same
      held := fun _ => ⟨sound.ready _ _ ready, rfl⟩
      holds := sound.holds
      unended := sound.unended
      finished := sound.finished
      flow := sound.flow
      heard := sound.heard }
  | frame held more read present =>
    obtain ⟨live, gone⟩ := sound.held held
    have flow := sound.flow live
    rw [sound.pending_read held more read present, List.append_cons] at flow
    obtain rfl := Pipe.read_after read
    exact {
      unsent := fun holds => by simp [sound.idle holds] at held
      ready := sound.ready
      held := sound.held
      holds := sound.holds
      unended := fun live holds => by
        have holds : transfer.pipe.holdsBody = true := holds
        simp [sound.unended live holds, holds]
      finished := sound.finished
      flow := fun _ => flow
      heard := ⟨_, flow⟩ }

theorem leave (sound : transfer.Sound) {pipe : Pipe} {listener : Listener}
    (leaves : Listener.Leaves transfer.pipe transfer.listener pipe listener) :
    Sound { transfer with pipe, listener } := by
  have sent (live : transfer.pipe.receives = true) : transfer.pipe.holdsHead = false := by
    cases holds : transfer.pipe.holdsHead with
    | false => rfl
    | true => simp [(sound.unsent holds).1] at live
  cases leaves with
  | body held =>
    obtain ⟨live, taken⟩ := sound.held held
    exact sound.deaf (sent live) rfl (by simp [Pipe.dropBody, taken]) rfl rfl
  | response =>
    unfold Pipe.dropHead
    split
    · next waiting =>
      -- no body came yet, so only the slot changes
      exact {
        unsent := sound.unsent
        ready := fun _ _ ready => by cases ready
        held := fun held => by simp [(sound.held held).2] at waiting
        holds := sound.holds
        unended := sound.unended
        finished := sound.finished
        flow := sound.flow
        heard := sound.heard }
    · next ready =>
      have idle : transfer.listener.holdsBody = false := by
        cases held : transfer.listener.holdsBody with
        | false => rfl
        | true => simp [(sound.held held).2] at ready
      exact sound.deaf (sent (sound.ready _ _ ready)) rfl nofun idle rfl
    · exact sound

theorem step {next : Transfer} (sound : transfer.Sound) (step : Step transfer next) : next.Sound := by
  cases step with
  | head head holds => exact sound.head head holds
  | accept _ can taken => exact sound.accept can taken
  | refuse _ _ can refused => exact sound.refuse can refused
  | close can => exact sound.close can
  | abort cause can => exact sound.abort cause can
  | drop going sent => exact sound.drop going sent
  | hangUp ended => exact sound.hangUp ended
  | hear hears => exact sound.hear hears
  | leave leaves => exact sound.leave leaves

theorem of_reached (reached : Relation.ReflTransGen Step Transfer.fresh transfer) : transfer.Sound :=
  kept_throughout reached Sound.fresh Sound.step

/-- An engine that heard of the end has heard all there was to tell. -/
theorem all_heard (sound : transfer.Sound) (finish : .finish ∈ transfer.listener.heard) :
    ∃ ending, transfer.ending = some ending ∧
      transfer.listener.heard = transfer.accepted.map .chunk ++ ending.last := by
  cases ended : transfer.ending with
  | none => exact absurd finish (sound.no_finish ended)
  | some ending =>
    refine ⟨ending, rfl, ?_⟩
    have heard := sound.heard
    -- the end is told last, and only once
    rw [told_ended ended, Ending.last, ← List.append_assoc, List.prefix_concat_iff] at heard
    rcases heard with whole | part
    · rw [whole, Ending.last, List.append_assoc]
    · simpa using part.subset finish

end Sound

theorem chunks_told (transfer : Transfer) : transfer.told.filterMap Listener.chunk? = transfer.accepted := by
  cases ended : transfer.ending with
  | none => simp [told_going ended, List.filterMap_map, Function.comp_def, Listener.chunk?]
  | some ending =>
    simp [told_ended ended, Ending.last, List.filterMap_map, Function.comp_def, Listener.chunk?]

/-- What an engine can rely on, wherever both sides stand. -/
structure Truthful (transfer : Transfer) : Prop where
  /-- The data received is the beginning of the data accepted. -/
  chunks : transfer.listener.chunks <+: transfer.accepted
  /-- Only a closed body ends cleanly, and all its data came before the end. -/
  clean : transfer.listener.EndsCleanly →
    transfer.ending = some .closed ∧ transfer.listener.heard = transfer.accepted.map .chunk ++ [.finish]
  /-- After the chunks comes what belongs to the way the body ended. -/
  last : ∀ ending, transfer.ending = some ending →
    transfer.listener.heard <+: transfer.accepted.map .chunk ++ ending.last
  /-- Once the writing side has let go, an engine that stays reads all that is missing. -/
  rest : ∀ ending, transfer.ending = some ending →
    transfer.pipe.receives = true → transfer.pipe.holdsBody = false →
      ∃ rest, transfer.pipe.readings rest.length = rest ∧
        transfer.listener.heard ++ rest = transfer.accepted.map .chunk ++ ending.last

theorem truthful (reached : Relation.ReflTransGen Step Transfer.fresh transfer) : transfer.Truthful := by
  have sound := Sound.of_reached reached
  refine ⟨?chunks, ?clean, ?last, ?rest⟩
  case chunks =>
    have chunks := sound.heard.filterMap Listener.chunk?
    rwa [chunks_told] at chunks
  case clean =>
    rintro ⟨finish, faultless⟩
    obtain ⟨ending, ended, heard⟩ := sound.all_heard finish
    have none : ending.faults = [] := by
      refine List.eq_nil_iff_forall_not_mem.2 fun cause member => faultless cause ?_
      simp [heard, Ending.last, member]
    obtain rfl := Ending.faults_eq_nil.1 none
    exact ⟨ended, heard⟩
  case last =>
    intro ending ended
    have heard := sound.heard
    rwa [told_ended ended] at heard
  case rest =>
    intro ending ended live let_go
    by_cases finish : .finish ∈ transfer.listener.heard
    · obtain ⟨other, same, heard⟩ := sound.all_heard finish
      obtain rfl : ending = other := by simpa [ended] using same
      exact ⟨[], rfl, by simp [heard]⟩
    · have flow := sound.flow live
      rw [pending_ended ended finish, told_ended ended] at flow
      exact ⟨transfer.pipe.outlook, Pipe.readings_outlook let_go, flow⟩

/-- A body aborted after two chunks; the engine has read both and not yet the error. -/
def cutShort : Transfer where
  pipe := ⟨false, false, false, .taken, true, [.error (.internal "reset")], false⟩
  listener := ⟨[(⟨.ok, HeaderMap.empty⟩, true)], true, [.chunk [1], .chunk [2]]⟩
  accepted := [[1], [2]]
  ending := some (.aborted (.internal "reset"))

theorem reaches_cutShort : Relation.ReflTransGen Step Transfer.fresh cutShort := by
  refine .head (.head ⟨.ok, HeaderMap.empty⟩ rfl) ?_
  refine .head (.accept [1] ⟨rfl, rfl, rfl⟩ rfl) ?_
  refine .head (.hear (.head rfl)) ?_
  refine .head (.accept [2] ⟨rfl, rfl, rfl⟩ rfl) ?_
  refine .head (.hear (.frame rfl (by simp [fresh, Listener.fresh]) rfl nofun)) ?_
  refine .head (.abort (.internal "reset") ⟨rfl, rfl, rfl⟩) ?_
  refine .head (.hear (.frame rfl (by simp [fresh, Listener.fresh]) rfl nofun)) ?_
  exact .single (.hangUp nofun)

theorem cutShort_truthful :
    Relation.ReflTransGen Step Transfer.fresh cutShort ∧
      ∃ rest, cutShort.pipe.readings rest.length = rest ∧
        cutShort.listener.heard ++ rest =
          [.chunk [1], .chunk [2], .fault (.internal "reset"), .fault .connectionClosed, .finish] :=
  ⟨reaches_cutShort, (truthful reaches_cutShort).rest _ rfl rfl rfl⟩

end Transfer

end Sluice

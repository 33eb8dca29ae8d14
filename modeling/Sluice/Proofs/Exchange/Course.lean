import Sluice.Proofs.Exchange.Operation

/-! The uses that a response makes of its writer, whatever the writer answers. The phase of the response tells what
was done before: nothing but looking at the writer, a head and chunks that the writer took, or a course that nothing
follows. Every operation extends the course, and every course is in order. -/

set_option autoImplicit false

namespace Sluice

namespace Writer

def Call.isHead : Call → Bool
  | .head _ => true
  | _ => false

/-- Calls that make sense only once the head is out. -/
def Call.needsHead : Call → Bool
  | .data _ | .close => true
  | _ => false

def Call.isEnd : Call → Bool
  | .close | .closeWith _ => true
  | _ => false

/-- A use of the writer: a call with what came of it, or a look at whether it is open. -/
inductive Use where
  | made (call : Call) (outcome : Except Fault Unit)
  | looked (isOpen : Bool)

def Use.isHead : Use → Bool
  | .made call _ => call.isHead
  | .looked _ => false

def Use.isEnd : Use → Bool
  | .made call _ => call.isEnd
  | .looked _ => false

/-- A use that others may follow. -/
def Use.goesOn : Use → Prop
  | .made call outcome => call.isEnd = false ∧ outcome = .ok ()
  | .looked _ => True

def use? : Exchange interface → Option Use
  | ⟨.call call, outcome⟩ => some (.made call outcome)
  | ⟨.isOpen, answer⟩ => some (.looked answer)
  | ⟨.now, _⟩ | ⟨.note _, _⟩ => none

/-- The uses of the writer in a trace; the clock and the journal are not part of it. -/
def uses (trace : List (Exchange interface)) : List Use := trace.filterMap use?

@[simp] theorem uses_append (first second : List (Exchange interface)) :
    uses (first ++ second) = uses first ++ uses second := by
  simp [uses]

@[simp] theorem uses_nil : uses [] = [] := rfl

@[simp] theorem uses_call (call : Call) (outcome : Except Fault Unit) (rest : List (Exchange interface)) :
    uses (⟨.call call, outcome⟩ :: rest) = .made call outcome :: uses rest := rfl

@[simp] theorem uses_isOpen (answer : Bool) (rest : List (Exchange interface)) :
    uses (⟨.isOpen, answer⟩ :: rest) = .looked answer :: uses rest := rfl

@[simp] theorem uses_now (answer : Instant) (rest : List (Exchange interface)) :
    uses (⟨.now, answer⟩ :: rest) = uses rest := rfl

@[simp] theorem uses_note (line : Note) (answer : Unit) (rest : List (Exchange interface)) :
    uses (⟨.note line, answer⟩ :: rest) = uses rest := rfl

instance (question : Ask) : Nonempty (Answer question) := by
  cases question with
  | call call => exact ⟨.ok ()⟩
  | isOpen => exact ⟨true⟩
  | now => exact ⟨(0 : Int)⟩
  | note line => exact ⟨()⟩

/-- Uses in the order that a writer expects. -/
structure Orderly (uses : List Use) : Prop where
  one_head : uses.countP (·.isHead) ≤ 1
  head_first : ∀ before call outcome after, uses = before ++ .made call outcome :: after →
    call.needsHead = true → ∃ head, .made (.head head) (.ok ()) ∈ before
  one_end : uses.countP (·.isEnd) ≤ 1
  last : ∀ before call outcome after, uses = before ++ .made call outcome :: after →
    call.isEnd = true ∨ outcome ≠ .ok () → after = []

theorem split_concat {α : Type} {front before after : List α} {last middle : α}
    (same : front ++ [last] = before ++ middle :: after) :
    (before = front ∧ middle = last ∧ after = []) ∨
      ∃ rest, after = rest ++ [last] ∧ front = before ++ middle :: rest := by
  rcases List.eq_nil_or_concat after with rfl | ⟨rest, other, rfl⟩
  · obtain ⟨rfl, ends⟩ := List.append_inj' same rfl
    exact .inl ⟨rfl, (List.cons.inj ends).1.symm, rfl⟩
  · rw [List.concat_eq_append, ← List.cons_append, ← List.append_assoc] at same
    obtain ⟨rfl, ends⟩ := List.append_inj' same rfl
    cases ends
    exact .inr ⟨rest, List.concat_eq_append, rfl⟩

theorem Orderly.nil : Orderly [] where
  one_head := by simp
  head_first := by simp
  one_end := by simp
  last := by simp

/-- An orderly list goes on with a use if those before it may be followed. -/
theorem Orderly.concat {uses : List Use} {next : Use} (orderly : Orderly uses)
    (goesOn : ∀ earlier ∈ uses, earlier.goesOn)
    (first : next.isHead = true → ∀ earlier ∈ uses, earlier.isHead = false)
    (follows : ∀ call outcome, next = .made call outcome → call.needsHead = true →
      ∃ head, .made (.head head) (.ok ()) ∈ uses) :
    Orderly (uses ++ [next]) where
  one_head := by
    rw [List.countP_append, List.countP_singleton]
    split
    · next isHead =>
      have none : uses.countP (·.isHead) = 0 :=
        List.countP_eq_zero.2 fun earlier member => by simp [first isHead earlier member]
      omega
    · exact orderly.one_head
  head_first := by
    intro before call outcome after same needs
    rcases split_concat same with ⟨rfl, made, -⟩ | ⟨rest, -, same⟩
    · exact follows call outcome made.symm needs
    · exact orderly.head_first before call outcome rest same needs
  one_end := by
    have none : uses.countP (·.isEnd) = 0 := by
      refine List.countP_eq_zero.2 fun earlier member => ?_
      have goesOn := goesOn earlier member
      cases earlier with
      | made call outcome => simp [Use.isEnd, goesOn.1]
      | looked isOpen => simp [Use.isEnd]
    rw [List.countP_append, none, List.countP_singleton]
    split <;> omega
  last := by
    intro before call outcome after same ends
    rcases split_concat same with ⟨-, -, nothing⟩ | ⟨rest, -, same⟩
    · exact nothing
    · have earlier := goesOn (.made call outcome) (by simp [same])
      rcases ends with ends | fails
      · simp [earlier.1] at ends
      · exact absurd earlier.2 fails

/-- What is in order was so from the beginning. -/
theorem Orderly.of_append {uses more : List Use} (orderly : Orderly (uses ++ more)) : Orderly uses where
  one_head := by
    have := orderly.one_head
    rw [List.countP_append] at this
    omega
  head_first := fun before call outcome after same needs =>
    orderly.head_first before call outcome (after ++ more) (by simp [same]) needs
  one_end := by
    have := orderly.one_end
    rw [List.countP_append] at this
    omega
  last := fun before call outcome after same ends =>
    (List.append_eq_nil_iff.1 (orderly.last before call outcome (after ++ more) (by simp [same]) ends)).1

/-- The uses that may lie behind a response in a phase. -/
inductive Course : Phase → List Use → Prop where
  | silent : Course .initial []
  | looked {phase : Phase} {uses : List Use} (isOpen : Bool) :
      phase ≠ .complete → Course phase uses → Course phase (uses ++ [.looked isOpen])
  | opened {uses : List Use} (head : Head) :
      Course .initial uses → Course .committed (uses ++ [.made (.head head) (.ok ())])
  | chunk {uses : List Use} (bytes : Bytes) :
      Course .committed uses → Course .committed (uses ++ [.made (.data bytes) (.ok ())])
  | unopened {uses : List Use} (head : Head) (cause : Fault) :
      Course .initial uses → Course .complete (uses ++ [.made (.head head) (.error cause)])
  | broken {uses : List Use} (bytes : Bytes) (cause : Fault) :
      Course .committed uses → Course .complete (uses ++ [.made (.data bytes) (.error cause)])
  | closed {uses : List Use} (outcome : Except Fault Unit) :
      Course .committed uses → Course .complete (uses ++ [.made .close outcome])
  | aborted {phase : Phase} {uses : List Use} (cause : Fault) (outcome : Except Fault Unit) :
      phase ≠ .complete → Course phase uses → Course .complete (uses ++ [.made (.closeWith cause) outcome])
  | left {phase : Phase} {uses : List Use} : Course phase uses → Course .complete uses

namespace Course

theorem goesOn {phase : Phase} {uses : List Use} (course : Course phase uses) (going : phase ≠ .complete) :
    ∀ earlier ∈ uses, earlier.goesOn := by
  induction course with
  | silent => simp
  | looked isOpen going course ih =>
    exact List.forall_mem_append.2 ⟨ih going, List.forall_mem_singleton.2 trivial⟩
  | opened head course ih | chunk bytes course ih =>
    exact List.forall_mem_append.2 ⟨ih (by simp), List.forall_mem_singleton.2 ⟨rfl, rfl⟩⟩
  | _ => exact absurd rfl going

theorem no_head {uses : List Use} (course : Course .initial uses) :
    ∀ earlier ∈ uses, earlier.isHead = false := by
  generalize same : Phase.initial = phase at course
  induction course with
  | silent => simp
  | looked isOpen going course ih =>
    exact List.forall_mem_append.2 ⟨ih same, List.forall_mem_singleton.2 rfl⟩
  | _ => cases same

theorem head_mem {uses : List Use} (course : Course .committed uses) :
    ∃ head, .made (.head head) (.ok ()) ∈ uses := by
  generalize same : Phase.committed = phase at course
  induction course with
  | opened head => exact ⟨head, by simp⟩
  | looked isOpen going course ih =>
    obtain ⟨head, member⟩ := ih same
    exact ⟨head, List.mem_append_left _ member⟩
  | chunk bytes course ih =>
    obtain ⟨head, member⟩ := ih rfl
    exact ⟨head, List.mem_append_left _ member⟩
  | _ => cases same

theorem orderly {phase : Phase} {uses : List Use} (course : Course phase uses) : Orderly uses := by
  induction course with
  | silent => exact .nil
  | looked isOpen going course ih =>
    exact ih.concat (course.goesOn going) (by simp [Use.isHead]) (by simp)
  | opened head course ih | unopened head cause course ih =>
    exact ih.concat (course.goesOn (by simp)) (fun _ => course.no_head) (by simp [Call.needsHead])
  | chunk bytes course ih | broken bytes cause course ih =>
    exact ih.concat (course.goesOn (by simp)) (by simp [Use.isHead, Call.isHead]) fun _ _ _ _ => course.head_mem
  | closed outcome course ih =>
    exact ih.concat (course.goesOn (by simp)) (by simp [Use.isHead, Call.isHead]) fun _ _ _ _ => course.head_mem
  | aborted cause outcome going course ih =>
    exact ih.concat (course.goesOn going) (by simp [Use.isHead, Call.isHead]) (by simp [Call.needsHead])
  | left course ih => exact ih

end Course

end Writer

namespace Outbound

open Writer Program

/-- The phase of the response tells of the uses made of the writer. -/
abbrev OnCourse (response : Outbound) (history : List (Exchange Writer.interface)) : Prop :=
  Course response.phase (uses history)

/-- Each step of an operation is one more of a course. -/
theorem keeps_course :
    Keeps (World.free Writer.interface) (fun phase history => Course phase (uses history)) where
  now course given := by
    subst given
    simpa using course
  head := by
    intro head history outcome after course given
    subst given
    cases outcome with
    | ok done => simpa [phaseAfter] using course.opened head
    | error cause => simpa [phaseAfter] using course.unopened head cause
  data := by
    intro bytes history outcome after course given
    subst given
    cases outcome with
    | ok done => simpa [phaseAfter] using course.chunk bytes
    | error cause => simpa [phaseAfter] using course.broken bytes cause
  isOpen going course given := by
    subst given
    simpa using course.looked true going
  shut going course given := by
    subst given
    simpa using (course.looked false going).left
  close := by
    intro history outcome after course given
    subst given
    simpa using course.closed outcome
  closeWith := by
    intro phase cause history outcome after going course given
    subst given
    simpa using course.aborted cause outcome going
  note course given := by
    subst given
    simpa using course

end Outbound

namespace Handler

open Writer Program

/-- Every operation extends the course of uses. -/
theorem perform_course (question : Ask) (response : Outbound) (history : List (Exchange Writer.interface))
    (course : response.OnCourse history) :
    (perform question response).Ensures (World.free Writer.interface)
      (fun result after => result.2.OnCourse after) history :=
  Outbound.keeps_course.perform question response history course

end Handler

namespace Script

open Writer Program

/-- Whatever a script does with a response and whatever the writer answers, stopped anywhere, its uses of the
writer are in order. -/
theorem uses_orderly {α : Type} (script : Script α) {trace : List (Exchange Writer.interface)}
    {rest : Writing (α × Outbound)} (run : (script.onResponse Outbound.fresh).Reaches trace rest) :
    Orderly (uses trace) := by
  -- a run stopped midway is the beginning of one to the end, and order goes down to beginnings
  obtain ⟨more, result, run⟩ := run.extend
  have ensured : (script.onResponse Outbound.fresh).Ensures (World.free Writer.interface)
      (fun result after => result.2.OnCourse after) [] :=
    Ensures.interpret Handler.perform_course script (show Outbound.fresh.OnCourse [] from .silent)
  have course := (ensured.of_reaches run).orderly
  rw [List.nil_append, uses_append] at course
  exact course.of_append

/-- A body that breaks off, over a writer that does not even take the abort. -/
theorem broken_body_orderly :
    let script := Script.writeWith [.ok [0x61], .error (.internal "gone")]
    let trace : List (Exchange Writer.interface) := [⟨.now, (0 : Int)⟩,
      ⟨.call (.head ⟨.ok, HeaderMap.empty⟩), .ok ()⟩, ⟨.call (.data [0x61]), .ok ()⟩, ⟨.isOpen, true⟩,
      ⟨.call (.closeWith (.status .internalServerError)), .error .connectionClosed⟩]
    (script.onResponse Outbound.fresh).Reaches trace
      (.done (.error (.internal "gone"), { Outbound.fresh with phase := .complete })) ∧
    Orderly (uses trace) := by
  intro script trace
  have run : (script.onResponse Outbound.fresh).Reaches trace
      (.done (.error (.internal "gone"), { Outbound.fresh with phase := .complete })) :=
    .step (.step (.step (.step (.step .here))))
  exact ⟨run, uses_orderly script run⟩

end Script

end Sluice

import Sluice.Chain.Scripted

/-! Stacks of decorators put together. What follows a decorator can be run, any number of times and with any request,
and it can be asked for its place. Whatever the decorators do, a stack runs as its front part with the rest behind it,
where the places are those of the whole stack. As a chain of its own the rest would be shown other places, and a decorator
may do as it likes with what it is shown. One that only runs what follows is indifferent to its place, so a stack of such
decorators runs as the front part alone with the rest, as a chain of its own, for its final handler. No decorator is ever
given a place beyond the end of the stack. -/

set_option autoImplicit false

namespace Sluice

variable {m : Type → Type} {ρ : Type}

namespace Decorator

/-- Two ways to go on that run alike are the same to the decorator, wherever they stand. -/
def Indifferent (decorator : Decorator m ρ) : Prop :=
  ∀ (request : Request) (first second : Next m ρ), first.run = second.run →
    decorator request first = decorator request second

/-- Notes the entry, and goes on as the decorator. -/
def entering [Monad m] (entry : m Unit) (decorator : Decorator m ρ) : Decorator m ρ := fun request next => do
  entry
  decorator request next

/-- Does something else where what follows lies beyond the end of a stack. -/
def within (size : Nat) (decorator otherwise : Decorator m ρ) : Decorator m ρ := fun request next =>
  if next.size = size ∧ next.index ≤ next.size then decorator request next else otherwise request next

theorem Indifferent.entering [Monad m] {decorator : Decorator m ρ} (indifferent : decorator.Indifferent)
    (entry : m Unit) : (decorator.entering entry).Indifferent := by
  intro request first second same
  unfold Decorator.entering
  rw [indifferent request first second same]

theorem within_of_le {size : Nat} {next : Next m ρ} (sized : next.size = size) (bound : next.index ≤ next.size)
    (decorator otherwise : Decorator m ρ) (request : Request) :
    decorator.within size otherwise request next = decorator request next := if_pos ⟨sized, bound⟩

end Decorator

theorem Tracing.decorator_indifferent (tracing : Tracing) : tracing.decorator.Indifferent := by
  intro request first second same
  unfold Tracing.decorator
  rw [same]

theorem Scripted.Action.perform_indifferent (tag : String) (action : Scripted.Action) :
    Decorator.Indifferent fun request next => action.perform tag request next := by
  intro request first second same
  cases action <;> simp only [Scripted.Action.perform, same]

namespace Next

variable [Monad m]

/-- A final handler with the note of its entry. -/
def entering (entry : m Unit) (handler : Request → m (Except Fault ρ)) : Request → m (Except Fault ρ) :=
  fun request => do
    entry
    handler request

theorem ofStack_place (handler : Option (Request → m (Except Fault ρ))) (size index : Nat)
    (stack : List (Decorator m ρ)) :
    ofStack handler size index stack = ⟨index, size, (ofStack handler size index stack).run⟩ := by
  cases stack <;> rfl

theorem ofStack_index (handler : Option (Request → m (Except Fault ρ))) (size index : Nat)
    (stack : List (Decorator m ρ)) : (ofStack handler size index stack).index = index := by
  rw [ofStack_place]

theorem ofStack_size (handler : Option (Request → m (Except Fault ρ))) (size index : Nat)
    (stack : List (Decorator m ρ)) : (ofStack handler size index stack).size = size := by
  rw [ofStack_place]

/-- The rest of a stack is the final handler of the part before it. -/
theorem ofStack_append (handler : Option (Request → m (Except Fault ρ))) (size index : Nat)
    (front back : List (Decorator m ρ)) :
    ofStack handler size index (front ++ back) =
      ofStack (some (ofStack handler size (index + front.length) back).run) size index front := by
  induction front generalizing index with
  | nil => exact ofStack_place handler size index back
  | cons decorator rest ih =>
    have later : index + 1 + rest.length = index + (decorator :: rest).length := by
      simp only [List.length_cons]
      omega
    rw [List.cons_append, ofStack, ofStack, ih, later]

/-- Indifferent decorators run alike from any place on. -/
theorem ofStack_run (handler : Option (Request → m (Except Fault ρ))) {stack : List (Decorator m ρ)}
    (indifferent : ∀ decorator ∈ stack, decorator.Indifferent) (size index otherSize otherIndex : Nat) :
    (ofStack handler size index stack).run = (ofStack handler otherSize otherIndex stack).run := by
  induction stack generalizing index otherIndex with
  | nil => rfl
  | cons decorator rest ih =>
    obtain ⟨first, others⟩ := List.forall_mem_cons.1 indifferent
    funext request
    apply first
    exact ih others (index + 1) (otherIndex + 1)

/-- Decorators are only ever given a place within the stack, so what they do elsewhere does not matter. -/
theorem ofStack_within (handler : Option (Request → m (Except Fault ρ))) (otherwise : Decorator m ρ)
    {size index : Nat} {stack : List (Decorator m ρ)} (fits : index + stack.length = size) :
    ofStack handler size index (stack.map (·.within size otherwise)) = ofStack handler size index stack := by
  induction stack generalizing index with
  | nil => rfl
  | cons decorator rest ih =>
    rw [List.length_cons] at fits
    rw [List.map_cons, ofStack, ofStack, ih (by omega)]
    congr 1
    funext request
    apply Decorator.within_of_le
    · exact ofStack_size handler size (index + 1) rest
    · rw [ofStack_size, ofStack_index]
      omega

theorem start_eq_ofStack (front back : List (Decorator m ρ)) (handler : Option (Request → m (Except Fault ρ))) :
    start (front ++ back) handler =
      ofStack (some (ofStack handler (front ++ back).length front.length back).run) (front ++ back).length 0 front := by
  rw [start, ofStack_append, Nat.zero_add]

theorem start_run_append {front back : List (Decorator m ρ)}
    (indifferent : ∀ decorator ∈ front ++ back, decorator.Indifferent)
    (handler : Option (Request → m (Except Fault ρ))) :
    (start (front ++ back) handler).run = (start front (some (start back handler).run)).run := by
  obtain ⟨inFront, inBack⟩ := List.forall_mem_append.1 indifferent
  have rest : (ofStack handler (front ++ back).length front.length back).run = (start back handler).run :=
    ofStack_run handler inBack _ _ _ _
  calc (start (front ++ back) handler).run
      = (ofStack (some (start back handler).run) (front ++ back).length 0 front).run := by
        rw [start_eq_ofStack, rest]
    _ = (start front (some (start back handler).run)).run := ofStack_run _ inFront _ _ _ _

theorem mapIdx_entering_indifferent {stack : List (Decorator m ρ)}
    (indifferent : ∀ decorator ∈ stack, decorator.Indifferent) (entry : Nat → m Unit) :
    ∀ decorator ∈ stack.mapIdx (fun place => Decorator.entering (entry place)), decorator.Indifferent := by
  intro noted member
  obtain ⟨place, bound, rfl⟩ := List.mem_mapIdx.1 member
  exact (indifferent _ (List.getElem_mem bound)).entering (entry place)

/-- A stack runs as its front part with the rest behind it, all at the places they have in the whole stack, and
decorators and handler are entered in the same order. If its decorators only run what follows, the rest is a chain of its
own. What a decorator is given lies within the stack, and what remains after it is the size of the stack less its place. -/
theorem start_append (front back : List (Decorator m ρ)) (handler : Option (Request → m (Except Fault ρ))) :
    (start (front ++ back) handler =
        ofStack (some (ofStack handler (front ++ back).length front.length back).run) (front ++ back).length 0 front ∧
      ∀ (entry : Nat → m Unit) (last : m Unit),
        start ((front ++ back).mapIdx fun place => Decorator.entering (entry place)) (handler.map (entering last)) =
          ofStack (some (ofStack (handler.map (entering last)) (front ++ back).length front.length
              (back.mapIdx fun place => Decorator.entering (entry (place + front.length)))).run)
            (front ++ back).length 0 (front.mapIdx fun place => Decorator.entering (entry place))) ∧
      ((∀ decorator ∈ front ++ back, decorator.Indifferent) →
        (start (front ++ back) handler).run = (start front (some (start back handler).run)).run ∧
        ∀ (entry : Nat → m Unit) (last : m Unit),
          (start ((front ++ back).mapIdx fun place => Decorator.entering (entry place))
              (handler.map (entering last))).run =
            (start (front.mapIdx fun place => Decorator.entering (entry place))
              (some (start (back.mapIdx fun place => Decorator.entering (entry (place + front.length)))
                (handler.map (entering last))).run)).run) ∧
      (start (front ++ back) handler).index + (start (front ++ back) handler).remaining = (front ++ back).length ∧
      ∀ otherwise, start ((front ++ back).map (·.within (front ++ back).length otherwise)) handler =
        start (front ++ back) handler := by
  refine ⟨⟨start_eq_ofStack front back handler, fun entry last => ?whole⟩,
    fun indifferent => ⟨start_run_append indifferent handler, fun entry last => ?own⟩, ?shown, fun otherwise => ?inside⟩
  case whole =>
    rw [List.mapIdx_append, start_eq_ofStack]
    simp only [List.length_append, List.length_mapIdx]
  case own =>
    rw [List.mapIdx_append]
    apply start_run_append
    rw [← List.mapIdx_append]
    exact mapIdx_entering_indifferent indifferent entry
  case shown =>
    rw [remaining, start, ofStack_index, ofStack_size]
    omega
  case inside =>
    rw [start, start, List.length_map]
    exact ofStack_within handler otherwise (Nat.zero_add _)

/-- Runs the rest twice, in a span of its own. -/
def probing : List (Decorator Flow (Reply Source)) :=
  [(⟨"web", .always⟩ : Tracing).decorator, fun request next => Scripted.Action.perform "a" request next .twice]

/-- Fails unless the rest fails, and gets over every failure. -/
def contrary : List (Decorator Flow (Reply Source)) :=
  [fun request next => Scripted.Action.perform "b" request next .recover,
    fun request next => Scripted.Action.perform "c" request next (.failAfter (.internal "no"))]

theorem indifferent_probing_contrary : ∀ decorator ∈ probing ++ contrary, decorator.Indifferent := by
  simp only [probing, contrary, List.cons_append, List.nil_append, List.forall_mem_cons]
  exact ⟨Tracing.decorator_indifferent _, Scripted.Action.perform_indifferent _ _,
    Scripted.Action.perform_indifferent _ _, Scripted.Action.perform_indifferent _ _, nofun⟩

/-- A stack that runs its second part twice, and has no handler. The first of the two runs comes to a server error. -/
theorem probing_contrary_splits :
    (∀ decorator ∈ probing ++ contrary, decorator.Indifferent) ∧
      (start (probing ++ contrary) none).run = (start probing (some (start contrary none).run)).run ∧
      ((Journal.run ((start (probing ++ contrary) none).run Scripted.probe) .empty).2.notes.map Note.details) =
        [[.string "a", .nat 500]] ∧
      (start (probing ++ contrary) none).index + (start (probing ++ contrary) none).remaining = 4 := by
  have composed := start_append probing contrary none
  have splits := (composed.2.1 indifferent_probing_contrary).1
  exact ⟨indifferent_probing_contrary, splits, splits ▸ rfl, composed.2.2.1⟩

/-- Fails with the number of decorators that it is shown to remain. -/
def counting : Decorator Flow (Reply Source) := fun _ next => return .error (.notImplemented (toString next.remaining))

/-- A decorator that looks at its place is told of those that are put behind it. -/
theorem place_tells_of_rest :
    (start ([counting] ++ [counting]) none).run Scripted.probe = .done (.error (.notImplemented "1")) ∧
    (start [counting] (some (start [counting] none).run)).run Scripted.probe =
      .done (.error (.notImplemented "0")) ∧
    ((Journal.run ((start ([(Scripted.Layer.noting "a" .tag).decorator] ++
      [(Scripted.Layer.noting "b" .tag).decorator]) none).run Scripted.probe) .empty).2.notes.map Note.details).head? =
        some [.string "a", .string "PROBE", .string "Next \x7b index: 1, remaining: 1 \x7d"] ∧
    ((Journal.run ((start [(Scripted.Layer.noting "a" .tag).decorator] (some (start
      [(Scripted.Layer.noting "b" .tag).decorator] none).run)).run Scripted.probe) .empty).2.notes.map
        Note.details).head? =
        some [.string "a", .string "PROBE", .string "Next \x7b index: 1, remaining: 0 \x7d"] ∧
    ¬ ∀ (front back : List (Decorator Flow (Reply Source))) (handler : Option (Request → Flow Outcome)),
      (start (front ++ back) handler).run = (start front (some (start back handler).run)).run := by
  have whole : (start ([counting] ++ [counting]) none).run Scripted.probe = .done (.error (.notImplemented "1")) := rfl
  have own : (start [counting] (some (start [counting] none).run)).run Scripted.probe =
      .done (.error (.notImplemented "0")) := rfl
  refine ⟨whole, own, rfl, rfl, fun composed => ?_⟩
  have same := congrFun (composed [counting] [counting] none) Scripted.probe
  rw [whole, own] at same
  simp at same

end Next

end Sluice

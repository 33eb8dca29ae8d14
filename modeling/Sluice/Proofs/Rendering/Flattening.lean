import Sluice.Proofs.Program
import Sluice.Rendering.Subscription

/-! Chains of converters within chains. The members of a chain are offered a value in turn, and a chain can be a member
of another. Here a member may also ask its surroundings before it accepts the value, hands one back or fails, so it need
not do the same every time; a converter is a member that asks nothing. Whatever the members do, a chain among them is
the same as its own members in its place. Of the converters in a chain those up to the first that does not hand a value
back are consulted, each with what the one before it handed back, and no other is. -/

set_option autoImplicit false

namespace Sluice

/-- What comes of a value that is offered: questions first, and then the outcome. -/
abbrev Offering (I : Interface) := Value → Program I (Except Fault Conversion)

namespace Offering

variable {I : Interface}

/-- A value that is handed back goes on to the next offering, and every other outcome stands. -/
def goOn (next : Offering I) : Except Fault Conversion → Program I (Except Fault Conversion)
  | .ok (.fallthrough handed) => next handed
  | decided => .done decided

theorem goOn_decided (next : Offering I) {outcome : Except Fault Conversion}
    (undecided : ∀ handed, outcome ≠ .ok (.fallthrough handed)) : goOn next outcome = .done outcome := by
  match outcome with
  | .error fault => rfl
  | .ok (.converted reply) => rfl
  | .ok (.fallthrough handed) => exact absurd rfl (undecided handed)

def inTurn : List (Offering I) → Offering I
  | [], value => .done (.ok (.fallthrough value))
  | offering :: rest, value => (offering value).bind (goOn (inTurn rest))

theorem inTurn_append (front back : List (Offering I)) (value : Value) :
    inTurn (front ++ back) value = (inTurn front value).bind (goOn (inTurn back)) := by
  induction front generalizing value with
  | nil => rfl
  | cons offering rest ih =>
    rw [List.cons_append, inTurn, inTurn, Program.bind_assoc]
    congr 1
    funext outcome
    match outcome with
    | .error fault => rfl
    | .ok (.converted reply) => rfl
    | .ok (.fallthrough handed) => exact ih handed

/-- Offerings in turn can stand among others as one. -/
theorem inTurn_nested (front inner back : List (Offering I)) :
    inTurn (front ++ inTurn inner :: back) = inTurn (front ++ inner ++ back) := by
  have same : inTurn (inTurn inner :: back) = inTurn (inner ++ back) := by
    funext value
    exact (inTurn_append inner back value).symm
  funext value
  rw [List.append_assoc, inTurn_append, inTurn_append, same]

end Offering

/-- To consult a converter is to ask it with a value, and what it answers is left open. -/
def Consulting : Interface where
  Ask := Converter × Value
  Answer _ := Except Fault Conversion

namespace Converter

/-- The converter makes up its mind at once. -/
def offering (I : Interface) (context : Context) (converter : Converter) : Offering I :=
  fun value => .done (converter.offer context value)

def consulted (converter : Converter) : Offering Consulting := fun value => .ask (converter, value) .done

end Converter

namespace Converters

open Offering

variable {context : Context} {converters rest xs ys zs : Converters} {converter : Converter}
  {value handed last : Value} {offers : List (Converter × Value)} {outcome : Except Fault Conversion}

theorem inTurn_offering (I : Interface) (context : Context) (converters : Converters) :
    inTurn (converters.map (·.offering I context)) = converters.asConverter.offering I context := by
  funext value
  induction converters generalizing value with
  | nil => rfl
  | cons converter rest ih =>
    change goOn _ (converter.offer context value) = .done (offer context (converter :: rest) value)
    rw [offer]
    match converter.offer context value with
    | .error fault => rfl
    | .ok (.converted reply) => rfl
    | .ok (.fallthrough handed) => exact ih handed

theorem offer_nested (context : Context) (xs ys zs : Converters) (value : Value) :
    offer context (xs ++ ys.asConverter :: zs) value = offer context (xs ++ ys ++ zs) value := by
  have nested := congrFun (inTurn_nested (xs.map (·.offering Consulting context))
    (ys.map (·.offering Consulting context)) (zs.map (·.offering Consulting context))) value
  rw [inTurn_offering Consulting context ys, ← List.map_cons, ← List.map_append, ← List.map_append,
    ← List.map_append, inTurn_offering, inTurn_offering] at nested
  exact Program.done.inj nested

/-- The standard converters are observables and plain values side by side. -/
theorem offer_standard (context : Context) (faults : FaultHandler) (value : Value) :
    offer context (standard faults) value = offer context (.observable builtin faults :: builtin) value := by
  have nested := offer_nested context [.observable builtin faults] builtin [] value
  rwa [List.append_nil] at nested

/-- The chain as a program that consults its converters. -/
def consult (converters : Converters) : Offering Consulting := inTurn (converters.map Converter.consulted)

theorem consult_nested (xs ys zs : Converters) :
    inTurn (xs.map Converter.consulted ++ consult ys :: zs.map Converter.consulted) = consult (xs ++ ys ++ zs) := by
  rw [consult, consult, inTurn_nested, ← List.map_append, ← List.map_append]

/-- Consultations with the answers that the converters give. -/
def answered (context : Context) (offers : List (Converter × Value)) : List (Exchange Consulting) :=
  offers.map fun offer => ⟨offer, offer.1.offer context offer.2⟩

/-- All converters hand a value back, and each is offered what the one before it handed back. -/
inductive HandsOn (context : Context) : Converters → Value → List (Converter × Value) → Value → Prop where
  | nobody {value : Value} : HandsOn context [] value [] value
  | next {converter : Converter} {rest : Converters} {value handed last : Value} {offers : List (Converter × Value)} :
      converter.offer context value = .ok (.fallthrough handed) → HandsOn context rest handed offers last →
      HandsOn context (converter :: rest) value ((converter, value) :: offers) last

/-- The converters that are consulted on a value, and the outcome. -/
inductive Fares (context : Context) (converters : Converters) (value : Value) :
    List (Converter × Value) → Except Fault Conversion → Prop where
  | handedBack {offers : List (Converter × Value)} {last : Value} : HandsOn context converters value offers last →
      Fares context converters value offers (.ok (.fallthrough last))
  /-- The first converter that does not hand a value back decides, and what stands after it does not matter. -/
  | decided {before after : Converters} {converter : Converter} {offers : List (Converter × Value)} {handed : Value}
      {outcome : Except Fault Conversion} : converters = before ++ converter :: after →
      HandsOn context before value offers handed → converter.offer context handed = outcome →
      (∀ back, outcome ≠ .ok (.fallthrough back)) →
      Fares context converters value (offers ++ [(converter, handed)]) outcome

theorem fares_nil_iff : Fares context [] value offers outcome ↔ offers = [] ∧ outcome = .ok (.fallthrough value) := by
  constructor
  · intro fares
    cases fares with
    | handedBack hands =>
      cases hands
      exact ⟨rfl, rfl⟩
    | decided split => simp at split
  · rintro ⟨rfl, rfl⟩
    exact .handedBack .nobody

/-- Behind a converter that hands a value back the rest of the chain fares with that value. -/
theorem fares_passed_iff (back : converter.offer context value = .ok (.fallthrough handed)) :
    Fares context (converter :: rest) value offers outcome ↔
      ∃ others, offers = (converter, value) :: others ∧ Fares context rest handed others outcome := by
  constructor
  · intro fares
    cases fares with
    | handedBack hands =>
      cases hands with
      | next other hands =>
        cases back.symm.trans other
        exact ⟨_, rfl, .handedBack hands⟩
    | decided split hands decides undecided =>
      cases hands with
      | nobody =>
        obtain ⟨rfl, rfl⟩ := List.cons_eq_cons.1 split
        exact absurd (decides.symm.trans back) (undecided handed)
      | next other hands =>
        obtain ⟨rfl, rfl⟩ := List.cons_eq_cons.1 split
        cases back.symm.trans other
        exact ⟨_, rfl, .decided rfl hands decides undecided⟩
  · rintro ⟨others, rfl, fares⟩
    cases fares with
    | handedBack hands => exact .handedBack (.next back hands)
    | decided split hands decides undecided =>
      subst split
      exact .decided (List.cons_append ..).symm (.next back hands) decides undecided

/-- Behind a converter that decides nobody is consulted. -/
theorem fares_decided_iff (decides : ∀ handed, converter.offer context value ≠ .ok (.fallthrough handed)) :
    Fares context (converter :: rest) value offers outcome ↔
      offers = [(converter, value)] ∧ outcome = converter.offer context value := by
  constructor
  · intro fares
    cases fares with
    | handedBack hands =>
      cases hands with
      | next back => exact absurd back (decides _)
    | decided split hands same =>
      cases hands with
      | nobody =>
        obtain ⟨rfl, rfl⟩ := List.cons_eq_cons.1 split
        exact ⟨rfl, same.symm⟩
      | next back =>
        obtain ⟨rfl, -⟩ := List.cons_eq_cons.1 split
        exact absurd back (decides _)
  · rintro ⟨rfl, rfl⟩
    exact .decided (List.nil_append _).symm .nobody rfl decides

/-- A converter hands a value back, or it decides. -/
theorem hands_back_or_decides (context : Context) (converter : Converter) (value : Value) :
    (∃ handed, converter.offer context value = .ok (.fallthrough handed)) ∨
      ∀ handed, converter.offer context value ≠ .ok (.fallthrough handed) := by
  match converter.offer context value with
  | .error fault => exact .inr nofun
  | .ok (.converted reply) => exact .inr nofun
  | .ok (.fallthrough handed) => exact .inl ⟨handed, rfl⟩

/-- There is one way for a chain to fare, and it ends as the chain does. -/
theorem exists_fares (context : Context) (converters : Converters) (value : Value) :
    ∃ offers, ∀ others outcome, Fares context converters value others outcome ↔
      others = offers ∧ outcome = offer context converters value := by
  induction converters generalizing value with
  | nil => exact ⟨[], fun _ _ => fares_nil_iff⟩
  | cons converter rest ih =>
    rcases hands_back_or_decides context converter value with ⟨handed, back⟩ | decides
    · obtain ⟨offers, fares⟩ := ih handed
      have same : offer context (converter :: rest) value = offer context rest handed := by rw [offer, back]
      refine ⟨(converter, value) :: offers, fun others outcome => ?_⟩
      simp only [fares_passed_iff back, fares, same]
      constructor
      · rintro ⟨_, rfl, rfl, rfl⟩
        exact ⟨rfl, rfl⟩
      · rintro ⟨rfl, rfl⟩
        exact ⟨offers, rfl, rfl, rfl⟩
    · have same : offer context (converter :: rest) value = converter.offer context value := by
        rw [offer]
        split
        · next back => exact absurd back (decides _)
        · rfl
      exact ⟨[(converter, value)], fun _ _ => by rw [fares_decided_iff decides, same]⟩

theorem answered_eq_nil_iff : answered context offers = [] ↔ offers = [] := List.map_eq_nil_iff

/-- The first converter is consulted first, and its answer says how it goes on. -/
theorem consult_cons_reaches_iff :
    (consult (converter :: rest) value).Reaches (answered context offers) (.done outcome) ↔
      ∃ others, offers = (converter, value) :: others ∧
        (goOn (consult rest) (converter.offer context value)).Reaches (answered context others) (.done outcome) := by
  constructor
  · intro run
    cases offers with
    | nil => cases run
    | cons offer others =>
      cases run with
      | step run => exact ⟨others, rfl, run⟩
  · rintro ⟨others, rfl, run⟩
    exact .step run

/-- A chain consults as its program does if the converters themselves answer that. -/
theorem consult_reaches_iff : (consult converters value).Reaches (answered context offers) (.done outcome) ↔
    Fares context converters value offers outcome := by
  induction converters generalizing value offers with
  | nil => rw [fares_nil_iff, consult, List.map_nil, inTurn, Program.reaches_done_iff, answered_eq_nil_iff]
  | cons converter rest ih =>
    rw [consult_cons_reaches_iff]
    rcases hands_back_or_decides context converter value with ⟨handed, back⟩ | decides
    · rw [fares_passed_iff back, back]
      exact exists_congr fun others => and_congr_right fun _ => ih
    · simp only [fares_decided_iff decides, goOn_decided _ decides, Program.reaches_done_iff, answered_eq_nil_iff]
      constructor
      · rintro ⟨_, rfl, rfl, rfl⟩
        exact ⟨rfl, rfl⟩
      · rintro ⟨rfl, rfl⟩
        exact ⟨[], rfl, rfl, rfl⟩

theorem promise_eq_ok_iff {reply : Except Fault (Reply Body)} :
    promise context converters value = .ok reply ↔ offer context converters value = .ok (.converted reply) := by
  unfold promise
  match offer context converters value with
  | .error fault => simp
  | .ok (.converted reply) => simp
  | .ok (.fallthrough handed) => simp

theorem promise_eq_error_iff {fault : Fault} :
    promise context converters value = .error fault ↔ offer context converters value = .error fault ∨
      (∃ last, offer context converters value = .ok (.fallthrough last)) ∧
        fault = .unhandledResult ("no converter among " ++ toString converters.length ++
          " accepted the result of request " ++ context.requestId) := by
  rw [← unhandled]
  unfold promise
  match offer context converters value with
  | .error fault => simp
  | .ok (.converted reply) => simp
  | .ok (.fallthrough handed) => simp [eq_comm]

/-- A chain in place of a converter is the same as its converters in that place: the outcome is the same, and whatever
the converters answer, the same ones are consulted. In a chain the first converter that does not hand a value back
decides, each is offered what the one before it handed back, and no other is consulted. A value that all hand back is
handed back, and that alone is what a chain that has to promise a response fails for on its own account. -/
theorem flattens (context : Context) (xs ys zs : Converters) (value : Value) :
    let chain := xs ++ ys ++ zs
    offer context (xs ++ ys.asConverter :: zs) value = offer context chain value ∧
    inTurn (xs.map Converter.consulted ++ consult ys :: zs.map Converter.consulted) = consult chain ∧
    (∀ offers outcome, (consult chain value).Reaches (answered context offers) (.done outcome) ↔
      Fares context chain value offers outcome) ∧
    (∃ offers, ∀ others outcome, Fares context chain value others outcome ↔
      others = offers ∧ outcome = offer context chain value) ∧
    (∀ reply, promise context chain value = .ok reply ↔ offer context chain value = .ok (.converted reply)) ∧
    ∀ fault, promise context chain value = .error fault ↔ offer context chain value = .error fault ∨
      (∃ last, offer context chain value = .ok (.fallthrough last)) ∧
        fault = .unhandledResult ("no converter among " ++ toString chain.length ++
          " accepted the result of request " ++ context.requestId) :=
  ⟨offer_nested context xs ys zs value, consult_nested xs ys zs, fun _ _ => consult_reaches_iff,
    exists_fares context _ value, fun _ => promise_eq_ok_iff, fun _ => promise_eq_error_iff⟩

/-- Hands a number back as its text. -/
def spelling : Converter := ⟨.atom "Spelling", fun _ value => match value with
  | .natural n => .ok (.fallthrough (.text (toString n)))
  | other => .ok (.fallthrough other)⟩

/-- Fails for texts. -/
def wordless : Converter := ⟨.atom "Wordless", fun _ value => match value with
  | .text _ => .error (.internal "text")
  | other => .ok (.fallthrough other)⟩

/-- The number is a text before it comes to the chain within, whose failure keeps it from the converters behind. What is
no text goes by them all, and the chain says so. -/
theorem spelling_flattens :
    offer default ([spelling] ++ asConverter [wordless] :: builtin) (.natural 7) = .error (.internal "text") ∧
      (consult ([spelling] ++ [wordless] ++ builtin) (.natural 7)).Reaches
        (answered default [(spelling, .natural 7), (wordless, .text "7")]) (.done (.error (.internal "text"))) ∧
      promise default ([spelling] ++ [wordless] ++ builtin) (.natural 7) = .error (.internal "text") ∧
      promise (.ofId "r1") ([spelling] ++ [wordless] ++ builtin) .foreign =
        .error (.unhandledResult "no converter among 7 accepted the result of request r1") := by
  obtain ⟨same, -, consulted, -, -, failed⟩ := flattens default [spelling] [wordless] builtin (.natural 7)
  have back : spelling.offer default (.natural 7) = .ok (.fallthrough (.text "7")) := rfl
  have decides : ∀ handed, wordless.offer default (.text "7") ≠ .ok (.fallthrough handed) := by simp [wordless]
  have fares : Fares default ([spelling] ++ [wordless] ++ builtin) (.natural 7)
      [(spelling, .natural 7), (wordless, .text "7")] (.error (.internal "text")) :=
    (fares_passed_iff back).2 ⟨_, rfl, (fares_decided_iff decides).2 ⟨rfl, rfl⟩⟩
  obtain ⟨-, -, -, -, -, refused⟩ := flattens (.ofId "r1") [spelling] [wordless] builtin .foreign
  exact ⟨same, (consulted _ _).2 fares, (failed _).2 (.inl rfl), (refused _).2 (.inr ⟨⟨.foreign, rfl⟩, rfl⟩)⟩

end Converters

end Sluice

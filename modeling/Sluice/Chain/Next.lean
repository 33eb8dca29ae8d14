import Sluice.Http.Message
import Sluice.Text.Quoted

/-! Chains of decorators around a final handler. A decorator gets a request and the rest of the chain, which it may
run any number of times, with any request, and whose outcome it may change. The chain is the same for every
kind of effect and of response. -/

set_option autoImplicit false

namespace Sluice

/-- What is left of a chain: its place in the stack, the size of the stack, and how to run it. -/
structure Next (m : Type → Type) (ρ : Type) where
  index : Nat
  size : Nat
  run : Request → m (Except Fault ρ)

abbrev Decorator (m : Type → Type) (ρ : Type) := Request → Next m ρ → m (Except Fault ρ)

namespace Next

variable {m : Type → Type} {ρ : Type}

def remaining (next : Next m ρ) : Nat := next.size - next.index

def outline (next : Next m ρ) : Text.Outline :=
  .closed "Next" [("index", .nat next.index), ("remaining", .nat next.remaining)]

/-- What a chain without a final handler ends in. -/
def noHandler : Fault := .internal "Middleware chain completed without handler"

/-- The chain of a stack from a place on. -/
def ofStack [Monad m] (handler : Option (Request → m (Except Fault ρ))) (size index : Nat) :
    List (Decorator m ρ) → Next m ρ
  | [] => ⟨index, size, handler.getD fun _ => return .error noHandler⟩
  | decorator :: rest =>
    ⟨index, size, fun request => decorator request (ofStack handler size (index + 1) rest)⟩

/-- The chain of a whole stack. -/
def start [Monad m] (stack : List (Decorator m ρ)) (handler : Option (Request → m (Except Fault ρ))) :
    Next m ρ := ofStack handler stack.length 0 stack

end Next

end Sluice

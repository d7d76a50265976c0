/-!
# Logged computations

A logged computation has a result and leaves records behind, in the order in which they were written.
-/

set_option autoImplicit false

namespace Beans

inductive LogLevel where
  | trace
  | debug
  | warn
deriving DecidableEq, Repr

def LogLevel.name : LogLevel → String
  | trace => "TRACE"
  | debug => "DEBUG"
  | warn => "WARN"

structure LogRecord where
  level : LogLevel
  text : String
deriving DecidableEq, Repr

structure Logged (α : Type) where
  result : α
  log : List LogRecord := []

namespace Logged

instance : Monad Logged where
  pure a := { result := a }
  bind x f :=
    let y := f x.result
    { result := y.result, log := x.log ++ y.log }

def write (level : LogLevel) (text : String) : Logged Unit :=
  ⟨(), [⟨level, text⟩]⟩

@[simp] theorem result_bind {α β : Type} (x : Logged α) (f : α → Logged β) :
    (x >>= f).result = (f x.result).result := rfl

/-- The log grows by appending, so sequences may be grouped in any way. -/
instance : LawfulMonad Logged :=
  .mk' Logged (fun x => congrArg (Logged.mk x.result) (List.append_nil x.log))
    (fun a f => congrArg (Logged.mk (f a).result) (List.nil_append (f a).log))
    (fun x f g => congrArg (Logged.mk (g (f x.result).result).result)
      (List.append_assoc x.log (f x.result).log (g (f x.result).result).log))

end Logged

end Beans

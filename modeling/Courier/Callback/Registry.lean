import Courier.Fault

namespace Courier

/-! A slot for the default implementation, which is filled at most once. -/

structure Registry (α : Type) where
  registered : Option α := none

namespace Registry

variable {α : Type}

def empty : Registry α := {}

/-- Fills the slot and tells whether something was stored.  A filled slot
refuses every further registration, an absent one included. -/
def setDefault (registry : Registry α) (implementation : Option α) :
    Except Fault Bool × Registry α :=
  match registry.registered, implementation with
  | some _, _ => (.error .duplicateRegistration, registry)
  | none, none => (.ok false, registry)
  | none, some stored => (.ok true, ⟨some stored⟩)

def getDefault (registry : Registry α) : Option α :=
  registry.registered

/-- Shows whether the slot is filled. -/
def describe (registry : Registry α) : String :=
  "DefaultCallbackRegistry \x7b registered: " ++
    (if registry.registered.isSome then "true" else "false") ++ " \x7d"

end Registry

end Courier

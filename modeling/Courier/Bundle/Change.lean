import Courier.Bundle.Basic

namespace Courier.Bundle

/-! The operations that change a bundle, as values. -/

inductive Change where
  | insert (key : String) (value : Stored)
  /-- An insertion that hands the bundle on instead of an answer. -/
  | put (key : String) (value : Stored)
  | remove (key : String)

namespace Change

def key : Change → String
  | .insert key _ | .put key _ | .remove key => key

/-- What the change leaves under its key. -/
def stored? : Change → Option Stored
  | .insert _ value | .put _ value => some value
  | .remove _ => none

def answers : Change → Bool
  | .insert _ _ | .remove _ => true
  | .put _ _ => false

end Change

/-- What a change answers, and the bundle after it. -/
def change (bundle : Bundle) : Change → Option Value × Bundle
  | .insert key value => (bundle.find? key, bundle.insert key value)
  | .put key value => (none, bundle.insert key value)
  | .remove key => (bundle.find? key, bundle.erase key)

/-- What the changes answer, one after the other, and the bundle after them. -/
def changeAll (bundle : Bundle) : List Change → List (Option Value) × Bundle
  | [] => ([], bundle)
  | next :: later =>
      let (answer, changed) := bundle.change next
      let (answers, after) := changed.changeAll later
      (answer :: answers, after)

end Courier.Bundle

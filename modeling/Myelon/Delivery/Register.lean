/-
A register that several parties load, store and add to.

A list of accesses agrees with a register when every access that returns a value
returned the one that the accesses before it had left.
-/

import Mathlib.Algebra.Order.Ring.Int
import Myelon.Delivery.Log

namespace Delivery

inductive Access where
  | loaded (result : Int)
  | stored (value : Int)
  | added (amount result : Int)
  deriving DecidableEq

namespace Register

/-- The value of an addition that wraps around as an `i64`. -/
def wrappingAdd (value amount : Int) : Int := (value + amount).bmod (2 ^ 64)

def after (value : Int) : Access → Int
  | .loaded _ => value
  | .stored stored => stored
  | .added amount _ => wrappingAdd value amount

def value (initial : Int) (accesses : List Access) : Int := accesses.foldl after initial

def Returns (value : Int) : Access → Prop
  | .loaded result => result = value
  | .stored _ => True
  | .added _ result => result = value

/-- Each access returned what the register held at its time. -/
def Agrees (initial : Int) (accesses : List Access) : Prop :=
  Throughout (fun before access => Returns (value initial before) access) accesses

variable {initial : Int} {accesses : List Access} {access : Access}

theorem value_snoc : value initial (accesses ++ [access]) =
    after (value initial accesses) access := by
  unfold value
  rw [List.foldl_append]
  rfl

end Register
end Delivery

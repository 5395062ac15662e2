import JavaLauncher.Text.Utf8

/-!
# Outputs

An output is offered bytes and takes some of them from the front, perhaps fewer than all, or it
fails for a reason. Bytes are written by offering what is left of them again and again; this ends
when nothing is left, when the output fails, or when it takes nothing of what it is offered. An
offer that is interrupted before any byte is taken is made again, so it is no case of its own here.
-/
namespace JavaLauncher

/-- An output whose state has a given type. -/
structure Output (State : Type) where
  /-- Offers bytes: how many of them the output takes from the front, or why it fails. -/
  offer : (bytes : List UInt8) → State → Except String (Fin (bytes.length + 1)) × State
  /-- Has everything that was taken passed on, or tells why that fails. -/
  flush : State → Except String Unit × State

namespace Output

variable {State : Type}

/-- Why writing ends at an output that takes nothing. -/
def takesNothing : String := "failed to write whole buffer"

/-- Writes bytes: offers what is left of them until nothing is. -/
def writeAll (output : Output State) (bytes : List UInt8) (state : State) :
    Except String Unit × State :=
  if _empty : bytes = [] then (.ok (), state)
  else
    match output.offer bytes state with
    | (.error reason, after) => (.error reason, after)
    | (.ok count, after) =>
      if _took : 0 < count.val then output.writeAll (bytes.drop count) after
      else (.error takesNothing, after)
termination_by bytes.length
decreasing_by
  have : 0 < bytes.length := List.length_pos_iff.2 _empty
  rw [List.length_drop]
  omega

/-- Writes a text and has it passed on. -/
def print (output : Output State) (text : String) (state : State) : Except String Unit × State :=
  match output.writeAll (Text.Utf8.encode text) state with
  | (.ok (), after) => output.flush after
  | (.error reason, after) => (.error reason, after)

end Output

/-- What has been written to a pipe, and for how many more bytes its other end stays open; it may
stay open for ever. -/
structure Pipe where
  /-- The bytes that were taken. -/
  taken : List UInt8
  /-- How many more bytes are taken. -/
  room : Option Nat
  deriving DecidableEq, Repr

namespace Pipe

/-- The number of offered bytes that a pipe takes. -/
def accepted (pipe : Pipe) (offered : Nat) : Nat :=
  match pipe.room with
  | none => offered
  | some left => min left offered

/-- A pipe takes no more than it is offered. -/
theorem accepted_lt (pipe : Pipe) (offered : Nat) : pipe.accepted offered < offered + 1 := by
  unfold accepted
  split
  · exact Nat.lt_succ_self offered
  · exact Nat.lt_succ_of_le (Nat.min_le_right _ offered)

/-- A pipe as an output: it takes what it has room for, and without room it is broken. -/
def output : Output Pipe where
  offer bytes pipe :=
    if pipe.room = some 0 then (.error "broken pipe", pipe)
    else
      let count := pipe.accepted bytes.length
      (.ok ⟨count, pipe.accepted_lt bytes.length⟩,
        ⟨pipe.taken ++ bytes.take count, pipe.room.map (· - count)⟩)
  flush pipe := (.ok (), pipe)

end Pipe

end JavaLauncher

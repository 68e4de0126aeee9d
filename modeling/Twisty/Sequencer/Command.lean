import Twisty.Query

/-!
# Commands to a sequencer

A program is a finite list of commands. The command `execute` names work to be done and the program
that runs when it is done, so that programs nest to any finite depth. `Command.weight` counts the
commands of a program together with those nested in it.
-/

namespace Twisty

open Text

/-- Work to be executed. -/
inductive Work where
  /-- The moves of a list. -/
  | moves (moves : List Move)
  /-- The move that a token names, or no move. -/
  | token (token : List Char)
  /-- The moves of an algorithm. -/
  | algorithm (text : List Char)
  /-- The moves of an algorithm, which are counted. A strict one is executed only if all of its
  words are moves. -/
  | counted (text : List Char) (strict : Bool)
deriving DecidableEq

/-- An operation on a sequencer. -/
inductive Command where
  /-- Execute some work, and run a program when it is done. The name tells programs apart. -/
  | execute (work : Work) (name : List Char) (onDone : List Command)
  /-- Report that a rotation has been completed, a number of times. -/
  | complete (times : Nat)
  /-- Report completions for as long as a rotation is in flight. -/
  | drain
  /-- Drop every unfinished request. -/
  | clear
  /-- Describe the sequencer. -/
  | inspect
  /-- All rotations issued so far. -/
  | issued
  /-- The positions of all layer rotations issued so far. -/
  | positions
  /-- Ask the notation. -/
  | ask (query : Query)

mutual

/-- The number of commands in a command, itself included. -/
def Command.weight : Command → Nat
  | .execute _ _ onDone => 1 + Command.weights onDone
  | _ => 1

/-- The number of commands in a program. -/
def Command.weights : List Command → Nat
  | [] => 0
  | c :: cs => c.weight + Command.weights cs

end

/-- A command weighs at least one. -/
theorem Command.weight_pos (c : Command) : 0 < c.weight := by
  cases c <;> simp only [weight] <;> omega

/-- Work made ready: its moves unless it is refused, what was reported, and the answer to whoever
asked for it. -/
structure Prepared where
  moves? : Option (List Move)
  records : List LogRecord
  reply : Reply
deriving DecidableEq

/-- Work is made ready by the notation of the moment. -/
def Work.prepare (n : Notation) : Work → Prepared
  | moves ms => ⟨some ms, [], .nothing⟩
  | token t => ⟨some (n.move? t).value.toList, (n.move? t).records, .nothing⟩
  | algorithm text => ⟨some (n.algorithm text).value, (n.algorithm text).records, .nothing⟩
  | counted text false =>
    ⟨some (n.algorithm text).value, (n.algorithm text).records,
      .count (n.algorithm text).value.length⟩
  | counted text true =>
    match n.algorithmStrict text with
    | .ok ms => ⟨some ms, [], .count ms.length⟩
    | .error es => ⟨none, [], .refusedAll es⟩

end Twisty

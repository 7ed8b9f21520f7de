import ControlPlane.Api.Requests

/-!
# Conversations with a server

A client's program sends requests and sleeps. Here the server answers from a script; a request that
the script does not answer is never answered, and the program waits for ever.

* `Talk.run_ask`: a request is answered by the next line of the script.
* `Call.talk`: a store call held as a conversation, which sends one request at most.
-/

namespace ControlPlane

/-- What the server will answer, what it was asked, and how long the client has slept. -/
structure Conversation where
  script : List Response
  sent : List Request := []
  slept : Nat := 0

/-- A client's program; it ends in `none` when it waits for ever. -/
abbrev Talk (α : Type) := OptionT (StateM Conversation) α

namespace Talk

/-- Sends a request and waits for the answer. -/
def ask (r : Request) : Talk Response := fun c =>
  let c := { c with sent := c.sent ++ [r] }
  match c.script with
  | [] => (none, c)
  | answer :: rest => (some answer, { c with script := rest })

/-- Sleeps for so many seconds. -/
def sleep (seconds : Nat) : Talk Unit := fun c =>
  (some (), { c with slept := c.slept + seconds })

/-- Holds a conversation over a script. -/
def converse {α : Type} (t : Talk α) (script : List Response) : Option α × Conversation :=
  t.run.run { script }

theorem run_ask (r : Request) (answer : Response) (rest : List Response) (sent : List Request)
    (slept : Nat) :
    ask r ⟨answer :: rest, sent, slept⟩ = (some answer, ⟨rest, sent ++ [r], slept⟩) := rfl

end Talk

/-- A store call over the server. -/
def Call.talk (c : Call) : Talk (Except CallError c.Reply) :=
  match c.request with
  | .error e => return .error e
  | .ok r => do
    let answer ← Talk.ask r
    return (c.reply answer).mapError .client

end ControlPlane

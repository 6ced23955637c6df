import KeyClient.Config.Basic

/-!
# Prompts

A question has a name, a value that counts if nothing is answered, and perhaps a condition on
answers given in advance.  Answers come from a queue, one for each question asked, as those that are
injected into prompts 2.4.2 do.
-/

namespace KeyClient

/-- An answer to a question. -/
inductive Answer where
  | value (v : Value)
  | cancel
deriving Repr

/-- The answers at hand: those given in advance by the name of the question, and the others. -/
structure Answers where
  advance : List (String × Value)
  queue : List Answer
deriving Repr

/-- A question. -/
structure Question where
  name : String
  initial : Value
  accepts : Value → Bool

namespace Question

/-- The answer that was given in advance, if it counts. -/
def advance? (question : Question) (answers : Answers) : Option Value :=
  match answers.advance.lookup question.name with
  | none | some .undefined => none
  | some v => if question.accepts v then some v else none

/-- Ask the question: the answer, unless the user cancels, and the answers left. -/
def ask (question : Question) (answers : Answers) : Option Value × Answers :=
  match question.advance? answers with
  | some v => (some v, answers)
  | none =>
    match answers.queue with
    | [] | .value .undefined :: _ =>
      (some question.initial, { answers with queue := answers.queue.tail })
    | .value v :: rest => (some v, { answers with queue := rest })
    | .cancel :: rest => (none, { answers with queue := rest })

end Question

end KeyClient

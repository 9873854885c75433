namespace BuildHerald

/-- A procedure that is over, or puts a question to its surroundings and goes on by the answer. -/
inductive Dialogue (Question : Type) (Answer : Question → Type) (α : Type)
  | done (result : α)
  | ask (question : Question) (next : Answer question → Dialogue Question Answer α)

namespace Dialogue

variable {Question Asked : Type} {Answer : Question → Type} {Told : Asked → Type}
  {α β σ : Type}

/-- Goes on with a second procedure when the first is over. -/
def andThen (first : Dialogue Question Answer α) (second : α → Dialogue Question Answer β) :
    Dialogue Question Answer β :=
  match first with
  | done result => second result
  | ask question next => ask question fun answer => (next answer).andThen second

instance : Monad (Dialogue Question Answer) where
  pure := done
  bind := andThen

/-- The procedure that asks one question. -/
def put (question : Question) : Dialogue Question Answer (Answer question) :=
  ask question done

/-- Lets surroundings with a state of their own answer every question. -/
def run (answer : (question : Question) → σ → Answer question × σ) :
    Dialogue Question Answer α → σ → α × σ
  | done result, state => (result, state)
  | ask question next, state =>
      let (reply, state) := answer question state
      (next reply).run answer state

/-- Replaces every question by a procedure that asks other questions. -/
def interpret (render : (question : Question) → Dialogue Asked Told (Answer question)) :
    Dialogue Question Answer α → Dialogue Asked Told α
  | done result => done result
  | ask question next =>
      (render question).andThen fun answer => (next answer).interpret render

/-- Replaces every question by a procedure that asks other questions, and that may use and change a
state. -/
def interpretWith
    (render : (question : Question) → σ → Dialogue Asked Told (Answer question × σ)) :
    Dialogue Question Answer α → σ → Dialogue Asked Told (α × σ)
  | done result, state => done (result, state)
  | ask question next, state =>
      (render question state).andThen fun (answer, state) => (next answer).interpretWith render state

@[simp] theorem run_done (answer : (question : Question) → σ → Answer question × σ) (result : α)
    (state : σ) : (done result : Dialogue Question Answer α).run answer state = (result, state) :=
  rfl

theorem run_andThen (answer : (question : Question) → σ → Answer question × σ)
    (first : Dialogue Question Answer α) (second : α → Dialogue Question Answer β) (state : σ) :
    (first.andThen second).run answer state =
      (second (first.run answer state).1).run answer (first.run answer state).2 := by
  induction first generalizing state with
  | done result => rfl
  | ask question next ih => exact ih _ _

end Dialogue

end BuildHerald

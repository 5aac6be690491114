/-!
# Programs that can be killed between two effects

A program transforms a durable state.  Its run records the state after every
atomic effect, so that the states a kill can leave behind are exactly the
state the run started from and the recorded ones.  The weakest precondition
has one postcondition for a normal end, one for a raised error and one, the
crash condition, for every recorded state.
-/

namespace CodingLlm
namespace CrashLogic

/-- What one run leaves behind: the states after each atomic effect in order,
how the run ended, and the state it ended in. -/
structure Outcome (σ ε α : Type) where
  visited : List σ
  result : Except ε α
  final : σ

/-- A program over durable states `σ` that may raise an error of type `ε`. -/
def Program (σ ε α : Type) : Type := σ -> Outcome σ ε α

namespace Program

/-- Run a program from a durable state. -/
def run (program : Program σ ε α) (state : σ) : Outcome σ ε α := program state

/-- Return a value without touching the durable state. -/
def done (value : α) : Program σ ε α :=
  fun state => ⟨[], .ok value, state⟩

/-- Raise an error without touching the durable state. -/
def raise (error : ε) : Program σ ε α :=
  fun state => ⟨[], .error error, state⟩

/-- Run a second program on the value of the first, unless the first raised. -/
def andThen
    (program : Program σ ε α)
    (next : α -> Program σ ε β) : Program σ ε β :=
  fun state =>
    let first := program.run state
    match first.result with
    | .ok value =>
        let second := (next value).run first.final
        ⟨first.visited ++ second.visited, second.result, second.final⟩
    | .error error => ⟨first.visited, .error error, first.final⟩

instance : Monad (Program σ ε) where
  pure := done
  bind := andThen

instance : MonadExceptOf ε (Program σ ε) where
  throw := raise
  tryCatch program handler := fun state =>
    let first := program.run state
    match first.result with
    | .ok _ => first
    | .error error =>
        let second := (handler error).run first.final
        ⟨first.visited ++ second.visited, second.result, second.final⟩

/-- One atomic effect.  A failing effect leaves the state as it was. -/
def effect (change : σ -> Except ε (σ × α)) : Program σ ε α :=
  fun state =>
    match change state with
    | .ok (next, value) => ⟨[next], .ok value, next⟩
    | .error error => ⟨[], .error error, state⟩

/-- Read the durable state. -/
def inspect (read : σ -> Except ε α) : Program σ ε α :=
  fun state => ⟨[], read state, state⟩

/-- A computation without effects. -/
def lift (value : Except ε α) : Program σ ε α :=
  inspect fun _ => value

/-- Run a body on every element of a list in order. -/
def forEach (items : List β) (body : β -> Program σ ε Unit) :
    Program σ ε Unit :=
  match items with
  | [] => done ()
  | item :: rest => body item >>= fun _ => forEach rest body

/-- A `while` loop over a loop-carried value, with a bound on its iterations.
Reaching the bound raises `exhausted`. -/
def whileLoop
    (exhausted : ε)
    (condition : α -> Bool)
    (body : α -> Program σ ε α) : Nat -> α -> Program σ ε α
  | 0, value =>
      if condition value then raise exhausted else done value
  | bound + 1, value =>
      if condition value then
        body value >>= whileLoop exhausted condition body bound
      else done value

/-! ## Weakest preconditions -/

/-- From `state` the run ends normally with `post`, or raises with `fail`, and
every state it passes through satisfies `crash`. -/
def wp
    (program : Program σ ε α)
    (post : α -> σ -> Prop)
    (fail : ε -> σ -> Prop)
    (crash : σ -> Prop)
    (state : σ) : Prop :=
  (∀ visited ∈ (program.run state).visited, crash visited) ∧
    match (program.run state).result with
    | .ok value => post value (program.run state).final
    | .error error => fail error (program.run state).final

section Rules

variable {σ ε α β : Type}
variable {post : α -> σ -> Prop} {fail : ε -> σ -> Prop} {crash : σ -> Prop}
variable {state : σ}

@[simp] theorem wp_done (value : α) :
    (done value : Program σ ε α).wp post fail crash state ↔
      post value state := by
  simp [wp, run, done]

@[simp] theorem wp_pure (value : α) :
    (pure value : Program σ ε α).wp post fail crash state ↔
      post value state :=
  wp_done value

@[simp] theorem wp_raise (error : ε) :
    (raise error : Program σ ε α).wp post fail crash state ↔
      fail error state := by
  simp [wp, run, raise]

@[simp] theorem wp_throw (error : ε) :
    (throw error : Program σ ε α).wp post fail crash state ↔
      fail error state :=
  wp_raise error

/-- A sequence is verified by verifying the second program from every end of
the first. -/
@[simp] theorem wp_bind
    (program : Program σ ε β)
    (next : β -> Program σ ε α) :
    (program >>= next).wp post fail crash state ↔
      program.wp (fun value => (next value).wp post fail crash)
        fail crash state := by
  change (andThen program next).wp post fail crash state ↔ _
  cases ended : (program.run state).result with
  | error error =>
      have ran : (andThen program next).run state =
          ⟨(program.run state).visited, .error error,
            (program.run state).final⟩ := by
        simp only [run, andThen] at ended ⊢
        rw [ended]
      simp [wp, ran, ended]
  | ok value =>
      have ran : (andThen program next).run state =
          ⟨(program.run state).visited ++
              ((next value).run (program.run state).final).visited,
            ((next value).run (program.run state).final).result,
            ((next value).run (program.run state).final).final⟩ := by
        simp only [run, andThen] at ended ⊢
        rw [ended]
      simp only [wp, ran, ended, List.mem_append, or_imp, forall_and]
      exact and_assoc

/-- A handler is verified from every state in which the program can raise. -/
theorem wp_tryCatch
    (program : Program σ ε α)
    (handler : ε -> Program σ ε α) :
    (tryCatch program handler).wp post fail crash state ↔
      program.wp post
        (fun error => (handler error).wp post fail crash) crash state := by
  cases ended : (program.run state).result with
  | ok value =>
      have ran : (tryCatch program handler).run state =
          program.run state := by
        simp only [run, tryCatch, tryCatchThe, MonadExceptOf.tryCatch]
          at ended ⊢
        rw [ended]
      simp [wp, ran, ended]
  | error error =>
      have ran : (tryCatch program handler).run state =
          ⟨(program.run state).visited ++
              ((handler error).run (program.run state).final).visited,
            ((handler error).run (program.run state).final).result,
            ((handler error).run (program.run state).final).final⟩ := by
        simp only [run, tryCatch, tryCatchThe, MonadExceptOf.tryCatch]
          at ended ⊢
        rw [ended]
      simp only [wp, ran, ended, List.mem_append, or_imp, forall_and]
      exact and_assoc

/-- The value of a run is its result. -/
theorem wp_result (program : Program σ ε α) :
    program.wp
      (fun value _ => (program.run state).result = .ok value)
      (fun error _ => (program.run state).result = .error error)
      (fun _ => True) state := by
  refine ⟨fun _ _ => trivial, ?_⟩
  cases (program.run state).result <;> rfl

theorem wp_effect (change : σ -> Except ε (σ × α)) :
    (effect change).wp post fail crash state ↔
      match change state with
      | .ok (next, value) => crash next ∧ post value next
      | .error error => fail error state := by
  unfold wp run effect
  cases change state with
  | error error => simp
  | ok pair => simp

theorem wp_inspect (read : σ -> Except ε α) :
    (inspect read).wp post fail crash state ↔
      match read state with
      | .ok value => post value state
      | .error error => fail error state := by
  unfold wp run inspect
  simp

theorem wp_inspect_ok
    {read : σ -> Except ε α} {value : α}
    (succeeds : read state = .ok value) :
    (inspect read).wp post fail crash state ↔ post value state := by
  rw [wp_inspect, succeeds]

theorem wp_inspect_error
    {read : σ -> Except ε α} {error : ε}
    (raises : read state = .error error) :
    (inspect read).wp post fail crash state ↔ fail error state := by
  rw [wp_inspect, raises]

theorem wp_lift (value : Except ε α) :
    (lift value : Program σ ε α).wp post fail crash state ↔
      match value with
      | .ok value => post value state
      | .error error => fail error state :=
  wp_inspect _

@[simp] theorem wp_lift_ok (value : α) :
    (lift (.ok value) : Program σ ε α).wp post fail crash state ↔
      post value state := by
  rw [wp_lift]

@[simp] theorem wp_lift_error (error : ε) :
    (lift (.error error) : Program σ ε α).wp post fail crash state ↔
      fail error state := by
  rw [wp_lift]

/-- Weaker conditions follow from stronger ones. -/
theorem wp.mono
    {program : Program σ ε α}
    {post' : α -> σ -> Prop} {fail' : ε -> σ -> Prop} {crash' : σ -> Prop}
    (verified : program.wp post fail crash state)
    (postWeaker : ∀ value final, post value final -> post' value final)
    (failWeaker : ∀ error final, fail error final -> fail' error final)
    (crashWeaker : ∀ visited, crash visited -> crash' visited) :
    program.wp post' fail' crash' state := by
  obtain ⟨visitedOk, ended⟩ := verified
  refine ⟨fun visited member => crashWeaker visited (visitedOk visited member), ?_⟩
  cases result : (program.run state).result with
  | ok value =>
      rw [result] at ended
      exact postWeaker value _ ended
  | error error =>
      rw [result] at ended
      exact failWeaker error _ ended

/-- Only the postcondition is weakened. -/
theorem wp.weaken
    {program : Program σ ε α}
    {post' : α -> σ -> Prop}
    (verified : program.wp post fail crash state)
    (postWeaker : ∀ value final, post value final -> post' value final) :
    program.wp post' fail crash state :=
  verified.mono postWeaker (fun _ _ => id) (fun _ => id)

/-- A verified run that ended normally satisfies its postcondition. -/
theorem wp.ok
    {program : Program σ ε α}
    (verified : program.wp post fail crash state)
    {value : α}
    (ended : (program.run state).result = .ok value) :
    post value (program.run state).final := by
  have result := verified.2
  rw [ended] at result
  exact result

/-- A verified run that raised satisfies its error condition. -/
theorem wp.error
    {program : Program σ ε α}
    (verified : program.wp post fail crash state)
    {error : ε}
    (ended : (program.run state).result = .error error) :
    fail error (program.run state).final := by
  have result := verified.2
  rw [ended] at result
  exact result

/-- A run that cannot raise ends normally. -/
theorem wp.terminates
    {program : Program σ ε α}
    (verified : program.wp post (fun _ _ => False) crash state) :
    ∃ value, (program.run state).result = .ok value ∧
      post value (program.run state).final := by
  cases ended : (program.run state).result with
  | ok value => exact ⟨value, rfl, verified.ok ended⟩
  | error error => exact (verified.error ended).elim

/-- Two verifications of one run hold together. -/
theorem wp.and
    {program : Program σ ε α}
    {post' : α -> σ -> Prop} {fail' : ε -> σ -> Prop} {crash' : σ -> Prop}
    (first : program.wp post fail crash state)
    (second : program.wp post' fail' crash' state) :
    program.wp (fun value final => post value final ∧ post' value final)
      (fun error final => fail error final ∧ fail' error final)
      (fun visited => crash visited ∧ crash' visited) state := by
  refine ⟨fun visited member => ⟨first.1 visited member, second.1 visited member⟩, ?_⟩
  cases result : (program.run state).result with
  | ok value => exact ⟨first.ok result, second.ok result⟩
  | error error => exact ⟨first.error result, second.error result⟩

/-- An invariant of the body, indexed by the elements still to come, holds at
the end of the loop. -/
theorem wp_forEach
    {items : List β}
    {body : β -> Program σ ε Unit}
    (invariant : List β -> σ -> Prop)
    (entry : invariant items state)
    (step : ∀ item rest current,
      (∃ before, before ++ item :: rest = items) ->
      invariant (item :: rest) current ->
        (body item).wp (fun _ => invariant rest) fail crash current) :
    (forEach items body).wp (fun _ => invariant []) fail crash state := by
  induction items generalizing state with
  | nil => simpa [forEach] using entry
  | cons item rest inductionHypothesis =>
      rw [forEach, wp_bind]
      refine (step item rest state ⟨[], rfl⟩ entry).weaken ?_
      intro _ middle holds
      refine inductionHypothesis holds ?_
      rintro next tail current ⟨before, split⟩
      exact step next tail current ⟨item :: before, by rw [← split]; rfl⟩

/-- Total correctness of a loop whose variant decreases and whose bound is at
least the variant: the bound is never what ends it. -/
theorem wp_whileLoop
    {exhausted : ε}
    {condition : α -> Bool}
    {body : α -> Program σ ε α}
    (invariant : α -> σ -> Prop)
    (variant : α -> Nat)
    (step : ∀ value current, invariant value current -> condition value = true ->
      (body value).wp
        (fun next final => invariant next final ∧ variant next < variant value)
        fail crash current)
    (positive : ∀ value current,
      invariant value current -> condition value = true -> 0 < variant value)
    {bound : Nat} {value : α}
    (enough : variant value ≤ bound)
    (entry : invariant value state) :
    (whileLoop exhausted condition body bound value).wp
      (fun last final => invariant last final ∧ condition last = false)
      fail crash state := by
  induction bound generalizing value state with
  | zero =>
      cases more : condition value with
      | true =>
          have := positive value state entry more
          omega
      | false => simpa [whileLoop, more] using entry
  | succ bound inductionHypothesis =>
      cases more : condition value with
      | false => simpa [whileLoop, more] using entry
      | true =>
          simp only [whileLoop, more, if_true, wp_bind]
          refine (step value state entry more).weaken ?_
          rintro next final ⟨holds, smaller⟩
          exact inductionHypothesis (by omega) holds

end Rules

/-! ## Runs with kills -/

/-- The states a kill during one run can leave: the state it started from, or
any state it passed through. -/
def Killed (program : Program σ ε α) (before after : σ) : Prop :=
  after = before ∨ after ∈ (program.run before).visited

/-- A crash condition that also holds where the run started holds wherever it
is killed. -/
theorem wp.killed
    {program : Program σ ε α}
    {post : α -> σ -> Prop} {fail : ε -> σ -> Prop} {crash : σ -> Prop}
    {before after : σ}
    (verified : program.wp post fail crash before)
    (entry : crash before)
    (killed : program.Killed before after) :
    crash after := by
  rcases killed with rfl | member
  · exact entry
  · exact verified.1 after member

/-- Durable states reachable through any number of killed runs of programs
from a family, where a kill may lose undurable data by `loses`. -/
inductive Survives
    (programs : Program σ ε α -> Prop)
    (loses : σ -> σ -> Prop)
    (origin : σ) : σ -> Prop
  | start : Survives programs loses origin origin
  | restart
      {program : Program σ ε α}
      {before after left : σ} :
      Survives programs loses origin before ->
      programs program ->
      program.Killed before after ->
      loses after left ->
      Survives programs loses origin left

/-- A crash invariant that every program of the family keeps, and that no loss
breaks, holds after any number of kills. -/
theorem Survives.invariant
    {programs : Program σ ε α -> Prop}
    {loses : σ -> σ -> Prop}
    {origin state : σ}
    (crash : σ -> Prop)
    (survives : Survives programs loses origin state)
    (entry : crash origin)
    (kept : ∀ program before, programs program -> crash before ->
      ∃ post fail, program.wp post fail crash before)
    (stable : ∀ before after, crash before -> loses before after -> crash after) :
    crash state := by
  induction survives with
  | start => exact entry
  | restart earlier member killed lost inductionHypothesis =>
      obtain ⟨post, fail, verified⟩ := kept _ _ member inductionHypothesis
      exact stable _ _ (verified.killed inductionHypothesis killed) lost

end Program
end CrashLogic
end CodingLlm

import CodingLlm.Library.Transactions

/-!
# Programs on a part of a state, and contracts

A program over one component runs on a larger state and leaves the rest alone.
A contract is what programs keep: an invariant between them, a weaker one at
every effect inside them, and the errors they may raise.
-/

namespace CodingLlm
namespace CrashLogic

variable {σ τ ε α β : Type}

/-! ## Focus -/

namespace Program

/-- Run a program on the component that `get` reads and `put` writes. -/
def within
    (get : σ -> τ)
    (put : τ -> σ -> σ)
    (program : Program τ ε α) : Program σ ε α :=
  fun state =>
    let outcome := program.run (get state)
    ⟨outcome.visited.map fun part => put part state, outcome.result,
      put outcome.final state⟩

/-- A focused program is verified on its component. -/
theorem wp_within
    {get : σ -> τ} {put : τ -> σ -> σ} {program : Program τ ε α}
    {post : α -> σ -> Prop} {fail : ε -> σ -> Prop} {crash : σ -> Prop}
    {state : σ} :
    (within get put program).wp post fail crash state ↔
      program.wp (fun value part => post value (put part state))
        (fun error part => fail error (put part state))
        (fun part => crash (put part state)) (get state) := by
  unfold wp
  apply and_congr
  · exact List.forall_mem_map
  · rfl

end Program

/-! ## Contracts -/

/-- An invariant between programs, what also holds inside them, and the errors
they may raise. -/
structure Contract (σ ε : Type) where
  holds : σ -> Prop
  crash : σ -> Prop
  raises : ε -> Prop
  crash_of_holds : ∀ state, holds state -> crash state

namespace Contract

/-- An invariant at every effect, whatever is raised. -/
def always (invariant : σ -> Prop) : Contract σ ε :=
  ⟨invariant, invariant, fun _ => True, fun _ => id⟩

/-- A program meets a contract. -/
def Met (contract : Contract σ ε) (program : Program σ ε α) : Prop :=
  ∀ state, contract.holds state ->
    program.wp (fun _ => contract.holds)
      (fun error final => contract.raises error ∧ contract.crash final)
      contract.crash state

namespace Met

variable {contract : Contract σ ε} {program : Program σ ε α}

protected theorem pure (value : α) :
    contract.Met (pure value : Program σ ε α) := by
  intro state holds
  rw [Program.wp_pure]
  exact holds

protected theorem throw {error : ε} (allowed : contract.raises error) :
    contract.Met (throw error : Program σ ε α) := by
  intro state holds
  rw [Program.wp_throw]
  exact ⟨allowed, contract.crash_of_holds state holds⟩

protected theorem bind
    {next : α -> Program σ ε β}
    (first : contract.Met program)
    (second : ∀ value, contract.Met (next value)) :
    contract.Met (program >>= next) := by
  intro state holds
  rw [Program.wp_bind]
  exact (first state holds).weaken fun value final => second value final

protected theorem inspect
    {read : σ -> Except ε α}
    (allowed : ∀ state error, contract.holds state ->
      read state = .error error -> contract.raises error) :
    contract.Met (Program.inspect read) := by
  intro state holds
  rw [Program.wp_inspect]
  cases result : read state with
  | ok _ => exact holds
  | error _ =>
      exact ⟨allowed _ _ holds result, contract.crash_of_holds _ holds⟩

protected theorem query (read : σ -> α) :
    contract.Met (Program.query read : Program σ ε α) :=
  Met.inspect nofun

/-- What a query reads, it reads from a state with the invariant. -/
protected theorem query_bind
    {read : σ -> β} {next : β -> Program σ ε α}
    (rest : ∀ state, contract.holds state ->
      (next (read state)).wp (fun _ => contract.holds)
        (fun error final => contract.raises error ∧ contract.crash final)
        contract.crash state) :
    contract.Met (Program.query read >>= next) := by
  intro state holds
  rw [Program.wp_bind, Program.wp_query]
  exact rest state holds

protected theorem lift
    {value : Except ε α}
    (allowed : ∀ error, value = .error error -> contract.raises error) :
    contract.Met (Program.lift value) :=
  Met.inspect fun _ error _ => allowed error

protected theorem effect
    {change : σ -> Except ε (σ × α)}
    (keeps : ∀ state next value, contract.holds state ->
      change state = .ok (next, value) -> contract.holds next)
    (allowed : ∀ state error, contract.holds state ->
      change state = .error error -> contract.raises error) :
    contract.Met (Program.effect change) := by
  intro state holds
  rw [Program.wp_effect]
  cases changed : change state with
  | error _ =>
      exact ⟨allowed _ _ holds changed, contract.crash_of_holds _ holds⟩
  | ok pair =>
      have next := keeps _ _ _ holds changed
      exact ⟨contract.crash_of_holds _ next, next⟩

protected theorem commit
    {change : σ -> σ}
    (keeps : ∀ state, contract.holds state ->
      contract.holds (change state)) :
    contract.Met (Program.commit change : Program σ ε Unit) := by
  intro state holds
  rw [Program.wp_commit]
  have next := keeps state holds
  exact ⟨contract.crash_of_holds _ next, next⟩

protected theorem forEach
    {items : List β} {body : β -> Program σ ε Unit}
    (keeps : ∀ item ∈ items, contract.Met (body item)) :
    contract.Met (Program.forEach items body) := by
  intro state holds
  apply Program.wp_forEach (fun _ => contract.holds) holds
  rintro item rest current ⟨before, split⟩ present
  apply keeps item _ current present
  rw [← split]
  simp

protected theorem ite
    {condition : Prop} [Decidable condition] {other : Program σ ε α}
    (yes : condition -> contract.Met program)
    (no : ¬condition -> contract.Met other) :
    contract.Met (if condition then program else other) := by
  split
  · exact yes ‹_›
  · exact no ‹_›

/-- A step that is taken on a condition, and the rest of the program. -/
protected theorem optional
    {condition : Prop} [Decidable condition]
    {step : Program σ ε Unit} {next : Unit -> Program σ ε α}
    (taken : condition -> contract.Met step)
    (rest : contract.Met (next ())) :
    contract.Met (if condition then step >>= next else next ()) :=
  Met.ite (fun holds => Met.bind (taken holds) fun _ => rest) fun _ => rest

/-- Wherever the program is killed the crash invariant holds. -/
theorem killed
    {before after : σ}
    (met : contract.Met program)
    (holds : contract.holds before)
    (killed : program.Killed before after) : contract.crash after :=
  (met before holds).killed (contract.crash_of_holds _ holds) killed

end Met

section Always

variable {invariant : σ -> Prop}

protected theorem Met.effect_always
    {change : σ -> Except ε (σ × α)}
    (keeps : ∀ state next value, invariant state ->
      change state = .ok (next, value) -> invariant next) :
    (always invariant).Met (Program.effect change) :=
  Met.effect keeps fun _ _ _ _ => trivial

/-- What a program leaves that keeps an invariant at every effect. -/
theorem Met.always_wp
    {program : Program σ ε α} {post : α -> σ -> Prop} {state : σ}
    (met : (always invariant).Met program)
    (holds : invariant state)
    (ends : ∀ value final, invariant final -> post value final) :
    program.wp post (fun _ => invariant) invariant state :=
  (met state holds).mono ends (fun _ _ raised => raised.2) (fun _ => id)

/-- An invariant at every effect is kept over a handler. -/
theorem Met.tryCatch_always
    {program : Program σ ε α}
    {handler : ε -> Program σ ε α}
    (body : (always invariant).Met program)
    (handles : ∀ error, (always invariant).Met (handler error)) :
    (always invariant).Met (tryCatch program handler) := by
  intro state holds
  rw [Program.wp_tryCatch]
  exact (body state holds).mono (fun _ _ => id)
    (fun error final raised => handles error final raised.2) (fun _ => id)

end Always

end Contract
end CrashLogic
end CodingLlm

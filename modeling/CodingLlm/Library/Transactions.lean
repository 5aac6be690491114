import CodingLlm.Library.CrashLogic

/-!
# Committed transactions

Programs over a database: queries, and transactions that commit as one atomic
effect.  A kill between two transactions leaves what the first one committed.
-/

namespace CodingLlm
namespace CrashLogic
namespace Program

/-- Read from the database. -/
def query (read : σ -> α) : Program σ ε α :=
  inspect fun state => .ok (read state)

/-- One committed transaction. -/
def commit (change : σ -> σ) : Program σ ε Unit :=
  effect fun state => .ok (change state, ())

section Rules

variable {σ ε α β : Type}
variable {fail : ε -> σ -> Prop} {crash : σ -> Prop} {state : σ}

@[simp] theorem wp_query
    {post : α -> σ -> Prop} (read : σ -> α) :
    (query read).wp post fail crash state ↔ post (read state) state :=
  wp_inspect _

/-- A transaction commits what a kill right after it must find. -/
@[simp] theorem wp_commit
    {post : Unit -> σ -> Prop} (change : σ -> σ) :
    (commit change).wp post fail crash state ↔
      crash (change state) ∧ post () (change state) :=
  wp_effect _

/-- A value computed without effects. -/
theorem wp_lift_of_eq
    {post : α -> σ -> Prop} {computation : Except ε α} {value : α}
    (succeeds : computation = .ok value) (holds : post value state) :
    (lift computation).wp post fail crash state := by
  rw [succeeds, wp_lift_ok]
  exact holds

/-- A computation without effects before the rest of a program. -/
theorem wp_lift_bind
    {post : α -> σ -> Prop} {computation : Except ε β} {value : β}
    {next : β -> Program σ ε α}
    (succeeds : computation = .ok value)
    (holds : (next value).wp post fail crash state) :
    (lift computation >>= next).wp post fail crash state := by
  rw [wp_bind]
  exact wp_lift_of_eq succeeds holds

/-- A query before the rest of a program. -/
theorem wp_query_bind
    {post : α -> σ -> Prop} {read : σ -> β} {next : β -> Program σ ε α}
    (holds : (next (read state)).wp post fail crash state) :
    (query read >>= next).wp post fail crash state := by
  rw [wp_bind, wp_query]
  exact holds

/-- A transaction before the rest of a program. -/
theorem wp_commit_bind
    {post : α -> σ -> Prop} {change : σ -> σ}
    {next : Unit -> Program σ ε α}
    (committed : crash (change state))
    (holds : (next ()).wp post fail crash (change state)) :
    (commit change >>= next).wp post fail crash state := by
  rw [wp_bind, wp_commit]
  exact ⟨committed, holds⟩

/-- A transaction that may raise, where it does not. -/
theorem wp_effect_ok
    {post : α -> σ -> Prop} {change : σ -> Except ε (σ × α)}
    {next : σ} {value : α}
    (succeeds : change state = .ok (next, value)) :
    (effect change).wp post fail crash state ↔
      crash next ∧ post value next := by
  rw [wp_effect, succeeds]

/-- A transaction that may raise, before the rest of a program. -/
theorem wp_effect_bind
    {post : α -> σ -> Prop} {change : σ -> Except ε (σ × β)}
    {next : β -> Program σ ε α} {final : σ} {value : β}
    (succeeds : change state = .ok (final, value))
    (committed : crash final)
    (holds : (next value).wp post fail crash final) :
    (effect change >>= next).wp post fail crash state := by
  rw [wp_bind, wp_effect_ok succeeds]
  exact ⟨committed, holds⟩

end Rules

end Program
end CrashLogic
end CodingLlm

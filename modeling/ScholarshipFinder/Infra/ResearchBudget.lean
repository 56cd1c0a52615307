import ScholarshipFinder.Infra.SourcePersistence
import ScholarshipFinder.Lib.Pool
import ScholarshipFinder.Lib.Run

/-!
# Call budgets (`infra/research_budget.py`)

`reserve_call` is one statement and a commit.  The statement inserts the row of the provider and
the month, or counts one more call on it where the limit leaves room; it is atomic, and it waits
for the row while the transaction of another worker holds it.
-/

namespace ScholarshipFinder

open Lib

/-- A provider, and the year and month of `current_period_key`. -/
abbrev UsageKey := String × ℕ × ℕ

/-- `INSERT ... ON CONFLICT DO UPDATE ... WHERE calls_used < limit RETURNING calls_used`: whether a
row is returned. -/
def reserveStatement (key : UsageKey) (limit : ℤ) (usage : Table UsageKey ℕ) :
    Bool × Table UsageKey ℕ :=
  match usage.row key with
  | none => (true, usage.insert key 1)
  | some used => if (used : ℤ) < limit then (true, usage.insert key (used + 1)) else (false, usage)

/-- `reserve_call` is the statement with a commit. -/
lemma reserveCall_eq_statement (provider : String) (limit : ℤ) (now : Instant) (tx : Tx) :
    reserveCall provider limit now tx =
      ((reserveStatement (provider, yearMonth now) limit tx.current.usage).1,
        Tx.start { tx.current with
          usage := (reserveStatement (provider, yearMonth now) limit tx.current.usage).2 }) := by
  unfold reserveCall reserveStatement
  dsimp only
  cases tx.current.usage.row (provider, yearMonth now) with
  | none => rfl
  | some used => by_cases hroom : (used : ℤ) < limit <;> simp [hroom] <;> rfl

/-! ## Workers -/

/-- The table, and who holds its rows. -/
structure UsageRows (ι : Type) where
  usage : Table UsageKey ℕ
  holder : UsageKey → Option ι
  /-- What the calls returned, in the order of their returns. -/
  returned : List (UsageKey × Bool)

/-- The statement of a call that is not committed, with its answer. -/
structure BudgetWorker where
  pending : Option (UsageKey × Bool)

inductive BudgetOp
  /-- The statement of a call. -/
  | execute (provider : String) (limit : ℤ) (now : Instant)
  /-- The commit of a call, which then returns. -/
  | commit

/-- The key that an operation is on. -/
def BudgetOp.key : BudgetOp → Option UsageKey
  | .execute provider _ now => some (provider, yearMonth now)
  | .commit => none

structure BudgetStep (ι : Type) where
  worker : ι
  op : BudgetOp

variable {ι : Type} [DecidableEq ι]

/-- An operation of a worker; a statement whose row is held by another worker waits. -/
def BudgetOp.effect (i : ι) (op : BudgetOp) (worker : BudgetWorker) (rows : UsageRows ι) :
    BudgetWorker × UsageRows ι :=
  match op, worker.pending with
  | .execute provider limit now, none =>
    let key := (provider, yearMonth now)
    if rows.holder key = none then
      let result := reserveStatement key limit rows.usage
      (⟨some (key, result.1)⟩,
        { rows with
          usage := result.2
          holder := Function.update rows.holder key (some i) })
    else (worker, rows)
  | .execute _ _ _, some _ => (worker, rows)
  | .commit, some (key, answer) =>
    (⟨none⟩, { rows with
      holder := Function.update rows.holder key none
      returned := rows.returned ++ [(key, answer)] })
  | .commit, none => (worker, rows)

abbrev BudgetPool (ι : Type) := Pool ι (UsageRows ι) BudgetWorker

def budgetStep (s : BudgetPool ι) (step : BudgetStep ι) : BudgetPool ι :=
  s.stepAt step.worker (step.op.effect step.worker)

/-- No call is under way. -/
def budgetStart (ι : Type) (usage : Table UsageKey ℕ) : BudgetPool ι :=
  ⟨⟨usage, fun _ => none, []⟩, fun _ => ⟨none⟩⟩

/-- What the calls on a key returned. -/
def UsageRows.answers (rows : UsageRows ι) (key : UsageKey) : List Bool :=
  (rows.returned.filter (·.1 = key)).map (·.2)

end ScholarshipFinder

import ScholarshipFinder.Infra.ResearchBudget
import ScholarshipFinder.Sample

/-!
# The budget of a month

However the statements of the workers interleave, the calls on one key are answered with `True`
first, as many as the budget has room for, and with `False` from then on.  The insert that creates
the row does not look at the limit, so a month without a row has room for one call at least.
-/

namespace ScholarshipFinder

open Lib

/-- How many calls are answered with `True`, from a row of the table on. -/
def callRoom (limit : ℤ) : Option ℕ → ℕ
  | none => (max limit 1).toNat
  | some used => (limit - used).toNat

/-- What became of a row after some calls on it. -/
structure Spent (limit : ℤ) (start : Option ℕ) (answers : List Bool) (row : Option ℕ) : Prop where
  count : answers.count true = min answers.length (callRoom limit start)
  row : row = if answers = [] then start else some (start.getD 0 + answers.count true)

section

variable {limit : ℤ} {start : Option ℕ} {answers : List Bool}

/-- What a row counts. -/
lemma Spent.used_eq {used : ℕ} (h : Spent limit start answers (some used)) :
    used = start.getD 0 + answers.count true ∧ (start = none → answers ≠ []) := by
  have hrow := h.row
  split at hrow
  · next hnil =>
    subst hnil
    subst hrow
    exact ⟨rfl, by rintro ⟨⟩⟩
  · next hne => exact ⟨Option.some.inj hrow, fun _ => hne⟩

/-- A row has room as long as not all of the room was used. -/
lemma Spent.lt_limit_iff {used : ℕ} (h : Spent limit start answers (some used)) :
    (used : ℤ) < limit ↔ answers.length < callRoom limit start := by
  obtain ⟨hused, hne⟩ := h.used_eq
  have hcount := h.count
  rw [hcount] at hused
  cases start with
  | none =>
    have hlength : 0 < answers.length := List.length_pos_iff.mpr (hne rfl)
    simp only [callRoom, Option.getD_none] at hused ⊢
    omega
  | some before =>
    simp only [callRoom, Option.getD_some] at hused ⊢
    omega

/-- One more statement. -/
lemma Spent.statement {key : UsageKey} {usage : Table UsageKey ℕ}
    (h : Spent limit start answers (usage.row key)) :
    Spent limit start (answers ++ [(reserveStatement key limit usage).1])
      ((reserveStatement key limit usage).2.row key) := by
  have hcount := h.count
  unfold reserveStatement
  cases hused : usage.row key with
  | none =>
    -- the first call inserts the row
    have hrow := h.row
    rw [hused] at hrow
    split at hrow
    · next hnil =>
      subst hnil
      subst hrow
      constructor
      · simp [callRoom]
      · simp
    · cases hrow
  | some used =>
    rw [hused] at h
    obtain ⟨hvalue, -⟩ := h.used_eq
    have hroom := h.lt_limit_iff
    by_cases hlt : (used : ℤ) < limit
    · have hleft := hroom.mp hlt
      simp only [hlt, if_true]
      constructor
      · rw [List.count_append, List.count_singleton_self, List.length_append,
          List.length_singleton, hcount]
        omega
      · rw [if_neg (List.append_ne_nil_of_right_ne_nil _ (List.cons_ne_nil _ _)),
          Table.row_insert_self, List.count_append, List.count_singleton_self, hvalue, add_assoc]
    · have hfull := mt hroom.mpr hlt
      simp only [hlt, if_false]
      constructor
      · rw [List.count_append, List.count_singleton, List.length_append, List.length_singleton,
          hcount]
        simp only [beq_iff_eq, Bool.false_eq_true, if_false]
        omega
      · rw [if_neg (List.append_ne_nil_of_right_ne_nil _ (List.cons_ne_nil _ _)), hused,
          List.count_append, List.count_singleton, hvalue]
        simp

/-- A statement leaves the other rows alone. -/
lemma row_reserveStatement_of_ne {key other : UsageKey} {usage : Table UsageKey ℕ}
    (h : other ≠ key) : (reserveStatement key limit usage).2.row other = usage.row other := by
  unfold reserveStatement
  split
  · exact Table.row_insert_of_ne _ h _
  · split
    · exact Table.row_insert_of_ne _ h _
    · rfl

end

/-! ## Interleavings -/

variable {ι : Type}

/-- What holds of the workers in every interleaving, for a key whose calls have a limit. -/
structure BudgetPool.Sound (key : UsageKey) (limit : ℤ) (start : Option ℕ) (s : BudgetPool ι) :
    Prop where
  /-- A call under way holds its row. -/
  held : ∀ i call, (s.proc i).pending = some call → s.shared.holder call.1 = some i
  owned : ∀ k i, s.shared.holder k = some i →
    ∃ answer, (s.proc i).pending = some (k, answer)
  count : (s.shared.answers key).count true =
    min (s.shared.answers key).length (callRoom limit start)
  free : s.shared.holder key = none →
    Spent limit start (s.shared.answers key) (s.shared.usage.row key)
  busy : ∀ i answer, (s.proc i).pending = some (key, answer) →
    Spent limit start (s.shared.answers key ++ [answer]) (s.shared.usage.row key)

section

variable {key : UsageKey} {limit : ℤ} {start : Option ℕ} {s : BudgetPool ι}

lemma BudgetPool.sound_start (key : UsageKey) (limit : ℤ) (usage : Table UsageKey ℕ) :
    (budgetStart ι usage).Sound key limit (usage.row key) where
  held := by
    rintro i call ⟨⟩
  owned := by
    rintro k i ⟨⟩
  count := rfl
  free := fun _ => ⟨rfl, rfl⟩
  busy := by
    rintro i answer ⟨⟩

variable [DecidableEq ι]

/-- What a step does: nothing, the statement of a call on a row that is free, or its commit. -/
lemma budgetStep_cases (s : BudgetPool ι) (step : BudgetStep ι) :
    budgetStep s step = s ∨
      (∃ provider limit now, step.op = .execute provider limit now ∧
        (s.proc step.worker).pending = none ∧
        s.shared.holder (provider, yearMonth now) = none ∧
        (budgetStep s step).proc = Function.update s.proc step.worker ⟨some ((provider, yearMonth now),
          (reserveStatement (provider, yearMonth now) limit s.shared.usage).1)⟩ ∧
        (budgetStep s step).shared = { s.shared with
          usage := (reserveStatement (provider, yearMonth now) limit s.shared.usage).2
          holder := Function.update s.shared.holder (provider, yearMonth now)
            (some step.worker) }) ∨
      ∃ call, (s.proc step.worker).pending = some call ∧
        (budgetStep s step).proc = Function.update s.proc step.worker ⟨none⟩ ∧
        (budgetStep s step).shared = { s.shared with
          holder := Function.update s.shared.holder call.1 none
          returned := s.shared.returned ++ [call] } := by
  have hsame : ∀ f : BudgetWorker → UsageRows ι → BudgetWorker × UsageRows ι,
      f (s.proc step.worker) s.shared = (s.proc step.worker, s.shared) →
        s.stepAt step.worker f = s := by
    intro f hf
    rw [Pool.stepAt, hf, Function.update_eq_self]
  obtain ⟨i, op⟩ := step
  unfold budgetStep
  dsimp only at hsame ⊢
  cases hpending : (s.proc i).pending with
  | none =>
    cases op with
    | execute provider limit now =>
      by_cases hfree : s.shared.holder (provider, yearMonth now) = none
      · refine .inr (.inl ⟨provider, limit, now, rfl, rfl, hfree, ?_, ?_⟩)
        · simp only [Pool.stepAt, BudgetOp.effect, hpending, if_pos hfree]
        · simp only [Pool.stepAt, BudgetOp.effect, hpending, if_pos hfree]
      · refine .inl (hsame _ ?_)
        simp only [BudgetOp.effect, hpending, if_neg hfree]
    | commit =>
      refine .inl (hsame _ ?_)
      simp only [BudgetOp.effect, hpending]
  | some call =>
    obtain ⟨k, answer⟩ := call
    cases op with
    | execute provider limit now =>
      refine .inl (hsame _ ?_)
      simp only [BudgetOp.effect, hpending]
    | commit =>
      refine .inr (.inr ⟨(k, answer), rfl, ?_, ?_⟩)
      · simp only [Pool.stepAt, BudgetOp.effect, hpending]
      · simp only [Pool.stepAt, BudgetOp.effect, hpending]

omit [DecidableEq ι] in
lemma UsageRows.answers_append {rows : UsageRows ι} {usage : Table UsageKey ℕ}
    {holder : UsageKey → Option ι} {call : UsageKey × Bool} :
    UsageRows.answers ⟨usage, holder, rows.returned ++ [call]⟩ key =
      rows.answers key ++ if call.1 = key then [call.2] else [] := by
  unfold UsageRows.answers
  rw [List.filter_append, List.map_append]
  congr 1
  by_cases hkey : call.1 = key <;> simp [hkey]

/-- A step keeps the invariant, if the calls on the key have the limit. -/
lemma BudgetPool.Sound.step (h : s.Sound key limit start) (step : BudgetStep ι)
    (hlimit : ∀ provider l now, step.op = .execute provider l now →
      (provider, yearMonth now) = key → l = limit) :
    (budgetStep s step).Sound key limit start := by
  rcases budgetStep_cases s step with hsame |
    ⟨provider, l, now, hop, hidle, hfree, hproc, hshared⟩ | ⟨⟨k, answer⟩, hpending, hproc, hshared⟩
  · rw [hsame]
    exact h
  · -- the statement of a call
    set k := (provider, yearMonth now) with hk
    have hanswers : (budgetStep s step).shared.answers key = s.shared.answers key := by
      rw [hshared]
      rfl
    constructor
    case held =>
      intro i call hcall
      rw [hproc, Function.update_apply] at hcall
      rw [hshared]
      split at hcall
      · next hi =>
        subst hi
        obtain rfl := Option.some.inj hcall
        exact Function.update_self _ _ _
      · have hheld := h.held i call hcall
        have hne : call.1 ≠ k := by
          intro heq
          rw [heq, hfree] at hheld
          cases hheld
        exact (Function.update_of_ne hne _ _).trans hheld
    case owned =>
      intro other i hholder
      rw [hshared] at hholder
      change Function.update s.shared.holder k (some step.worker) other = some i at hholder
      rw [Function.update_apply] at hholder
      rw [hproc]
      split at hholder
      · next heq =>
        obtain rfl := Option.some.inj hholder
        rw [Function.update_self, heq]
        exact ⟨_, rfl⟩
      · obtain ⟨found, hfound⟩ := h.owned other i hholder
        have hne : i ≠ step.worker := by
          rintro rfl
          rw [hidle] at hfound
          cases hfound
        rw [Function.update_of_ne hne]
        exact ⟨found, hfound⟩
    case count =>
      rw [hanswers]
      exact h.count
    case free =>
      intro hnone
      rw [hshared] at hnone
      change Function.update s.shared.holder k (some step.worker) key = none at hnone
      rw [Function.update_apply] at hnone
      split at hnone
      · cases hnone
      · next hne =>
        rw [hanswers, hshared]
        change Spent limit start _ ((reserveStatement k l s.shared.usage).2.row key)
        rw [row_reserveStatement_of_ne hne]
        exact h.free hnone
    case busy =>
      intro i answer hcall
      rw [hproc, Function.update_apply] at hcall
      rw [hanswers, hshared]
      change Spent limit start _ ((reserveStatement k l s.shared.usage).2.row key)
      split at hcall
      · obtain ⟨hkey, rfl⟩ := Prod.mk.inj (Option.some.inj hcall)
        obtain rfl := hlimit provider l now hop hkey
        rw [← hkey] at h ⊢
        exact (h.free hfree).statement
      · have hheld := h.held i (key, answer) hcall
        have hne : key ≠ k := by
          intro heq
          rw [heq, hfree] at hheld
          cases hheld
        rw [row_reserveStatement_of_ne hne]
        exact h.busy i answer hcall
  · -- the commit of a call
    have hholder : s.shared.holder k = some step.worker := h.held step.worker (k, answer) hpending
    have hanswers : (budgetStep s step).shared.answers key =
        s.shared.answers key ++ if k = key then [answer] else [] := by
      rw [hshared, UsageRows.answers_append]
    have hother : ∀ i call, ((budgetStep s step).proc i).pending = some call →
        i ≠ step.worker ∧ (s.proc i).pending = some call := by
      intro i call hcall
      rw [hproc, Function.update_apply] at hcall
      split at hcall
      · cases hcall
      · next hne => exact ⟨hne, hcall⟩
    have hkey : ∀ i call, ((budgetStep s step).proc i).pending = some call → call.1 ≠ k := by
      intro i call hcall heq
      obtain ⟨hne, hbefore⟩ := hother i call hcall
      have hheld := h.held i call hbefore
      rw [heq, hholder] at hheld
      exact hne (Option.some.inj hheld).symm
    constructor
    case held =>
      intro i call hcall
      rw [hshared]
      exact (Function.update_of_ne (hkey i call hcall) _ _).trans
        (h.held i call (hother i call hcall).2)
    case owned =>
      intro other i hfound
      rw [hshared] at hfound
      change Function.update s.shared.holder k none other = some i at hfound
      rw [Function.update_apply] at hfound
      split at hfound
      · cases hfound
      · next hne =>
        obtain ⟨found, hcall⟩ := h.owned other i hfound
        have hworker : i ≠ step.worker := by
          rintro rfl
          rw [hpending] at hcall
          exact hne (Prod.mk.inj (Option.some.inj hcall)).1.symm
        rw [hproc, Function.update_of_ne hworker]
        exact ⟨found, hcall⟩
    case count =>
      rw [hanswers]
      split
      · next heq =>
        subst heq
        exact (h.busy step.worker answer hpending).count
      · rw [List.append_nil]
        exact h.count
    case free =>
      intro hnone
      rw [hanswers, hshared]
      split
      · next heq =>
        subst heq
        exact h.busy step.worker answer hpending
      · next hne =>
        rw [hshared] at hnone
        rw [List.append_nil]
        exact h.free ((Function.update_of_ne (Ne.symm hne) _ _).symm.trans hnone)
    case busy =>
      intro i found hcall
      have hne := hkey i (key, found) hcall
      rw [hanswers, if_neg (Ne.symm hne), List.append_nil, hshared]
      exact h.busy i found (hother i (key, found) hcall).2

/-- A step on other keys leaves a row alone. -/
lemma row_budgetStep (step : BudgetStep ι) (hkey : step.op.key ≠ some key) :
    (budgetStep s step).shared.usage.row key = s.shared.usage.row key := by
  rcases budgetStep_cases s step with hsame |
    ⟨provider, l, now, hop, -, -, -, hshared⟩ | ⟨call, -, -, hshared⟩
  · rw [hsame]
  · rw [hshared]
    refine row_reserveStatement_of_ne ?_
    rintro rfl
    rw [hop] at hkey
    exact hkey rfl
  · rw [hshared]

end

/-! ## The result -/

/-- The number of calls that a budget allows of some calls, where an earlier use counts. -/
def allowed (limit : ℤ) (used calls : ℕ) : ℕ := min calls (max (limit - used) 0).toNat

/-- The calls on a key are answered with `True` exactly as often as the budget allows, unless the
row is missing and the limit is not positive; the other rows are not touched. -/
theorem budget_kept_iff {ι : Type} [DecidableEq ι] (key : UsageKey) (limit : ℤ)
    (usage : Table UsageKey ℕ) (steps : List (BudgetStep ι))
    (hlimit : ∀ step ∈ steps, ∀ provider l now, step.op = .execute provider l now →
      (provider, yearMonth now) = key → l = limit) :
    let s := run budgetStep (budgetStart ι usage) steps
    ((s.shared.answers key).count true =
        allowed limit ((usage.row key).getD 0) (s.shared.answers key).length ↔
      0 < limit ∨ (usage.row key).isSome ∨ (s.shared.answers key).length = 0) ∧
    ∀ other, (∀ step ∈ steps, step.op.key ≠ some other) →
      s.shared.usage.row other = usage.row other := by
  intro s
  have hsound : s.Sound key limit (usage.row key) :=
    run_invariant (I := fun s : BudgetPool ι => s.Sound key limit (usage.row key))
      (A := fun step => ∀ provider l now, step.op = .execute provider l now →
        (provider, yearMonth now) = key → l = limit) (C := fun _ _ => True)
      (fun _ step hstep h _ => h.step step hstep) hlimit (BudgetPool.sound_start key limit usage)
      (eachStep_true _ _ _)
  refine ⟨?_, ?_⟩
  · rw [hsound.count, allowed]
    cases usage.row key with
    | none =>
      simp only [callRoom, Option.getD_none, Option.isSome_none, Bool.false_eq_true, false_or]
      omega
    | some used =>
      simp only [callRoom, Option.getD_some, Option.isSome_some, true_or, or_true, iff_true]
      omega
  · intro other hother
    exact run_invariant (I := fun s : BudgetPool ι => s.shared.usage.row other = usage.row other)
      (A := fun step => step.op.key ≠ some other) (C := fun _ _ => True)
      (fun _ step hstep h _ => (row_budgetStep step hstep).trans h) hother rfl
      (eachStep_true _ _ _)

/-! ## Two workers -/

/-- The statement of a call of the fallback reader. -/
def jinaCall (worker : Fin 2) (limit : ℤ) : BudgetStep (Fin 2) :=
  ⟨worker, .execute "jina" limit Sample.start⟩

def jinaReturn (worker : Fin 2) : BudgetStep (Fin 2) := ⟨worker, .commit⟩

/-- Three calls; the second worker first waits for the row. -/
def jinaSteps (limit : ℤ) : List (BudgetStep (Fin 2)) :=
  [jinaCall 0 limit, jinaCall 1 limit, jinaReturn 0, jinaCall 1 limit, jinaReturn 1,
    jinaCall 0 limit, jinaReturn 0]

def jinaKey : UsageKey := ("jina", yearMonth Sample.start)

/-- Two calls of three are allowed. -/
theorem budget_of_two_kept :
    ((run budgetStep (budgetStart (Fin 2) Table.empty) (jinaSteps 2)).shared.answers
        jinaKey).count true = 2 := by
  have hlimit : ∀ step ∈ jinaSteps 2, ∀ provider l now, step.op = .execute provider l now →
      (provider, yearMonth now) = jinaKey → l = 2 := by
    intro step hstep provider l now hop _
    simp only [jinaSteps, List.mem_cons, List.not_mem_nil, or_false] at hstep
    rcases hstep with rfl | rfl | rfl | rfl | rfl | rfl | rfl <;> cases hop <;> rfl
  have hkept := (budget_kept_iff jinaKey 2 Table.empty (jinaSteps 2) hlimit).1.mpr (.inl (by decide))
  rw [hkept]
  decide +kernel

/-- A limit of zero allows a call. -/
theorem zero_budget_allows_call :
    let s := run budgetStep (budgetStart (Fin 2) Table.empty) [jinaCall 0 0, jinaReturn 0]
    (s.shared.answers jinaKey).count true = 1 ∧
      allowed 0 0 (s.shared.answers jinaKey).length = 0 := by
  decide +kernel

end ScholarshipFinder

import ScholarshipFinder.Core.RateLimit
import ScholarshipFinder.Lib.Window

/-!
# The rate limiter is a sliding window

The reference keeps a log of the calls that were allowed and counts in it.  The limiter keeps a
part of the log for each key; what it has dropped, by trimming or with a whole bucket, has left every
window that is still asked for.
-/

namespace ScholarshipFinder

open Lib.Window

/-- A call of `allow`: the reading of the clock, and the key. -/
abbrev LimitCall := Seconds × String

/-- The calls, each on the limiter that the calls before have left; the answers in their order. -/
def runLimiter (step : InMemoryRateLimiter → LimitCall → Bool × InMemoryRateLimiter)
    (calls : List LimitCall) : List Bool × InMemoryRateLimiter :=
  calls.foldl (fun run call =>
    let (allowed, limiter) := step run.2 call
    (run.1 ++ [allowed], limiter)) ([], .initial)

/-- The answers of `allow`, with one limit and one window. -/
def limiterAnswers (limit : ℕ) (windowSeconds : ℤ) (calls : List LimitCall) : List Bool :=
  (runLimiter (fun limiter call => limiter.allow call.1 call.2 limit windowSeconds) calls).1

/-- The answers of a limiter that never evicts. -/
def keepingAnswers (limit : ℕ) (windowSeconds : ℤ) (calls : List LimitCall) : List Bool :=
  (runLimiter (fun limiter call => limiter.serve call.1 call.2 limit windowSeconds) calls).1

/-- The times of the calls of a key that were allowed. -/
def allowedTimes (calls : List LimitCall) (answers : List Bool) (key : String) : List Seconds :=
  ((calls.zip answers).filter fun entry => entry.2 ∧ entry.1.2 = key).map (·.1.1)

/-- How many calls of a key were allowed in `(low, high]`. -/
def allowedIn (calls : List LimitCall) (answers : List Bool) (key : String) (low high : Seconds) :
    ℕ :=
  ((calls.zip answers).filter fun entry =>
    entry.2 ∧ entry.1.2 = key ∧ low < entry.1.1 ∧ entry.1.1 ≤ high).length

variable {limit : ℕ} {windowSeconds : ℤ} {calls : List LimitCall} {answers : List Bool}
  {key : String} {low high now : Seconds}

lemma allowedIn_eq_count :
    allowedIn calls answers key low high = count (allowedTimes calls answers key) low high := by
  rw [allowedIn, count, allowedTimes, List.filter_map, List.length_map, List.filter_filter]
  congr 1
  refine List.filter_congr fun entry _ => ?_
  simp only [Function.comp_apply, Bool.decide_and, Bool.decide_eq_true]
  cases entry.2 <;> cases decide (entry.1.2 = key) <;> simp

/-- The log goes on with a call that is allowed. -/
lemma allowedTimes_concat {call : LimitCall} {allowed : Bool}
    (hlength : answers.length = calls.length) :
    allowedTimes (calls ++ [call]) (answers ++ [allowed]) key =
      allowedTimes calls answers key ++
        if allowed = true ∧ call.2 = key then [call.1] else [] := by
  rw [allowedTimes, List.zip_append hlength.symm, List.filter_append, List.map_append, allowedTimes]
  congr 1
  by_cases hallowed : allowed = true ∧ call.2 = key
  · rw [if_pos hallowed]
    simp [hallowed.1, hallowed.2]
  · rw [if_neg hallowed]
    simpa using hallowed

lemma runLimiter_concat {step : InMemoryRateLimiter → LimitCall → Bool × InMemoryRateLimiter}
    {call : LimitCall} : runLimiter step (calls ++ [call]) =
      ((runLimiter step calls).1 ++ [(step (runLimiter step calls).2 call).1],
        (step (runLimiter step calls).2 call).2) := by
  rw [runLimiter, List.foldl_append]
  rfl

lemma length_runLimiter {step : InMemoryRateLimiter → LimitCall → Bool × InMemoryRateLimiter} :
    (runLimiter step calls).1.length = calls.length := by
  induction calls using List.reverseRecOn with
  | nil => rfl
  | append_singleton calls call ih =>
    rw [runLimiter_concat, List.length_append, List.length_append, ih]
    rfl

/-! ## What a limiter keeps -/

/-- The buckets keep the logs of their keys, where what is dropped has left the window of `now`. -/
structure Tracks (windowSeconds : ℤ) (log : String → List Seconds) (now : Seconds)
    (limiter : InMemoryRateLimiter) : Prop where
  keeps : ∀ key, Keeps (log key) (now - windowSeconds) ((limiter.requests key).getD [])
  sorted : ∀ key, (log key).Pairwise (· ≤ ·)
  past : ∀ key, ∀ t ∈ log key, t ≤ now

variable {log : String → List Seconds} {limiter : InMemoryRateLimiter} {now' : Seconds}

lemma Tracks.initial : Tracks windowSeconds (fun _ => []) now .initial where
  keeps := fun _ => Keeps.refl _ _
  sorted := fun _ => List.Pairwise.nil
  past := fun _ => nofun

lemma Tracks.mono (h : Tracks windowSeconds log now limiter) (hle : now ≤ now') :
    Tracks windowSeconds log now' limiter where
  keeps := fun key => (h.keeps key).mono (by linarith)
  sorted := h.sorted
  past := fun key t ht => (h.past key t ht).trans hle

/-- Evicting buckets drops what has left the window. -/
lemma Tracks.evictExpired (h : Tracks windowSeconds log now limiter) :
    Tracks windowSeconds log now (limiter.evictExpired now windowSeconds) := by
  unfold InMemoryRateLimiter.evictExpired
  split
  · exact h
  · refine ⟨fun key => ?_, h.sorted, h.past⟩
    have hkeeps := h.keeps key
    show Keeps _ _ (((limiter.requests key).filter
      (!InMemoryRateLimiter.ranOut (now - windowSeconds) ·)).getD [])
    cases hbucket : limiter.requests key with
    | none =>
      rw [hbucket] at hkeeps
      exact hkeeps
    | some bucket =>
      rw [hbucket, Option.getD_some] at hkeeps
      by_cases hout : InMemoryRateLimiter.ranOut (now - windowSeconds) bucket = true
      · have hlast : ∀ t ∈ bucket.getLast?, t ≤ now - windowSeconds := by
          intro t ht
          have ht' : bucket.getLast? = some t := ht
          rw [InMemoryRateLimiter.ranOut, ht', Option.all_some, decide_eq_true_eq] at hout
          exact hout
        rw [Option.filter_some_neg (by simp [hout])]
        exact hkeeps.nil (h.sorted key) hlast
      · rw [Option.filter_some_pos (by simpa using hout)]
        exact hkeeps

/-- A call is allowed if the log has room in the window, and then is part of the log. -/
lemma Tracks.serve (h : Tracks windowSeconds log now limiter) (key : String) (limit : ℕ) :
    (limiter.serve now key limit windowSeconds).1 =
        decide (count (log key) (now - windowSeconds) now < limit) ∧
      Tracks windowSeconds (fun key' => log key' ++
        if (limiter.serve now key limit windowSeconds).1 = true ∧ key = key' then [now] else [])
        now (limiter.serve now key limit windowSeconds).2 := by
  have hcount := (h.keeps key).count_eq (h.sorted key) (h.past key)
  have htrimmed := (h.keeps key).dropWhile
  unfold InMemoryRateLimiter.serve
  dsimp only
  rw [hcount]
  split
  · next hfull =>
    refine ⟨(decide_eq_false (not_lt.mpr hfull)).symm, fun key' => ?_, fun key' => ?_,
      fun key' => ?_⟩
    · rw [if_neg (fun hallowed => Bool.false_ne_true hallowed.1), List.append_nil]
      by_cases hkey : key' = key
      · subst hkey
        simpa only [Function.update_self, Option.getD_some] using htrimmed
      · simpa only [Function.update_of_ne hkey] using h.keeps key'
    · rw [if_neg (fun hallowed => Bool.false_ne_true hallowed.1), List.append_nil]
      exact h.sorted key'
    · rw [if_neg (fun hallowed => Bool.false_ne_true hallowed.1), List.append_nil]
      exact h.past key'
  · next hroom =>
    refine ⟨(decide_eq_true (not_le.mp hroom)).symm, fun key' => ?_, fun key' => ?_,
      fun key' => ?_⟩
    · by_cases hkey : key' = key
      · subst hkey
        rw [if_pos ⟨rfl, rfl⟩]
        simpa only [Function.update_self, Option.getD_some] using htrimmed.concat
      · rw [if_neg (fun hallowed => hkey hallowed.2.symm), List.append_nil]
        simpa only [Function.update_of_ne hkey] using h.keeps key'
    · split
      · refine List.pairwise_append.mpr ⟨h.sorted key', List.pairwise_singleton _ _, ?_⟩
        intro t ht t' ht'
        rw [List.mem_singleton.mp ht']
        exact h.past key' t ht
      · rw [List.append_nil]
        exact h.sorted key'
    · intro t ht
      rcases List.mem_append.mp ht with ht | ht
      · exact h.past key' t ht
      · split at ht
        · exact (List.mem_singleton.mp ht).le
        · exact absurd ht List.not_mem_nil

/-! ## Runs -/

section Run

variable {step : InMemoryRateLimiter → LimitCall → Bool × InMemoryRateLimiter}
  (hstep : ∀ limiter log call, Tracks windowSeconds log call.1 limiter →
    (step limiter call).1 = decide (count (log call.2) (call.1 - windowSeconds) call.1 < limit) ∧
      Tracks windowSeconds (fun key => log key ++
        if (step limiter call).1 = true ∧ call.2 = key then [call.1] else [])
        call.1 (step limiter call).2)
include hstep

/-- After a run the buckets keep the logs of the allowed calls. -/
lemma tracks_runLimiter (hsorted : calls.Pairwise fun a b => a.1 ≤ b.1)
    (hpast : ∀ call ∈ calls, call.1 ≤ now) :
    Tracks windowSeconds (allowedTimes calls (runLimiter step calls).1) now
      (runLimiter step calls).2 := by
  induction calls using List.reverseRecOn generalizing now with
  | nil => exact Tracks.initial
  | append_singleton calls call ih =>
    obtain ⟨hcalls, -, hcall⟩ := List.pairwise_append.mp hsorted
    have htracks := ih hcalls fun call' hcall' => hcall call' hcall' call (by simp)
    have hlog : allowedTimes (calls ++ [call]) (runLimiter step (calls ++ [call])).1 = fun key =>
        allowedTimes calls (runLimiter step calls).1 key ++
          if (step (runLimiter step calls).2 call).1 = true ∧ call.2 = key then [call.1] else [] := by
      rw [runLimiter_concat]
      exact funext fun key => allowedTimes_concat length_runLimiter
    rw [hlog, runLimiter_concat]
    exact ((hstep _ _ call htracks).2).mono (hpast call (by simp))

/-- The next answer is that of the log. -/
lemma answers_concat {call : LimitCall}
    (hsorted : (calls ++ [call]).Pairwise fun a b => a.1 ≤ b.1) :
    (runLimiter step (calls ++ [call])).1 = (runLimiter step calls).1 ++
      [decide (allowedIn calls (runLimiter step calls).1 call.2 (call.1 - windowSeconds) call.1 <
        limit)] := by
  obtain ⟨hcalls, -, hcall⟩ := List.pairwise_append.mp hsorted
  have htracks := tracks_runLimiter hstep hcalls
    fun call' hcall' => hcall call' hcall' call (by simp)
  rw [runLimiter_concat, (hstep _ _ call htracks).1, allowedIn_eq_count]

end Run

lemma answers_allow {call : LimitCall}
    (hsorted : (calls ++ [call]).Pairwise fun a b => a.1 ≤ b.1) :
    limiterAnswers limit windowSeconds (calls ++ [call]) =
      limiterAnswers limit windowSeconds calls ++
        [decide (allowedIn calls (limiterAnswers limit windowSeconds calls) call.2
          (call.1 - windowSeconds) call.1 < limit)] :=
  answers_concat (fun _ _ call htracks => htracks.evictExpired.serve call.2 limit) hsorted

lemma answers_keeping {call : LimitCall}
    (hsorted : (calls ++ [call]).Pairwise fun a b => a.1 ≤ b.1) :
    keepingAnswers limit windowSeconds (calls ++ [call]) =
      keepingAnswers limit windowSeconds calls ++
        [decide (allowedIn calls (keepingAnswers limit windowSeconds calls) call.2
          (call.1 - windowSeconds) call.1 < limit)] :=
  answers_concat (fun _ _ call htracks => htracks.serve call.2 limit) hsorted

lemma length_limiterAnswers : (limiterAnswers limit windowSeconds calls).length = calls.length :=
  length_runLimiter

/-- Later answers do not count for the calls before. -/
lemma allowedIn_append {more : List Bool} (h : calls.length ≤ answers.length) :
    allowedIn calls (answers ++ more) key low high = allowedIn calls answers key low high := by
  have hzip : calls.zip (answers ++ more) = calls.zip answers := by
    induction calls generalizing answers with
    | nil => rw [List.zip_nil_left, List.zip_nil_left]
    | cons call calls ih =>
      cases answers with
      | nil => exact absurd h (by simp)
      | cons answer answers =>
        rw [List.cons_append, List.zip_cons_cons, List.zip_cons_cons,
          ih (Nat.le_of_succ_le_succ h)]
  rw [allowedIn, hzip, allowedIn]

/-- A window is never fuller than the limit. -/
lemma allowedIn_le (hsorted : calls.Pairwise fun a b => a.1 ≤ b.1) (key : String)
    (high : Seconds) : allowedIn calls (limiterAnswers limit windowSeconds calls) key
      (high - windowSeconds) high ≤ limit := by
  induction calls using List.reverseRecOn with
  | nil => exact Nat.zero_le _
  | append_singleton calls call ih =>
    obtain ⟨hcalls, -, hcall⟩ := List.pairwise_append.mp hsorted
    have hpast : ∀ t ∈ allowedTimes calls (limiterAnswers limit windowSeconds calls) key,
        t ≤ call.1 := by
      intro t ht
      obtain ⟨entry, hentry, rfl⟩ := List.mem_map.mp ht
      exact hcall _ (List.of_mem_zip (List.mem_of_mem_filter hentry)).1 call (by simp)
    rw [answers_allow hsorted, allowedIn_eq_count, allowedTimes_concat length_limiterAnswers]
    have hbefore := ih hcalls
    rw [allowedIn_eq_count] at hbefore
    split
    · next hallowed =>
      obtain ⟨hroom, rfl⟩ := hallowed
      rw [decide_eq_true_eq, allowedIn_eq_count] at hroom
      rw [count_concat]
      split
      · next hwindow =>
        -- the window that ends with the call begins no later than this one
        have hmono : count (allowedTimes calls (limiterAnswers limit windowSeconds calls) call.2)
            (high - windowSeconds) high ≤
              count (allowedTimes calls (limiterAnswers limit windowSeconds calls) call.2)
                (call.1 - windowSeconds) call.1 :=
          count_mono (sub_le_sub_right hwindow.2 _) hpast
        omega
      · exact hbefore
    · rw [List.append_nil]
      exact hbefore

/-- A call is allowed if and only if fewer than the limit were allowed in the window that ends with
it.  No window is fuller than that, and a limiter that never evicts gives the same answers. -/
theorem allow_sliding_window (limit : ℕ) (windowSeconds : ℤ) (calls : List LimitCall)
    (hsorted : calls.Pairwise fun a b => a.1 ≤ b.1) :
    (limiterAnswers limit windowSeconds calls).length = calls.length ∧
    (∀ before now key after, calls = before ++ (now, key) :: after →
      (limiterAnswers limit windowSeconds calls)[before.length]? =
        some (decide (allowedIn before (limiterAnswers limit windowSeconds calls) key
          (now - windowSeconds) now < limit))) ∧
    (∀ key high, allowedIn calls (limiterAnswers limit windowSeconds calls) key
      (high - windowSeconds) high ≤ limit) ∧
    limiterAnswers limit windowSeconds calls = keepingAnswers limit windowSeconds calls := by
  refine ⟨length_limiterAnswers, ?_, fun key high => allowedIn_le hsorted key high, ?_⟩
  · induction calls using List.reverseRecOn with
    | nil =>
      intro before now key after h
      exact absurd h (by simp)
    | append_singleton calls call ih =>
      intro before now key after h
      obtain ⟨hcalls, -, -⟩ := List.pairwise_append.mp hsorted
      rw [answers_allow hsorted]
      rcases List.eq_nil_or_concat' after with rfl | ⟨after, last, rfl⟩
      · obtain ⟨rfl, hcall⟩ := List.append_inj' h rfl
        obtain rfl := (List.cons.inj hcall).1
        rw [← @length_limiterAnswers limit windowSeconds, List.getElem?_concat_length,
          allowedIn_append length_limiterAnswers.ge]
      · rw [← List.cons_append, ← List.append_assoc] at h
        obtain ⟨rfl, -⟩ := List.append_inj' h rfl
        have hlt : before.length <
            (limiterAnswers limit windowSeconds (before ++ (now, key) :: after)).length := by
          rw [length_limiterAnswers, List.length_append, List.length_cons]
          omega
        rw [List.getElem?_append_left hlt, ih hcalls before now key after rfl,
          allowedIn_append hlt.le]
  · induction calls using List.reverseRecOn with
    | nil => rfl
    | append_singleton calls call ih =>
      rw [answers_allow hsorted, answers_keeping hsorted, ih (List.pairwise_append.mp hsorted).1]

/-- Two calls in a minute, a third one in the same minute and a fourth one a minute later. -/
theorem two_per_minute :
    limiterAnswers 2 60 [(100, "a"), (101, "a"), (102, "b"), (150, "a"), (160, "a")] =
        [true, true, true, false, true] ∧
      limiterAnswers 2 60 [(100, "a"), (101, "a"), (102, "b"), (150, "a"), (160, "a")] =
        keepingAnswers 2 60 [(100, "a"), (101, "a"), (102, "b"), (150, "a"), (160, "a")] := by
  have hsorted : ([(100, "a"), (101, "a"), (102, "b"), (150, "a"), (160, "a")] :
      List LimitCall).Pairwise fun a b => a.1 ≤ b.1 := by
    norm_num
  refine ⟨?_, (allow_sliding_window 2 60 _ hsorted).2.2.2⟩
  decide +kernel

end ScholarshipFinder

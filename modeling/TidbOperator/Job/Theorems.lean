import TidbOperator.Job.Basic
import TidbOperator.Tidb.Lemmas.Triple

/-!
# Job の補助関数の定理

`CreateAndWaitJob` が何回 Job を読み、いつ止まって何を返すか。`DeleteJob` がいつ Pod を消すか。
-/

namespace TidbOperator

/-! ## Job を待つ `Retry` -/

section

variable (env : Env) (name : String)

theorem waitJobCond_apply (w : World) :
    waitJobCond env name w = match (env w.trace.length).err with
      | some e => .error e (w.log (.call (.jobsGet name)))
      | none => .ok ((env w.trace.length).job.active == 1) (w.log (.call (.jobsGet name))) := by
  simp only [waitJobCond, M.bind_apply, answer_apply]
  cases (env w.trace.length).err <;> rfl

theorem retry_waitJobCond : ∀ (n : Nat) (w : World),
    retry (waitJobCond env name) n w =
      match firstRunning env w.trace.length n with
      | some k => .ok () { w with trace := w.trace ++ List.replicate (k + 1) (.call (.jobsGet name)) }
      | none => .error .retryTimeout { w with trace := w.trace ++ List.replicate n (.call (.jobsGet name)) }
  | 0, w => by simp [retry, firstRunning]
  | n + 1, w => by
    have ih := retry_waitJobCond n (w.log (.call (.jobsGet name)))
    simp only [World.log_trace, List.length_append, List.length_singleton] at ih
    rw [retry, M.bind_apply, M.tryCatch_apply, waitJobCond_apply, firstRunning]
    -- 一回が真を返さなければ、残りの `n` 回は一つ後の番号から読む
    have hnext : retry (waitJobCond env name) n (w.log (.call (.jobsGet name))) =
        match (firstRunning env (w.trace.length + 1) n).map (· + 1) with
        | some k => .ok () { w with trace := w.trace ++ List.replicate (k + 1) (.call (.jobsGet name)) }
        | none => .error .retryTimeout
            { w with trace := w.trace ++ List.replicate (n + 1) (.call (.jobsGet name)) } := by
      rw [ih]
      cases firstRunning env (w.trace.length + 1) n <;> simp [World.log, List.replicate_succ]
    cases he : (env w.trace.length).err with
    | some e => simpa using hnext
    | none =>
      by_cases ha : (env w.trace.length).job.active = 1
      · simp [ha]
        rfl
      · simpa [ha] using hnext

end

/-! ## `CreateAndWaitJob` と `DeleteJob` -/

/-- `CreateAndWaitJob` は、`Create` が失敗すれば Job を読まずに nil とそのエラーを返す。通れば、`timeout / 1 秒`
回まで一回ずつ Job を読み、エラーがなく `Status.Active` が 1 の答えを初めて受けたところで止まって、その Job と
nil を返す。どの回もそうでなければ（読むのに失敗した回も次を試す）、最後に受けた Job（一度も読まなければ
作ったときの Job）とタイムアウトを返す。 -/
theorem createAndWaitJob_waits_for_active (env : Env) (job : Job) (timeout : Int) (w : World) :
    (∀ e, (env w.trace.length).err = some e →
      createAndWaitJob env job timeout w = .ok (none, some e) (w.log (.call (.jobsCreate job.name)))) ∧
    ((env w.trace.length).err = none →
      match firstRunning env (w.trace.length + 1) (timeout.tdiv second).toNat with
      | some k => createAndWaitJob env job timeout w =
          .ok (some (env (w.trace.length + 1 + k)).job, none) { w with
            trace := w.trace ++ .call (.jobsCreate job.name) ::
              List.replicate (k + 1) (.call (.jobsGet job.name)) }
      | none => createAndWaitJob env job timeout w =
          .ok (some (env (w.trace.length + (timeout.tdiv second).toNat)).job, some .retryTimeout) { w with
            trace := w.trace ++ .call (.jobsCreate job.name) ::
              List.replicate (timeout.tdiv second).toNat (.call (.jobsGet job.name)) }) := by
  refine ⟨fun e he => by simp [createAndWaitJob, M.bind_apply, request, he], fun he => ?_⟩
  have hr := retry_waitJobCond env job.name (timeout.tdiv second).toNat
    (w.log (.call (.jobsCreate job.name)))
  simp only [World.log_trace, List.length_append, List.length_singleton] at hr
  simp only [createAndWaitJob, M.bind_apply, request, he, M.tryCatch_apply, hr]
  cases firstRunning env (w.trace.length + 1) (timeout.tdiv second).toNat with
  | none => simp [lastJob, World.log]
  | some k =>
    simp [lastJob, World.log]
    rw [Nat.add_assoc, Nat.add_comm 1 k]

/-- `DeleteJob` は、Job を消す呼び出しのあと、その答えが `NotFound` のときだけ `job-name` の札の Pod を消す
呼び出しをする。nil を返すのは、Job を消すのが通ったとき（そのとき Job の Pod は消さない）か、`NotFound` の
あと Pod を消すのが通ったときだけである。 -/
theorem deleteJob_deletes_pods_only_if_missing (env : Env) (name : String) (w : World) :
    (stateOf (deleteJob env name w)).trace = w.trace ++ .call (.jobsDelete name) ::
        (if isNotFound (env w.trace.length).err then [.call (.deletePodsByLabel [("job-name", name)])]
          else []) ∧
      (okOf (deleteJob env name w) = true ↔ (env w.trace.length).err = none ∨
        (isNotFound (env w.trace.length).err = true ∧ (env (w.trace.length + 1)).err = none)) := by
  simp only [deleteJob, M.bind_apply, request]
  cases he : (env w.trace.length).err with
  | none => simp [stateOf, okOf, isNotFound, World.log]
  | some e =>
    cases hn : isNotFound (some e)
    · simp [hn, stateOf, okOf, World.log]
    · simp only [hn, Bool.not_true, Bool.false_eq_true, ↓reduceIte, deletePodsByLabel, call_apply,
        World.log_trace, List.length_append, List.length_singleton]
      cases (env (w.trace.length + 1)).err <;> simp [stateOf, okOf, World.log]

end TidbOperator

import TidbOperator.Tidb.Lemmas.Triple
import TidbOperator.Tidb.Spec

/-!
# `waitForOk` の待ち方

`waitForOk` が `retryutil.Retry` に渡す一回は、答えの列の上で `okAttempt` のとおりに終わる: どこで止まっても
状態は軌跡が伸びるだけで、三つとも通ったときだけ `Members` を作り直す（`waitForOkCond_attempt`）。これを回数に
ついての帰納で `poll` に広げる（`retry_waitForOkCond`）。
-/

namespace TidbOperator

theorem okAttempt_snd (K : Ext) (env : Env) (replicas : GoInt) (i : Nat) :
    (okAttempt K env replicas i).2 ≤ 3 ∧
      ((okAttempt K env replicas i).1 = true → (okAttempt K env replicas i).2 = 3) := by
  unfold okAttempt
  split_ifs <;> decide

section

variable (K : Ext) (env : Env)

theorem statusProbe_apply (sURL : String) (w : World) :
    (tryCatch (do httpGet env sURL; pure true) (fun _ => pure false) : M Bool) w =
      .ok (env w.trace.length).err.isNone (w.log (.call (.httpGet sURL))) := by
  simp only [M.tryCatch_apply, M.bind_apply, httpGet, call_apply]
  cases (env w.trace.length).err <;> rfl

theorem syncMembers_apply (w : World) :
    syncMembers env w = match (env w.trace.length).err with
      | some e => .error e (w.log (.call (.listPodNames w.db.metadata.name "tidb")))
      | none => .ok () { w.log (.call (.listPodNames w.db.metadata.name "tidb")) with
          db.tidb.members := (env w.trace.length).names.map Member.mk } := by
  simp only [syncMembers, M.get_bind_apply, M.bind_apply, listPodNames, answer_apply, M.get_apply]
  rcases Option.eq_none_or_eq_some (env w.trace.length).err with h | ⟨e, h⟩ <;> simp [h]

/-- `Retry` の中の一回は `okAttempt` の数だけ `pollCalls` を呼び、真のときだけ `Members` を作り直す。 -/
theorem waitForOkCond_attempt (sURL : String) (w : World) :
    tryCatch (waitForOkCond K env sURL) (fun _ => pure false) w =
      .ok (okAttempt K env w.db.tidb.replicas w.trace.length).1
        { w with
          db.tidb.members := if (okAttempt K env w.db.tidb.replicas w.trace.length).1
            then (env (w.trace.length + 2)).names.map Member.mk else w.db.tidb.members,
          trace := w.trace ++ (pollCalls w.db.metadata.name sURL).take
            (okAttempt K env w.db.tidb.replicas w.trace.length).2 } := by
  rw [M.tryCatch_apply]
  simp only [waitForOkCond, M.get_bind_apply, M.bind_apply, getPods, answer_apply, okAttempt,
    M.get_apply]
  rcases Option.eq_none_or_eq_some (env w.trace.length).err with h0 | ⟨e0, h0⟩
  · simp only [h0, Option.isSome_none, Bool.false_or]
    by_cases hc : BitVec.ofNat 64 ((env w.trace.length).pods.filter K.isPodOk).length = w.db.tidb.replicas
    · simp only [hc, bne_self_eq_false, Bool.false_eq_true, ↓reduceIte, M.pure_apply, M.bind_apply,
        statusProbe_apply, World.log_trace, List.length_append, List.length_singleton]
      rcases Option.eq_none_or_eq_some (env (w.trace.length + 1)).err with h1 | ⟨e1, h1⟩
      · -- 状態の URL が答えたので、`syncMembers` まで進む
        simp only [h1, Option.isNone_none, Bool.not_true, Option.isSome_none, Bool.false_eq_true,
          ↓reduceIte, M.bind_apply, M.pure_apply, syncMembers_apply, World.log_trace, List.length_append,
          List.length_singleton, Nat.add_assoc, Nat.reduceAdd]
        rcases Option.eq_none_or_eq_some (env (w.trace.length + 2)).err with h2 | ⟨e2, h2⟩ <;>
          simp [h2, pollCalls, World.log]
      · simp [h1, pollCalls, World.log]
    · simp [hc, pollCalls, World.log]
  · simp [h0, pollCalls, World.log]

/-- `Retry` を `n` 回まで回すと、`poll` のとおりに終わる。 -/
theorem retry_waitForOkCond (sURL : String) : ∀ (n : Nat) (w : World), ∃ Δ,
    (∀ o ∈ Δ, o ∈ pollCalls w.db.metadata.name sURL) ∧
    (w.trace ++ Δ).length = (poll K env w.db.tidb.replicas w.trace.length n).2 ∧
    retry (waitForOkCond K env sURL) n w =
      match (poll K env w.db.tidb.replicas w.trace.length n).1 with
      | some i => .ok () { w with
          db.tidb.members := (env (i + 2)).names.map Member.mk, trace := w.trace ++ Δ }
      | none => .error .retryTimeout { w with trace := w.trace ++ Δ }
  | 0, w => ⟨[], nofun, by simp [poll], by simp [retry, poll]⟩
  | n + 1, w => by
    have hk := okAttempt_snd K env w.db.tidb.replicas w.trace.length
    rw [retry, M.bind_apply, waitForOkCond_attempt, poll]
    cases hok : (okAttempt K env w.db.tidb.replicas w.trace.length).1
    · -- この回は偽: 伸びた軌跡から残りの回を試す
      have hlen₁ : (w.trace ++ (pollCalls w.db.metadata.name sURL).take
          (okAttempt K env w.db.tidb.replicas w.trace.length).2).length =
          w.trace.length + (okAttempt K env w.db.tidb.replicas w.trace.length).2 := by
        simp only [List.length_append, List.length_take, pollCalls, List.length_cons, List.length_nil]
        omega
      obtain ⟨Δ, hΔ, hlen, h⟩ := retry_waitForOkCond sURL n { w with
        trace := w.trace ++ (pollCalls w.db.metadata.name sURL).take
          (okAttempt K env w.db.tidb.replicas w.trace.length).2 }
      dsimp only at hΔ hlen h
      rw [hlen₁] at hlen h
      refine ⟨(pollCalls w.db.metadata.name sURL).take
          (okAttempt K env w.db.tidb.replicas w.trace.length).2 ++ Δ, fun o ho => ?_, ?_, ?_⟩
      · rcases List.mem_append.mp ho with ho | ho
        · exact List.mem_of_mem_take ho
        · exact hΔ o ho
      · rw [← List.append_assoc, hlen]
        simp
      · simp only [Bool.false_eq_true, ↓reduceIte, h, List.append_assoc]
    · refine ⟨(pollCalls w.db.metadata.name sURL).take 3, fun o ho => List.mem_of_mem_take ho, ?_, ?_⟩
      · simp [pollCalls]
      · simp [hk.2 hok]

end

end TidbOperator

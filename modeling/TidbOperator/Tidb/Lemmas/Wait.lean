import TidbOperator.Tidb.Spec
import TidbOperator.Tidb.Lemmas.Triple

/-!
# `waitForOk`

`waitForOk` の `Retry` が呼ぶ一回は、メンバーを書き換え見張りの呼び出しを足すことしかしない（`Probed`）。
これから `waitForOk` を一つの補題 `waitForOk_cases` にまとめる。
-/

namespace TidbOperator

/-- `w'` は `w` から、メンバーを書き換え、見張りの呼び出しだけを軌跡に足したもの。 -/
def Probed (w w' : World) : Prop :=
  ∃ ms Δ, w' = ⟨{ w.db with tidb := { w.db.tidb with members := ms } }, w.rcExists, w.trace ++ Δ⟩ ∧
    ∀ o ∈ Δ, o.isProbe = true

namespace Probed

theorem refl (w : World) : Probed w w := ⟨w.db.tidb.members, [], by simp, by simp⟩

theorem trans {w₁ w₂ w₃ : World} (h₁ : Probed w₁ w₂) (h₂ : Probed w₂ w₃) : Probed w₁ w₃ := by
  obtain ⟨ms, Δ, rfl, hΔ⟩ := h₁
  obtain ⟨ms', Δ', rfl, hΔ'⟩ := h₂
  exact ⟨ms', Δ ++ Δ', by simp, fun o ho => (List.mem_append.mp ho).elim (hΔ o) (hΔ' o)⟩

theorem log {w : World} {o : Obs} (ho : o.isProbe = true) : Probed w (w.log o) :=
  ⟨w.db.tidb.members, [o], by simp [World.log], by simpa using ho⟩

theorem status {w w' : World} (h : Probed w w') : w'.db.status = w.db.status := by
  obtain ⟨ms, Δ, rfl, -⟩ := h
  rfl

theorem replicas {w w' : World} (h : Probed w w') : w'.db.tidb.replicas = w.db.tidb.replicas := by
  obtain ⟨ms, Δ, rfl, -⟩ := h
  rfl

theorem cur {w w' : World} (h : Probed w w') : w'.db.tidb.cur = w.db.tidb.cur := by
  obtain ⟨ms, Δ, rfl, -⟩ := h
  rfl

theorem members (w : World) (ms : List Member) :
    Probed w { w with db.tidb.members := ms } := ⟨ms, [], by simp, by simp⟩

end Probed

/-- 見張りしかしない計算。 -/
def Probing {α : Type} (m : M α) : Prop := ∀ w, Probed w (stateOf (m w))

namespace Probing

variable {α β : Type}

theorem pure (a : α) : Probing (Pure.pure a : M α) := Probed.refl

theorem fail (e : Err) : Probing (throw e : M α) := Probed.refl

theorem read : Probing (get : M World) := Probed.refl

theorem bind {m : M α} {f : α → M β} (h : Probing m) (hf : ∀ a, Probing (f a)) :
    Probing (m >>= f) := by
  intro w
  have h1 := h w
  rw [M.bind_apply]
  revert h1
  cases m w with
  | ok a w' => exact fun h1 => h1.trans (hf a w')
  | error e w' => exact id

theorem handle {m : M α} {handler : Err → M α} (h : Probing m) (hc : ∀ e, Probing (handler e)) :
    Probing (tryCatch m handler) := by
  intro w
  have h1 := h w
  rw [M.tryCatch_apply]
  revert h1
  cases m w with
  | ok a w' => exact id
  | error e w' => exact fun h1 => h1.trans (hc e w')

theorem ite {c : Prop} [Decidable c] {m m' : M α} (h : Probing m) (h' : Probing m') :
    Probing (if c then m else m') := by
  split
  · exact h
  · exact h'

theorem request {env : Env} {c : Call} (hc : (Obs.call c).isProbe = true) :
    Probing (TidbOperator.request env c) := fun _ => Probed.log hc

theorem answer {env : Env} {c : Call} (hc : (Obs.call c).isProbe = true) (f : Answer → α) :
    Probing (TidbOperator.answer env c f) :=
  (request hc).bind fun a => by
    cases a.err
    · exact pure _
    · exact fail _

end Probing

section

variable (K : Ext) (env : Env)

theorem getPods_probing (cell component : String) : Probing (getPods env cell component) :=
  Probing.answer (c := .getPods cell component) rfl _

theorem listPodNames_probing (cell component : String) :
    Probing (listPodNames env cell component) :=
  Probing.answer (c := .listPodNames cell component) rfl _

theorem httpGet_probing (url : String) : Probing (httpGet env url) :=
  Probing.answer (c := .httpGet url) rfl _

theorem syncMembers_probing : Probing (syncMembers env) :=
  Probing.read.bind fun _ => (listPodNames_probing env _ _).bind fun _ w' => Probed.members w' _

theorem waitForOkCond_probing (sURL : String) : Probing (waitForOkCond K env sURL) := by
  refine Probing.read.bind fun w => (getPods_probing env _ _).bind fun pods => ?_
  refine Probing.ite (Probing.pure _) ((Probing.pure _).bind fun _ => ?_)
  refine (Probing.handle ?_ fun _ => Probing.pure _).bind fun _ => ?_
  · exact (httpGet_probing env sURL).bind fun _ => Probing.pure _
  · exact Probing.ite (Probing.pure _) ((Probing.pure _).bind fun _ =>
      (syncMembers_probing env).bind fun _ => Probing.pure _)

theorem retry_probing {f : M Bool} (hf : Probing f) : ∀ n, Probing (retry f n)
  | 0 => Probing.fail _
  | n + 1 => (Probing.handle hf fun _ => Probing.pure _).bind fun _ =>
      Probing.ite (Probing.pure _) (retry_probing hf n)

theorem retry_error (f : M Bool) : ∀ (n : Nat) (w w' : World) (e : Err),
    retry f n w = .error e w' → e = .retryTimeout
  | 0, _, _, _, h => by cases h; rfl
  | n + 1, w, w', e, h => by
    rw [retry, M.bind_apply, M.tryCatch_apply] at h
    revert h
    cases f w with
    | ok b w₁ =>
      cases b
      · exact retry_error f n w₁ w' e
      · intro h; cases h
    | error e₁ w₁ => exact retry_error f n w₁ w' e

/-- `retry` が nil を返したなら、見張りだけをした状態からの最後の一回が真を返した。 -/
theorem retry_ok {f : M Bool} (hf : Probing f) : ∀ (n : Nat) (w : World) {w' : World},
    retry f n w = .ok () w' → ∃ w₀, Probed w w₀ ∧ f w₀ = .ok true w'
  | 0, _, _, h => by cases h
  | n + 1, w, w', h => by
    rw [retry, M.bind_apply, M.tryCatch_apply] at h
    have hp := hf w
    revert h hp
    cases hfw : f w with
    | ok b w₁ =>
      cases b
      · exact fun h hp => (retry_ok hf n w₁ h).imp fun _ ⟨h₀, h₁⟩ => ⟨hp.trans h₀, h₁⟩
      · exact fun h _ => by cases h; exact ⟨w, Probed.refl w, hfw⟩
    | error e w₁ => exact fun h hp => (retry_ok hf n w₁ h).imp fun _ ⟨h₀, h₁⟩ => ⟨hp.trans h₀, h₁⟩

/-- 一回が真を返したなら、三つの呼び出しが通り、`IsPodOk` な Pod の数が `Replicas` に等しかった。 -/
theorem waitForOkCond_true {sURL : String} {w w' : World} (h : waitForOkCond K env sURL w = .ok true w') :
    (env w.trace.length).err = none ∧
      BitVec.ofNat 64 ((env w.trace.length).pods.filter K.isPodOk).length = w.db.tidb.replicas ∧
      (env (w.trace.length + 1)).err = none ∧ (env (w.trace.length + 2)).err = none ∧
      w' = { w with
        db.tidb.members := (env (w.trace.length + 2)).names.map Member.mk,
        trace := w.trace ++ [.call (.getPods w.db.metadata.name "tidb"), .call (.httpGet sURL),
          .call (.listPodNames w.db.metadata.name "tidb")] } := by
  rw [waitForOkCond, M.get_bind_apply] at h
  obtain ⟨pods, w₁, hp, h⟩ := M.bind_eq_ok h
  obtain ⟨h0, rfl, rfl⟩ := answer_eq_ok env hp
  dsimp only at h
  split_ifs at h with hc
  · cases h
  obtain ⟨_, _, hu, h⟩ := M.bind_eq_ok h
  cases hu
  obtain ⟨lift, w₂, ht, h⟩ := M.bind_eq_ok h
  split_ifs at h with hl
  · cases h
  simp only [Bool.not_eq_true', Bool.not_eq_false] at hl
  subst hl
  rcases M.tryCatch_eq_ok ht with ht | ⟨_, _, -, ht⟩
  · -- 状態の URL が答え、`syncMembers` が通った
    obtain ⟨_, w₃, hg, ht⟩ := M.bind_eq_ok ht
    obtain ⟨h1, -, rfl⟩ := answer_eq_ok env hg
    cases ht
    obtain ⟨_, _, hu, h⟩ := M.bind_eq_ok h
    cases hu
    obtain ⟨_, w₄, hs, h⟩ := M.bind_eq_ok h
    cases h
    rw [syncMembers, M.get_bind_apply] at hs
    obtain ⟨names, w₅, hn, hs⟩ := M.bind_eq_ok hs
    obtain ⟨h2, rfl, rfl⟩ := answer_eq_ok env hn
    cases hs
    simp only [World.log_trace, List.length_append, List.length_singleton] at h1 h2
    exact ⟨h0, by simpa using hc, h1, h2, by simp [World.log]⟩
  · cases ht

theorem gated_cases {m : M Unit} (hm : Probing m) (cur : String) (w : World) :
    ∃ w', Probed w w' ∧
      (gated cur m w = .ok () (w'.log (.gate cur none)) ∨
        ∃ e, m w = .error e w' ∧ gated cur m w = .error e (w'.log (.gate cur (some e)))) := by
  have hp := hm w
  rw [gated, M.tryCatch_apply, M.bind_apply]
  revert hp
  cases m w with
  | ok u w' => exact fun hp => ⟨w', hp, .inl rfl⟩
  | error e w' => exact fun hp => ⟨w', hp, .inr ⟨e, rfl, rfl⟩⟩

/-- `waitForOk` は、宛先がなければパニックし、あれば見張りのあと `cur` と結果を記録して返る。 -/
theorem waitForOk_cases (w : World) :
    (w.db.status.outerStatusAddresses = [] ∧
      waitForOk K env w = .error (.panic .outerStatusAddressesIndex) w) ∨
    (w.db.status.outerStatusAddresses ≠ [] ∧ ∃ w', Probed w w' ∧
      (waitForOk K env w = .ok () (w'.log (.gate w.db.tidb.cur none)) ∨
        waitForOk K env w = .error .retryTimeout (w'.log (.gate w.db.tidb.cur (some .retryTimeout))))) := by
  rw [waitForOk, M.get_bind_apply]
  cases haddr : w.db.status.outerStatusAddresses with
  | nil => exact .inl ⟨rfl, rfl⟩
  | cons addr addrs =>
    obtain ⟨w', hp, hok | ⟨e, hr, herr⟩⟩ :=
      gated_cases (retry_probing (waitForOkCond_probing K env _) K.maxRetries) w.db.tidb.cur w
    · exact .inr ⟨List.cons_ne_nil _ _, w', hp, .inl hok⟩
    · rw [retry_error _ _ _ _ _ hr] at herr
      exact .inr ⟨List.cons_ne_nil _ _, w', hp, .inr herr⟩

theorem waitForOk_keep {P : World → Prop} (hP : ∀ w w', Probed w w' → P w → P w')
    (hgate : ∀ w cur err, P w → P (w.log (.gate cur err))) :
    Triple P (waitForOk K env) (fun _ => P) (fun _ => P) := by
  intro w hw
  rcases waitForOk_cases K env w with ⟨-, h⟩ | ⟨-, w', hp, h | h⟩ <;> rw [h]
  · exact hw
  · exact hgate _ _ _ (hP _ _ hp hw)
  · exact hgate _ _ _ (hP _ _ hp hw)

theorem gated_eq_ok {cur : String} {m : M Unit} {w w' : World} (h : gated cur m w = .ok () w') :
    ∃ w₁, m w = .ok () w₁ ∧ w' = w₁.log (.gate cur none) := by
  rcases M.tryCatch_eq_ok h with h | ⟨e, w₁, -, h⟩
  · obtain ⟨u, w₁, hm, h⟩ := M.bind_eq_ok h
    cases h
    exact ⟨w₁, hm, rfl⟩
  · obtain ⟨_, _, -, h⟩ := M.bind_eq_ok h
    cases h

/-- `waitForOk` が nil を返したなら、最後の一回が真を返した。 -/
theorem waitForOk_ok_last {w w' : World} (h : waitForOk K env w = .ok () w') :
    ∃ addr addrs w₀ w₁, w.db.status.outerStatusAddresses = addr :: addrs ∧ Probed w w₀ ∧
      waitForOkCond K env (statusURL w.db.tidb.cur addr) w₀ = .ok true w₁ ∧
      w' = w₁.log (.gate w.db.tidb.cur none) := by
  rw [waitForOk, M.get_bind_apply] at h
  revert h
  cases ha : w.db.status.outerStatusAddresses with
  | nil => exact nofun
  | cons addr addrs =>
    intro h
    obtain ⟨w₁, hr, rfl⟩ := gated_eq_ok h
    obtain ⟨w₀, hp, hc⟩ := retry_ok (waitForOkCond_probing K env _) _ w hr
    exact ⟨addr, addrs, w₀, w₁, rfl, hp, hc, rfl⟩

/-- 宛先があり、見張りだけをしたどの状態からも一回が真を返さなければ、`waitForOk` はタイムアウトを返す。 -/
theorem waitForOk_timeout (w : World) (ha : w.db.status.outerStatusAddresses ≠ [])
    (hnever : ∀ sURL w₀ w₁, Probed w w₀ → waitForOkCond K env sURL w₀ ≠ .ok true w₁) :
    ∃ w', waitForOk K env w = .error .retryTimeout w' := by
  rcases waitForOk_cases K env w with ⟨h0, -⟩ | ⟨-, w', hp, h | h⟩
  · exact absurd h0 ha
  · obtain ⟨_, _, w₀, w₁, -, hp₀, hc, -⟩ := waitForOk_ok_last K env h
    exact absurd hc (hnever _ _ _ hp₀)
  · exact ⟨_, h⟩

theorem waitForOk_ok {w w' : World} {u : Unit} (h : waitForOk K env w = .ok u w') :
    w.db.status.outerStatusAddresses ≠ [] ∧ ∃ w₁, Probed w w₁ ∧ w' = w₁.log (.gate w.db.tidb.cur none) := by
  rcases waitForOk_cases K env w with ⟨-, h'⟩ | ⟨ha, w₁, hp, h' | h'⟩ <;> rw [h'] at h <;> cases h
  exact ⟨ha, w₁, hp, rfl⟩

theorem waitForOk_error {w w' : World} {e : Err} (h : waitForOk K env w = .error e w') :
    (e = .panic .outerStatusAddressesIndex ∧ w.db.status.outerStatusAddresses = [] ∧ w' = w) ∨
    (e = .retryTimeout ∧ w.db.status.outerStatusAddresses ≠ [] ∧
      ∃ w₁, Probed w w₁ ∧ w' = w₁.log (.gate w.db.tidb.cur (some .retryTimeout))) := by
  rcases waitForOk_cases K env w with ⟨ha, h'⟩ | ⟨ha, w₁, hp, h' | h'⟩ <;> rw [h'] at h <;> cases h
  · exact .inl ⟨rfl, ha, rfl⟩
  · exact .inr ⟨rfl, ha, w₁, hp, rfl⟩

end

end TidbOperator

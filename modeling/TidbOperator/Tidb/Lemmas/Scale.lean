import TidbOperator.Tidb.Lemmas.Wait

/-!
# 増減の検査

`scaleTidbs` を一つの式 `scaleTidbs_apply` にまとめる: 上限、2 以上、一度に 3 倍まで、一度に 3 分の 1 までの順に
Go の `int` の演算で検査し、最初に通らない検査のエラーを状態を変えずに返す。通れば `Replicas` を書き換えてから
増減し `waitForOk` を待つ。`reconcileTidbs` は数が変わる要求で `scaleTidbs` の結果を返す。
-/

namespace TidbOperator

/-! ## Go の `int` と整数 -/

theorem bmod_of_range {x : Int} (h₁ : -9223372036854775808 ≤ x) (h₂ : x < 9223372036854775808) :
    x.bmod 18446744073709551616 = x := by
  rw [Int.bmod_def]
  split <;> omega

theorem Small.toInt_mul_three {c : GoInt} (hc : Small c) : (c * 3).toInt = c.toInt * 3 := by
  obtain ⟨h₁, h₂⟩ := hc
  rw [BitVec.toInt_mul, show (3 : GoInt).toInt = 3 from rfl]
  exact bmod_of_range (by omega) (by omega)

theorem Small.toInt_sub_mul_three {c r : GoInt} (hc : Small c) (hr : Small r) :
    ((c - r) * 3).toInt = (c.toInt - r.toInt) * 3 := by
  obtain ⟨h₁, h₂⟩ := hc
  obtain ⟨h₃, h₄⟩ := hr
  have hsub : (c - r).toInt = c.toInt - r.toInt := by
    rw [BitVec.toInt_sub]
    exact bmod_of_range (by omega) (by omega)
  rw [BitVec.toInt_mul, hsub, show (3 : GoInt).toInt = 3 from rfl]
  exact bmod_of_range (by omega) (by omega)

theorem noop_iff {r c : GoInt} : (r.slt 1 || r == c) = true ↔ r.toInt < 1 ∨ r = c := by
  simp [BitVec.slt, show (1 : GoInt).toInt = 1 from rfl]

section

variable (K : Ext) (env : Env)

theorem scaleTidbs_apply (r : GoInt) (w : World) :
    scaleTidbs K env r w =
      if K.tidbMax.slt r then .error (.exceedsMax K.tidbMax) w
      else if r.slt 2 then .error .replicasLessThanTwo w
      else if (w.db.tidb.replicas * 3).slt r then .error .scaleOutTooMuch w
      else if w.db.tidb.replicas.slt ((w.db.tidb.replicas - r) * 3) then .error .scaleDownTooMuch w
      else (do scaleReplicationController env s!"tidb-{w.db.metadata.name}" r; waitForOk K env)
        { w with db.tidb.replicas := r } := by
  simp only [scaleTidbs, M.get_bind_apply]
  split_ifs <;> rfl

/-- `scaleTidbs` のエラーを `reconcileTidbs` はそのまま返し、パニックでなければ `tidbScaleErr` を立てる。 -/
theorem reconcileTidbs_of_scale {r : GoInt} {w w' : World} {e : Err}
    (h : (r.slt 1 || r == w.db.tidb.replicas) = false) (hs : scaleTidbs K env r w = .error e w') :
    ∃ w'', reconcileTidbs K env r w = .error e w'' ∧ w''.db.tidb = w'.db.tidb ∧
      ((∀ s, e ≠ .panic s) → w''.db.status.scaleState = w'.db.status.scaleState ||| K.tidbScaleErr) := by
  simp only [reconcileTidbs, M.get_bind_apply, h, deferring, hs, Bool.false_eq_true, if_false]
  refine ⟨_, rfl, by split <;> rfl, fun he => ?_⟩
  cases e <;> first | rfl | exact absurd rfl (he _)

/-- `scaleTidbs` が値を返せば、`reconcileTidbs` も値を返し、TiDB の欄と `Status` はそのままである。 -/
theorem reconcileTidbs_of_scale_ok {r : GoInt} {w w' : World} {u : Unit}
    (h : (r.slt 1 || r == w.db.tidb.replicas) = false) (hs : scaleTidbs K env r w = .ok u w') :
    ∃ w'', reconcileTidbs K env r w = .ok u w'' ∧ w''.db.tidb = w'.db.tidb ∧
      w''.db.status = w'.db.status := by
  simp only [reconcileTidbs, M.get_bind_apply, h, deferring, hs, Bool.false_eq_true, if_false]
  exact ⟨_, rfl, rfl, rfl⟩

theorem scaling_keep {P : World → Prop} (hlog : ∀ w o, P w → P (w.log o))
    (hP : ∀ w w', Probed w w' → P w → P w') (name : String) (r : GoInt) :
    Triple P (do scaleReplicationController env name r; waitForOk K env) (fun _ => P) (fun _ => P) :=
  Triple.seq (rcCall_keep env _ _ fun w => hlog w _) (waitForOk_keep K env hP fun w _ _ => hlog w _)

theorem scaleTidbs_keep {P : World → Prop} (hlog : ∀ w o, P w → P (w.log o))
    (hP : ∀ w w', Probed w w' → P w → P w')
    (hrep : ∀ w r, P w → P { w with db.tidb.replicas := r }) (r : GoInt) :
    Triple P (scaleTidbs K env r) (fun _ => P) (fun _ => P) := by
  intro w hw
  rw [scaleTidbs_apply]
  split_ifs
  any_goals exact hw
  exact scaling_keep K env hlog hP _ r _ (hrep _ _ hw)

theorem scaleTidbs_status (r : GoInt) (s : DbStatus) :
    Triple (fun w => w.db.status = s) (scaleTidbs K env r) (fun _ w => w.db.status = s)
      (fun _ w => w.db.status = s) :=
  scaleTidbs_keep K env (fun _ _ h => h) (fun _ _ hp h => hp.status.trans h) (fun _ _ h => h) r

/-! ## 数の変わらない要求 -/

theorem deletePodsNotOk_keep {P : World → Prop}
    (hP : ∀ w n, P w → P (w.log (.call (.deletePods n)))) :
    ∀ pods, Triple P (deletePodsNotOk K env pods) (fun _ => P) (fun _ => P)
  | [] => Triple.stay _
  | p :: pods => by
    rw [deletePodsNotOk]
    exact Triple.bind
      (Triple.ite (fun _ => answer_keep env _ (fun w => hP w _) _) fun _ => Triple.stay _)
      fun _ => deletePodsNotOk_keep hP pods

theorem checkStatus_keep {P : World → Prop} (hlog : ∀ w o, P w → P (w.log o)) :
    Triple P (checkStatus K env) (fun _ => P) (fun _ => P) :=
  Triple.read_bind fun _ _ => (answer_keep env _ (fun w => hlog w _) _).bind fun pods =>
    deletePodsNotOk_keep K env (fun w _ => hlog w _) pods

theorem Checked.refl (w : World) : Checked w w := ⟨[], by simp, by simp⟩

theorem Checked.log {w₀ w : World} {o : Obs}
    (ho : o = .call (.getPods w₀.db.metadata.name "tidb") ∨ ∃ n, o = .call (.deletePods n))
    (h : Checked w₀ w) : Checked w₀ (w.log o) := by
  obtain ⟨Δ, rfl, hΔ⟩ := h
  refine ⟨Δ ++ [o], by simp [World.log], fun o' ho' => ?_⟩
  rcases List.mem_append.mp ho' with h | h
  · exact hΔ o' h
  · rw [List.mem_singleton.mp h]; exact ho

/-- `checkStatus` は、軌跡に `GetPods` と `DeletePods` の呼び出しだけを足す。 -/
theorem checkStatus_checked (w₀ : World) :
    Triple (Checked w₀) (checkStatus K env) (fun _ => Checked w₀) (fun _ => Checked w₀) := by
  refine Triple.read_bind fun w hw =>
    Triple.bind (answer_keep env _ (fun _ => Checked.log (.inl ?_)) _) fun pods =>
      deletePodsNotOk_keep K env (fun _ n => Checked.log (.inr ⟨n, rfl⟩)) pods
  obtain ⟨Δ, rfl, -⟩ := hw
  rfl

end

end TidbOperator

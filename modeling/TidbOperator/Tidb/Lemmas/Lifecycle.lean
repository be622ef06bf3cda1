import TidbOperator.Tidb.Lemmas.Rollout
import TidbOperator.Tidb.Lemmas.Scale

/-!
# 段階と `ScaleState`

どの操作が `Status` のどの欄を書くか。`install` だけが段階を書き、`reconcileTidbs` は `ScaleState` に
`tidbScaleErr` を立てることしかしない。操作ごとにまとめると `Op.run_status` になる。
-/

namespace TidbOperator

theorem Obs.isAudit_of_isProbe {o : Obs} (h : o.isProbe = true) : o.isAudit = false := by
  rcases o with _ | _ | _ <;> first | rfl | cases h

/-- `install` の本体がすること: `Replicas`、`cur`、`ScaleState` を変えず、監査でない記録だけを足す。 -/
def InstallFrame (w₀ w : World) : Prop :=
  w.db.tidb.replicas = w₀.db.tidb.replicas ∧ w.db.tidb.cur = w₀.db.tidb.cur ∧
    w.db.status.scaleState = w₀.db.status.scaleState ∧
    ∃ Δ, w.trace = w₀.trace ++ Δ ∧ ∀ o ∈ Δ, o.isAudit = false

namespace InstallFrame

variable {w₀ w w' : World}

theorem refl (w : World) : InstallFrame w w := ⟨rfl, rfl, rfl, [], by simp, by simp⟩

theorem log {o : Obs} (ho : o.isAudit = false) (h : InstallFrame w₀ w) : InstallFrame w₀ (w.log o) := by
  obtain ⟨hr, hc, hs, Δ, hΔ, ha⟩ := h
  exact ⟨hr, hc, hs, Δ ++ [o], by simp [hΔ], List.forall_mem_append.mpr ⟨ha, by simpa using ho⟩⟩

theorem probed (hp : Probed w w') (h : InstallFrame w₀ w) : InstallFrame w₀ w' := by
  obtain ⟨ms, Δ', rfl, hΔ'⟩ := hp
  obtain ⟨hr, hc, hs, Δ, hΔ, ha⟩ := h
  exact ⟨hr, hc, hs, Δ ++ Δ', by simp [hΔ],
    List.forall_mem_append.mpr ⟨ha, fun o ho => Obs.isAudit_of_isProbe (hΔ' o ho)⟩⟩

end InstallFrame

theorem PhaseStep.eq_of_ne {K : Ext} {op : Op} {p p' : GoInt} (h : PhaseStep K op p p')
    (hop : op ≠ .install) : p' = p := by
  cases h with
  | keep => rfl
  | _ => exact absurd rfl hop

theorem PhaseStep.mem_of_install {K : Ext} {op : Op} {p p' : GoInt} (h : PhaseStep K op p p')
    (hop : op = .install) : p' ∈ [K.phaseTidbPending, K.phaseTidbStarted, K.phaseTidbStartFailed] := by
  subst hop
  cases h with
  | keep _ _ hop => exact absurd rfl hop
  | _ => simp

theorem or_eq_of_or_eq {s₁ s₂ s₃ : GoInt} (h₁ : s₁ ||| s₂ = s₂) (h₂ : s₂ ||| s₃ = s₃) :
    s₁ ||| s₃ = s₃ := by
  rw [← h₂, ← BitVec.or_assoc, h₁]

section

variable (K : Ext) (env : Env)

/-! ## `install` -/

theorem createService_frame (w₀ : World) :
    Triple (InstallFrame w₀) (createService K env) (fun _ => InstallFrame w₀) (fun _ => InstallFrame w₀) := by
  refine Triple.read_bind fun _ _ =>
    (answer_keep env _ (fun _ h => h.log rfl) _).bind fun ⟨mysqlPort, webPort⟩ => ?_
  refine Triple.bind (Triple.keep _ fun _ h => h) fun _ => ?_
  split
  · exact fun _ h => h
  · exact Triple.keep _ fun _ h => h

theorem createService_ok (w : World) (h : (env w.trace.length).err = none) {p : String}
    {ps : List String} (hps : K.proxys = p :: ps) :
    ∃ w', createService K env w = .ok () w' ∧ w'.db.status.outerStatusAddresses ≠ [] ∧
      w'.db.tidb = w.db.tidb ∧ w'.trace.length = w.trace.length + 1 := by
  simp only [createService, M.get_apply, M.bind_apply, createServiceByJSON, answer_apply, h,
    M.modify_apply, hps]
  exact ⟨_, rfl, by simp, rfl, by simp⟩

theorem createReplicationController_ok (w : World) (h : (env w.trace.length).err = none) :
    ∃ w', createReplicationController env w = .ok () w' ∧ w'.db = w.db ∧
      w'.trace.length = w.trace.length + 1 := by
  simp only [createReplicationController, M.get_apply, createRcByJSON, M.bind_apply, request, h]
  exact ⟨_, rfl, rfl, by simp⟩

theorem install_body_frame (w₀ : World) :
    Triple (InstallFrame w₀) (do createService K env; createReplicationController env; waitForOk K env)
      (fun _ => InstallFrame w₀) (fun _ => InstallFrame w₀) :=
  (createService_frame K env w₀).bind fun _ =>
    (Triple.read_bind fun _ _ => createRcByJSON_keep env _ (fun _ h => h.log rfl) fun _ h => h).bind fun _ =>
      waitForOk_keep K env (fun _ _ hp h => h.probed hp) fun _ _ _ h => h.log rfl

/-- `install` は、最初の `Db.update` の失敗なら `Pending` のまま返り、通れば `defer` が段階と監査の記録を書く。 -/
theorem install_cases (w : World) :
    (∃ e, (env w.trace.length).err = some e ∧ install K env w = .error e
      (({ w with db.status.phase := K.phaseTidbPending } : World).log
        (.call (.updateDb w.db.metadata.name)))) ∨
    ((env w.trace.length).err = none ∧
      ∃ w₁, InstallFrame (({ w with db.status.phase := K.phaseTidbPending } : World).log
        (.call (.updateDb w.db.metadata.name))) w₁ ∧
      stateOf (install K env w) = audit w.db.metadata.name "install" (deferErr (install K env w))
        s!"Install tidb replicationcontrollers with {fmtInt w₁.db.tidb.replicas} replicas on k8s"
        { w₁ with db.status.phase :=
          if (deferErr (install K env w)).isSome then K.phaseTidbStartFailed else K.phaseTidbStarted }) := by
  simp only [install, M.bind_apply, M.modify_apply, M.get_apply, updateDb, call_apply]
  cases (env w.trace.length).err with
  | some e => exact .inl ⟨e, rfl, rfl⟩
  | none =>
    refine .inr ⟨rfl, ?_⟩
    dsimp only
    generalize ({ w with db.status.phase := K.phaseTidbPending } : World).log
      (.call (.updateDb w.db.metadata.name)) = w₀
    have hb := install_body_frame K env w₀ w₀ (InstallFrame.refl _)
    unfold deferring
    revert hb
    cases (do createService K env; createReplicationController env; waitForOk K env) w₀ <;>
      exact fun hb => ⟨_, hb, rfl⟩

/-! ## `upgrade`、`reconcileTidbs`、`uninstall` -/

theorem upgradePods_status (version : String) (st : DbStatus) :
    ∀ pods, Triple (fun w => w.db.status = st) (upgradePods K env version pods)
      (fun _ w => w.db.status = st) (fun _ w => w.db.status = st)
  | [] => Triple.stay _
  | p :: pods => by
    rw [upgradePods]
    exact Triple.ite
      (fun _ => Triple.bind (answer_keep env _ (fun _ h => h) _) fun _ =>
        Triple.bind (Triple.keep _ fun _ h => h) fun _ =>
        Triple.bind (waitForOk_keep K env (fun _ _ hp h => hp.status.trans h) fun _ _ _ h => h) fun _ =>
        Triple.bind (upgradePods_status version st pods) fun _ => Triple.stay _)
      (fun _ => upgradePods_status version st pods)

theorem upgradeTidbs_status (phase : GoInt) (cell newImage version : String) (st : DbStatus) :
    Triple (fun w => w.db.status = st) (upgradeTidbs K env phase cell newImage version)
      (fun _ w => w.db.status = st) (fun _ w => w.db.status = st) :=
  Triple.ite (fun _ _ h => h) fun _ =>
    Triple.bind (rcCall_keep env _ _ fun _ h => h) fun _ =>
    Triple.bind (answer_keep env _ (fun _ h => h) _) fun pods => upgradePods_status K env _ st pods

theorem upgrade_status (st : DbStatus) :
    Triple (fun w => w.db.status = st) (upgrade K env) (fun _ w => w.db.status = st)
      (fun _ w => w.db.status = st) :=
  Triple.read_bind fun _ _ =>
    Triple.bind (Triple.deferring (upgradeTidbs_status K env _ _ _ _ st)
      (fun a _ h => by cases a <;> exact h) (fun _ _ h => h)) fun _ => Triple.stay _

/-- `reconcileTidbs` が `Status` にすることは、`ScaleState` に `tidbScaleErr` を立てることだけである。 -/
theorem reconcileTidbs_status (r : GoInt) (st : DbStatus) :
    Triple (fun w => w.db.status = st) (reconcileTidbs K env r)
      (fun _ w => w.db.status = st ∨
        w.db.status = { st with scaleState := st.scaleState ||| K.tidbScaleErr })
      (fun _ w => w.db.status = st ∨
        w.db.status = { st with scaleState := st.scaleState ||| K.tidbScaleErr }) :=
  Triple.read_bind fun _ _ => Triple.ite
    (fun _ => (checkStatus_keep K env fun _ _ h => h).conseq (fun _ h => h) (fun _ _ => .inl)
      (fun _ _ => .inl))
    (fun _ => Triple.deferring (scaleTidbs_status K env r st) (fun _ _ => .inl) fun _ _ h => by
      dsimp only
      split
      · exact .inr (by subst h; rfl)
      · exact .inl h)

theorem reconcileTidbs_cur (r : GoInt) (c : String) :
    Triple (fun w => w.db.tidb.cur = c) (reconcileTidbs K env r) (fun _ w => w.db.tidb.cur = c)
      (fun _ w => w.db.tidb.cur = c) :=
  Triple.read_bind fun _ _ => Triple.ite (fun _ => checkStatus_keep K env fun _ _ h => h)
    (fun _ => Triple.deferring
      (scaleTidbs_keep K env (fun _ _ h => h) (fun _ _ hp h => hp.cur.trans h) (fun _ _ h => h) r)
      (fun _ _ h => h) fun _ _ h => by dsimp only; split <;> exact h)

theorem uninstall_keep {P : World → Prop} (hlog : ∀ w o, P w → P (w.log o))
    (hrc : ∀ w, P w → P { w with rcExists := false })
    (hclear : ∀ w, P w → P { w with
      db.tidb.members := [], db.tidb.cur := "", db.status.migrateState := "", db.status.scaleState := 0,
      db.status.outerAddresses := [], db.status.outerStatusAddresses := [] }) :
    Triple P (uninstall env) (fun _ => P) (fun _ => P) :=
  Triple.read_bind fun _ _ =>
    Triple.bind ((answer_keep env _ (fun w => hlog w _) _).bind fun _ => Triple.keep _ hrc) fun _ =>
    Triple.bind (answer_keep env _ (fun w => hlog w _) _) fun _ => Triple.keep _ hclear

theorem uninstall_phase (p : GoInt) :
    Triple (fun w => w.db.status.phase = p) (uninstall env) (fun _ w => w.db.status.phase = p)
      (fun _ w => w.db.status.phase = p) :=
  uninstall_keep env (fun _ _ h => h) (fun _ h => h) fun _ h => h

/-- `uninstall` は、通ればコントローラを消して役割の欄を空にし、失敗すればクラスタの欄を変えない。 -/
theorem uninstall_resets_role (w w' : World) :
    (uninstall env w = .ok () w' →
      w'.rcExists = false ∧ w'.db = { w.db with
        tidb.members := [], tidb.cur := "", status.migrateState := "", status.scaleState := 0,
        status.outerAddresses := [], status.outerStatusAddresses := [] }) ∧
    (∀ e, uninstall env w = .error e w' → w'.db = w.db) := by
  simp only [uninstall, M.get_bind_apply, delRc, delSrvs, M.bind_apply, call_apply, M.modify_apply,
    M.get_apply]
  cases (env w.trace.length).err with
  | some e => exact ⟨nofun, fun _ h => by cases h; rfl⟩
  | none =>
    simp only [World.log_trace, List.length_append, List.length_singleton]
    cases (env (w.trace.length + 1)).err with
    | some e => exact ⟨nofun, fun _ h => by cases h; rfl⟩
    | none => exact ⟨fun h => by cases h; exact ⟨rfl, rfl⟩, nofun⟩

/-! ## `Replicas` -/

theorem upgradePods_keep {P : World → Prop} (hlog : ∀ w o, P w → P (w.log o))
    (hP : ∀ w w', Probed w w' → P w → P w') (hcur : ∀ w c, P w → P { w with db.tidb.cur := c })
    (version : String) : ∀ pods, Triple P (upgradePods K env version pods) (fun _ => P) (fun _ => P)
  | [] => Triple.stay _
  | p :: pods => by
    rw [upgradePods]
    exact Triple.ite
      (fun _ => Triple.bind (answer_keep env _ (fun w => hlog w _) _) fun _ =>
        Triple.bind (Triple.keep _ fun w => hcur w _) fun _ =>
        Triple.bind (waitForOk_keep K env hP fun w _ _ => hlog w _) fun _ =>
        Triple.bind (upgradePods_keep hlog hP hcur version pods) fun _ => Triple.stay _)
      (fun _ => upgradePods_keep hlog hP hcur version pods)

theorem upgrade_keep {P : World → Prop} (hlog : ∀ w o, P w → P (w.log o))
    (hP : ∀ w w', Probed w w' → P w → P w') (hcur : ∀ w c, P w → P { w with db.tidb.cur := c }) :
    Triple P (upgrade K env) (fun _ => P) (fun _ => P) := by
  refine Triple.read_bind fun _ _ => Triple.bind (Triple.deferring (Q := fun _ => P) (E := fun _ => P)
    (Triple.ite (fun _ _ h => h) fun _ => Triple.bind (rcCall_keep env _ _ fun w => hlog w _) fun _ =>
      Triple.bind (answer_keep env _ (fun w => hlog w _) _) fun pods =>
        upgradePods_keep K env hlog hP hcur _ pods) ?_ ?_) fun _ => Triple.stay _
  all_goals
    intro _ w hw
    dsimp only
    split
    · exact hlog _ _ (hcur w _ hw)
    · exact hcur w _ hw

/-- `scaleTidbs` のあとの `Replicas` は、前のままか、四つの検査を通った要求である。 -/
theorem scaleTidbs_replicas (r : GoInt) (w : World) :
    (stateOf (scaleTidbs K env r w)).db.tidb.replicas = w.db.tidb.replicas ∨
      (stateOf (scaleTidbs K env r w)).db.tidb.replicas = r ∧ PassesChecks K w.db.tidb.replicas r := by
  rw [scaleTidbs_apply]
  split_ifs with h₁ h₂ h₃ h₄
  iterate 4 exact .inl rfl
  refine .inr ⟨Triple.final (scaling_keep K env (P := fun w => w.db.tidb.replicas = r)
    (fun _ _ h => h) (fun _ _ hp h => hp.replicas.trans h) _ r) rfl, ?_⟩
  exact ⟨Bool.eq_false_iff.mpr h₁, Bool.eq_false_iff.mpr h₂, Bool.eq_false_iff.mpr h₃,
    Bool.eq_false_iff.mpr h₄⟩

theorem reconcileTidbs_replicas (r : GoInt) (w : World) :
    (stateOf (reconcileTidbs K env r w)).db.tidb.replicas = w.db.tidb.replicas ∨
      (stateOf (reconcileTidbs K env r w)).db.tidb.replicas = r ∧
        PassesChecks K w.db.tidb.replicas r := by
  simp only [reconcileTidbs, M.get_bind_apply]
  split
  · exact .inl (Triple.final (checkStatus_keep K env
      (P := fun w' => w'.db.tidb.replicas = w.db.tidb.replicas) fun _ _ h => h) rfl)
  · have h := scaleTidbs_replicas K env r w
    unfold deferring
    revert h
    cases scaleTidbs K env r w <;> (intro h; dsimp only [stateOf, audit] at h ⊢; split <;> exact h)

/-! ## 操作ごと -/

/-- 操作ごとに、段階は `PhaseStep` に従い、`uninstall` でなければ `ScaleState` のビットは落ちない。 -/
theorem Op.run_status (op : Op) (w : World) :
    PhaseStep K op w.db.status.phase (stateOf (op.run K env w)).db.status.phase ∧
      (op ≠ .uninstall → w.db.status.scaleState ||| (stateOf (op.run K env w)).db.status.scaleState =
        (stateOf (op.run K env w)).db.status.scaleState) := by
  cases op with
  | install =>
    rcases install_cases K env w with ⟨e, -, h⟩ | ⟨-, w₁, ⟨-, -, hs, -⟩, h⟩ <;> rw [Op.run, h]
    · exact ⟨.pending _, fun _ => BitVec.or_self⟩
    · refine ⟨?_, fun _ => ?_⟩
      · dsimp only [audit, World.log]
        split
        · exact .startFailed _
        · exact .started _
      · show _ ||| w₁.db.status.scaleState = w₁.db.status.scaleState
        rw [hs]
        exact BitVec.or_self
  | upgrade =>
    have h : (stateOf (TidbOperator.upgrade K env w)).db.status = w.db.status :=
      Triple.final (upgrade_status K env _) rfl
    rw [Op.run, h]
    exact ⟨.keep _ _ nofun, fun _ => BitVec.or_self⟩
  | reconcile r =>
    rcases (Triple.final (reconcileTidbs_status K env r _) rfl :
      (stateOf (reconcileTidbs K env r w)).db.status = w.db.status ∨ _) with h | h <;> rw [Op.run, h]
    · exact ⟨.keep _ _ nofun, fun _ => BitVec.or_self⟩
    · exact ⟨.keep _ _ nofun, fun _ =>
        (BitVec.or_assoc _ _ _).symm.trans (congrArg (· ||| K.tidbScaleErr) BitVec.or_self)⟩
  | uninstall =>
    have h : (stateOf (TidbOperator.uninstall env w)).db.status.phase = w.db.status.phase :=
      Triple.final (uninstall_phase env _) rfl
    rw [Op.run, h]
    exact ⟨.keep _ _ nofun, fun h => absurd rfl h⟩

/-- `Replicas` を変えるのは `reconcileTidbs` だけで、変えるなら検査を通った要求にする。 -/
theorem Op.run_replicas (op : Op) (w : World) :
    (stateOf (op.run K env w)).db.tidb.replicas = w.db.tidb.replicas ∨
      ∃ r, op = .reconcile r ∧ (stateOf (op.run K env w)).db.tidb.replicas = r ∧
        PassesChecks K w.db.tidb.replicas r := by
  cases op with
  | install =>
    refine .inl ?_
    rcases install_cases K env w with ⟨e, -, h⟩ | ⟨-, w₁, ⟨hr, -⟩, h⟩ <;> rw [Op.run, h]
    · rfl
    · exact hr
  | upgrade =>
    exact .inl (Triple.final (upgrade_keep K env (P := fun w' => w'.db.tidb.replicas = w.db.tidb.replicas)
      (fun _ _ h => h) (fun _ _ hp h => hp.replicas.trans h) fun _ _ h => h) rfl)
  | reconcile r => exact (reconcileTidbs_replicas K env r w).imp_right fun h => ⟨r, rfl, h⟩
  | uninstall =>
    exact .inl (Triple.final (uninstall_keep env (P := fun w' => w'.db.tidb.replicas = w.db.tidb.replicas)
      (fun _ _ h => h) (fun _ h => h) fun _ h => h) rfl)

/-- どの操作も、`cur` が空なら空のまま残す（`upgrade` は `defer` で空に戻す）。 -/
theorem Op.run_cur (op : Op) {w : World} (h : w.db.tidb.cur = "") :
    (stateOf (op.run K env w)).db.tidb.cur = "" := by
  cases op with
  | install =>
    rcases install_cases K env w with ⟨e, -, he⟩ | ⟨-, w₁, ⟨-, hc, -⟩, he⟩ <;> rw [Op.run, he]
    · exact h
    · exact hc.trans h
  | upgrade => exact upgrade_cur K env w
  | reconcile r => exact Triple.final (reconcileTidbs_cur K env r "") h
  | uninstall =>
    exact Triple.final (uninstall_keep env (P := fun w => w.db.tidb.cur = "") (fun _ _ h => h)
      (fun _ h => h) fun _ _ => rfl) h

end

end TidbOperator

import TidbOperator.Tidb.Lemmas.Wait

/-!
# 状態の URL の宛先の不変条件

`Inv`（コントローラがあれば `OuterStatusAddresses` は空でない）を四つの操作が保ち、どの操作も
`OuterStatusAddresses[0]` のパニックを返さないことを、操作ごとの三つ組で示す。
-/

namespace TidbOperator

/-- `OuterStatusAddresses` が空でない。 -/
def Ready (w : World) : Prop := w.db.status.outerStatusAddresses ≠ []

/-- `OuterStatusAddresses[0]` のパニックでないエラーで、そのときの状態で `Inv` が成り立つ。 -/
def SafeErr (e : Err) (w : World) : Prop := e ≠ .panic .outerStatusAddressesIndex ∧ Inv w

theorem Ready.inv {w : World} (h : Ready w) : Inv w := fun _ => h

theorem Inv.of_rcExists_false {w : World} (h : w.rcExists = false) : Inv w :=
  fun h' => absurd (h.symm.trans h') Bool.false_ne_true

theorem Probed.ready {w w' : World} (h : Probed w w') (hw : Ready w) : Ready w' := by
  obtain ⟨ms, Δ, rfl, -⟩ := h
  exact hw

section

variable (K : Ext) (env : Env)

/-! ## 外の呼び出し -/

theorem throw_safe {α : Type} {Q : α → World → Prop} {e : Err}
    (h : e ≠ .panic .outerStatusAddressesIndex) : Triple Inv (throw e : M α) Q SafeErr :=
  fun _ hw => ⟨h, hw⟩

theorem answer_safe {β : Type} {P : World → Prop} (hP : ∀ w o, P w → P (w.log o))
    (hI : ∀ w, P w → Inv w) (c : Call) (f : Answer → β) :
    Triple P (answer env c f) (fun _ => P) SafeErr := by
  intro w hw
  rw [answer_apply]
  cases he : (env w.trace.length).err with
  | none => exact hP w _ hw
  | some e =>
    exact ⟨fun h => (env w.trace.length).err_ne_panic _ (h ▸ he), hI _ (hP w _ hw)⟩

theorem call_safe {P : World → Prop} (hP : ∀ w o, P w → P (w.log o)) (hI : ∀ w, P w → Inv w)
    (c : Call) : Triple P (call env c) (fun _ => P) SafeErr :=
  answer_safe env hP hI c _

/-- コントローラへの呼び出しが通るのはコントローラがあるときだけなので、通れば宛先がある。 -/
theorem rcCall_safe (c : Call) (name : String) :
    Triple Inv (rcCall env c name) (fun _ => Ready) SafeErr := by
  intro w hw
  rw [rcCall_apply]
  cases hrc : w.rcExists with
  | false => exact ⟨nofun, hw⟩
  | true => exact call_safe env (P := Ready) (fun _ _ h => h) (fun _ h => h.inv) c w (hw hrc)

theorem createRcByJSON_safe (name : String) :
    Triple Ready (createRcByJSON env name) (fun _ => Ready) SafeErr := by
  intro w hw
  have hp := (env w.trace.length).err_ne_panic
  simp only [createRcByJSON, M.bind_apply, request]
  cases he : (env w.trace.length).err with
  | none => exact hw
  | some e =>
    rw [he] at hp
    cases (env w.trace.length).created <;> exact ⟨fun h => hp _ (congrArg some h), fun _ => hw⟩

theorem delRc_safe (name : String) :
    Triple Inv (delRc env name) (fun _ w => w.rcExists = false) SafeErr :=
  (call_safe env (fun _ _ h => h) (fun _ h => h) _).bind fun _ => fun _ _ => rfl

/-! ## `waitForOk` -/

/-- 宛先があれば、`waitForOk` はパニックせず、宛先を変えない。 -/
theorem waitForOk_safe : Triple Ready (waitForOk K env) (fun _ => Ready) SafeErr := by
  intro w hw
  rcases waitForOk_cases K env w with ⟨h0, -⟩ | ⟨-, w', hp, h | h⟩
  · exact absurd h0 hw
  · rw [h]; exact hp.ready hw
  · rw [h]; exact ⟨nofun, (hp.ready hw).inv⟩

/-! ## 操作 -/

theorem createService_safe (hK : K.proxys ≠ []) :
    Triple Inv (createService K env) (fun _ => Ready) SafeErr := by
  refine Triple.read_bind fun _ _ =>
    (answer_safe env (fun _ _ h => h) (fun _ h => h) _ _).bind fun ⟨mysqlPort, webPort⟩ => ?_
  refine Triple.bind (Triple.keep _ fun _ h => h) fun _ => ?_
  cases hps : K.proxys with
  | nil => exact absurd hps hK
  | cons p0 ps =>
    intro w _
    show Ready _
    simp [Ready]

theorem install_safe (hK : K.proxys ≠ []) :
    Triple Inv (install K env) (fun _ => Inv) SafeErr :=
  Triple.bind (Triple.keep _ fun _ h => h) fun _ => Triple.read_bind fun _ _ =>
    (call_safe env (fun _ _ h => h) (fun _ h => h) _).bind fun _ =>
      Triple.deferring
        ((createService_safe K env hK).bind fun _ =>
          (Triple.read_bind fun _ _ => createRcByJSON_safe env _).bind fun _ => waitForOk_safe K env)
        (fun _ _ h => h.inv) (fun _ _ h => h)

theorem upgradePods_safe (version : String) :
    ∀ pods, Triple Ready (upgradePods K env version pods) (fun _ => Ready) SafeErr
  | [] => Triple.stay _
  | p :: pods => by
    rw [upgradePods]
    exact Triple.ite
      (fun _ => Triple.bind (call_safe env (fun _ _ h => h) (fun _ h => h.inv) _) fun _ =>
        Triple.bind (Triple.keep _ fun _ h => h) fun _ =>
        Triple.bind (waitForOk_safe K env) fun _ =>
        Triple.bind (upgradePods_safe version pods) fun _ => Triple.stay _)
      (fun _ => upgradePods_safe version pods)

theorem upgradeTidbs_safe (phase : GoInt) (cell newImage version : String) :
    Triple Inv (upgradeTidbs K env phase cell newImage version) (fun _ => Inv) SafeErr :=
  Triple.ite (fun _ => throw_safe nofun) fun _ =>
    Triple.bind (rcCall_safe env _ _) fun _ =>
    Triple.bind (answer_safe env (fun _ _ h => h) (fun _ h => h.inv) _ _) fun pods =>
    (upgradePods_safe K env version pods).conseq (fun _ h => h) (fun _ _ h => h.inv) (fun _ _ h => h)

theorem upgrade_safe : Triple Inv (upgrade K env) (fun _ => Inv) SafeErr :=
  Triple.read_bind fun _ _ =>
    Triple.bind (Triple.deferring (upgradeTidbs_safe K env _ _ _ _)
      (fun a _ h => by cases a <;> exact h) (fun _ _ h => h)) fun _ => Triple.stay _

theorem deletePodsNotOk_safe :
    ∀ pods, Triple Inv (deletePodsNotOk K env pods) (fun _ => Inv) SafeErr
  | [] => Triple.stay _
  | p :: pods => by
    rw [deletePodsNotOk]
    exact Triple.bind
      (Triple.ite (fun _ => call_safe env (fun _ _ h => h) (fun _ h => h) _) fun _ => Triple.stay _)
      fun _ => deletePodsNotOk_safe pods

theorem scaleTidbs_safe (replica : GoInt) :
    Triple Inv (scaleTidbs K env replica) (fun _ => Ready) SafeErr :=
  Triple.read_bind fun _ _ =>
    Triple.ite (fun _ => throw_safe nofun) fun _ => Triple.ite (fun _ => throw_safe nofun) fun _ =>
    Triple.ite (fun _ => throw_safe nofun) fun _ => Triple.ite (fun _ => throw_safe nofun) fun _ =>
    Triple.bind (Triple.keep _ fun _ h => h) fun _ =>
    Triple.bind (rcCall_safe env _ _) fun _ => waitForOk_safe K env

theorem reconcileTidbs_safe (replica : GoInt) :
    Triple Inv (reconcileTidbs K env replica) (fun _ => Inv) SafeErr :=
  Triple.read_bind fun _ _ => Triple.ite
    (fun _ => Triple.read_bind fun _ _ => Triple.bind
      (answer_safe env (fun _ _ h => h) (fun _ h => h) _ _) fun pods => deletePodsNotOk_safe K env pods)
    (fun _ => Triple.deferring (scaleTidbs_safe K env replica) (fun _ _ h => h.inv)
      (fun _ _ h => ⟨h.1, by dsimp only; split <;> exact h.2⟩))

theorem uninstall_safe : Triple Inv (uninstall env) (fun _ => Inv) SafeErr :=
  Triple.read_bind fun _ _ =>
    Triple.bind (delRc_safe env _) fun _ =>
    Triple.bind (call_safe env (fun _ _ h => h) (fun _ => Inv.of_rcExists_false) _) fun _ =>
    fun _ h => Inv.of_rcExists_false h

/-- プロキシがあれば、どの操作も `Inv` を保ち、`OuterStatusAddresses[0]` のパニックを返さない。 -/
theorem Op.run_safe (hK : K.proxys ≠ []) :
    ∀ op : Op, Triple Inv (op.run K env) (fun _ => Inv) SafeErr
  | .install => install_safe K env hK
  | .upgrade => upgrade_safe K env
  | .reconcile r => reconcileTidbs_safe K env r
  | .uninstall => uninstall_safe env

end

/-- 届く状態ではいつも `Inv` が成り立つ。 -/
theorem RoleReachable.inv {K : Ext} (hK : K.proxys ≠ []) {w : World} (h : RoleReachable K w) :
    Inv w := by
  induction h with
  | init w hrc _ => exact Inv.of_rcExists_false hrc
  | step env op _ ih =>
    have hs := Op.run_safe K env hK op _ ih
    revert hs
    cases op.run K env _ with
    | ok _ w' => exact id
    | error e w' => exact And.right

end TidbOperator

import TidbOperator.Tidb.Lemmas.Rollout
import TidbOperator.Tidb.Lemmas.Safety
import TidbOperator.Tidb.Lemmas.Scale
import TidbOperator.Tidb.Lemmas.Lifecycle
import TidbOperator.Tidb.Lemmas.Health

/-!
# TiDB の役割の定理

任意の順の操作の下で `waitForOk` が空の宛先を読まないこと、`upgrade` が Pod を一台ずつ入れ替えること、
`reconcileTidbs` の検査が Go の `int` の演算であふれること、段階と `Replicas` と `ScaleState` の動き。
-/

namespace TidbOperator

/-! ## 状態の URL の宛先 -/

/-- プロキシがあれば、コントローラがなく宛先が空の役割から任意の順に操作を走らせて届く状態で、どの操作も
`OuterStatusAddresses[0]` の範囲外でパニックしない（`waitForOk` に入るとき宛先は空でない）。 -/
theorem op_never_reads_empty_status_addresses {K : Ext} (hK : K.proxys ≠ []) {w : World}
    (hw : RoleReachable K w) (env : Env) (op : Op) (w' : World) :
    op.run K env w ≠ .error (.panic .outerStatusAddressesIndex) w' := by
  intro h
  have hs := Op.run_safe K env hK op w (hw.inv hK)
  rw [h] at hs
  exact hs.1 rfl

theorem op_never_reads_empty_status_addresses_install :
    (⟨"", ["proxy"], 3, 1, 0, 1, 2, 1, fun _ _ => false, fun _ => true⟩ : Ext).proxys ≠ [] ∧
      RoleReachable ⟨"", ["proxy"], 3, 1, 0, 1, 2, 1, fun _ _ => false, fun _ => true⟩
        ⟨default, false, []⟩ ∧
      Op.install.run ⟨"", ["proxy"], 3, 1, 0, 1, 2, 1, fun _ _ => false, fun _ => true⟩
        (fun _ => default) ⟨default, false, []⟩ ≠
        .error (.panic .outerStatusAddressesIndex) ⟨default, false, []⟩ :=
  ⟨List.cons_ne_nil _ _, .init _ rfl rfl,
    op_never_reads_empty_status_addresses (List.cons_ne_nil _ _) (.init _ rfl rfl) _ _ _⟩

/-! ## `waitForOk` -/

/-- `waitForOk` が nil を返したなら、最後の一回で、`IsPodOk` な Pod の数が `Replicas` に（Go の `int` で）等しく、
状態の URL（入れ替え中はその Pod の `10080` 番、そうでなければ `OuterStatusAddresses[0]`）が答え、`Members` を
`ListPodNames` の答えで作り直した。それより前の回は見張りの呼び出ししかしていない。 -/
theorem waitForOk_ok_means_healthy (K : Ext) (env : Env) (w w' : World)
    (h : waitForOk K env w = .ok () w') :
    ∃ addr addrs probes, w.db.status.outerStatusAddresses = addr :: addrs ∧
      (∀ o ∈ probes, o.isProbe = true) ∧
      w'.trace = w.trace ++ probes ++ [.call (.getPods w.db.metadata.name "tidb"),
        .call (.httpGet (statusURL w.db.tidb.cur addr)), .call (.listPodNames w.db.metadata.name "tidb"),
        .gate w.db.tidb.cur none] ∧
      (env (w.trace ++ probes).length).err = none ∧
      BitVec.ofNat 64 ((env (w.trace ++ probes).length).pods.filter K.isPodOk).length =
        w.db.tidb.replicas ∧
      (env ((w.trace ++ probes).length + 1)).err = none ∧
      (env ((w.trace ++ probes).length + 2)).err = none ∧
      w'.db.tidb.members = (env ((w.trace ++ probes).length + 2)).names.map Member.mk := by
  obtain ⟨addr, addrs, w₀, w₁, ha, ⟨ms, probes, rfl, hprobes⟩, hc, rfl⟩ := waitForOk_ok_last K env h
  obtain ⟨h0, hcount, h1, h2, rfl⟩ := waitForOkCond_true K env hc
  exact ⟨addr, addrs, probes, ha, hprobes, by simp [World.log], h0, hcount, h1, h2, rfl⟩

theorem waitForOk_ok_means_healthy_ready :
    waitForOk ⟨"", ["proxy"], 3, 1, 0, 1, 2, 1, fun _ _ => false, fun _ => true⟩ (fun _ => default)
        ⟨{ (default : Db) with status.outerStatusAddresses := ["proxy:1"] }, true, []⟩ =
      .ok () ⟨{ (default : Db) with status.outerStatusAddresses := ["proxy:1"] }, true,
        [.call (.getPods "" "tidb"), .call (.httpGet "http://proxy:1/status"),
          .call (.listPodNames "" "tidb"), .gate "" none]⟩ ∧
    ∃ (addr : String) (addrs : List String) (probes : List Obs), ["proxy:1"] = addr :: addrs ∧
      (∀ o ∈ probes, o.isProbe = true) ∧
      ([.call (.getPods "" "tidb"), .call (.httpGet "http://proxy:1/status"),
          .call (.listPodNames "" "tidb"), .gate "" none] : List Obs) =
        [] ++ probes ++ [.call (.getPods "" "tidb"), .call (.httpGet (statusURL "" addr)),
          .call (.listPodNames "" "tidb"), .gate "" none] ∧
      (default : Answer).err = none ∧
      BitVec.ofNat 64 ((default : Answer).pods.filter fun _ => true).length = 0 ∧
      (default : Answer).err = none ∧ (default : Answer).err = none ∧
      [] = (default : Answer).names.map Member.mk :=
  ⟨rfl, waitForOk_ok_means_healthy ⟨"", ["proxy"], 3, 1, 0, 1, 2, 1, fun _ _ => false, fun _ => true⟩
    (fun _ => default) ⟨{ (default : Db) with status.outerStatusAddresses := ["proxy:1"] }, true, []⟩ _ rfl⟩

/-- `waitForOk` のすべて: `OuterStatusAddresses` が空ならパニックして何も変えない。空でなければ、その先頭 `addr`
と入ったときの `cur` で状態の URL を一度決め、答えの列の上で `poll` のとおりに試す。ある回で `IsPodOk` な Pod の
数が `Replicas` に等しく、状態の URL が答え、Pod の名前が読めれば、そこで止まって `Members` をその名前で
作り直し、nil を返す。それより前の回の失敗（どの呼び出しのエラーも）は次の回に進むだけで、`maxRetries` 回の
どれも通らなければタイムアウトを返す。どちらでも、足す呼び出しはその三つのどれかで、ほかの欄は変えず、最後に
`cur` と結果を記録する。 -/
theorem waitForOk_polls_until_healthy (K : Ext) (env : Env) (w : World) :
    match w.db.status.outerStatusAddresses with
    | [] => waitForOk K env w = .error (.panic .outerStatusAddressesIndex) w
    | addr :: _ => ∃ Δ, (∀ o ∈ Δ, o ∈ pollCalls w.db.metadata.name (statusURL w.db.tidb.cur addr)) ∧
        (w.trace ++ Δ).length = (poll K env w.db.tidb.replicas w.trace.length K.maxRetries).2 ∧
        waitForOk K env w =
          match (poll K env w.db.tidb.replicas w.trace.length K.maxRetries).1 with
          | some i => .ok () { w with
              db.tidb.members := (env (i + 2)).names.map Member.mk,
              trace := w.trace ++ Δ ++ [.gate w.db.tidb.cur none] }
          | none => .error .retryTimeout { w with
              trace := w.trace ++ Δ ++ [.gate w.db.tidb.cur (some .retryTimeout)] } := by
  rw [waitForOk, M.get_bind_apply]
  cases w.db.status.outerStatusAddresses with
  | nil => rfl
  | cons addr addrs =>
    obtain ⟨Δ, hΔ, hlen, h⟩ := retry_waitForOkCond K env (statusURL w.db.tidb.cur addr) K.maxRetries w
    refine ⟨Δ, hΔ, hlen, ?_⟩
    simp only [gated, M.tryCatch_apply, M.bind_apply, h]
    cases (poll K env w.db.tidb.replicas w.trace.length K.maxRetries).1 <;> rfl

/-! ## 一台ずつの入れ替え -/

/-- `upgrade` は、`Phase` が `PhaseTidbStarted` より小さければ何も呼ばず、そうでなければ `upgradeRC`、`GetPods`
のあと、入れ替えの要る Pod を一覧の順に一台ずつ、削除してからその Pod を `cur` として `waitForOk` を待ち、
最初のエラーで止まる（`UpgradeCalls`）。そのあとには監査の記録だけが続き、返るとき `cur` は空である。 -/
theorem upgrade_replaces_pods_serially (K : Ext) (env : Env) (w : World) :
    (stateOf (upgrade K env w)).db.tidb.cur = "" ∧
      ∃ Δ A, (stateOf (upgrade K env w)).trace = w.trace ++ Δ ++ A ∧ (∀ o ∈ A, o.isAudit = true) ∧
        UpgradeCalls K env w Δ (okOf (upgrade K env w)) :=
  ⟨upgrade_cur K env w, upgrade_calls K env w⟩

/-- `upgrade` が値を返したなら、`upgradeRC` と `GetPods` のあとは、入れ替えの要る Pod の数だけ、一覧の順に、
その Pod の削除と、その Pod を `cur` として nil を返した `waitForOk` の組が並び（`Serial`）、あとは監査の記録
だけである。 -/
theorem upgrade_ok_replaces_every_pod (K : Ext) (env : Env) (w : World)
    (h : okOf (upgrade K env w) = true) :
    ∃ Δ A, (stateOf (upgrade K env w)).trace = w.trace ++ (.call (.upgradeRc s!"tidb-{w.db.metadata.name}"
        s!"{K.imageRegistry}/tidb:{w.db.tidb.version}" w.db.tidb.version) ::
        .call (.getPods w.db.metadata.name "tidb") :: Δ) ++ A ∧ (∀ o ∈ A, o.isAudit = true) ∧
      Serial env w.db.status.outerStatusAddresses (w.trace.length + 2)
        (needing K w.db.tidb.version (env (w.trace.length + 1)).pods) Δ true ∧
      Δ.filterMap Obs.deleted? = needing K w.db.tidb.version (env (w.trace.length + 1)).pods ∧
      Δ.filterMap Obs.gated? =
        (needing K w.db.tidb.version (env (w.trace.length + 1)).pods).map (·, none) := by
  obtain ⟨Δ, A, htr, hA, hc⟩ := upgrade_calls K env w
  rw [h] at hc
  cases hc with
  | rollout Δ' _ _ _ _ _ hs => exact ⟨Δ', A, htr, hA, hs, hs.cycles⟩

theorem upgrade_ok_replaces_every_pod_one :
    okOf (upgrade ⟨"", ["proxy"], 3, 1, 0, 1, 0, 1, fun _ _ => true, fun _ => true⟩
      (fun _ => { (default : Answer) with pods := [⟨"tidb-0", "", true⟩] })
      ⟨{ (default : Db) with tidb.replicas := 1, status.outerStatusAddresses := ["proxy:1"] }, true, []⟩) =
        true ∧
    ∃ Δ A, (stateOf (upgrade ⟨"", ["proxy"], 3, 1, 0, 1, 0, 1, fun _ _ => true, fun _ => true⟩
        (fun _ => { (default : Answer) with pods := [⟨"tidb-0", "", true⟩] })
        ⟨{ (default : Db) with tidb.replicas := 1, status.outerStatusAddresses := ["proxy:1"] }, true,
          []⟩)).trace =
        [] ++ (.call (.upgradeRc "tidb-" "/tidb:" "") :: .call (.getPods "" "tidb") :: Δ) ++ A ∧
      (∀ o ∈ A, o.isAudit = true) ∧
      Serial (fun _ => { (default : Answer) with pods := [⟨"tidb-0", "", true⟩] }) ["proxy:1"] 2
        (needing ⟨"", ["proxy"], 3, 1, 0, 1, 0, 1, fun _ _ => true, fun _ => true⟩ ""
          [⟨"tidb-0", "", true⟩]) Δ true ∧
      Δ.filterMap Obs.deleted? = needing ⟨"", ["proxy"], 3, 1, 0, 1, 0, 1, fun _ _ => true, fun _ => true⟩ ""
        [⟨"tidb-0", "", true⟩] ∧
      Δ.filterMap Obs.gated? = (needing ⟨"", ["proxy"], 3, 1, 0, 1, 0, 1, fun _ _ => true, fun _ => true⟩ ""
        [⟨"tidb-0", "", true⟩]).map (·, none) :=
  ⟨rfl, upgrade_ok_replaces_every_pod _ _ _ rfl⟩

/-! ## 増減の検査 -/

/-- 今の数が `2^62` のとき、数学の整数では受け付けるべき（`ScaleOk`）要求 `2^62 - 1` を、`Replicas*3` が
Go の `int` であふれて負になるため、`reconcileTidbs` は "each scale out can not more then 2 times" で拒み、
`Replicas` は変わらない。 -/
theorem reconcileTidbs_rejects_at_overflow (K : Ext) (env : Env) (w : World) :
    ScaleOk (9223372036854775807 : GoInt).toInt (4611686018427387904 : GoInt).toInt
        (4611686018427387903 : GoInt).toInt ∧
    ∃ w', reconcileTidbs { K with tidbMax := 9223372036854775807 } env 4611686018427387903
        { w with db.tidb.replicas := 4611686018427387904 } = .error .scaleOutTooMuch w' ∧
      w'.db.tidb.replicas = 4611686018427387904 := by
  have hs := scaleTidbs_apply { K with tidbMax := 9223372036854775807 } env 4611686018427387903
    { w with db.tidb.replicas := 4611686018427387904 }
  rw [if_neg (by decide : ¬BitVec.slt (9223372036854775807 : GoInt) 4611686018427387903 = true),
    if_neg (by decide : ¬BitVec.slt (4611686018427387903 : GoInt) 2 = true),
    if_pos (by decide : BitVec.slt ((4611686018427387904 : GoInt) * 3) 4611686018427387903 = true)] at hs
  obtain ⟨w'', h, hw, -⟩ := reconcileTidbs_of_scale _ env
    (by decide : (BitVec.slt (4611686018427387903 : GoInt) 1 ||
      (4611686018427387903 : GoInt) == 4611686018427387904) = false) hs
  exact ⟨by decide, w'', h, congrArg Tidb.replicas hw⟩

/-- 今の数と要求があふれない大きさ（`Small`）なら、`scaleTidbs` の検査は数学の整数の検査 `ScaleOk` と一致する:
受け付ければ `Replicas` を一度だけ `r` に書き換えて増減に進み、どう終わっても `Replicas` は `r` のままである。
拒めば、状態を変えず、外の呼び出しもせずにエラーを返す。 -/
theorem scaleTidbs_decides_like_integers (K : Ext) (env : Env) (r : GoInt) (w : World)
    (hc : Small w.db.tidb.replicas) (hr : Small r) :
    (ScaleOk K.tidbMax.toInt w.db.tidb.replicas.toInt r.toInt →
      scaleTidbs K env r w =
          (do scaleReplicationController env s!"tidb-{w.db.metadata.name}" r; waitForOk K env)
            { w with db.tidb.replicas := r } ∧
        (stateOf (scaleTidbs K env r w)).db.tidb.replicas = r) ∧
    (¬ScaleOk K.tidbMax.toInt w.db.tidb.replicas.toInt r.toInt →
      ∃ e, scaleTidbs K env r w = .error e w) := by
  have h2 : (2 : GoInt).toInt = 2 := rfl
  rw [scaleTidbs_apply]
  simp only [BitVec.slt, hc.toInt_mul_three, hc.toInt_sub_mul_three hr, h2, decide_eq_true_eq, ScaleOk]
  constructor
  · rintro ⟨h₁, h₂, h₃, h₄⟩
    rw [if_neg (by omega), if_neg (by omega), if_neg (by omega), if_neg (by omega)]
    exact ⟨rfl, (scaling_keep K env (fun _ _ h => h) (fun _ _ hp h => hp.replicas.trans h) _ r).final
      (w := { w with db.tidb.replicas := r }) rfl⟩
  · intro h
    split_ifs <;> first | exact ⟨_, rfl⟩ | omega

theorem scaleTidbs_decides_like_integers_three_to_four :
    Small (3 : GoInt) ∧ Small (4 : GoInt) ∧
      ((ScaleOk (10 : GoInt).toInt (3 : GoInt).toInt (4 : GoInt).toInt →
        scaleTidbs ⟨"", ["proxy"], 10, 1, 0, 1, 2, 1, fun _ _ => false, fun _ => true⟩ (fun _ => default) 4
            ⟨{ (default : Db) with tidb.replicas := 3 }, true, []⟩ =
          (do scaleReplicationController (fun _ => default) s!"tidb-{(default : Db).metadata.name}" 4
              waitForOk ⟨"", ["proxy"], 10, 1, 0, 1, 2, 1, fun _ _ => false, fun _ => true⟩ (fun _ => default))
            ⟨{ (default : Db) with tidb.replicas := 4 }, true, []⟩ ∧
          (stateOf (scaleTidbs ⟨"", ["proxy"], 10, 1, 0, 1, 2, 1, fun _ _ => false, fun _ => true⟩
            (fun _ => default) 4 ⟨{ (default : Db) with tidb.replicas := 3 }, true, []⟩)).db.tidb.replicas = 4) ∧
      (¬ScaleOk (10 : GoInt).toInt (3 : GoInt).toInt (4 : GoInt).toInt →
        ∃ e, scaleTidbs ⟨"", ["proxy"], 10, 1, 0, 1, 2, 1, fun _ _ => false, fun _ => true⟩
          (fun _ => default) 4 ⟨{ (default : Db) with tidb.replicas := 3 }, true, []⟩ =
            .error e ⟨{ (default : Db) with tidb.replicas := 3 }, true, []⟩)) :=
  ⟨by decide, by decide, scaleTidbs_decides_like_integers
    ⟨"", ["proxy"], 10, 1, 0, 1, 2, 1, fun _ _ => false, fun _ => true⟩ (fun _ => default) 4
    ⟨{ (default : Db) with tidb.replicas := 3 }, true, []⟩ (by decide) (by decide)⟩

/-- 要求が 1 より小さいか今の数に等しければ、`reconcileTidbs` は `checkStatus` だけをする: 状態は軌跡のほか
変わらず（`Replicas` も `ScaleState` も）、軌跡には `GetPods` と `DeletePods` の呼び出しだけが足される。 -/
theorem reconcileTidbs_noop_only_checks (K : Ext) (env : Env) (r : GoInt) (w : World)
    (h : r.toInt < 1 ∨ r = w.db.tidb.replicas) :
    Checked w (stateOf (reconcileTidbs K env r w)) := by
  simp only [reconcileTidbs, M.get_bind_apply, noop_iff.mpr h, if_true]
  exact (checkStatus_checked K env w).final (Checked.refl w)

theorem reconcileTidbs_noop_only_checks_zero :
    ((0 : GoInt).toInt < 1 ∨ (0 : GoInt) = (default : Db).tidb.replicas) ∧
      Checked ⟨default, false, []⟩ (stateOf (reconcileTidbs
        ⟨"", ["proxy"], 3, 1, 0, 1, 2, 1, fun _ _ => false, fun _ => true⟩ (fun _ => default) 0
        ⟨default, false, []⟩)) :=
  ⟨.inl (by decide), reconcileTidbs_noop_only_checks _ _ _ _ (.inl (by decide))⟩

/-- 数が変わる要求では、`reconcileTidbs` は `Replicas` を `scaleTidbs` が残したまま返す（増減や `waitForOk` が
失敗しても戻さない）。エラーの値で返れば `ScaleState` に `tidbScaleErr` を立て、値を返せば `ScaleState` を
変えない。 -/
theorem reconcileTidbs_flags_scale_error (K : Ext) (env : Env) (r : GoInt) (w : World)
    (h : ¬(r.toInt < 1 ∨ r = w.db.tidb.replicas)) :
    (stateOf (reconcileTidbs K env r w)).db.tidb.replicas =
        (stateOf (scaleTidbs K env r w)).db.tidb.replicas ∧
      (∀ w', reconcileTidbs K env r w = .ok () w' → w'.db.status.scaleState = w.db.status.scaleState) ∧
      (∀ e w', reconcileTidbs K env r w = .error e w' → (∀ s, e ≠ .panic s) →
        w'.db.status.scaleState = w.db.status.scaleState ||| K.tidbScaleErr) := by
  have hnoop : (r.slt 1 || r == w.db.tidb.replicas) = false := Bool.eq_false_iff.mpr (mt noop_iff.mp h)
  have hst := scaleTidbs_status K env r w.db.status w rfl
  revert hst
  cases hs : scaleTidbs K env r w with
  | ok u w₁ =>
    intro hst
    obtain ⟨w'', hr, ht, hs''⟩ := reconcileTidbs_of_scale_ok K env hnoop hs
    rw [hr]
    refine ⟨congrArg Tidb.replicas ht, fun _ h' => ?_, fun _ _ h => by cases h⟩
    cases h'
    rw [hs'', hst]
  | error e w₁ =>
    intro hst
    obtain ⟨w'', hr, ht, hflag⟩ := reconcileTidbs_of_scale K env hnoop hs
    rw [hr]
    refine ⟨congrArg Tidb.replicas ht, (fun _ h => by cases h), fun _ _ h' he => ?_⟩
    cases h'
    rw [hflag he, hst]

theorem reconcileTidbs_flags_scale_error_five :
    ¬((5 : GoInt).toInt < 1 ∨ (5 : GoInt) = (default : Db).tidb.replicas) ∧
      ((stateOf (reconcileTidbs ⟨"", ["proxy"], 3, 1, 0, 1, 2, 1, fun _ _ => false, fun _ => true⟩
          (fun _ => default) 5 ⟨default, false, []⟩)).db.tidb.replicas =
        (stateOf (scaleTidbs ⟨"", ["proxy"], 3, 1, 0, 1, 2, 1, fun _ _ => false, fun _ => true⟩
          (fun _ => default) 5 ⟨default, false, []⟩)).db.tidb.replicas ∧
      (∀ w', reconcileTidbs ⟨"", ["proxy"], 3, 1, 0, 1, 2, 1, fun _ _ => false, fun _ => true⟩
          (fun _ => default) 5 ⟨default, false, []⟩ = .ok () w' →
        w'.db.status.scaleState = (default : Db).status.scaleState) ∧
      (∀ e w', reconcileTidbs ⟨"", ["proxy"], 3, 1, 0, 1, 2, 1, fun _ _ => false, fun _ => true⟩
          (fun _ => default) 5 ⟨default, false, []⟩ = .error e w' → (∀ s, e ≠ .panic s) →
        w'.db.status.scaleState = (default : Db).status.scaleState ||| 1)) :=
  ⟨by decide, reconcileTidbs_flags_scale_error _ _ _ _ (by decide)⟩

/-- 任意の順の操作を任意の答えの下で走らせたあとの `Replicas` は、はじめの数か、列のどこかの `reconcileTidbs`
の要求 `r` で、そのときの数の下で四つの検査（Go の `int` の演算）を通ったものである。増減や `waitForOk` が
そのあと失敗しても `r` は戻らないが、検査を通らない要求が `Replicas` に入ることはない。 -/
theorem runOps_replicas_passed_checks (K : Ext) (ops : List (Env × Op)) (w : World) :
    (runOps K ops w).db.tidb.replicas = w.db.tidb.replicas ∨
      ∃ pre env r post, ops = pre ++ (env, .reconcile r) :: post ∧
        (runOps K ops w).db.tidb.replicas = r ∧ PassesChecks K (runOps K pre w).db.tidb.replicas r := by
  induction ops generalizing w with
  | nil => exact .inl rfl
  | cons p ops ih =>
    obtain ⟨env, op⟩ := p
    rcases ih (stateOf (op.run K env w)) with h | ⟨pre, env', r, post, rfl, hr, hc⟩
    · -- 残りの列は数を変えない: 変えたのはこの操作か、どれでもない
      rcases Op.run_replicas K env op w with h' | ⟨r, rfl, h', hc⟩
      · exact .inl (h.trans h')
      · exact .inr ⟨[], env, r, ops, rfl, h.trans h', hc⟩
    · exact .inr ⟨(env, op) :: pre, env', r, post, rfl, hr, hc⟩

/-! ## 段階と `ScaleState` -/

/-- `install` は、最初の `Db.update` が失敗すれば、`Pending` を書いたまま、監査の記録を残さずにそのエラーを
返す。通れば、本体が（パニックでない）エラーを返したときだけ `StartFailed` を、値を返したかパニックしたときは
`Started` を書き、最後に監査の記録をちょうど一つ残す。 -/
theorem install_records_outcome (K : Ext) (env : Env) (w : World) :
    (∀ e, (env w.trace.length).err = some e → install K env w = .error e
      (({ w with db.status.phase := K.phaseTidbPending } : World).log (.call (.updateDb w.db.metadata.name)))) ∧
    ((env w.trace.length).err = none →
      (stateOf (install K env w)).db.status.phase =
          (if (deferErr (install K env w)).isSome then K.phaseTidbStartFailed else K.phaseTidbStarted) ∧
        ∃ Δ, (∀ o ∈ Δ, o.isAudit = false) ∧
          (stateOf (install K env w)).trace = w.trace ++ .call (.updateDb w.db.metadata.name) :: Δ ++
            [.audit w.db.metadata.name "tidb/tidb" "install" (deferErr (install K env w))
              s!"Install tidb replicationcontrollers with {fmtInt w.db.tidb.replicas} replicas on k8s"]) := by
  rcases install_cases K env w with ⟨e, he, h⟩ | ⟨he, w', ⟨hr, -, -, Δ, hΔ, ha⟩, h⟩
  · refine ⟨fun e' he' => ?_, fun hn => absurd (he.symm.trans hn) nofun⟩
    obtain rfl := Option.some.inj (he.symm.trans he')
    exact h
  · refine ⟨fun e' he' => absurd (he.symm.trans he') nofun, fun _ => ⟨by rw [h]; rfl, Δ, ha, ?_⟩⟩
    rw [h]
    simp [audit, hΔ, hr]

/-- 仕様の筋書き（8）: 保存、サービスの作成、コントローラの作成が通り、どの Pod の一覧でも `IsPodOk` な Pod の
数が `Replicas` に届かなければ、`install` は `waitForOk` のタイムアウトを返し、段階を `StartFailed` にする。 -/
theorem install_times_out_to_start_failed (K : Ext) (env : Env) (w : World) (hK : K.proxys ≠ [])
    (h0 : (env w.trace.length).err = none) (h1 : (env (w.trace.length + 1)).err = none)
    (h2 : (env (w.trace.length + 2)).err = none)
    (hpods : ∀ j, BitVec.ofNat 64 ((env j).pods.filter K.isPodOk).length ≠ w.db.tidb.replicas) :
    ∃ w', install K env w = .error .retryTimeout w' ∧ w'.db.status.phase = K.phaseTidbStartFailed := by
  obtain ⟨p, ps, hps⟩ := List.exists_cons_of_ne_nil hK
  simp only [install, M.bind_apply, M.modify_apply, M.get_apply, updateDb, call_apply, h0]
  generalize hw₀ : ({ w with db.status.phase := K.phaseTidbPending } : World).log
    (.call (.updateDb w.db.metadata.name)) = w₀
  have hl₀ : w₀.trace.length = w.trace.length + 1 := by rw [← hw₀]; simp
  have ht₀ : w₀.db.tidb = w.db.tidb := by rw [← hw₀]; rfl
  obtain ⟨w₁, hs, ha, ht₁, hl₁⟩ := createService_ok K env w₀ (by rw [hl₀]; exact h1) hps
  obtain ⟨w₂, hr, hd₂, -⟩ := createReplicationController_ok env w₁ (by rw [hl₁, hl₀]; exact h2)
  -- どの回も、`IsPodOk` な Pod の数が `Replicas` に届かないので真を返さない
  obtain ⟨w₃, hwt⟩ := waitForOk_timeout K env w₂ (by rw [hd₂]; exact ha) fun _ _ _ hp hc =>
    hpods _ ((waitForOkCond_true K env hc).2.1.trans (by rw [hp.replicas, hd₂, ht₁, ht₀]))
  unfold deferring
  simp only [M.bind_apply, hs, hr, hwt]
  exact ⟨_, rfl, rfl⟩

theorem install_times_out_to_start_failed_no_pods :
    ["proxy"] ≠ [] ∧ (default : Answer).err = none ∧ (default : Answer).err = none ∧
      (default : Answer).err = none ∧
      (∀ _ : Nat, BitVec.ofNat 64 ((default : Answer).pods.filter fun _ => true).length ≠ 3) ∧
      ∃ w', install ⟨"", ["proxy"], 3, 1, 0, 1, 2, 1, fun _ _ => false, fun _ => true⟩ (fun _ => default)
          ⟨{ (default : Db) with tidb.replicas := 3 }, false, []⟩ = .error .retryTimeout w' ∧
        w'.db.status.phase = 1 :=
  ⟨List.cons_ne_nil _ _, rfl, rfl, rfl, fun _ => (by decide : BitVec.ofNat 64 0 ≠ 3),
    install_times_out_to_start_failed _ _ _ (List.cons_ne_nil _ _) rfl rfl rfl
      fun _ => (by decide : BitVec.ofNat 64 0 ≠ 3)⟩

/-- 任意の答えの下で操作を任意の順に走らせると、各操作は段階を `PhaseStep` に従って動かし、段階は、`install` を
一度も走らせなければ前のまま、走らせれば `Pending`、`Started`、`StartFailed` のどれかである。 -/
theorem runOps_phase_follows_install (K : Ext) (ops : List (Env × Op)) (w : World) :
    (∀ pre p post, ops = pre ++ p :: post →
      PhaseStep K p.2 (runOps K pre w).db.status.phase (stateOf (p.2.run K p.1 (runOps K pre w))).db.status.phase) ∧
    ((∀ p ∈ ops, p.2 ≠ .install) → (runOps K ops w).db.status.phase = w.db.status.phase) ∧
    ((∃ p ∈ ops, p.2 = .install) →
      (runOps K ops w).db.status.phase ∈ [K.phaseTidbPending, K.phaseTidbStarted, K.phaseTidbStartFailed]) := by
  refine ⟨fun pre p _ _ => (Op.run_status K p.1 p.2 _).1, ?_⟩
  induction ops generalizing w with
  | nil => exact ⟨fun _ => rfl, fun ⟨_, h, _⟩ => nomatch h⟩
  | cons p ops ih =>
    obtain ⟨env, op⟩ := p
    have hs := (Op.run_status K env op w).1
    obtain ⟨ih₁, ih₂⟩ := ih (stateOf (op.run K env w))
    rw [runOps, List.forall_mem_cons]
    refine ⟨fun ⟨hop, h⟩ => (ih₁ h).trans (hs.eq_of_ne hop), fun ⟨q, hq, hqi⟩ => ?_⟩
    by_cases hin : ∃ q ∈ ops, q.2 = .install
    · exact ih₂ hin
    · rw [ih₁ fun q hq hqi => hin ⟨q, hq, hqi⟩]
      rcases List.mem_cons.mp hq with rfl | hq
      · exact hs.mem_of_install hqi
      · exact absurd ⟨q, hq, hqi⟩ hin

/-- `uninstall` を走らせない操作の列は、任意の答えの下で、`ScaleState` のどのビットも落とさない。増減の失敗で
立てた `tidbScaleErr` は、`uninstall` まで立ったまま残る。 -/
theorem runOps_keeps_scale_state_bits (K : Ext) (ops : List (Env × Op)) (w : World)
    (h : ∀ p ∈ ops, p.2 ≠ .uninstall) :
    w.db.status.scaleState ||| (runOps K ops w).db.status.scaleState =
      (runOps K ops w).db.status.scaleState := by
  induction ops generalizing w with
  | nil => exact BitVec.or_self
  | cons p ops ih =>
    obtain ⟨env, op⟩ := p
    exact or_eq_of_or_eq ((Op.run_status K env op w).2 (h _ (List.mem_cons_self _ _)))
      (ih _ fun q hq => h q (List.mem_cons_of_mem _ hq))

theorem runOps_keeps_scale_state_bits_reconcile :
    (∀ p ∈ [((fun _ => default : Env), Op.reconcile 5)], p.2 ≠ .uninstall) ∧
      (default : Db).status.scaleState |||
          (runOps ⟨"", ["proxy"], 3, 1, 0, 1, 2, 1, fun _ _ => false, fun _ => true⟩
            [((fun _ => default : Env), Op.reconcile 5)] ⟨default, false, []⟩).db.status.scaleState =
        (runOps ⟨"", ["proxy"], 3, 1, 0, 1, 2, 1, fun _ _ => false, fun _ => true⟩
          [((fun _ => default : Env), Op.reconcile 5)] ⟨default, false, []⟩).db.status.scaleState :=
  ⟨by simp, runOps_keeps_scale_state_bits _ [((fun _ => default : Env), Op.reconcile 5)] ⟨default, false, []⟩
    (by simp)⟩

/-! ## `cur` -/

/-- 任意の答えの下で操作を任意の順に走らせても、`cur` が空の状態から始めれば、操作の合間の `cur` はいつも空で
ある（`upgrade` は失敗しても `defer` で空に戻す）。そのため次の操作の `waitForOk` は、入れ替え中の一台ではなく
`OuterStatusAddresses[0]` の状態の URL を見る。 -/
theorem runOps_keeps_cur_empty (K : Ext) (ops : List (Env × Op)) (w : World) (h : w.db.tidb.cur = "") :
    (runOps K ops w).db.tidb.cur = "" ∧
      ∀ addr, statusURL (runOps K ops w).db.tidb.cur addr = s!"http://{addr}/status" := by
  have hc : (runOps K ops w).db.tidb.cur = "" := by
    induction ops generalizing w with
    | nil => exact h
    | cons p ops ih => exact ih _ (Op.run_cur K p.1 p.2 h)
  exact ⟨hc, fun addr => by rw [hc]; rfl⟩

theorem runOps_keeps_cur_empty_upgrade :
    (default : Db).tidb.cur = "" ∧
      (runOps ⟨"", ["proxy"], 3, 1, 0, 1, 2, 1, fun _ _ => true, fun _ => true⟩
          [((fun _ => default : Env), Op.upgrade)] ⟨default, false, []⟩).db.tidb.cur = "" ∧
      ∀ addr, statusURL (runOps ⟨"", ["proxy"], 3, 1, 0, 1, 2, 1, fun _ _ => true, fun _ => true⟩
          [((fun _ => default : Env), Op.upgrade)] ⟨default, false, []⟩).db.tidb.cur addr =
        s!"http://{addr}/status" :=
  ⟨rfl, runOps_keeps_cur_empty _ _ ⟨default, false, []⟩ rfl⟩

end TidbOperator

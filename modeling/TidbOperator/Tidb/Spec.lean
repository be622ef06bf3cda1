import TidbOperator.Tidb.Basic

/-!
# TiDB の役割の仕様

操作が何のためにあるかを、コードから離れて述べる: `upgrade` の一台ずつの入れ替え（`Serial`）、`waitForOk` の
待ち方（`poll`）、宛先の不変条件（`Inv`）。操作の呼び出し側は src/ にないので、四つの操作をどの順にも呼ぶ（`Op`）。
-/

namespace TidbOperator

/-- 見張りの呼び出し。 -/
def Obs.isProbe : Obs → Bool
  | .call (.getPods _ _) => true
  | .call (.httpGet _) => true
  | .call (.listPodNames _ _) => true
  | _ => false

/-- 監査の記録。 -/
def Obs.isAudit : Obs → Bool
  | .audit .. => true
  | _ => false

/-- `DeletePods` で削除した Pod の名前。 -/
def Obs.deleted? : Obs → Option String
  | .call (.deletePods n) => some n
  | _ => none

/-- `waitForOk` が返ったことの記録: 入ったときの `cur` と結果。 -/
def Obs.gated? : Obs → Option (String × Option Err)
  | .gate cur err => some (cur, err)
  | _ => none

/-! ## 一台ずつの入れ替え -/

/-- 入れ替えの要る Pod の名前（一覧の順）。 -/
def needing (K : Ext) (version : String) (pods : List Pod) : List String :=
  (pods.filter (K.needUpgrade · version)).map (·.name)

/-- 一台ずつの入れ替えの軌跡。`i` は次の呼び出しが答えを受ける軌跡の番号、`addrs` は `OuterStatusAddresses`。
名前の順に、Pod を削除し、見張りのあと、その名前を `cur` として `waitForOk` が返ったことを記録する。次の削除は
前の `waitForOk` が nil を返したあとだけで、削除の失敗、`waitForOk` のパニック（`addrs` が空）か時間切れで
止まる。`ok` は最後まで進んだかどうか。 -/
inductive Serial (env : Env) (addrs : List String) : Nat → List String → List Obs → Bool → Prop
  | done (i : Nat) : Serial env addrs i [] [] true
  | stop (i : Nat) (n : String) (ns : List String) : ((env i).err ≠ none ∨ addrs = []) →
      Serial env addrs i (n :: ns) [.call (.deletePods n)] false
  | fail (i : Nat) (n : String) (ns : List String) (probes : List Obs) :
      (env i).err = none → addrs ≠ [] → (∀ o ∈ probes, o.isProbe = true) →
      Serial env addrs i (n :: ns) (.call (.deletePods n) :: probes ++ [.gate n (some .retryTimeout)]) false
  | next (i : Nat) (n : String) (ns : List String) (probes Δ : List Obs) (ok : Bool) :
      (env i).err = none → addrs ≠ [] → (∀ o ∈ probes, o.isProbe = true) →
      Serial env addrs (i + probes.length + 2) ns Δ ok →
      Serial env addrs i (n :: ns) (.call (.deletePods n) :: probes ++ .gate n none :: Δ) ok

/-- `upgrade` が `w` から足す呼び出しと記録（監査の記録を除く）。`Phase` が `PhaseTidbStarted` より小さければ
何も呼ばない。そうでなければ `upgradeRC` を呼び、コントローラがないか答えがエラーならそこで止まる。通れば
`GetPods` を呼び、エラーならそこで止まり、答えの Pod のうち入れ替えの要るものを一台ずつ入れ替える。`ok` は
`upgrade` が値を返したかどうか。 -/
inductive UpgradeCalls (K : Ext) (env : Env) (w : World) : List Obs → Bool → Prop
  | unavailable : w.db.status.phase.slt K.phaseTidbStarted = true → UpgradeCalls K env w [] false
  | rcFailed : w.db.status.phase.slt K.phaseTidbStarted = false →
      (w.rcExists = false ∨ (env w.trace.length).err ≠ none) →
      UpgradeCalls K env w [.call (.upgradeRc s!"tidb-{w.db.metadata.name}"
        s!"{K.imageRegistry}/tidb:{w.db.tidb.version}" w.db.tidb.version)] false
  | podsFailed : w.db.status.phase.slt K.phaseTidbStarted = false → w.rcExists = true →
      (env w.trace.length).err = none → (env (w.trace.length + 1)).err ≠ none →
      UpgradeCalls K env w [.call (.upgradeRc s!"tidb-{w.db.metadata.name}"
        s!"{K.imageRegistry}/tidb:{w.db.tidb.version}" w.db.tidb.version),
        .call (.getPods w.db.metadata.name "tidb")] false
  | rollout (Δ : List Obs) (ok : Bool) : w.db.status.phase.slt K.phaseTidbStarted = false →
      w.rcExists = true → (env w.trace.length).err = none → (env (w.trace.length + 1)).err = none →
      Serial env w.db.status.outerStatusAddresses (w.trace.length + 2)
        (needing K w.db.tidb.version (env (w.trace.length + 1)).pods) Δ ok →
      UpgradeCalls K env w (.call (.upgradeRc s!"tidb-{w.db.metadata.name}"
        s!"{K.imageRegistry}/tidb:{w.db.tidb.version}" w.db.tidb.version) ::
        .call (.getPods w.db.metadata.name "tidb") :: Δ) ok

/-! ## 増減の検査 -/

/-- 数学の整数での増減の検査: 上限 `m`、今の数 `c` の下で、要求 `r` は 2 以上、上限以下、今の 3 倍以下で、
減るのは今の 3 分の 1 まで。 -/
def ScaleOk (m c r : Int) : Prop := 2 ≤ r ∧ r ≤ m ∧ r ≤ 3 * c ∧ 3 * (c - r) ≤ c

instance (m c r : Int) : Decidable (ScaleOk m c r) := inferInstanceAs (Decidable (_ ∧ _))

/-- 3 倍しても、差を 3 倍しても Go の `int` であふれない大きさ（`|x| ≤ 2^60`）。 -/
def Small (x : GoInt) : Prop := -1152921504606846976 ≤ x.toInt ∧ x.toInt ≤ 1152921504606846976

instance (x : GoInt) : Decidable (Small x) := inferInstanceAs (Decidable (_ ∧ _))

/-- `reconcileTidbs` の四つの検査（上限、2 以上、一度に 3 倍まで、一度に 3 分の 1 まで）を、今の数 `c` の下で
要求 `r` が Go の `int` の演算で通る。 -/
def PassesChecks (K : Ext) (c r : GoInt) : Prop :=
  K.tidbMax.slt r = false ∧ r.slt 2 = false ∧ (c * 3).slt r = false ∧ c.slt ((c - r) * 3) = false

/-- `w` は `w₀` から、`GetPods` と `DeletePods` の呼び出しだけを軌跡に足したもの。 -/
def Checked (w₀ w : World) : Prop :=
  ∃ Δ, w = { w₀ with trace := w₀.trace ++ Δ } ∧
    ∀ o ∈ Δ, o = .call (.getPods w₀.db.metadata.name "tidb") ∨ ∃ n, o = .call (.deletePods n)

/-! ## 健康の待ち方 -/

/-- `waitForOk` の一回が順に呼ぶ三つ: Pod の一覧、状態の URL、Pod の名前。 -/
def pollCalls (cell sURL : String) : List Obs :=
  [.call (.getPods cell "tidb"), .call (.httpGet sURL), .call (.listPodNames cell "tidb")]

/-- 軌跡の `i` 番から答えを受ける `waitForOk` の一回: 真を返すかと、呼び出しの数。Pod の一覧が失敗するか
`IsPodOk` な Pod の数が `replicas` でなければ一つ、状態の URL が答えなければ二つ、Pod の名前が読めなければ
三つで偽。三つとも通れば真。 -/
def okAttempt (K : Ext) (env : Env) (replicas : GoInt) (i : Nat) : Bool × Nat :=
  if (env i).err.isSome || BitVec.ofNat 64 ((env i).pods.filter K.isPodOk).length != replicas then
    (false, 1)
  else if (env (i + 1)).err.isSome then (false, 2)
  else if (env (i + 2)).err.isSome then (false, 3)
  else (true, 3)

/-- `i` 番から一回ずつ `n` 回まで試す: 真を返す最初の回の始まりの番号（なければ `none`）と、最後の呼び出しの
あとの番号。一回の失敗は次の回に進むだけである。 -/
def poll (K : Ext) (env : Env) (replicas : GoInt) : Nat → Nat → Option Nat × Nat
  | i, 0 => (none, i)
  | i, n + 1 =>
    if (okAttempt K env replicas i).1 then (some i, i + 3)
    else poll K env replicas (i + (okAttempt K env replicas i).2) n

/-! ## 状態の URL の宛先 -/

/-- 置き換えのコントローラがあれば、`OuterStatusAddresses` は空でない。 -/
def Inv (w : World) : Prop := w.rcExists = true → w.db.status.outerStatusAddresses ≠ []

/-- 呼び出し側が呼ぶ操作。 -/
inductive Op
  | install
  | upgrade
  | reconcile (replica : GoInt)
  | uninstall
  deriving DecidableEq, Repr

/-- 操作を走らせる。 -/
def Op.run (K : Ext) (env : Env) : Op → M Unit
  | .install => TidbOperator.install K env
  | .upgrade => TidbOperator.upgrade K env
  | .reconcile r => reconcileTidbs K env r
  | .uninstall => TidbOperator.uninstall env

/-- コントローラがなく `Status` の宛先が空の役割から、操作を任意の順に、各回の答えを任意に走らせて届く
状態。操作がエラーを返しても状態は残り、次の操作がそこから走る。 -/
inductive RoleReachable (K : Ext) : World → Prop
  | init (w : World) : w.rcExists = false → w.db.status.outerStatusAddresses = [] → RoleReachable K w
  | step {w : World} (env : Env) (op : Op) : RoleReachable K w →
      RoleReachable K (stateOf (op.run K env w))

/-! ## 段階と増減のエラーのビット -/

/-- `defer` の中から見える `err`: 値を返したかパニックなら nil、そうでなければ返したエラー。 -/
def deferErr {α : Type} : EStateM.Result Err World α → Option Err
  | .ok _ _ => none
  | .error e _ => goErr (.error e : Except Err α)

/-- 段階の遷移（4.2）: `install` だけが段階を書き、`Pending` を書いてから `Started` か `StartFailed` に着く
（最初の保存が失敗すれば `Pending` のまま返る）。ほかの操作は段階を変えない。 -/
inductive PhaseStep (K : Ext) : Op → GoInt → GoInt → Prop
  | pending (p : GoInt) : PhaseStep K .install p K.phaseTidbPending
  | started (p : GoInt) : PhaseStep K .install p K.phaseTidbStarted
  | startFailed (p : GoInt) : PhaseStep K .install p K.phaseTidbStartFailed
  | keep (op : Op) (p : GoInt) : op ≠ .install → PhaseStep K op p p

/-- 操作を順に、各回の答えとともに走らせたあとの状態。操作がエラーを返しても、次の操作はそこから走る。 -/
def runOps (K : Ext) : List (Env × Op) → World → World
  | [], w => w
  | (env, op) :: ops, w => runOps K ops (stateOf (op.run K env w))

end TidbOperator

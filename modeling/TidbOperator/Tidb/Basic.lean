import TidbOperator.Tidb.Platform

/-!
# TiDB の役割の操作

`operator` の `Tidb` のメソッド（src/unnamed/part_001）: `upgrade`、`install`、`syncMembers`、`createService`、
`createReplicationController`、`waitForOk`、`uninstall`、`reconcileTidbs`、`checkStatus`。雛形から JSON を作る
`toJSONTemplate` は、作る呼び出しの答えに含める。待つ間の `time.Sleep` とログは軌跡に現れない。
-/

namespace TidbOperator

/-- src/ にない定数と補助関数。 -/
structure Ext where
  imageRegistry : String
  /-- `getProxys()`。 -/
  proxys : List String
  /-- `getCachedMetadata().Spec.Tidb.Max`。 -/
  tidbMax : GoInt
  /-- `int(waitTidbComponentAvailableTimeout / interval)`。 -/
  maxRetries : Nat
  phaseTidbPending : GoInt
  phaseTidbStartFailed : GoInt
  phaseTidbStarted : GoInt
  tidbScaleErr : GoInt
  needUpgrade : Pod → String → Bool
  /-- `k8sutil.IsPodOk`。 -/
  isPodOk : Pod → Bool

/-- `defaultTidbStatusPort`。 -/
def defaultTidbStatusPort : Nat := 10080

/-- `%d` で書いた Go の `int`。 -/
def fmtInt (x : GoInt) : String := toString x.toInt

/-- 記録: `m` が返ったら、入ったときの `cur` とその結果を軌跡に残す。 -/
def gated (cur : String) (m : M Unit) : M Unit :=
  tryCatch (do m; modify (·.log (.gate cur none))) fun e => do
    modify (·.log (.gate cur (some e)))
    throw e

section

variable (K : Ext) (env : Env)

/-- `syncMembers`: 動いている Pod の名前で `Members` を作り直す。 -/
def syncMembers : M Unit := do
  let w ← get
  let pods ← listPodNames env w.db.metadata.name "tidb"
  modify fun w => { w with db.tidb.members := pods.map Member.mk }

/-- `waitForOk` が `retryutil.Retry` に渡す関数の一回: 動いている Pod の数が `Replicas` に等しく、状態の URL が
答え、`syncMembers` が通れば真。 -/
def waitForOkCond (sURL : String) : M Bool := do
  let w ← get
  let pods ← getPods env w.db.metadata.name "tidb"
  let count := (pods.filter K.isPodOk).length
  if BitVec.ofNat 64 count != w.db.tidb.replicas then return false
  if !(← tryCatch (do httpGet env sURL; pure true) fun _ => pure false) then return false
  syncMembers env
  return true

/-- `waitForOk` が見る状態の URL。入れ替え中（`cur` が空でない）なら、その Pod の状態のポート、そうでなければ
`OuterStatusAddresses[0]`。 -/
def statusURL (cur addr : String) : String :=
  let host := if cur != "" then s!"{cur}:{defaultTidbStatusPort}" else addr
  s!"http://{host}/status"

/-- `waitForOk`。はじめに `OuterStatusAddresses[0]` を読む（空ならパニック）。返るとき、入ったときの `cur` と
結果を軌跡に残す。 -/
def waitForOk : M Unit := do
  let w ← get
  match w.db.status.outerStatusAddresses with
  | [] => throw (.panic .outerStatusAddressesIndex)
  | addr :: _ =>
    let cur := w.db.tidb.cur
    gated cur (retry (waitForOkCond K env (statusURL cur addr)) K.maxRetries)

/-- `upgrade` の `for`: 入れ替えの要る Pod を順に、削除し、その Pod に向けて `waitForOk` を待つ。入れ替えた Pod が
あったか（`upgraded`）を返す。 -/
def upgradePods (version : String) : List Pod → M Bool
  | [] => pure false
  | pod :: pods => do
    if K.needUpgrade pod version then
      deletePods env pod.name
      modify fun w => { w with db.tidb.cur := pod.name }
      waitForOk K env
      let _ ← upgradePods version pods
      pure true
    else upgradePods version pods

/-- `upgrade` の `defer` の内側: 起動していなければ `ErrUnavailable` を返す。そうでなければコントローラの像を
差し替え、Pod を一覧して一台ずつ入れ替える。入れ替えた Pod があったか（`upgraded`）を返す。 -/
def upgradeTidbs (phase : GoInt) (cell newImage version : String) : M Bool :=
  if phase.slt K.phaseTidbStarted then throw .unavailable
  else do
    upgradeRC env s!"tidb-{cell}" newImage version
    let pods ← getPods env cell "tidb"
    upgradePods K env version pods

/-- `upgrade`。`defer` は `cur` を空に戻し、`upgraded || err != nil` なら記録する。ループの中のエラーと
パニックは `upgraded` を立てた後にしか起きず、ループの前のエラーでは `err` が nil でないので、エラーで
終わるときはいつも記録する。 -/
def upgrade : M Unit := do
  let w ← get
  let version := w.db.tidb.version
  let newImage := s!"{K.imageRegistry}/tidb:{version}"
  let cell := w.db.metadata.name
  let _ ← deferring (upgradeTidbs K env w.db.status.phase cell newImage version) fun r w =>
    let w := { w with db.tidb.cur := "" }
    let upgraded := match r with
      | .ok upgraded => upgraded
      | .error _ => true
    if upgraded then audit cell "upgrate" (goErr r) s!"Upgrate tidb to version: {version}" w else w

/-- `createService`: サービスを作り、各プロキシと `mysql` のポートを `OuterAddresses` に、最初のプロキシと
`web` のポートを `OuterStatusAddresses` に足す。 -/
def createService : M Unit := do
  let w ← get
  let (mysqlPort, webPort) ← createServiceByJSON env s!"tidb-{w.db.metadata.name}"
  let ps := K.proxys
  modify fun w => { w with
    db.status.outerAddresses := w.db.status.outerAddresses ++ ps.map fun py => s!"{py}:{mysqlPort}" }
  match ps with
  | [] => throw (.panic .proxysIndex)
  | p0 :: _ =>
    modify fun w => { w with
      db.status.outerStatusAddresses := w.db.status.outerStatusAddresses ++ [s!"{p0}:{webPort}"] }

/-- `createReplicationController`。 -/
def createReplicationController : M Unit := do
  let w ← get
  createRcByJSON env s!"tidb-{w.db.metadata.name}"

/-- `install`。`Pending` を書き込んで保存し、サービス、コントローラの順に作って `waitForOk` を待つ。`defer` は
結果に応じて `Started` か `StartFailed` を書き、記録する。 -/
def install : M Unit := do
  modify fun w => { w with db.status.phase := K.phaseTidbPending }
  let w ← get
  let cell := w.db.metadata.name
  updateDb env cell
  deferring (do createService K env; createReplicationController env; waitForOk K env) fun r w =>
    let ph := if (goErr r).isSome then K.phaseTidbStartFailed else K.phaseTidbStarted
    let w := { w with db.status.phase := ph }
    audit cell "install" (goErr r)
      s!"Install tidb replicationcontrollers with {fmtInt w.db.tidb.replicas} replicas on k8s" w

/-- `uninstall`。コントローラとサービスを消し、メンバーと状態の欄を空にする。`Phase` は変えない。 -/
def uninstall : M Unit := do
  let w ← get
  let name := s!"tidb-{w.db.metadata.name}"
  delRc env name
  delSrvs env name
  modify fun w => { w with
    db.tidb.members := [], db.tidb.cur := "", db.status.migrateState := "",
    db.status.scaleState := 0, db.status.outerAddresses := [], db.status.outerStatusAddresses := [] }

/-- `checkStatus` の `for`: 動いていない Pod を削除する。 -/
def deletePodsNotOk : List Pod → M Unit
  | [] => pure ()
  | pod :: pods => do
    (if !K.isPodOk pod then deletePods env pod.name else pure ())
    deletePodsNotOk pods

/-- `checkStatus`。 -/
def checkStatus : M Unit := do
  let w ← get
  let pods ← getPods env w.db.metadata.name "tidb"
  deletePodsNotOk K env pods

/-- `reconcileTidbs` の `defer` の内側: 上限、2 以上、一度に 3 倍まで、一度に 3 分の 1 までの順に検査し、
通れば `Replicas` を書き換えてから増減し、`waitForOk` を待つ。比較は Go の `int` の演算で行う。 -/
def scaleTidbs (replica : GoInt) : M Unit := do
  let w ← get
  let c := w.db.tidb.replicas
  if K.tidbMax.slt replica then throw (.exceedsMax K.tidbMax)
  else if replica.slt 2 then throw .replicasLessThanTwo
  else if (c * 3).slt replica then throw .scaleOutTooMuch
  else if c.slt ((c - replica) * 3) then throw .scaleDownTooMuch
  else do
    modify fun w => { w with db.tidb.replicas := replica }
    scaleReplicationController env s!"tidb-{w.db.metadata.name}" replica
    waitForOk K env

/-- `reconcileTidbs`。1 より小さいか今の数に等しければ `checkStatus` だけ。そうでなければ、エラーで終わると
`defer` が `ScaleState` に `tidbScaleErr` を立て、どちらでも記録する。 -/
def reconcileTidbs (replica : GoInt) : M Unit := do
  let w ← get
  if replica.slt 1 || replica == w.db.tidb.replicas then
    checkStatus K env
  else
    let r := w.db.tidb.replicas
    let cell := w.db.metadata.name
    deferring (scaleTidbs K env replica) fun res w =>
      let w := if (goErr res).isSome then
        { w with db.status.scaleState := w.db.status.scaleState ||| K.tidbScaleErr } else w
      audit cell "scale" (goErr res)
        s!"Scale tidb \x27{cell}\x27 replicas from {fmtInt r} to {fmtInt replica}" w

end

end TidbOperator

import TidbOperator.Core.Types

/-!
# プラットフォーム

外の呼び出し（`k8sutil`、`kubecli`、`httputil` の src/ にない関数）と `retryutil.Retry`。操作は状態を残したまま
エラーを返せる `EStateM` の計算で、答えは `Env` が軌跡の長さごとに与える。コントローラは作る呼び出しのあと
あり、`DelRc` で消え、増減と `upgradeRC` はあるときしか通らない。
-/

namespace TidbOperator

/-- Pod（`v1.Pod`）: 名前と、src/ にない `needUpgrade` と `IsPodOk` が読む中身。 -/
structure Pod where
  name : String
  image : String
  ready : Bool
  deriving DecidableEq, Repr, Inhabited

/-- プラットフォームへの呼び出し。 -/
inductive Call
  /-- `td.Db.update()`。 -/
  | updateDb (cell : String)
  /-- `k8sutil.CreateServiceByJSON`（雛形から作る JSON は名前で表す）。 -/
  | createService (name : String)
  /-- `k8sutil.CreateRcByJSON`。 -/
  | createRc (name : String)
  | upgradeRc (name image version : String)
  | getPods (cell component : String)
  | deletePods (name : String)
  /-- `k8sutil.ScaleReplicationController`。 -/
  | scaleRc (name : String) (replicas : GoInt)
  | delRc (name : String)
  | delSrvs (name : String)
  | listPodNames (cell component : String)
  /-- `httputil.Get`。 -/
  | httpGet (url : String)
  /-- `kubecli.BatchV1().Jobs(Namespace).Create`。 -/
  | jobsCreate (name : String)
  /-- `kubecli.BatchV1().Jobs(Namespace).Get`。 -/
  | jobsGet (name : String)
  /-- `kubecli.BatchV1().Jobs(Namespace).Delete`。 -/
  | jobsDelete (name : String)
  /-- `k8sutil.DeletePodsByLabel`（札の表は組の列で表す）。 -/
  | deletePodsByLabel (label : List (String × String))
  deriving DecidableEq, Repr

/-- 軌跡に残るもの。`gate` は、`waitForOk` が返ったこととその結果、入ったときの `td.cur` を記録する。 -/
inductive Obs
  | call (c : Call)
  | gate (cur : String) (err : Option Err)
  /-- `e.Trace(err, msg)`（`NewEvent(cell, component, action)` の事象）。 -/
  | audit (cell component action : String) (err : Option Err) (msg : String)
  deriving DecidableEq, Repr

/-- Job（`v1.Job`）のうち、名前と `Status.Active`（動いている Pod の数）。 -/
structure Job where
  name : String
  active : Int
  deriving DecidableEq, Repr, Inhabited

/-- 一回の呼び出しへの答え。呼び出しの種類ごとに、要る欄だけを読む。`created` は、`CreateRcByJSON` が
エラーを返したときに、コントローラを作ったあと Pod を待つのに失敗したのかどうか。 -/
structure Answer where
  err : Option Err
  pods : List Pod
  names : List String
  nodePorts : Nat × Nat
  created : Bool
  /-- Job の `Create` と `Get` が返す Job。client-go はエラーのときも nil でない Job を返す。 -/
  job : Job
  /-- 呼び出しが返すのは Go の `error` の値で、パニックではない。 -/
  err_ne_panic : ∀ s, err ≠ some (.panic s)

instance : Inhabited Answer := ⟨⟨none, [], [], (0, 0), false, default, fun _ => nofun⟩⟩

/-- 呼び出しの番号ごとの答え。 -/
abbrev Env := Nat → Answer

/-- 状態: クラスタ、置き換えのコントローラ `tidb-<name>` があるか、軌跡。 -/
structure World where
  db : Db
  rcExists : Bool
  trace : List Obs

/-- TiDB の役割の操作。 -/
abbrev M := EStateM Err World

/-- 計算が終わったときの状態。 -/
def stateOf {α : Type} : EStateM.Result Err World α → World
  | .ok _ w => w
  | .error _ w => w

/-- 計算が値を返したか。 -/
def okOf {α : Type} : EStateM.Result Err World α → Bool
  | .ok _ _ => true
  | .error _ _ => false

/-- Go の `defer` の中から見える `err`: 返したエラー。パニックのときは、まだ nil である。 -/
def goErr {α : Type} : Except Err α → Option Err
  | .ok _ => none
  | .error (.panic _) => none
  | .error e => some e

/-- Go の `defer`: 本体が返したあと（パニックでも）`cleanup` を走らせ、本体の結果を返す。 -/
def deferring {α : Type} (body : M α) (cleanup : Except Err α → World → World) : M α := fun w =>
  match body w with
  | .ok a w' => .ok a (cleanup (.ok a) w')
  | .error e w' => .error e (cleanup (.error e) w')

/-- 軌跡に一つ足す。 -/
def World.log (w : World) (o : Obs) : World := { w with trace := w.trace ++ [o] }

@[simp] theorem World.log_db (w : World) (o : Obs) : (w.log o).db = w.db := rfl

@[simp] theorem World.log_rcExists (w : World) (o : Obs) : (w.log o).rcExists = w.rcExists := rfl

@[simp] theorem World.log_trace (w : World) (o : Obs) : (w.log o).trace = w.trace ++ [o] := rfl

/-- `e.Trace(err, msg)`。 -/
def audit (cell action : String) (err : Option Err) (msg : String) (w : World) : World :=
  w.log (.audit cell "tidb/tidb" action err msg)

section

variable (env : Env)

/-- 呼び出しを軌跡に残し、その番号の答えを受け取る。 -/
def request (c : Call) : M Answer := fun w => .ok (env w.trace.length) (w.log (.call c))

/-- 呼び出しを軌跡に残し、答えにエラーがあれば返し、なければ答えから `f` で読んだ値を返す。 -/
def answer {β : Type} (c : Call) (f : Answer → β) : M β := do
  let a ← request env c
  match a.err with
  | some e => throw e
  | none => pure (f a)

/-- 答えのエラーを返すだけの呼び出し。 -/
def call (c : Call) : M Unit := answer env c fun _ => ()

/-- 置き換えのコントローラがあるときだけ通る呼び出し。ないときは `NotFound` を返す。 -/
def rcCall (c : Call) (name : String) : M Unit := do
  let a ← request env c
  if (← get).rcExists then
    match a.err with
    | some e => throw e
    | none => pure ()
  else throw (.notFound "replicationcontrollers" name)

/-- `td.Db.update()`。 -/
def updateDb (cell : String) : M Unit := call env (.updateDb cell)

/-- `k8sutil.CreateServiceByJSON`。作ったサービスの二つのポート（`mysql`、`web`）の NodePort を返す。 -/
def createServiceByJSON (name : String) : M (Nat × Nat) := answer env (.createService name) (·.nodePorts)

/-- `k8sutil.CreateRcByJSON`。コントローラを作り、その Pod が動くまで待つ。 -/
def createRcByJSON (name : String) : M Unit := do
  let a ← request env (.createRc name)
  if a.err.isNone || a.created then modify fun w => { w with rcExists := true }
  match a.err with
  | some e => throw e
  | none => pure ()

/-- `upgradeRC`: コントローラの雛形の像を差し替える。 -/
def upgradeRC (name image version : String) : M Unit := rcCall env (.upgradeRc name image version) name

/-- `k8sutil.GetPods`。 -/
def getPods (cell component : String) : M (List Pod) := answer env (.getPods cell component) (·.pods)

/-- `k8sutil.DeletePods`。 -/
def deletePods (name : String) : M Unit := call env (.deletePods name)

/-- `k8sutil.ScaleReplicationController`。 -/
def scaleReplicationController (name : String) (replicas : GoInt) : M Unit :=
  rcCall env (.scaleRc name replicas) name

/-- `k8sutil.DelRc`。通ればコントローラはない。 -/
def delRc (name : String) : M Unit := do
  call env (.delRc name)
  modify fun w => { w with rcExists := false }

/-- `k8sutil.DelSrvs`。 -/
def delSrvs (name : String) : M Unit := call env (.delSrvs name)

/-- `k8sutil.ListPodNames`。 -/
def listPodNames (cell component : String) : M (List String) :=
  answer env (.listPodNames cell component) (·.names)

/-- `httputil.Get`。 -/
def httpGet (url : String) : M Unit := call env (.httpGet url)

/-- `k8sutil.DeletePodsByLabel`。 -/
def deletePodsByLabel (label : List (String × String)) : M Unit := call env (.deletePodsByLabel label)

end

/-- `apierrors.IsNotFound`（nil は `NotFound` でない）。 -/
def isNotFound : Option Err → Bool
  | some (.notFound _ _) => true
  | _ => false

/-- Modelled from the spec: `retryutil.Retry` is not under src/. `f` を最大 `n` 回試す。一回の失敗（偽か
エラー）は致命的でなく次を試し、回数を使い切るとタイムアウトのエラーを返す。 -/
def retry (f : M Bool) : Nat → M Unit
  | 0 => throw .retryTimeout
  | n + 1 => do
    if ← tryCatch f (fun _ => pure false) then pure () else retry f n

end TidbOperator

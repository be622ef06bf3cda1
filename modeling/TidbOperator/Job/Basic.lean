import TidbOperator.Tidb.Platform

/-!
# Job の補助関数

`pkg/util/k8sutil/job.go`: `CreateAndWaitJob` は Job を作り、1 秒ごとに `timeout / 1 秒` 回まで読み直して
`Status.Active` が 1 になるのを待つ。`DeleteJob` は Job を消し、見つからなかったときだけ `job-name` の札の Pod を
消す。呼び出しの答えは TiDB の役割と同じ `Env` が与える。
-/

namespace TidbOperator

/-- `time.Second`（ナノ秒）。 -/
def second : Int := 1000000000

section

variable (env : Env)

/-- `CreateAndWaitJob` が `retryutil.Retry` に渡す関数の一回: Job を読み直し、`Status.Active` が 1 なら真。 -/
def waitJobCond (name : String) : M Bool := do
  let retjob ← answer env (.jobsGet name) (·.job)
  return retjob.active == 1

/-- 最後の呼び出しの答えの Job。Go の `retjob` は `Create` と、そのあとの各 `Get` の答えを受け取る変数で、
`Create` のあとの呼び出しは `Get` だけなので、`Retry` が返ったときの `retjob` は最後の呼び出しの答えである。 -/
def lastJob : M Job := fun w => .ok (env (w.trace.length - 1)).job w

/-- `CreateAndWaitJob`。`Create` が失敗すれば nil とそのエラーを、そうでなければ `Retry` が返ったときの
`retjob` と `Retry` のエラーを返す。回数は `int(timeout/interval)`（Go の整数の割り算は 0 に向けて切り捨てる）。 -/
def createAndWaitJob (job : Job) (timeout : Int) : M (Option Job × Option Err) := do
  let a ← request env (.jobsCreate job.name)
  match a.err with
  | some e => return (none, some e)
  | none =>
    let err ← tryCatch (do retry (waitJobCond env job.name) (timeout.tdiv second).toNat; pure none)
      fun e => pure (some e)
    let retjob ← lastJob env
    return (some retjob, err)

/-- `CreateAndWaitJobByJSON`。`json.Unmarshal` の結果を受け取る。 -/
def createAndWaitJobByJSON (j : Except Err Job) (timeout : Int) : M (Option Job × Option Err) :=
  match j with
  | .error e => pure (none, some e)
  | .ok job => createAndWaitJob env job timeout

/-- `DeleteJob`。`Delete` のエラーが `NotFound` でなければ（nil も含めて）それを返し、`NotFound` なら
`DeletePodsByLabel` で `job-name` の札の Pod を消す。 -/
def deleteJob (name : String) : M Unit := do
  let a ← request env (.jobsDelete name)
  if !isNotFound a.err then
    match a.err with
    | some e => throw e
    | none => pure ()
  else deletePodsByLabel env [("job-name", name)]

end

/-! ## 待ち方の仕様 -/

/-- `i` 番から一回ずつ `n` 回読んだ Job の答えのうち、エラーがなく `Active` が 1 の最初のものが何回目か
（0 から数える）。 -/
def firstRunning (env : Env) (i : Nat) : Nat → Option Nat
  | 0 => none
  | n + 1 =>
    if (env i).err = none ∧ (env i).job.active = 1 then some 0
    else (firstRunning env (i + 1) n).map (· + 1)

end TidbOperator

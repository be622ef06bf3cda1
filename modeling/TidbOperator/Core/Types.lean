import Mathlib.Data.List.AList

/-!
# データの型

クラスタ（`operator.Db`）と、それを運ぶ事象・一覧・エラーの型。`operator` パッケージの型の宣言は
src/ にないので、ここでは監視（`garbagecollection/watcher.go`）と TiDB の役割
（`operator` の `Tidb` のメソッド）が読み書きする欄だけを持たせる。
-/

namespace TidbOperator

/-- Go の `int`（64 ビット、桁あふれは 2^64 を法として回る）。 -/
abbrev GoInt := BitVec 64

/-- `metav1.ObjectMeta` のうち、名前と版。 -/
structure ObjectMeta where
  name : String
  resourceVersion : String
  deriving DecidableEq, Repr, Inhabited

/-- TiKV の一台（`operator.Store`）。仕様のとおり、その識別子で表す。 -/
structure Store where
  id : Nat
  deriving DecidableEq, Repr

/-- 記憶の役割（`operator.Tikv`）のうち、`recycle` が集める `Stores`。 -/
structure Tikv where
  stores : List Store
  deriving DecidableEq, Repr, Inhabited

/-- `operator.Member`。 -/
structure Member where
  name : String
  deriving DecidableEq, Repr

/-- SQL の役割（`operator.Tidb`）。`Replicas` と `Version` は埋め込みの `Spec` の欄で、
`td.Spec.Replicas` と `td.Replicas` は同じ欄を指す。`cur` は入れ替え中の Pod の名前。 -/
structure Tidb where
  version : String
  replicas : GoInt
  members : List Member
  cur : String
  deriving DecidableEq, Repr, Inhabited

/-- `operator.DbStatus` のうち、TiDB の役割が読み書きする欄。 -/
structure DbStatus where
  phase : GoInt
  scaleState : GoInt
  migrateState : String
  outerAddresses : List String
  outerStatusAddresses : List String
  deriving DecidableEq, Repr, Inhabited

/-- クラスタ（`operator.Db`）。`AfterPropertiesSet` は役割から `Db` への逆向きの参照を張るだけなので、
値の模型では恒等である。 -/
structure Db where
  metadata : ObjectMeta
  tikv : Tikv
  tidb : Tidb
  status : DbStatus
  deriving DecidableEq, Repr, Inhabited

/-- `metav1.ListMeta` のうち、一覧全体の版。 -/
structure ListMeta where
  resourceVersion : String
  deriving DecidableEq, Repr

/-- `operator.GetAllDbs` が返す一覧。 -/
structure DbList where
  metadata : ListMeta
  items : List Db
  deriving DecidableEq, Repr

/-- `kwatch.EventType`。 -/
inductive EventType
  | added
  | modified
  | deleted
  | error
  deriving DecidableEq, Repr

/-- `%s` で書いたときの事象の種類（`kwatch` の定数の値）。 -/
def EventType.toString : EventType → String
  | .added => "ADDED"
  | .modified => "MODIFIED"
  | .deleted => "DELETED"
  | .error => "ERROR"

/-- 監視の事象（`garbagecollection.Event`）。 -/
structure Event where
  type : EventType
  object : Db
  deriving DecidableEq, Repr

/-- API サーバが返す状態（`metav1.Status`）のうち、符号と文。 -/
structure Status where
  code : Nat
  message : String
  deriving DecidableEq, Repr

/-- `http.StatusGone`。 -/
def statusGone : Nat := 410

/-- パニックの起きる場所。 -/
inductive PanicSite
  /-- `watch` で、状態の事象の後に `ev.Object` を読む（`ev` は nil）。 -/
  | nilEvent
  /-- `watch` で、`GetAllDbs` が nil の一覧を返したときに `dbList.Items` を読む。 -/
  | nilDbList
  /-- `recycle` で、選ばれていない（nil の）供給者の `Clean` を呼ぶ。 -/
  | nilProvisioner
  /-- `createService` の `ps[0]`。 -/
  | proxysIndex
  /-- `waitForOk` の `OuterStatusAddresses[0]`。 -/
  | outerStatusAddressesIndex
  deriving DecidableEq, Repr

/-- `constants.PVProvisionerHostpath`（pkg/util/constants は src/ にない）。 -/
def pvProvisionerHostpath : String := "hostpath"

/-- `constants.PVProvisionerNone`。 -/
def pvProvisionerNone : String := "none"

/-- エラー。外から返るものは `platform` に、このリポジトリが作るものはその文ごとに分ける。 -/
inductive Err
  /-- プラットフォーム（API サーバ、HTTP、ファイル）の呼び出しが返したエラー。 -/
  | platform (msg : String)
  /-- API サーバの `NotFound`: その種類の、その名前のものがない。 -/
  | notFound (resource name : String)
  | unsafeState (t : EventType)
  | versionOutdated
  /-- `watch` の `errors.New("test")`。 -/
  | test
  | createTPR (msg : String)
  /-- `Config.Validate` の、受け付けない供給者。 -/
  | unsupportedProvisioner (p : String)
  | unavailable
  | exceedsMax (max : GoInt)
  | replicasLessThanTwo
  | scaleOutTooMuch
  | scaleDownTooMuch
  /-- `retryutil.Retry` が回数を使い切った。 -/
  | retryTimeout
  | panic (site : PanicSite)
  deriving DecidableEq, Repr

/-- エラーの文（Go のソースの書式のまま）。 -/
def Err.message : Err → String
  | .platform msg => msg
  | .notFound resource name => s!"{resource} \"{name}\" not found"
  | .unsafeState t => s!"unsafe state. tidb was never created but we received event ({t.toString})"
  | .versionOutdated => "requested version is outdated in apiserver"
  | .test => "test"
  | .createTPR msg => s!"fail to create TPR: {msg}"
  | .unsupportedProvisioner p =>
    s!"persistent volume provisioner {p} is not supported: options = " ++
      s!"map[{pvProvisionerHostpath}:\x7b\x7d {pvProvisionerNone}:\x7b\x7d]"
  | .unavailable => "unavailable"
  | .exceedsMax max => s!"the replicas of tidb exceeds max {max.toInt}"
  | .replicasLessThanTwo => "replicas must be greater than 2"
  | .scaleOutTooMuch => "each scale out can not more then 2 times"
  | .scaleDownTooMuch => "each scale dowm can not be less than one-third"
  | .retryTimeout => "retry timeout"
  | .panic _ => "runtime error: invalid memory address or index out of range"

end TidbOperator

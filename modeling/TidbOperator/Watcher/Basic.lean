import TidbOperator.Core.Types

/-!
# 監視の状態と、その上の操作

`garbagecollection/watcher.go` の `Watcher` と、その表 `dbs`・`dbRVs` を読み書きする関数。Go の map は
`AList` で表し、めぐる順に依らない性質だけを述べる。外の呼び出しは、その答えを引数として受け取る。
-/

namespace TidbOperator

/-- 名前からクラスタへの表。 -/
abbrev DbMap := AList (fun _ : String => Db)

/-- 名前から版への表。 -/
abbrev RVMap := AList (fun _ : String => String)

/-- 監視の設定（`garbagecollection.Config`）のうち、`initResource` と `Validate` が読む欄。 -/
structure Config where
  hostName : String
  pvProvisioner : String
  deriving DecidableEq, Repr

/-- `supportedPVProvisioners` の鍵。 -/
def supportedPVProvisioners : List String := [pvProvisionerHostpath, pvProvisionerNone]

/-- `Config.Validate`。 -/
def Config.validate (c : Config) : Except Err Unit :=
  if c.pvProvisioner ∈ supportedPVProvisioners then .ok ()
  else .error (.unsupportedProvisioner c.pvProvisioner)

/-- `Watcher`。 -/
structure Watcher where
  dbs : DbMap
  dbRVs : RVMap

/-- `NewWatcher`: 空の表から始める。 -/
def newWatcher : Watcher := ⟨∅, ∅⟩

/-! ## 一覧で表を満たす -/

/-- `operator.GetAllDbs` の答え: エラー、nil の一覧、一覧。 -/
inductive ListResult
  | error (e : Err)
  | nil
  | list (dbList : DbList)
  deriving DecidableEq, Repr

/-- `findAllDbs` の `for` の一回: 名前の鍵にクラスタと版を入れる。 -/
def Watcher.put (w : Watcher) (db : Db) : Watcher :=
  ⟨w.dbs.insert db.metadata.name db, w.dbRVs.insert db.metadata.name db.metadata.resourceVersion⟩

/-- `findAllDbs`。`GetAllDbs` の答えを受け取り、一覧の版と更新した監視を返す。表は空にせずに足してゆく。 -/
def findAllDbs (ans : ListResult) (w : Watcher) : Except Err String × Watcher :=
  match ans with
  | .error e => (.error e, w)
  | .nil => (.ok "", w)
  | .list dbList => (.ok dbList.metadata.resourceVersion, dbList.items.foldl Watcher.put w)

/-! ## 事象の処理 -/

/-- `gc` を呼んだときの二つの引数。nil は `none`。 -/
structure GcCall where
  old : Option Db
  new : Option Db
  deriving DecidableEq, Repr

/-- `handleTidbEvent` の結果: 更新した監視、`gc` の呼び出し（あれば）、返すエラー。 -/
structure Handled where
  watcher : Watcher
  gcCall : Option GcCall
  err : Option Err

/-- `handleTidbEvent`。`gcErr` はこの呼び出しで `gc` が返すエラー。`gc` の第一引数 `w.dbs[db.GetName()]` は、
ソースのとおり表を書き換えた後に読む。 -/
def handleTidbEvent (gcErr : Option Err) (w : Watcher) (event : Event) : Handled :=
  let db := event.object
  let name := db.metadata.name
  match event.type with
  | .added => ⟨w.put db, none, none⟩
  | .modified =>
    match w.dbs.lookup name with
    | none => ⟨w, none, some (.unsafeState event.type)⟩
    | some _ =>
      let w' := w.put db
      ⟨w', some ⟨w'.dbs.lookup name, some db⟩, gcErr⟩
  | .deleted =>
    match w.dbs.lookup name with
    | none => ⟨w, none, some (.unsafeState event.type)⟩
    | some _ =>
      let w' : Watcher := ⟨w.dbs.erase name, w.dbRVs.erase name⟩
      ⟨w', some ⟨w'.dbs.lookup name, none⟩, gcErr⟩
  | .error => ⟨w, none, none⟩

/-! ## 事象を配るゴルーチン -/

/-- `Run` の二つめのゴルーチン: `eventCh` から受けた事象を順に `handleTidbEvent` で処理し、エラーは記録して
次へ進む。`k` 番目の事象を処理するときの `gc` の答えは `gcErr k`。処理のあとの監視と、事象ごとの `gc` の
呼び出しと記録したエラーを返す。 -/
def dispatch (gcErr : Nat → Option Err) :
    Nat → Watcher → List Event → Watcher × List (Option GcCall × Option Err)
  | _, w, [] => (w, [])
  | k, w, e :: es =>
    let h := handleTidbEvent (gcErr k) w e
    let r := dispatch gcErr (k + 1) h.watcher es
    (r.1, (h.gcCall, h.err) :: r.2)

/-! ## 二つのゴルーチンのつなぎ

監視のゴルーチンと配るゴルーチンはバッファのない `eventCh` でつながり、送りは受け手が待っているときだけ終わる。
-/

/-- 送り終えた事象、配るゴルーチンが処理し終えた数、表。 -/
structure Pipeline where
  sent : List Event
  handled : Nat
  watcher : Watcher

/-- `send` は受け手が前の事象をすべて処理したときだけ。`handle` は次の事象を処理する（`gc` の答えは任意）。 -/
inductive PipelineStep : Pipeline → Pipeline → Prop
  | send (p : Pipeline) (e : Event) :
      p.handled = p.sent.length → PipelineStep p { p with sent := p.sent ++ [e] }
  | handle (p : Pipeline) (gcErr : Option Err) (e : Event) :
      p.sent[p.handled]? = some e →
      PipelineStep p { p with
        handled := p.handled + 1, watcher := (handleTidbEvent gcErr p.watcher e).watcher }

inductive PipelineReachable (w₀ : Watcher) : Pipeline → Prop
  | init : PipelineReachable w₀ ⟨[], 0, w₀⟩
  | step {p p' : Pipeline} : PipelineReachable w₀ p → PipelineStep p p' → PipelineReachable w₀ p'

/-! ## 再列挙の安定性 -/

/-- `isDbsCacheUnstable`: 数が違うか、一覧のどれかの名前が表にないか版が違えば真。 -/
def isDbsCacheUnstable (w : Watcher) (currentDbs : List Db) : Bool :=
  w.dbRVs.entries.length != currentDbs.length ||
    currentDbs.any fun cd =>
      match w.dbRVs.lookup cd.metadata.name with
      | none => true
      | some rv => rv != cd.metadata.resourceVersion

/-! ## 起動 -/

/-- `pvProvisioner` の値。 -/
inductive PVProvisioner
  | nil
  | hostPath (hostName dir : String)
  deriving DecidableEq, Repr

/-- `operator.GetMetadata` の答えのうち、`Spec.K8s.Volume`。 -/
structure Metadata where
  volume : String
  deriving DecidableEq, Repr

/-- 監視の全体: `Watcher` と、パッケージの変数 `pvProvisioner`（nil から始まる）。 -/
structure Controller where
  watcher : Watcher
  pvProvisioner : Option PVProvisioner

/-- 起動のはじめ: `NewWatcher` と、まだ選ばれていない供給者。 -/
def newController : Controller := ⟨newWatcher, none⟩

/-- 一回の `initResource` が外から受け取る答え。 -/
structure InitAnswers where
  createTPR : Option Err
  dbs : ListResult
  metadata : Except Err Metadata

/-- `initResource`。一覧の版を返す。`GetMetadata` で失敗しても、`findAllDbs` が足した分は表に残る。 -/
def initResource (cfg : Config) (a : InitAnswers) (c : Controller) : Except Err String × Controller :=
  match a.createTPR with
  | some e => (.error (.createTPR e.message), c)
  | none =>
    match findAllDbs a.dbs c.watcher with
    | (.error e, w) => (.error e, { c with watcher := w })
    | (.ok watchVersion, w) =>
      if cfg.pvProvisioner = pvProvisionerNone then (.ok watchVersion, ⟨w, some .nil⟩)
      else if cfg.pvProvisioner = pvProvisionerHostpath then
        match a.metadata with
        | .error e => (.error e, { c with watcher := w })
        | .ok md => (.ok watchVersion, ⟨w, some (.hostPath cfg.hostName md.volume)⟩)
      else (.ok watchVersion, { c with watcher := w })

/-- `Run` の初期化の `for`: 成功するまで `initResource` を繰り返す。答えが尽きたら（まだ繰り返している）`none`。 -/
def initLoop (cfg : Config) : List InitAnswers → Controller → Option (String × Controller)
  | [], _ => none
  | a :: as, c =>
    match initResource cfg a c with
    | (.ok watchVersion, c') => some (watchVersion, c')
    | (.error _, c') => initLoop cfg as c'

/-- `recycle` が `pvProvisioner.Clean` に渡す切片: 表のすべてのクラスタの `Tikv.Stores`。 -/
def recycleStores (w : Watcher) : List Store :=
  w.dbs.entries.flatMap fun e => e.2.tikv.stores

/-- `recycle`。`clean` は供給者の `Clean` が返すエラー。供給者が nil ならパニックする。 -/
def recycle (clean : PVProvisioner → List Store → Option Err) (c : Controller) : Except Err Unit :=
  match c.pvProvisioner with
  | none => .error (.panic .nilProvisioner)
  | some pv =>
    match clean pv (recycleStores c.watcher) with
    | some e => .error e
    | none => .ok ()

/-- `cleanClusters`: 表のすべてのクラスタに `DeleteBuriedTikv` を呼ぶ。`deleteBuriedTikv` はその答えで、
失敗は記録して次へ進む。呼んだクラスタと記録したエラーを、呼んだ順に返す。 -/
def cleanClusters (deleteBuriedTikv : Db → Option Err) (w : Watcher) : List (Db × Option Err) :=
  w.dbs.entries.map fun e => (e.2, deleteBuriedTikv e.2)

end TidbOperator

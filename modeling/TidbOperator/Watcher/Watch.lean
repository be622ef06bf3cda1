import TidbOperator.Watcher.Basic

/-!
# 監視のゴルーチン

`Watcher.watch` のゴルーチンを、外に見える動作の列（軌跡）として表す。`WatchTidbs` の答えの有限の列を与え、
それが尽きたところまでの軌跡を見る。src/ にない `parse` の答えは `Raw` として与える。
-/

namespace TidbOperator

/-- Modelled from the spec: `parse` is not under src/. 生の事象は、事象に読めるか、読めないか
エラーの状態であれば状態（そのとき事象の指す先は nil）になる。 -/
inductive Raw
  | event (ev : Event)
  | status (st : Status)
  deriving DecidableEq, Repr

/-- `k8sutil.WatchTidbs` の一回の答え: エラーか、結果のチャネルが閉じるまでに届く生の事象の列。 -/
inductive WatchResult
  | error (e : Err)
  | stream (raws : List Raw)
  deriving DecidableEq, Repr

/-- 410 のあとの再列挙の答え（`operator.GetAllDbs`）と、そのとき `isDbsCacheUnstable` が読む監視の状態
（事象を処理するゴルーチンが同時に書き換えているので、どの値もありうる）。 -/
structure Relist where
  result : ListResult
  watcher : Watcher

/-- ゴルーチンの外に見える動作。 -/
inductive Act
  /-- `WatchTidbs` をこの版から呼ぶ。 -/
  | watchTidbs (watchVersion : String)
  /-- `GetAllDbs` を呼び、この答えを受け取る。 -/
  | getAllDbs (result : ListResult)
  /-- `eventCh <- ev`。 -/
  | send (ev : Event)
  /-- `errCh <- e`。 -/
  | sendErr (e : Err)
  | panic (site : PanicSite)
  deriving DecidableEq, Repr

section

variable (relist : Nat → Relist)

/-- 状態を受けたときの `if st != nil` の中。410 なら再列挙し、失敗か不安定なら `ErrVersionOutdated` を送って
`return`、安定ならその一覧の版で `break` する。ほかの状態では記録したあと、nil の `ev` を読んでパニックする。
`k` は再列挙の番号。 -/
def onStatus (k : Nat) (st : Status) : List Act × Option (String × Nat) :=
  if st.code = statusGone then
    match (relist k).result with
    | .error e => ([.getAllDbs (.error e), .sendErr .versionOutdated], none)
    | .nil => ([.getAllDbs .nil, .panic .nilDbList], none)
    | .list dbList =>
      if isDbsCacheUnstable (relist k).watcher dbList.items then
        ([.getAllDbs (.list dbList), .sendErr .versionOutdated], none)
      else ([.getAllDbs (.list dbList)], some (dbList.metadata.resourceVersion, k + 1))
  else ([.panic .nilEvent], none)

/-- 内側の `for`: 一つの結果のチャネルを読む。動作の列と、`break` で外側の `for` に戻るならそのときの版と
再列挙の番号を、`return` かパニックなら `none` を返す。 -/
def watchStream : String → Nat → List Raw → List Act × Option (String × Nat)
  | watchVersion, k, [] => ([], some (watchVersion, k))
  | _, k, .event ev :: raws =>
    let r := watchStream ev.object.metadata.resourceVersion k raws
    (.send ev :: r.1, r.2)
  | _, k, .status st :: _ => onStatus relist k st

/-- 外側の `for`。内側を `break` で出ると `errCh <- errors.New("test")` を送り、また `WatchTidbs` を呼ぶ。 -/
def watchLoop : List WatchResult → String → Nat → List Act
  | [], _, _ => []
  | .error e :: _, watchVersion, _ => [.watchTidbs watchVersion, .sendErr e]
  | .stream raws :: rs, watchVersion, k =>
    let r := watchStream relist watchVersion k raws
    .watchTidbs watchVersion :: r.1 ++
      match r.2 with
      | some (v, k') => .sendErr .test :: watchLoop rs v k'
      | none => []

/-- `Watcher.watch`: 与えた版から監視を始めたゴルーチンの軌跡。 -/
def watch (results : List WatchResult) (watchVersion : String) : List Act :=
  watchLoop relist results watchVersion 0

end

/-- `Run` の終わり方: `errCh` から受け取ったエラーを返すか、どこかのゴルーチンがパニックする。 -/
inductive RunEnd
  | returned (e : Err)
  | panicked (site : PanicSite)
  deriving DecidableEq, Repr

/-- エラーを返したときの終わり方。パニックはそれとして扱う。 -/
def RunEnd.ofErr : Err → RunEnd
  | .panic site => .panicked site
  | e => .returned e

/-- 軌跡の最初の終わり: 最初に `errCh` に送られたエラー（`Run` が `<-errCh` で受け取る）か、パニック。 -/
def firstEnd : List Act → Option RunEnd
  | [] => none
  | .sendErr e :: _ => some (.returned e)
  | .panic site :: _ => some (.panicked site)
  | _ :: acts => firstEnd acts

/-- `Run`。初期化が成功するまでの答え、`Clean` の答え、監視の答えを受け取る。`none` は、与えた答えの
範囲ではまだ終わっていないこと。 -/
def run (cfg : Config) (attempts : List InitAnswers) (clean : PVProvisioner → List Store → Option Err)
    (relist : Nat → Relist) (results : List WatchResult) : Option RunEnd :=
  match initLoop cfg attempts newController with
  | none => none
  | some (watchVersion, c) =>
    match recycle clean c with
    | .error e => some (.ofErr e)
    | .ok () => firstEnd (watch relist results watchVersion)

end TidbOperator

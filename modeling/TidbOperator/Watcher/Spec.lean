import TidbOperator.Watcher.Basic

/-!
# 監視の表の仕様

監視の表が何のためにあるかを、コードから離れて述べる。API サーバの上の、名前からクラスタへの表は、作る・
書き換える・消すで変わってゆく。監視に届く事象がその変化の列であるとき（`validHistory`）、表はサーバの表を
写し、`gc` は書き換えと削除のたびに一度呼ばれて、その答えが記録されるべきである（`gcTrigger`）。
-/

namespace TidbOperator

/-- API サーバの上の、名前からクラスタへの表。 -/
abbrev ServerDbs := String → Option Db

/-- 事象がサーバの表 `s` の上の変化として起こりうる: `Added` はない名前に、`Modified` と `Deleted` はある名前に
起きる。`Error` の事象は変化ではない。 -/
def Event.validOn (s : ServerDbs) (e : Event) : Bool :=
  match e.type with
  | .added => (s e.object.metadata.name).isNone
  | .modified => (s e.object.metadata.name).isSome
  | .deleted => (s e.object.metadata.name).isSome
  | .error => false

/-- サーバの表の変化: 事象の名前のクラスタを作るか書き換えるか、消す。 -/
def serverApply (s : ServerDbs) (e : Event) : ServerDbs :=
  match e.type with
  | .added => Function.update s e.object.metadata.name (some e.object)
  | .modified => Function.update s e.object.metadata.name (some e.object)
  | .deleted => Function.update s e.object.metadata.name none
  | .error => s

/-- `s` から始まる変化の列。 -/
def validHistory : ServerDbs → List Event → Bool
  | _, [] => true
  | s, e :: es => e.validOn s && validHistory (serverApply s e) es

/-- `gc` を呼ぶべき事象: 書き換えと削除。 -/
def Event.triggersGc (e : Event) : Bool := e.type == .modified || e.type == .deleted

/-- 変化の列を順に処理したときに、事象ごとに記録されるべきもの: `gc` を呼んだか、記録するエラー。`k` 番目の
事象の `gc` の答えは `gcErr k` で、`gc` を呼ばない事象はエラーを残さない。 -/
def gcTrigger (gcErr : Nat → Option Err) : Nat → List Event → List (Bool × Option Err)
  | _, [] => []
  | k, e :: es => (e.triggersGc, if e.triggersGc then gcErr k else none) :: gcTrigger gcErr (k + 1) es

/-- 再列挙の一覧を表として読む: 名前ごとに、その名前の最初のクラスタ。 -/
def listed (currentDbs : List Db) : ServerDbs := fun n => currentDbs.find? (·.metadata.name = n)

end TidbOperator

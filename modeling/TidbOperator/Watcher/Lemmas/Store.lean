import TidbOperator.Watcher.Basic

/-!
# 監視の表の不変条件

`dbs` と `dbRVs` は同じ鍵を持ち、`dbRVs[n]` は `dbs[n]` の版である（`Consistent`）。`NewWatcher`、
`findAllDbs`、`handleTidbEvent` と、事象を配るゴルーチン（`dispatch`）がこれを保つこと、`handleTidbEvent` が
名前ごとの表の上の参照の更新（`refUpdate`）をすることを示す。
-/

namespace TidbOperator

/-! ## 連想リストの引きと書き換え -/

theorem AList.lookup_insert_eq_update {β : Type} (s : AList (fun _ : String => β)) (a : String)
    (b : β) : (s.insert a b).lookup = Function.update s.lookup a (some b) := by
  funext k
  by_cases h : k = a
  · subst h; simp
  · simp [h]

theorem AList.lookup_erase_eq_update {β : Type} (s : AList (fun _ : String => β)) (a : String) :
    (s.erase a).lookup = Function.update s.lookup a none := by
  funext k
  by_cases h : k = a
  · subst h; simp
  · simp [h]

@[simp] theorem Watcher.put_dbs (w : Watcher) (db : Db) :
    (w.put db).dbs = w.dbs.insert db.metadata.name db := rfl

@[simp] theorem Watcher.put_dbRVs (w : Watcher) (db : Db) :
    (w.put db).dbRVs = w.dbRVs.insert db.metadata.name db.metadata.resourceVersion := rfl

/-! ## 不変条件 -/

/-- `dbs` と `dbRVs` は同じ鍵を持ち、各鍵の版は `dbs` のクラスタの版である。 -/
def Consistent (w : Watcher) : Prop :=
  ∀ n, w.dbRVs.lookup n = (w.dbs.lookup n).map (·.metadata.resourceVersion)

theorem Consistent.newWatcher : Consistent newWatcher := fun _ => rfl

theorem Consistent.put {w : Watcher} (h : Consistent w) (db : Db) : Consistent (w.put db) := by
  intro n
  by_cases hn : n = db.metadata.name
  · subst hn; simp
  · simp [hn, h n]

theorem Consistent.erase {w : Watcher} (h : Consistent w) (a : String) :
    Consistent ⟨w.dbs.erase a, w.dbRVs.erase a⟩ := by
  intro n
  by_cases hn : n = a
  · subst hn; simp
  · simp [hn, h n]

theorem Consistent.foldl_put {w : Watcher} (h : Consistent w) (dbs : List Db) :
    Consistent (dbs.foldl Watcher.put w) := by
  induction dbs generalizing w with
  | nil => exact h
  | cons db dbs ih => exact ih (h.put db)

theorem Consistent.findAllDbs {w : Watcher} (h : Consistent w) (ans : ListResult) :
    Consistent (TidbOperator.findAllDbs ans w).2 := by
  cases ans with
  | error e => exact h
  | nil => exact h
  | list dbList => exact h.foldl_put dbList.items

/-! ## 事象ごとの参照の更新 -/

/-- 参照の更新: `Added` は入れるか置き換え、`Modified` はあれば置き換え、`Deleted` はあれば取り除く。 -/
def refUpdate (m : String → Option Db) (e : Event) : String → Option Db :=
  let n := e.object.metadata.name
  match e.type with
  | .added => Function.update m n (some e.object)
  | .modified => if (m n).isSome then Function.update m n (some e.object) else m
  | .deleted => if (m n).isSome then Function.update m n none else m
  | .error => m

/-- `Modified` と `Deleted` のうち、名前が表にないもの。 -/
def Untracked (w : Watcher) (e : Event) : Prop :=
  (e.type = .modified ∨ e.type = .deleted) ∧ w.dbs.lookup e.object.metadata.name = none

section

variable (gcErr : Option Err) (w : Watcher) (e : Event)

theorem handleTidbEvent_lookup :
    (handleTidbEvent gcErr w e).watcher.dbs.lookup = refUpdate w.dbs.lookup e := by
  rcases e with ⟨t, db⟩
  cases t with
  | added => exact AList.lookup_insert_eq_update _ _ _
  | modified =>
    simp only [handleTidbEvent, refUpdate]
    cases w.dbs.lookup db.metadata.name <;> simp [AList.lookup_insert_eq_update]
  | deleted =>
    simp only [handleTidbEvent, refUpdate]
    cases w.dbs.lookup db.metadata.name <;> simp [AList.lookup_erase_eq_update]
  | error => rfl

theorem Consistent.handleTidbEvent {w : Watcher} (h : Consistent w) :
    Consistent (TidbOperator.handleTidbEvent gcErr w e).watcher := by
  rcases e with ⟨t, db⟩
  cases t with
  | added => exact h.put db
  | modified =>
    simp only [TidbOperator.handleTidbEvent]
    cases w.dbs.lookup db.metadata.name
    · exact h
    · exact h.put db
  | deleted =>
    simp only [TidbOperator.handleTidbEvent]
    cases w.dbs.lookup db.metadata.name
    · exact h
    · exact h.erase _
  | error => exact h

theorem handleTidbEvent_untracked (hu : Untracked w e) :
    handleTidbEvent gcErr w e = ⟨w, none, some (.unsafeState e.type)⟩ := by
  obtain ⟨ht | ht, hn⟩ := hu <;> simp [handleTidbEvent, ht, hn]

end

/-- 表にある名前の `Modified` と `Deleted` で `gc` に渡る引数（第一引数は書き換えた後の表から読む）。 -/
theorem handleTidbEvent_gcCall_tracked {gcErr : Option Err} {w : Watcher} {e : Event} {old : Db}
    (hn : w.dbs.lookup e.object.metadata.name = some old) :
    (handleTidbEvent gcErr w e).gcCall =
      match e.type with
      | .modified => some ⟨some e.object, some e.object⟩
      | .deleted => some ⟨none, none⟩
      | _ => none := by
  rcases e with ⟨t, db⟩
  cases t <;> simp [handleTidbEvent, hn]

/-! ## 届く状態 -/

/-- `NewWatcher` を `findAllDbs` で満たし、事象を一つずつ処理して届く状態。 -/
inductive Reachable : Watcher → Prop
  | seeded (ans : ListResult) : Reachable (findAllDbs ans newWatcher).2
  | step {w : Watcher} (gcErr : Option Err) (e : Event) :
      Reachable w → Reachable (handleTidbEvent gcErr w e).watcher

theorem Reachable.consistent {w : Watcher} (h : Reachable w) : Consistent w := by
  induction h with
  | seeded ans => exact Consistent.newWatcher.findAllDbs ans
  | step gcErr e _ ih => exact ih.handleTidbEvent gcErr e

/-! ## 名前の鍵 -/

/-- 表の各項は、そのクラスタの名前の鍵の下にある。 -/
def KeyedByName (m : String → Option Db) : Prop := ∀ n db, m n = some db → db.metadata.name = n

namespace KeyedByName

variable {m : String → Option Db}

theorem update (h : KeyedByName m) (db : Db) :
    KeyedByName (Function.update m db.metadata.name (some db)) := by
  intro n d hd
  by_cases hn : n = db.metadata.name
  · subst hn
    rw [Function.update_same, Option.some.injEq] at hd
    rw [← hd]
  · rw [Function.update_noteq hn] at hd
    exact h n d hd

theorem erase (h : KeyedByName m) (a : String) : KeyedByName (Function.update m a none) := by
  intro n d hd
  by_cases hn : n = a
  · subst hn
    rw [Function.update_same] at hd
    cases hd
  · rw [Function.update_noteq hn] at hd
    exact h n d hd

theorem refUpdate (h : KeyedByName m) (e : Event) : KeyedByName (TidbOperator.refUpdate m e) := by
  rcases e with ⟨t, db⟩
  cases t with
  | added => exact h.update db
  | modified =>
    simp only [TidbOperator.refUpdate]
    split_ifs
    · exact h.update db
    · exact h
  | deleted =>
    simp only [TidbOperator.refUpdate]
    split_ifs
    · exact h.erase _
    · exact h
  | error => exact h

theorem put {w : Watcher} (h : KeyedByName w.dbs.lookup) (db : Db) :
    KeyedByName (w.put db).dbs.lookup := by
  rw [Watcher.put_dbs, AList.lookup_insert_eq_update]
  exact h.update db

theorem foldl_put : ∀ {w : Watcher} (dbs : List Db), KeyedByName w.dbs.lookup →
    KeyedByName (dbs.foldl Watcher.put w).dbs.lookup
  | _, [], h => h
  | _, db :: dbs, h => foldl_put dbs (h.put db)

end KeyedByName

theorem Reachable.keyedByName {w : Watcher} (h : Reachable w) : KeyedByName w.dbs.lookup := by
  induction h with
  | seeded ans =>
    have h₀ : KeyedByName newWatcher.dbs.lookup := fun _ _ h => nomatch h
    cases ans with
    | error e => exact h₀
    | nil => exact h₀
    | list dbList => exact KeyedByName.foldl_put dbList.items h₀
  | step gcErr e _ ih =>
    rw [handleTidbEvent_lookup]
    exact ih.refUpdate e

/-! ## 配るゴルーチン -/

section

variable (gcErr : Nat → Option Err)

/-- 事象を順に処理したあとの表は、事象を順に参照の更新にかけたものである。 -/
theorem dispatch_lookup : ∀ (k : Nat) (w : Watcher) (es : List Event),
    (dispatch gcErr k w es).1.dbs.lookup = es.foldl refUpdate w.dbs.lookup
  | _, _, [] => rfl
  | k, w, e :: es => by
    rw [List.foldl_cons, ← handleTidbEvent_lookup (gcErr k) w e]
    exact dispatch_lookup (k + 1) _ es

theorem Consistent.dispatch : ∀ {k : Nat} {w : Watcher} (es : List Event), Consistent w →
    Consistent (TidbOperator.dispatch gcErr k w es).1
  | _, _, [], h => h
  | k, _, e :: es, h => Consistent.dispatch es (h.handleTidbEvent (gcErr k) e)

end

end TidbOperator

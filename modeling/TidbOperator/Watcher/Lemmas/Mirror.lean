import TidbOperator.Watcher.Spec
import TidbOperator.Watcher.Lemmas.Store
import TidbOperator.Watcher.Lemmas.Cache

/-!
# 表はサーバの表を写す

正しい変化の事象では、参照の更新 `refUpdate` の「あるときだけ」の条件がいつも成り立つので、それはサーバの
変化 `serverApply` に一致し、`handleTidbEvent` は "unsafe state" を返さず、`gc` を書き換えと削除でだけ呼ぶ。
これを事象の列に広げる。
-/

namespace TidbOperator

/-! ## 一つの事象 -/

theorem refUpdate_of_validOn {m : ServerDbs} {e : Event} (h : e.validOn m = true) :
    refUpdate m e = serverApply m e := by
  rcases e with ⟨t, db⟩
  cases t <;> simp_all [Event.validOn, refUpdate, serverApply]

/-- 正しい変化の事象では、`gc` を呼ぶのは書き換えと削除のときだけで、記録するエラーはその答えだけである。 -/
theorem handleTidbEvent_validOn (gcErr : Option Err) {w : Watcher} {e : Event}
    (h : e.validOn w.dbs.lookup = true) :
    ((handleTidbEvent gcErr w e).gcCall.isSome, (handleTidbEvent gcErr w e).err) =
      (e.triggersGc, if e.triggersGc then gcErr else none) := by
  rcases e with ⟨t, db⟩
  cases t with
  | added => rfl
  | modified | deleted =>
    obtain ⟨d, hd⟩ := Option.isSome_iff_exists.mp h
    simp [handleTidbEvent, Event.triggersGc, hd]
  | error => cases h

/-! ## 事象の列 -/

theorem foldl_refUpdate_of_validHistory :
    ∀ {m : ServerDbs} {es : List Event}, validHistory m es = true →
      es.foldl refUpdate m = es.foldl serverApply m
  | _, [], _ => rfl
  | m, e :: es, h => by
    simp only [validHistory, Bool.and_eq_true] at h
    simp only [List.foldl_cons, refUpdate_of_validOn h.1]
    exact foldl_refUpdate_of_validHistory h.2

theorem dispatch_log_of_validHistory (gcErr : Nat → Option Err) :
    ∀ (k : Nat) (w : Watcher) (es : List Event), validHistory w.dbs.lookup es = true →
      (dispatch gcErr k w es).2.map (fun r => (r.1.isSome, r.2)) = gcTrigger gcErr k es
  | _, _, [], _ => rfl
  | k, w, e :: es, h => by
    simp only [validHistory, Bool.and_eq_true] at h
    have hl := handleTidbEvent_lookup (gcErr k) w e
    rw [refUpdate_of_validOn h.1] at hl
    simp only [dispatch, List.map_cons, gcTrigger, handleTidbEvent_validOn (gcErr k) h.1,
      dispatch_log_of_validHistory gcErr (k + 1) _ es (hl ▸ h.2)]

theorem listed_singleton_added (d : Db) :
    listed [d] = [(⟨.added, d⟩ : Event)].foldl serverApply newWatcher.dbs.lookup := by
  funext n
  by_cases h : n = d.metadata.name <;>
    simp [listed, serverApply, Function.update, h, eq_comm, newWatcher]

/-- サーバの表 `S` を写す表は、`S` を一覧にした再列挙で安定と判定される。 -/
theorem isDbsCacheUnstable_eq_false_of_mirror {w : Watcher} (hc : Consistent w) {S : ServerDbs}
    (hl : w.dbs.lookup = S) {currentDbs : List Db} (hnd : (currentDbs.map (·.metadata.name)).Nodup)
    (hL : listed currentDbs = S) : isDbsCacheUnstable w currentDbs = false :=
  isDbsCacheUnstable_eq_false_of_lookup hnd fun n => by
    rw [hc n]
    exact congrArg (Option.map _) ((congrFun hl n).trans (congrFun hL n).symm)

/-- 表がサーバの表 `S` を写していても、再列挙の一覧 `S'` がある名前の版で `S` と違えば、不安定と判定される。 -/
theorem isDbsCacheUnstable_eq_true_of_behind {w : Watcher} (hc : Consistent w) {S S' : ServerDbs}
    (hl : w.dbs.lookup = S) {currentDbs : List Db} (hnd : (currentDbs.map (·.metadata.name)).Nodup)
    (hL : listed currentDbs = S') {n : String}
    (hn : (S' n).map (·.metadata.resourceVersion) ≠ (S n).map (·.metadata.resourceVersion)) :
    isDbsCacheUnstable w currentDbs = true := by
  by_contra hs
  have h := lookup_eq_listedRVs_of_stable hnd (Bool.eq_false_iff.mpr hs) n
  rw [hc n] at h
  exact hn (by rw [← hL, ← hl]; exact h.symm)

/-- つなぎの不変条件。 -/
structure PipelineInv (w₀ : Watcher) (p : Pipeline) : Prop where
  /-- 送られていない事象は処理しない。 -/
  handled_le : p.handled ≤ p.sent.length
  /-- 処理していない事象は、送られた最後の一つだけ。 -/
  lags_le_one : p.sent.length ≤ p.handled + 1
  /-- 表は、処理し終えた事象を順に参照の更新にかけたもの。 -/
  lookup : p.watcher.dbs.lookup = (p.sent.take p.handled).foldl refUpdate w₀.dbs.lookup
  /-- 表の不変条件は保たれる。 -/
  consistent : Consistent w₀ → Consistent p.watcher

namespace PipelineInv

variable {w₀ : Watcher}

theorem init (w₀ : Watcher) : PipelineInv w₀ ⟨[], 0, w₀⟩ := ⟨le_refl _, Nat.zero_le _, rfl, id⟩

theorem step {p p' : Pipeline} (h : PipelineInv w₀ p) (hs : PipelineStep p p') : PipelineInv w₀ p' := by
  obtain ⟨h₁, h₂, hl, hc⟩ := h
  cases hs with
  | send e he =>
    refine ⟨by simp; omega, by simp; omega, ?_, hc⟩
    simp [List.take_append_of_le_length h₁, hl]
  | handle gcErr e he =>
    have hlt : p.handled < p.sent.length := (List.getElem?_eq_some_iff.mp he).1
    refine ⟨hlt, by simp only; omega, ?_, fun h => (hc h).handleTidbEvent gcErr e⟩
    simp only [handleTidbEvent_lookup, hl, List.take_succ, he, Option.toList_some, List.foldl_append,
      List.foldl_cons, List.foldl_nil]

end PipelineInv

theorem PipelineReachable.inv {w₀ : Watcher} {p : Pipeline} (h : PipelineReachable w₀ p) :
    PipelineInv w₀ p := by
  induction h with
  | init => exact PipelineInv.init w₀
  | step _ hs ih => exact ih.step hs

end TidbOperator

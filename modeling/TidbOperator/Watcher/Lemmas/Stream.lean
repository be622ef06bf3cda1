import TidbOperator.Watcher.Watch

/-!
# 監視の軌跡の補題

内側の `for`（`watchStream`）が送る事象と、戻るときの版を一つの結果のチャネルごとに述べ、外側の `for`
（`watchLoop`）について結果の列の上の帰納法でまとめる。版の追い方は、軌跡を左から読む `cursorStep` と、
各 `WatchTidbs` の呼び出しがそのときの版で行われるという監視 `CursorFollows` で言う。
-/

namespace TidbOperator

/-! ## 軌跡の読み方 -/

section

variable (relist : Nat → Relist)

theorem firstEnd_append (l₁ l₂ : List Act) :
    firstEnd (l₁ ++ l₂) = (firstEnd l₁).or (firstEnd l₂) := by
  induction l₁ with
  | nil => rfl
  | cons a l₁ ih => cases a <;> simp [firstEnd, ih]

/-- 内側の `for` が `errCh` に送るかパニックするのは、`break` で戻らないときだけで、そのときは必ずそうなる。 -/
theorem watchStream_firstEnd (v : String) (k : Nat) (raws : List Raw) :
    (firstEnd (watchStream relist v k raws).1).isSome = (watchStream relist v k raws).2.isNone := by
  induction raws generalizing v with
  | nil => rfl
  | cons raw raws ih =>
    cases raw with
    | event ev => simpa [watchStream, firstEnd] using ih _
    | status st =>
      simp only [watchStream, onStatus]
      split_ifs
      · split <;> (try split_ifs) <;> rfl
      · rfl

/-! ## 外側の `for` -/

/-- `Run` の終わりは最初の `WatchTidbs` の答えだけで決まり、必ずそこで終わる。 -/
theorem watch_firstEnd_first (r : WatchResult) (rs : List WatchResult) (watchVersion : String) :
    firstEnd (watch relist (r :: rs) watchVersion) = firstEnd (watch relist [r] watchVersion) ∧
      (firstEnd (watch relist [r] watchVersion)).isSome := by
  cases r with
  | error e => simp [watch, watchLoop, firstEnd]
  | stream raws =>
    have h := watchStream_firstEnd relist watchVersion 0 raws
    simp only [watch, watchLoop, List.cons_append, firstEnd, firstEnd_append]
    cases hr : (watchStream relist watchVersion 0 raws).2 <;> simp_all [firstEnd, firstEnd_append]

end

end TidbOperator

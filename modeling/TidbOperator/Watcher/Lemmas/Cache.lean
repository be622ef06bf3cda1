import TidbOperator.Watcher.Basic

/-!
# 再列挙の安定性の判定

`isDbsCacheUnstable` が偽であることは、一覧の名前が重ならないとき、一覧の与える名前から版への表が `dbRVs` に
等しいことと同値である。
-/

namespace TidbOperator

/-- 再列挙した一覧が与える、名前から版への表 `{cd.Metadata.Name -> cd.Metadata.ResourceVersion}`。 -/
def listedRVs (currentDbs : List Db) (n : String) : Option String :=
  (currentDbs.find? (·.metadata.name = n)).map (·.metadata.resourceVersion)

theorem listedRVs_of_mem {currentDbs : List Db} (hnd : (currentDbs.map (·.metadata.name)).Nodup)
    {cd : Db} (hcd : cd ∈ currentDbs) :
    listedRVs currentDbs cd.metadata.name = some cd.metadata.resourceVersion := by
  induction currentDbs with
  | nil => cases hcd
  | cons d ds ih =>
    simp only [List.map_cons, List.nodup_cons, List.mem_map] at hnd
    rcases List.mem_cons.mp hcd with rfl | hcd
    · simp [listedRVs]
    · have hne : d.metadata.name ≠ cd.metadata.name := fun h => hnd.1 ⟨cd, hcd, h.symm⟩
      simpa [listedRVs, hne] using ih hnd.2 hcd

theorem listedRVs_isSome (currentDbs : List Db) (n : String) :
    (listedRVs currentDbs n).isSome ↔ n ∈ currentDbs.map (·.metadata.name) := by
  simp [listedRVs, List.find?_isSome, List.mem_map]

theorem listedRVs_eq_none {currentDbs : List Db} {n : String}
    (hn : n ∉ currentDbs.map (·.metadata.name)) : listedRVs currentDbs n = none :=
  Option.not_isSome_iff_eq_none.mp (mt (listedRVs_isSome _ _).mp hn)

theorem RVMap.length_eq_keys (s : RVMap) : s.entries.length = s.keys.length := by
  simp [AList.keys, List.keys]

theorem isDbsCacheUnstable_eq_false (w : Watcher) (currentDbs : List Db) :
    isDbsCacheUnstable w currentDbs = false ↔
      w.dbRVs.keys.length = currentDbs.length ∧
        ∀ cd ∈ currentDbs, w.dbRVs.lookup cd.metadata.name = some cd.metadata.resourceVersion := by
  simp only [isDbsCacheUnstable, RVMap.length_eq_keys, Bool.or_eq_false_iff, bne_eq_false_iff_eq,
    List.any_eq_false, Bool.not_eq_true]
  refine and_congr Iff.rfl (forall₂_congr fun cd _ => ?_)
  cases w.dbRVs.lookup cd.metadata.name <;> simp

/-- `isDbsCacheUnstable` が偽なら、表の版は、名前の重ならない一覧の与える版に等しい。 -/
theorem lookup_eq_listedRVs_of_stable {w : Watcher} {currentDbs : List Db}
    (hnd : (currentDbs.map (·.metadata.name)).Nodup) (hs : isDbsCacheUnstable w currentDbs = false)
    (n : String) : w.dbRVs.lookup n = listedRVs currentDbs n := by
  obtain ⟨hlen, hall⟩ := (isDbsCacheUnstable_eq_false w currentDbs).mp hs
  have hsub : currentDbs.map (·.metadata.name) ⊆ w.dbRVs.keys := fun a ha => by
    obtain ⟨cd, hcd, rfl⟩ := List.mem_map.mp ha
    exact AList.mem_keys.mp (AList.lookup_isSome.mp (by simp [hall cd hcd]))
  have hperm := (List.subperm_of_subset hnd hsub).perm_of_length_le (by simp [hlen])
  by_cases hn : n ∈ currentDbs.map (·.metadata.name)
  · obtain ⟨cd, hcd, rfl⟩ := List.mem_map.mp hn
    rw [hall cd hcd, listedRVs_of_mem hnd hcd]
  · rw [listedRVs_eq_none hn, AList.lookup_eq_none, AList.mem_keys]
    exact fun hk => hn (hperm.mem_iff.mpr hk)

/-- 表の版が、名前の重ならない一覧の与える版に等しければ、`isDbsCacheUnstable` は偽である。 -/
theorem isDbsCacheUnstable_eq_false_of_lookup {w : Watcher} {currentDbs : List Db}
    (hnd : (currentDbs.map (·.metadata.name)).Nodup)
    (h : ∀ n, w.dbRVs.lookup n = listedRVs currentDbs n) : isDbsCacheUnstable w currentDbs = false := by
  have hmem : ∀ a, a ∈ w.dbRVs.keys ↔ a ∈ currentDbs.map (·.metadata.name) := fun a => by
    rw [← AList.mem_keys, ← AList.lookup_isSome, h a, listedRVs_isSome]
  exact (isDbsCacheUnstable_eq_false w currentDbs).mpr
    ⟨by simpa using ((List.perm_ext_iff_of_nodup w.dbRVs.keys_nodup hnd).mpr hmem).length_eq,
      fun cd hcd => (h _).trans (listedRVs_of_mem hnd hcd)⟩

end TidbOperator

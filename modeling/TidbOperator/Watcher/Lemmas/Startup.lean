import TidbOperator.Watcher.Lemmas.Store

/-!
# 起動の補題

`initResource` の一回が監視の表に何をするか、`Run` の初期化の `for` を通して表から名前が消えないこと、
名前の重ならない一覧を読んだ後では一覧のどのクラスタも表にあり、`recycle` の切片がその `Stores` を含むこと。
-/

namespace TidbOperator

/-! ## 一覧を入れる -/

theorem foldl_put_lookup_of_not_mem {n : String} {dbs : List Db} (w : Watcher)
    (hn : n ∉ dbs.map (·.metadata.name)) : (dbs.foldl Watcher.put w).dbs.lookup n = w.dbs.lookup n := by
  induction dbs generalizing w with
  | nil => rfl
  | cons d dbs ih =>
    simp only [List.map_cons, List.mem_cons, not_or] at hn
    simp [ih _ hn.2, hn.1]

theorem foldl_put_lookup_of_mem {dbs : List Db} (hnd : (dbs.map (·.metadata.name)).Nodup)
    (w : Watcher) {db : Db} (hdb : db ∈ dbs) :
    (dbs.foldl Watcher.put w).dbs.lookup db.metadata.name = some db := by
  induction dbs generalizing w with
  | nil => cases hdb
  | cons d dbs ih =>
    simp only [List.map_cons, List.nodup_cons] at hnd
    rcases List.mem_cons.mp hdb with rfl | hdb
    · simp [foldl_put_lookup_of_not_mem _ hnd.1]
    · exact ih hnd.2 _ hdb

theorem foldl_put_mem {n : String} {w : Watcher} (h : n ∈ w.dbs) (dbs : List Db) :
    n ∈ (dbs.foldl Watcher.put w).dbs := by
  induction dbs generalizing w with
  | nil => exact h
  | cons d dbs ih => exact ih (by simp [h])

theorem findAllDbs_mem {n : String} {w : Watcher} (h : n ∈ w.dbs) (ans : ListResult) :
    n ∈ (findAllDbs ans w).2.dbs := by
  cases ans with
  | list dbList => exact foldl_put_mem h _
  | _ => exact h

/-! ## 一回の `initResource` -/

/-- `CreateTPR` が通れば、`initResource` のあとの表は `findAllDbs` のあとの表である。 -/
theorem initResource_watcher (cfg : Config) (a : InitAnswers) (c : Controller) :
    (initResource cfg a c).2.watcher =
      match a.createTPR with
      | some _ => c.watcher
      | none => (findAllDbs a.dbs c.watcher).2 := by
  unfold initResource
  cases a.createTPR with
  | some e => rfl
  | none =>
    simp only
    split
    · rename_i e w h; simp [h]
    · rename_i v w h
      split_ifs
      · simp [h]
      · cases a.metadata <;> simp [h]
      · simp [h]

theorem initResource_mem {n : String} {c : Controller} (h : n ∈ c.watcher.dbs) (cfg : Config)
    (a : InitAnswers) : n ∈ (initResource cfg a c).2.watcher.dbs := by
  rw [initResource_watcher]
  cases a.createTPR
  · exact findAllDbs_mem h _
  · exact h

/-- 成功した `initResource` は `CreateTPR` を通り、一覧を読んでいる。 -/
theorem initResource_ok {cfg : Config} {a : InitAnswers} {c c' : Controller} {v : String}
    (h : initResource cfg a c = (.ok v, c')) :
    a.createTPR = none ∧ c'.watcher = (findAllDbs a.dbs c.watcher).2 := by
  have hw := initResource_watcher cfg a c
  rw [h] at hw
  cases ht : a.createTPR with
  | some e => simp [initResource, ht] at h
  | none => exact ⟨rfl, by simpa [ht] using hw⟩

/-- 成功した `initResource` は設定どおりに供給者を選び、受け付けない供給者なら前のまま残す。 -/
theorem initResource_provisioner {cfg : Config} {a : InitAnswers} {c c' : Controller} {v : String}
    (h : initResource cfg a c = (.ok v, c')) :
    (cfg.pvProvisioner = pvProvisionerNone ∧ c'.pvProvisioner = some .nil) ∨
      (cfg.pvProvisioner = pvProvisionerHostpath ∧
        ∃ md, a.metadata = .ok md ∧ c'.pvProvisioner = some (.hostPath cfg.hostName md.volume)) ∨
      (cfg.validate ≠ .ok () ∧ c'.pvProvisioner = c.pvProvisioner) := by
  unfold initResource at h
  split at h
  · cases h
  · split at h
    · cases h
    · split_ifs at h with hn hh
      · cases h
        exact .inl ⟨hn, rfl⟩
      · split at h
        · cases h
        · cases h
          exact .inr (.inl ⟨hh, _, ‹_›, rfl⟩)
      · cases h
        refine .inr (.inr ⟨fun hv => ?_, rfl⟩)
        simp [Config.validate, supportedPVProvisioners, hn, hh] at hv

/-! ## `Run` の初期化の `for` -/

theorem initLoop_mem {cfg : Config} {n : String} :
    ∀ {as : List InitAnswers} {c c' : Controller} {v : String},
      initLoop cfg as c = some (v, c') → n ∈ c.watcher.dbs → n ∈ c'.watcher.dbs
  | [], _, _, _, h, _ => by cases h
  | a :: as, c, c', v, h, hn => by
    simp only [initLoop] at h
    split at h
    · rename_i v' c'' he
      obtain ⟨-, rfl⟩ := Option.some.inj h
      simpa [he] using initResource_mem hn cfg a
    · rename_i e c'' he
      exact initLoop_mem h (by simpa [he] using initResource_mem hn cfg a)

/-- `recycle` の切片は、表にあるクラスタの `Stores` をすべて含む。 -/
theorem mem_recycleStores {w : Watcher} {n : String} {db : Db} (h : w.dbs.lookup n = some db)
    {s : Store} (hs : s ∈ db.tikv.stores) : s ∈ recycleStores w :=
  List.mem_flatMap.mpr ⟨⟨n, db⟩, AList.mem_lookup_iff.mp h, hs⟩

end TidbOperator

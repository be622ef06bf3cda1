import TidbOperator.Watcher.Lemmas.Store
import TidbOperator.Watcher.Lemmas.Cache
import TidbOperator.Watcher.Lemmas.Startup
import TidbOperator.Watcher.Lemmas.Stream
import TidbOperator.Watcher.Lemmas.Mirror

/-!
# 監視の定理

事象の処理が表の不変条件と参照の更新を守ること、`gc` に渡る引数、再列挙の安定性の判定、起動の `for` と
`recycle`、監視のゴルーチンが送る事象と版、`Run` が戻るところ。
-/

namespace TidbOperator

/-! ## 事象の処理 -/

/-- 届く状態から事象を一つ処理すると、表の不変条件は前後で成り立ち、`dbs` は参照の更新に従い（`gc` の答えに
依らない）、表にない名前の `Modified` と `Deleted` は表を変えずに "unsafe state" のエラーを返す。 -/
theorem handleTidbEvent_store_step {w : Watcher} (hw : Reachable w) (gcErr : Option Err) (e : Event) :
    Consistent w ∧ Consistent (handleTidbEvent gcErr w e).watcher ∧
      (handleTidbEvent gcErr w e).watcher.dbs.lookup = refUpdate w.dbs.lookup e ∧
      (Untracked w e → handleTidbEvent gcErr w e = ⟨w, none, some (.unsafeState e.type)⟩) :=
  ⟨hw.consistent, (hw.step gcErr e).consistent, handleTidbEvent_lookup gcErr w e,
    handleTidbEvent_untracked gcErr w e⟩

theorem handleTidbEvent_store_step_seeded :
    Reachable (findAllDbs (.list ⟨⟨"1"⟩, [default]⟩) newWatcher).2 ∧
      (Consistent (findAllDbs (.list ⟨⟨"1"⟩, [default]⟩) newWatcher).2 ∧
        Consistent (handleTidbEvent none (findAllDbs (.list ⟨⟨"1"⟩, [default]⟩) newWatcher).2
          ⟨.modified, default⟩).watcher ∧
        (handleTidbEvent none (findAllDbs (.list ⟨⟨"1"⟩, [default]⟩) newWatcher).2
            ⟨.modified, default⟩).watcher.dbs.lookup =
          refUpdate (findAllDbs (.list ⟨⟨"1"⟩, [default]⟩) newWatcher).2.dbs.lookup ⟨.modified, default⟩ ∧
        (Untracked (findAllDbs (.list ⟨⟨"1"⟩, [default]⟩) newWatcher).2 ⟨.modified, default⟩ →
          handleTidbEvent none (findAllDbs (.list ⟨⟨"1"⟩, [default]⟩) newWatcher).2 ⟨.modified, default⟩ =
            ⟨(findAllDbs (.list ⟨⟨"1"⟩, [default]⟩) newWatcher).2, none,
              some (.unsafeState EventType.modified)⟩)) :=
  ⟨.seeded _, handleTidbEvent_store_step (.seeded _) none ⟨.modified, default⟩⟩

/-- 表にあるクラスタの `Deleted` を処理すると、`gc` は (nil, nil) で呼ばれ、消える前のクラスタを受け取らない。 -/
theorem handleTidbEvent_deleted_gc_nil (gcErr : Option Err) (db : Db) :
    (handleTidbEvent gcErr (newWatcher.put db) ⟨.deleted, db⟩).gcCall = some ⟨none, none⟩ := by
  simp [handleTidbEvent]

/-! ## 再列挙の安定性 -/

/-- 一覧の名前が重ならないとき、`isDbsCacheUnstable` が偽であることは、一覧の与える名前から版への表が
`dbRVs` に等しいことと同値である。 -/
theorem isDbsCacheUnstable_iff_listed (w : Watcher) (currentDbs : List Db)
    (hnd : (currentDbs.map (·.metadata.name)).Nodup) :
    isDbsCacheUnstable w currentDbs = false ↔ ∀ n, w.dbRVs.lookup n = listedRVs currentDbs n :=
  ⟨lookup_eq_listedRVs_of_stable hnd, isDbsCacheUnstable_eq_false_of_lookup hnd⟩

theorem isDbsCacheUnstable_iff_listed_seeded :
    (([default] : List Db).map (·.metadata.name)).Nodup ∧
      (isDbsCacheUnstable (newWatcher.put default) [default] = false ↔
        ∀ n, (newWatcher.put default).dbRVs.lookup n = listedRVs [default] n) :=
  ⟨by decide, isDbsCacheUnstable_iff_listed _ _ (by decide)⟩

/-! ## 起動 -/

/-- 起動の `for` で、ある回が一覧を読んだあと `GetMetadata` で失敗し、次の回が別の一覧を読んで成功すると、
前の回の一覧にだけあったクラスタが表に残る。 -/
theorem initLoop_keeps_stale_cluster :
    (initLoop ⟨"node", pvProvisionerHostpath⟩
        [⟨none, .list ⟨⟨"1"⟩, [{ (default : Db) with metadata := ⟨"old", "1"⟩ }]⟩,
            .error (.platform "metadata")⟩,
          ⟨none, .list ⟨⟨"2"⟩, []⟩, .ok ⟨"/data"⟩⟩]
        newController).map (·.2.watcher.dbs.keys) = some ["old"] := by
  decide

/-- 成功した `initResource` が名前の重ならない一覧を読んだなら、それまでの回が表に何を残していても、
`recycle` は、一覧のどのクラスタの `Tikv.Stores` もすべて含む一つの切片を `Clean` に渡し、その答えを返す。 -/
theorem recycle_covers_listed_stores {cfg : Config} {a : InitAnswers} {c c' : Controller}
    {v : String} {dbList : DbList} (hlist : a.dbs = .list dbList)
    (hnd : (dbList.items.map (·.metadata.name)).Nodup) (hok : initResource cfg a c = (.ok v, c')) :
    ∃ stores : List Store, (∀ db ∈ dbList.items, ∀ s ∈ db.tikv.stores, s ∈ stores) ∧
      ∀ (clean : PVProvisioner → List Store → Option Err) (pv : PVProvisioner),
        c'.pvProvisioner = some pv →
          recycle clean c' = match clean pv stores with
            | some e => .error e
            | none => .ok () := by
  refine ⟨recycleStores c'.watcher, fun db hdb s hs => ?_, fun clean pv hpv => by
    cases h : clean pv (recycleStores c'.watcher) <;> simp [recycle, hpv, h]⟩
  rw [(initResource_ok hok).2, hlist]
  exact mem_recycleStores (foldl_put_lookup_of_mem hnd _ hdb) hs

theorem recycle_covers_listed_stores_one :
    (⟨none, .list ⟨⟨"1"⟩, [{ (default : Db) with tikv.stores := [⟨1⟩, ⟨2⟩] }]⟩, .ok ⟨"/data"⟩⟩ :
        InitAnswers).dbs = .list ⟨⟨"1"⟩, [{ (default : Db) with tikv.stores := [⟨1⟩, ⟨2⟩] }]⟩ ∧
      (([{ (default : Db) with tikv.stores := [⟨1⟩, ⟨2⟩] }] : List Db).map (·.metadata.name)).Nodup ∧
      initResource ⟨"node", pvProvisionerHostpath⟩
          ⟨none, .list ⟨⟨"1"⟩, [{ (default : Db) with tikv.stores := [⟨1⟩, ⟨2⟩] }]⟩, .ok ⟨"/data"⟩⟩
          newController =
        (.ok "1", ⟨(findAllDbs (.list ⟨⟨"1"⟩, [{ (default : Db) with tikv.stores := [⟨1⟩, ⟨2⟩] }]⟩)
          newWatcher).2, some (.hostPath "node" "/data")⟩) ∧
      ∃ stores : List Store,
        (∀ db ∈ [{ (default : Db) with tikv.stores := [⟨1⟩, ⟨2⟩] }], ∀ s ∈ db.tikv.stores, s ∈ stores) ∧
        ∀ (clean : PVProvisioner → List Store → Option Err) (pv : PVProvisioner),
          (⟨(findAllDbs (.list ⟨⟨"1"⟩, [{ (default : Db) with tikv.stores := [⟨1⟩, ⟨2⟩] }]⟩)
            newWatcher).2, some (.hostPath "node" "/data")⟩ : Controller).pvProvisioner = some pv →
            recycle clean ⟨(findAllDbs (.list ⟨⟨"1"⟩, [{ (default : Db) with tikv.stores := [⟨1⟩, ⟨2⟩] }]⟩)
              newWatcher).2, some (.hostPath "node" "/data")⟩ = match clean pv stores with
              | some e => .error e
              | none => .ok () :=
  ⟨rfl, by decide, rfl, @recycle_covers_listed_stores ⟨"node", pvProvisionerHostpath⟩
    ⟨none, .list ⟨⟨"1"⟩, [{ (default : Db) with tikv.stores := [⟨1⟩, ⟨2⟩] }]⟩, .ok ⟨"/data"⟩⟩ newController _
    "1" _ rfl (by decide) rfl⟩

/-- 初期化の `for` が終われば、`Validate` を通る設定なら供給者は選ばれていて（`recycle` は nil の供給者を
呼ばない）、設定どおりである: `none` なら何もしない供給者、`hostpath` なら、ある回の `GetMetadata` が返した
`Volume` の下のホストパス。 -/
theorem initLoop_selects_provisioner {cfg : Config} (hv : cfg.validate = .ok ()) :
    ∀ {as : List InitAnswers} {c c' : Controller} {v : String}, initLoop cfg as c = some (v, c') →
      (cfg.pvProvisioner = pvProvisionerNone ∧ c'.pvProvisioner = some .nil) ∨
        (cfg.pvProvisioner = pvProvisionerHostpath ∧ ∃ a ∈ as, ∃ md, a.metadata = .ok md ∧
          c'.pvProvisioner = some (.hostPath cfg.hostName md.volume))
  | [], _, _, _, h => by cases h
  | a :: as, c, c', v, h => by
    simp only [initLoop] at h
    split at h
    · rename_i v' c'' he
      obtain ⟨-, rfl⟩ := Option.some.inj h
      rcases initResource_provisioner he with hn | ⟨hp, md, hm, hc⟩ | ⟨hbad, -⟩
      · exact .inl hn
      · exact .inr ⟨hp, a, List.mem_cons_self _ _, md, hm, hc⟩
      · exact absurd hv hbad
    · rcases initLoop_selects_provisioner hv h with hn | ⟨hp, a', ha', md, hm, hc⟩
      · exact .inl hn
      · exact .inr ⟨hp, a', List.mem_cons_of_mem _ ha', md, hm, hc⟩

theorem initLoop_selects_provisioner_hostpath :
    (⟨"node", pvProvisionerHostpath⟩ : Config).validate = .ok () ∧
      initLoop ⟨"node", pvProvisionerHostpath⟩ [⟨none, .list ⟨⟨"1"⟩, []⟩, .ok ⟨"/data"⟩⟩] newController =
        some ("1", ⟨(findAllDbs (.list ⟨⟨"1"⟩, []⟩) newWatcher).2, some (.hostPath "node" "/data")⟩) ∧
      (((⟨"node", pvProvisionerHostpath⟩ : Config).pvProvisioner = pvProvisionerNone ∧
          (⟨(findAllDbs (.list ⟨⟨"1"⟩, []⟩) newWatcher).2, some (.hostPath "node" "/data")⟩ :
            Controller).pvProvisioner = some .nil) ∨
        ((⟨"node", pvProvisionerHostpath⟩ : Config).pvProvisioner = pvProvisionerHostpath ∧
          ∃ a ∈ [(⟨none, .list ⟨⟨"1"⟩, []⟩, .ok ⟨"/data"⟩⟩ : InitAnswers)], ∃ md, a.metadata = .ok md ∧
            (⟨(findAllDbs (.list ⟨⟨"1"⟩, []⟩) newWatcher).2, some (.hostPath "node" "/data")⟩ :
              Controller).pvProvisioner = some (.hostPath "node" md.volume))) :=
  ⟨rfl, rfl, @initLoop_selects_provisioner ⟨"node", pvProvisionerHostpath⟩ rfl
    [⟨none, .list ⟨⟨"1"⟩, []⟩, .ok ⟨"/data"⟩⟩] newController _ "1" rfl⟩

/-! ## 定期の掃除 -/

/-- 届く状態の表を `cleanClusters` がめぐると、どのクラスタの `DeleteBuriedTikv` が失敗しても、表のクラスタは
どれも、表にある今の値でちょうど一度ずつ呼ばれ、表にないクラスタは呼ばれない。 -/
theorem cleanClusters_visits_every_cluster_once (deleteBuriedTikv : Db → Option Err) {w : Watcher}
    (hw : Reachable w) :
    ((cleanClusters deleteBuriedTikv w).map (·.1.metadata.name)).Nodup ∧
      ∀ db, db ∈ (cleanClusters deleteBuriedTikv w).map (·.1) ↔ w.dbs.lookup db.metadata.name = some db := by
  have hk := hw.keyedByName
  have hnames : (cleanClusters deleteBuriedTikv w).map (·.1.metadata.name) = w.dbs.keys := by
    simp only [cleanClusters, List.map_map, AList.keys, List.keys]
    exact List.map_congr_left fun e he => hk e.1 e.2 (AList.mem_lookup_iff.mpr he)
  refine ⟨hnames ▸ w.dbs.keys_nodup, fun db => ?_⟩
  simp only [cleanClusters, List.map_map, List.mem_map, Function.comp]
  constructor
  · rintro ⟨e, he, rfl⟩
    rw [hk e.1 e.2 (AList.mem_lookup_iff.mpr he)]
    exact AList.mem_lookup_iff.mpr he
  · exact fun h => ⟨⟨_, db⟩, AList.mem_lookup_iff.mp h, rfl⟩

theorem cleanClusters_visits_every_cluster_once_listed :
    Reachable (findAllDbs (.list ⟨⟨"1"⟩, [default]⟩) newWatcher).2 ∧
      ((cleanClusters (fun _ => some (.platform "x"))
          (findAllDbs (.list ⟨⟨"1"⟩, [default]⟩) newWatcher).2).map (·.1.metadata.name)).Nodup ∧
      ∀ db, db ∈ (cleanClusters (fun _ => some (.platform "x"))
          (findAllDbs (.list ⟨⟨"1"⟩, [default]⟩) newWatcher).2).map (·.1) ↔
        (findAllDbs (.list ⟨⟨"1"⟩, [default]⟩) newWatcher).2.dbs.lookup db.metadata.name = some db :=
  ⟨.seeded _, cleanClusters_visits_every_cluster_once _ (.seeded _)⟩

/-! ## 監視のゴルーチン -/

/-- 最初の結果のチャネルが何も運ばずに閉じると、ゴルーチンは `errCh` に "test" を送り、`Run` はそれを返す。 -/
theorem run_returns_test_when_stream_closes :
    watch (fun _ => ⟨.nil, newWatcher⟩) [.stream []] "1" = [.watchTidbs "1", .sendErr .test] ∧
      run ⟨"node", pvProvisionerNone⟩ [⟨none, .nil, .ok ⟨""⟩⟩] (fun _ _ => none) (fun _ => ⟨.nil, newWatcher⟩)
        [.stream []] = some (.returned .test) := by
  decide

/-- `Run` の終わりは最初の `WatchTidbs` の答えだけで決まり、必ずそこで終わる: エラーか、チャネルが閉じるか、
410 の再列挙か、ほかの状態か、どれでも `errCh` に送るかパニックする。 -/
theorem watch_ends_at_first_result (relist : Nat → Relist) (r : WatchResult) (rs : List WatchResult)
    (watchVersion : String) :
    firstEnd (watch relist (r :: rs) watchVersion) = firstEnd (watch relist [r] watchVersion) ∧
      (firstEnd (watch relist [r] watchVersion)).isSome :=
  watch_firstEnd_first relist r rs watchVersion

/-! ## 監視から表まで -/

/-- 表にない名前について、`Added` より前に届いた `Modified` と `Deleted` は、どれも "unsafe state" のエラーとして
記録され、`gc` を呼ばず、監視を変えない。 -/
theorem dispatch_rejects_events_before_added (gcErr : Nat → Option Err) (k : Nat) (w : Watcher)
    (n : String) (es : List Event) (hn : w.dbs.lookup n = none)
    (hes : ∀ e ∈ es, e.object.metadata.name = n ∧ (e.type = .modified ∨ e.type = .deleted)) :
    dispatch gcErr k w es = (w, es.map fun e => (none, some (.unsafeState e.type))) := by
  induction es generalizing k with
  | nil => rfl
  | cons e es ih =>
    obtain ⟨hname, htype⟩ := hes e (List.mem_cons_self _ _)
    have hu := handleTidbEvent_untracked (gcErr k) w e ⟨htype, hname ▸ hn⟩
    simp only [dispatch, hu, ih (k + 1) fun e' he' => hes e' (List.mem_cons_of_mem _ he'), List.map_cons]

theorem dispatch_rejects_events_before_added_modified :
    newWatcher.dbs.lookup "c1" = none ∧
      (∀ e ∈ [(⟨.modified, { (default : Db) with metadata.name := "c1" }⟩ : Event)],
        e.object.metadata.name = "c1" ∧ (e.type = .modified ∨ e.type = .deleted)) ∧
      dispatch (fun _ => none) 0 newWatcher [⟨.modified, { (default : Db) with metadata.name := "c1" }⟩] =
        (newWatcher, [(none, some (.unsafeState .modified))]) :=
  ⟨rfl, by simp, dispatch_rejects_events_before_added _ _ _ "c1" _ rfl (by simp)⟩

/-! ## サーバの表を写す -/

/-- 表がサーバの表と同じところから、サーバでの正しい変化の列（`Added` はない名前に、`Modified` と `Deleted` は
ある名前に）を配るゴルーチンが順に処理すると、表は変化のあとのサーバの表に等しく、"unsafe state" のエラーは
一つも記録されず、`gc` は書き換えと削除のたびにちょうど一度呼ばれて、記録されるエラーはその答えだけである。 -/
theorem dispatch_mirrors_server (gcErr : Nat → Option Err) (k : Nat) (w : Watcher) (es : List Event)
    (hv : validHistory w.dbs.lookup es = true) :
    (dispatch gcErr k w es).1.dbs.lookup = es.foldl serverApply w.dbs.lookup ∧
      (dispatch gcErr k w es).2.map (fun r => (r.1.isSome, r.2)) = gcTrigger gcErr k es :=
  ⟨(dispatch_lookup gcErr k w es).trans (foldl_refUpdate_of_validHistory hv),
    dispatch_log_of_validHistory gcErr k w es hv⟩

theorem dispatch_mirrors_server_lifecycle :
    validHistory newWatcher.dbs.lookup [⟨.added, default⟩, ⟨.modified, default⟩, ⟨.deleted, default⟩] =
        true ∧
      (dispatch (fun _ => none) 0 newWatcher
          [⟨.added, default⟩, ⟨.modified, default⟩, ⟨.deleted, default⟩]).1.dbs.lookup =
        [⟨.added, default⟩, ⟨.modified, default⟩, ⟨.deleted, default⟩].foldl serverApply
          newWatcher.dbs.lookup ∧
      (dispatch (fun _ => none) 0 newWatcher
          [⟨.added, default⟩, ⟨.modified, default⟩, ⟨.deleted, default⟩]).2.map
          (fun r => (r.1.isSome, r.2)) =
        gcTrigger (fun _ => none) 0 [⟨.added, default⟩, ⟨.modified, default⟩, ⟨.deleted, default⟩] :=
  ⟨by decide, dispatch_mirrors_server _ _ _ _ (by decide)⟩

/-- 配るゴルーチンが、表の不変条件を満たす状態から正しい変化の列に追いついたところで 410 が届き、再列挙が
名前の重ならない、変化のあとのサーバの表の一覧を返すなら、再列挙の判定は安定と出て、監視は一覧の版から
続く（`ErrVersionOutdated` を送らない）。 -/
theorem gone_resumes_when_caught_up (relist : Nat → Relist) (k : Nat) {st : Status}
    (hst : st.code = statusGone) {dbList : DbList} (hres : (relist k).result = .list dbList)
    (hnd : (dbList.items.map (·.metadata.name)).Nodup) (gcErr : Nat → Option Err) {w : Watcher}
    (hw : Consistent w) {es : List Event} (hv : validHistory w.dbs.lookup es = true)
    (hcaught : (relist k).watcher = (dispatch gcErr 0 w es).1)
    (hlisted : listed dbList.items = es.foldl serverApply w.dbs.lookup) :
    onStatus relist k st = ([.getAllDbs (.list dbList)], some (dbList.metadata.resourceVersion, k + 1)) := by
  have hs := isDbsCacheUnstable_eq_false_of_mirror (hw.dispatch gcErr es)
    ((dispatch_lookup gcErr 0 w es).trans (foldl_refUpdate_of_validHistory hv)) hnd hlisted
  simp [onStatus, hst, hres, hcaught, hs]

theorem gone_resumes_when_caught_up_added :
    (⟨410, ""⟩ : Status).code = statusGone ∧
      (⟨.list ⟨⟨"2"⟩, [default]⟩, (dispatch (fun _ => none) 0 newWatcher [⟨.added, default⟩]).1⟩ :
        Relist).result = .list ⟨⟨"2"⟩, [default]⟩ ∧
      (([default] : List Db).map (·.metadata.name)).Nodup ∧ Consistent newWatcher ∧
      validHistory newWatcher.dbs.lookup [⟨.added, default⟩] = true ∧
      listed [default] = [(⟨.added, default⟩ : Event)].foldl serverApply newWatcher.dbs.lookup ∧
      onStatus (fun _ => ⟨.list ⟨⟨"2"⟩, [default]⟩,
          (dispatch (fun _ => none) 0 newWatcher [⟨.added, default⟩]).1⟩) 0 ⟨410, ""⟩ =
        ([.getAllDbs (.list ⟨⟨"2"⟩, [default]⟩)], some ("2", 1)) := by
  have hlisted := listed_singleton_added default
  exact ⟨rfl, rfl, by decide, Consistent.newWatcher, by decide, hlisted,
    gone_resumes_when_caught_up _ 0 rfl rfl (by decide) _ Consistent.newWatcher (by decide) rfl hlisted⟩

/-- 配るゴルーチンが一つ遅れていると、再列挙は失敗する: 表の不変条件を満たす状態から正しい変化の列を処理し
終えたが、そのあとの、名前の版を変える事象 `e` をまだ処理していないところで 410 が届き、再列挙が `e` のあとの
サーバの表の一覧を返すなら、判定は不安定と出て、監視は `ErrVersionOutdated` を送って終わる。
`gone_resumes_when_caught_up` と合わせて、再列挙の結果は二つのゴルーチンの進み具合で決まる。 -/
theorem gone_fails_when_one_event_behind (relist : Nat → Relist) (k : Nat) {st : Status}
    (hst : st.code = statusGone) {dbList : DbList} (hres : (relist k).result = .list dbList)
    (hnd : (dbList.items.map (·.metadata.name)).Nodup) (gcErr : Nat → Option Err) {w : Watcher}
    (hw : Consistent w) {es : List Event} (hv : validHistory w.dbs.lookup es = true)
    (hcaught : (relist k).watcher = (dispatch gcErr 0 w es).1) (e : Event)
    (hchange : (serverApply (es.foldl serverApply w.dbs.lookup) e e.object.metadata.name).map
        (·.metadata.resourceVersion) ≠
      (es.foldl serverApply w.dbs.lookup e.object.metadata.name).map (·.metadata.resourceVersion))
    (hlisted : listed dbList.items = (es ++ [e]).foldl serverApply w.dbs.lookup) :
    onStatus relist k st = ([.getAllDbs (.list dbList), .sendErr .versionOutdated], none) := by
  have hL : listed dbList.items = serverApply (es.foldl serverApply w.dbs.lookup) e := by
    rw [hlisted, List.foldl_append]
    rfl
  have hs := isDbsCacheUnstable_eq_true_of_behind (hw.dispatch gcErr es)
    ((dispatch_lookup gcErr 0 w es).trans (foldl_refUpdate_of_validHistory hv)) hnd hL hchange
  simp [onStatus, hst, hres, hcaught, hs]

theorem gone_fails_when_one_event_behind_added :
    (serverApply (([] : List Event).foldl serverApply newWatcher.dbs.lookup) ⟨.added, default⟩ "").map
        (·.metadata.resourceVersion) ≠
      (([] : List Event).foldl serverApply newWatcher.dbs.lookup "").map (·.metadata.resourceVersion) ∧
      listed [default] = ([] ++ [(⟨.added, default⟩ : Event)]).foldl serverApply newWatcher.dbs.lookup ∧
      onStatus (fun _ => ⟨.list ⟨⟨"2"⟩, [default]⟩, (dispatch (fun _ => none) 0 newWatcher []).1⟩) 0
          ⟨410, ""⟩ =
        ([.getAllDbs (.list ⟨⟨"2"⟩, [default]⟩), .sendErr .versionOutdated], none) := by
  have hchange : (serverApply (([] : List Event).foldl serverApply newWatcher.dbs.lookup)
      ⟨.added, default⟩ "").map (·.metadata.resourceVersion) ≠
        (([] : List Event).foldl serverApply newWatcher.dbs.lookup "").map (·.metadata.resourceVersion) := by
    decide
  have hlisted : listed [default] =
      ([] ++ [(⟨.added, default⟩ : Event)]).foldl serverApply newWatcher.dbs.lookup :=
    listed_singleton_added default
  exact ⟨hchange, hlisted, gone_fails_when_one_event_behind _ 0
    (rfl : (⟨410, ""⟩ : Status).code = statusGone) rfl (by decide) (fun _ => none) Consistent.newWatcher
    (rfl : validHistory newWatcher.dbs.lookup [] = true) rfl ⟨.added, default⟩ hchange hlisted⟩

/-! ## 二つのゴルーチン -/

/-- `Run` の監視のゴルーチンと配るゴルーチンがどの順に進んでも、配るゴルーチンは、送られた事象のうち最後の
一つのほかはすべて処理し終えていて、表は処理し終えた事象を順に参照の更新にかけたものであり、表の不変条件も
保たれる。監視のゴルーチンが再列挙の判定で読む表は、送った事象をすべて映したものか、最後の一つだけ欠けた
ものである。 -/
theorem pipeline_dispatch_lags_by_at_most_one {w₀ : Watcher} (hw₀ : Consistent w₀) {p : Pipeline}
    (hp : PipelineReachable w₀ p) :
    (p.handled = p.sent.length ∨ p.handled + 1 = p.sent.length) ∧
      p.watcher.dbs.lookup = (p.sent.take p.handled).foldl refUpdate w₀.dbs.lookup ∧
      Consistent p.watcher := by
  obtain ⟨h₁, h₂, hl, hc⟩ := hp.inv
  exact ⟨by omega, hl, hc hw₀⟩

theorem pipeline_dispatch_lags_by_at_most_one_sent :
    Consistent newWatcher ∧ PipelineReachable newWatcher ⟨[⟨.added, default⟩], 0, newWatcher⟩ ∧
      (((⟨[⟨.added, default⟩], 0, newWatcher⟩ : Pipeline).handled =
            (⟨[⟨.added, default⟩], 0, newWatcher⟩ : Pipeline).sent.length ∨
          (⟨[⟨.added, default⟩], 0, newWatcher⟩ : Pipeline).handled + 1 =
            (⟨[⟨.added, default⟩], 0, newWatcher⟩ : Pipeline).sent.length) ∧
        (⟨[⟨.added, default⟩], 0, newWatcher⟩ : Pipeline).watcher.dbs.lookup =
          ((⟨[⟨.added, default⟩], 0, newWatcher⟩ : Pipeline).sent.take
            (⟨[⟨.added, default⟩], 0, newWatcher⟩ : Pipeline).handled).foldl refUpdate
              newWatcher.dbs.lookup ∧
        Consistent (⟨[⟨.added, default⟩], 0, newWatcher⟩ : Pipeline).watcher) :=
  have hp : PipelineReachable newWatcher ⟨[⟨.added, default⟩], 0, newWatcher⟩ :=
    .step .init (.send _ _ rfl)
  ⟨Consistent.newWatcher, hp, pipeline_dispatch_lags_by_at_most_one Consistent.newWatcher hp⟩

end TidbOperator

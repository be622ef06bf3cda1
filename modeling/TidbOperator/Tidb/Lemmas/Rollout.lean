import TidbOperator.Tidb.Lemmas.Wait

/-!
# `upgrade` の一台ずつの入れ替え

`upgrade` の `for` は、入れ替えの要る Pod を一台ずつ、削除し `waitForOk` を待ち、最初のエラーで止まる
（`upgradePods_serial`）。`upgrade` 全体の軌跡は `UpgradeCalls` に従い、`cur` は返るとき空である。
-/

namespace TidbOperator

variable {α β : Type}

@[simp] theorem stateOf_bind_pure (m : M α) (b : β) (w : World) :
    stateOf ((m >>= fun _ => pure b) w) = stateOf (m w) := by
  rw [M.bind_apply]; cases m w <;> rfl

@[simp] theorem okOf_bind_pure (m : M α) (b : β) (w : World) :
    okOf ((m >>= fun _ => pure b) w) = okOf (m w) := by
  rw [M.bind_apply]; cases m w <;> rfl

theorem needing_cons_pos {K : Ext} {version : String} {p : Pod} (pods : List Pod)
    (hp : K.needUpgrade p version = true) :
    needing K version (p :: pods) = p.name :: needing K version pods := by
  simp [needing, hp]

theorem needing_cons_neg {K : Ext} {version : String} {p : Pod} (pods : List Pod)
    (hp : K.needUpgrade p version = false) :
    needing K version (p :: pods) = needing K version pods := by
  simp [needing, hp]

theorem Obs.deleted?_of_isProbe {o : Obs} (h : o.isProbe = true) : o.deleted? = none := by
  rcases o with ⟨_ | _ | _ | _ | _ | _ | _ | _ | _ | _ | _⟩ | _ | _ <;> first | rfl | cases h

theorem Obs.gated?_of_isProbe {o : Obs} (h : o.isProbe = true) : o.gated? = none := by
  rcases o with _ | _ | _ <;> first | rfl | cases h

theorem Obs.deleted?_of_isAudit {o : Obs} (h : o.isAudit = true) : o.deleted? = none := by
  rcases o with _ | _ | _ <;> first | rfl | cases h

theorem Obs.gated?_of_isAudit {o : Obs} (h : o.isAudit = true) : o.gated? = none := by
  rcases o with _ | _ | _ <;> first | rfl | cases h

/-- 最後まで進んだ入れ替えでは、どの Pod も名前の順に一度ずつ削除し、その Pod の `waitForOk` が nil を返した。 -/
theorem Serial.cycles {env : Env} {addrs : List String} {i : Nat} {ns : List String} {Δ : List Obs}
    (h : Serial env addrs i ns Δ true) :
    Δ.filterMap Obs.deleted? = ns ∧ Δ.filterMap Obs.gated? = ns.map (·, none) := by
  generalize hok : true = ok at h
  induction h with
  | done => exact ⟨rfl, rfl⟩
  | stop => cases hok
  | fail => cases hok
  | next _ n ns probes Δ ok _ _ hprobes _ ih =>
    obtain ⟨hd, hg⟩ := ih hok
    have hpd : probes.filterMap Obs.deleted? = [] :=
      List.filterMap_eq_nil_iff.mpr fun o ho => Obs.deleted?_of_isProbe (hprobes o ho)
    have hpg : probes.filterMap Obs.gated? = [] :=
      List.filterMap_eq_nil_iff.mpr fun o ho => Obs.gated?_of_isProbe (hprobes o ho)
    simp [List.filterMap_append, Obs.deleted?, Obs.gated?, hpd, hpg, hd, hg]

section

variable (K : Ext) (env : Env)

/-- `upgrade` の `for` は、入れ替えの要る Pod を一台ずつ入れ替える。 -/
theorem upgradePods_serial (version : String) : ∀ (pods : List Pod) {w : World}
    {r : EStateM.Result Err World Bool}, upgradePods K env version pods w = r → ∃ Δ,
      (stateOf r).trace = w.trace ++ Δ ∧
        Serial env w.db.status.outerStatusAddresses w.trace.length (needing K version pods) Δ (okOf r)
  | [], w, _, rfl => ⟨[], (List.append_nil _).symm, .done _⟩
  | p :: pods, w, r, h => by
    subst h
    cases hp : K.needUpgrade p version with
    | false =>
      rw [needing_cons_neg pods hp]
      exact upgradePods_serial version pods (by simp only [upgradePods, hp]; rfl)
    | true =>
      rw [needing_cons_pos pods hp]
      simp only [upgradePods, hp, if_true, M.bind_apply, deletePods, call_apply]
      cases hd : (env w.trace.length).err with
      | some e => exact ⟨[.call (.deletePods p.name)], rfl, .stop _ _ _ (.inl (by simp [hd]))⟩
      | none =>
        simp only [M.modify_apply]
        split
        next w₂ heq =>
          obtain ⟨ha, w₁, ⟨ms, probes, rfl, hprobes⟩, rfl⟩ := waitForOk_ok K env heq
          split <;>
          · obtain ⟨Δ, hΔ, hs⟩ := upgradePods_serial version pods ‹_›
            refine ⟨_, hΔ.trans (by simp [World.log]), .next _ _ _ probes Δ _ hd ha hprobes ?_⟩
            simpa [World.log, Nat.add_assoc] using hs
        next e w₂ heq =>
          rcases waitForOk_error K env heq with ⟨rfl, ha, rfl⟩ | ⟨rfl, ha, w₁, ⟨ms, probes, rfl, hprobes⟩, rfl⟩
          · exact ⟨[.call (.deletePods p.name)], rfl, .stop _ _ _ (.inr ha)⟩
          · exact ⟨_, by simp [stateOf, World.log], .fail _ _ _ _ hd ha hprobes⟩

theorem upgradeTidbs_calls {w : World} {r : EStateM.Result Err World Bool}
    (h : upgradeTidbs K env w.db.status.phase w.db.metadata.name
      s!"{K.imageRegistry}/tidb:{w.db.tidb.version}" w.db.tidb.version w = r) :
    ∃ Δ, (stateOf r).trace = w.trace ++ Δ ∧ UpgradeCalls K env w Δ (okOf r) := by
  subst h
  unfold upgradeTidbs
  cases hph : w.db.status.phase.slt K.phaseTidbStarted
  · simp only [Bool.false_eq_true, if_false, M.bind_apply, upgradeRC, rcCall_apply, call_apply]
    cases hrc : w.rcExists
    · exact ⟨[_], rfl, .rcFailed hph (.inl hrc)⟩
    cases herr : (env w.trace.length).err
    · simp only [if_true, getPods, answer_apply, World.log_trace, List.length_append, List.length_singleton]
      cases hg : (env (w.trace.length + 1)).err <;> dsimp only
      · generalize hr : upgradePods K env _ _ _ = r
        obtain ⟨Δ, hΔ, hs⟩ := upgradePods_serial K env _ _ hr
        exact ⟨_, hΔ.trans (by simp), .rollout Δ _ hph hrc herr hg (by simpa [World.log] using hs)⟩
      · exact ⟨[_, _], by simp [stateOf], .podsFailed hph hrc herr (by simp [hg])⟩
    · exact ⟨[_], rfl, .rcFailed hph (.inr (by simp [herr]))⟩
  · exact ⟨[], (List.append_nil _).symm, .unavailable hph⟩

theorem upgrade_cur (w : World) : (stateOf (upgrade K env w)).db.tidb.cur = "" := by
  simp only [upgrade, M.get_bind_apply, stateOf_bind_pure, deferring]
  split <;> simp only [stateOf] <;> split <;> rfl

/-- `upgrade` の軌跡は、`UpgradeCalls` に従う呼び出しと記録のあとに、監査の記録だけが続く。 -/
theorem upgrade_calls (w : World) :
    ∃ Δ A, (stateOf (upgrade K env w)).trace = w.trace ++ Δ ++ A ∧ (∀ o ∈ A, o.isAudit = true) ∧
      UpgradeCalls K env w Δ (okOf (upgrade K env w)) := by
  simp only [upgrade, M.get_bind_apply, stateOf_bind_pure, okOf_bind_pure, deferring]
  split
  next b w' heq =>
    obtain ⟨Δ, hΔ, hc⟩ := upgradeTidbs_calls K env heq
    cases b
    · exact ⟨Δ, [], by simpa [stateOf] using hΔ, by simp, hc⟩
    · exact ⟨Δ, [_], by rw [← hΔ]; rfl, by simp [Obs.isAudit], hc⟩
  next e w' heq =>
    obtain ⟨Δ, hΔ, hc⟩ := upgradeTidbs_calls K env heq
    exact ⟨Δ, [_], by rw [← hΔ]; rfl, by simp [Obs.isAudit], hc⟩

end

end TidbOperator

import TidbOperator.Tidb.Platform

/-!
# 操作の三つ組

`Triple P m Q E`: `P` を満たす状態から `m` を走らせると、値を返せば `Q`、エラーを返せば `E` が、そのときの
状態について成り立つ。Go の関数はエラーを返す前に書き換えた欄を残すので、エラーの側にも状態の条件を置く。
合成の規則と、外の呼び出しごとの最弱の前条件の形の仕様をここに集める。
-/

namespace TidbOperator

/-- `P` から走らせると、値を返せば `Q`、エラーを返せば `E`。 -/
def Triple {α : Type} (P : World → Prop) (m : M α) (Q : α → World → Prop)
    (E : Err → World → Prop) : Prop :=
  ∀ w, P w →
    match m w with
    | .ok a w' => Q a w'
    | .error e w' => E e w'

theorem M.bind_apply {α β : Type} (m : M α) (f : α → M β) (w : World) :
    (m >>= f) w = match m w with
      | .ok a w' => f a w'
      | .error e w' => .error e w' := by
  show EStateM.bind m f w = _
  unfold EStateM.bind
  cases m w <;> rfl

theorem M.tryCatch_apply {α : Type} (m : M α) (handler : Err → M α) (w : World) :
    tryCatch m handler w = match m w with
      | .ok a w' => .ok a w'
      | .error e w' => handler e w' := by
  show EStateM.tryCatch m handler w = _
  unfold EStateM.tryCatch
  cases m w <;> rfl

/-- 値を返した `>>=` は、前半が値を返し、その値で後半が値を返したものである。 -/
theorem M.bind_eq_ok {α β : Type} {m : M α} {f : α → M β} {w w' : World} {b : β}
    (h : (m >>= f) w = .ok b w') : ∃ a w₁, m w = .ok a w₁ ∧ f a w₁ = .ok b w' := by
  rw [M.bind_apply] at h
  revert h
  cases m w with
  | ok a w₁ => exact fun h => ⟨a, w₁, rfl, h⟩
  | error e w₁ => exact nofun

theorem M.tryCatch_eq_ok {α : Type} {m : M α} {handler : Err → M α} {w w' : World} {a : α}
    (h : tryCatch m handler w = .ok a w') :
    m w = .ok a w' ∨ ∃ e w₁, m w = .error e w₁ ∧ handler e w₁ = .ok a w' := by
  rw [M.tryCatch_apply] at h
  revert h
  cases m w with
  | ok b w₁ => exact .inl
  | error e w₁ => exact fun h => .inr ⟨e, w₁, rfl, h⟩

@[simp] theorem M.get_apply (w : World) : (get : M World) w = .ok w w := rfl

@[simp] theorem M.pure_apply {α : Type} (a : α) (w : World) : (pure a : M α) w = .ok a w := rfl

@[simp] theorem M.throw_apply {α : Type} (e : Err) (w : World) :
    (throw e : M α) w = .error e w := rfl

@[simp] theorem M.modify_apply (g : World → World) (w : World) :
    (modify g : M Unit) w = .ok () (g w) := rfl

@[simp] theorem M.get_bind_apply {α : Type} (f : World → M α) (w : World) :
    (get >>= f) w = f w w := rfl

namespace Triple

variable {α β : Type} {P P' : World → Prop} {Q Q' : α → World → Prop} {E E' : Err → World → Prop}

theorem conseq {m : M α} (h : Triple P m Q E) (hp : ∀ w, P' w → P w)
    (hq : ∀ a w, Q a w → Q' a w) (he : ∀ e w, E e w → E' e w) : Triple P' m Q' E' := by
  intro w hw
  have h1 := h w (hp w hw)
  revert h1
  cases m w with
  | ok a w' => exact hq a w'
  | error e w' => exact he e w'

theorem stay (a : α) : Triple P (pure a : M α) (fun _ => P) E := fun _ h => h

theorem keep (f : World → World) (hf : ∀ w, P w → P (f w)) :
    Triple P (modify f : M Unit) (fun _ => P) E := hf

theorem read_bind {f : World → M α} (h : ∀ w₀, P w₀ → Triple P (f w₀) Q E) :
    Triple P (get >>= f) Q E :=
  fun w hw => h w hw w hw

theorem bind {R : β → World → Prop} {m : M α} {f : α → M β} (h : Triple P m Q E)
    (hf : ∀ a, Triple (Q a) (f a) R E) : Triple P (m >>= f) R E := by
  intro w hw
  have h1 := h w hw
  rw [M.bind_apply]
  revert h1
  cases m w with
  | ok a w' => exact hf a w'
  | error e w' => exact id

theorem seq {R : β → World → Prop} {m : M Unit} {m' : M β} (h : Triple P m (fun _ => P') E)
    (h' : Triple P' m' R E) : Triple P (m >>= fun _ => m') R E :=
  bind h fun _ => h'

theorem ite {c : Prop} [Decidable c] {m m' : M α} (h : c → Triple P m Q E)
    (h' : ¬c → Triple P m' Q E) : Triple P (if c then m else m') Q E := by
  split
  · exact h ‹_›
  · exact h' ‹_›

theorem deferring {m : M α} {cleanup : Except Err α → World → World} (h : Triple P m Q E)
    (hq : ∀ a w, Q a w → Q' a (cleanup (.ok a) w))
    (he : ∀ e w, E e w → E' e (cleanup (.error e) w)) :
    Triple P (TidbOperator.deferring m cleanup) Q' E' := by
  intro w hw
  have h1 := h w hw
  unfold TidbOperator.deferring
  revert h1
  cases m w with
  | ok a w' => exact hq a w'
  | error e w' => exact he e w'

/-- 値を返してもエラーを返しても `Q` が成り立つなら、終わりの状態で `Q` が成り立つ。 -/
theorem final {Q : World → Prop} {m : M α} (h : Triple P m (fun _ => Q) (fun _ => Q)) {w : World}
    (hw : P w) : Q (stateOf (m w)) := by
  have h1 := h w hw
  revert h1
  cases m w <;> exact id

end Triple

/-! ## 外の呼び出し -/

section

variable (env : Env)

theorem answer_apply {β : Type} (c : Call) (f : Answer → β) (w : World) :
    answer env c f w = match (env w.trace.length).err with
      | some e => .error e (w.log (.call c))
      | none => .ok (f (env w.trace.length)) (w.log (.call c)) := by
  simp only [answer, M.bind_apply, request]
  cases (env w.trace.length).err <;> rfl

theorem answer_eq_ok {β : Type} {c : Call} {f : Answer → β} {w w' : World} {b : β}
    (h : answer env c f w = .ok b w') :
    (env w.trace.length).err = none ∧ b = f (env w.trace.length) ∧ w' = w.log (.call c) := by
  rw [answer_apply] at h
  revert h
  cases (env w.trace.length).err with
  | some e => exact nofun
  | none => exact fun h => by cases h; exact ⟨rfl, rfl, rfl⟩

theorem call_apply (c : Call) (w : World) :
    call env c w = match (env w.trace.length).err with
      | some e => .error e (w.log (.call c))
      | none => .ok () (w.log (.call c)) :=
  answer_apply env c _ w

theorem rcCall_apply (c : Call) (name : String) (w : World) :
    rcCall env c name w = if w.rcExists then call env c w
      else .error (.notFound "replicationcontrollers" name) (w.log (.call c)) := by
  simp only [rcCall, call_apply, M.bind_apply, request, M.get_apply, World.log_rcExists]
  cases w.rcExists <;> cases (env w.trace.length).err <;> rfl

theorem answer_keep {β : Type} {P : World → Prop} (c : Call) (hP : ∀ w, P w → P (w.log (.call c)))
    (f : Answer → β) : Triple P (answer env c f) (fun _ => P) (fun _ => P) := by
  intro w hw
  rw [answer_apply]
  cases (env w.trace.length).err <;> exact hP w hw

theorem rcCall_keep {P : World → Prop} (c : Call) (name : String)
    (hP : ∀ w, P w → P (w.log (.call c))) : Triple P (rcCall env c name) (fun _ => P) (fun _ => P) := by
  intro w hw
  rw [rcCall_apply]
  cases w.rcExists
  · exact hP w hw
  · exact answer_keep env c hP _ w hw

theorem createRcByJSON_keep {P : World → Prop} (name : String)
    (hlog : ∀ w, P w → P (w.log (.call (.createRc name)))) (hrc : ∀ w, P w → P { w with rcExists := true }) :
    Triple P (createRcByJSON env name) (fun _ => P) (fun _ => P) := by
  intro w hw
  have h1 := hlog w hw
  simp only [createRcByJSON, M.bind_apply, request]
  cases (env w.trace.length).err <;> cases (env w.trace.length).created <;>
    first | exact h1 | exact hrc _ h1

end

end TidbOperator

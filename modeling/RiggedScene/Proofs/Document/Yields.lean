import RiggedScene.Proofs.Document.Related

/-!
# Loads that always give an answer

* `Load.Yields` : from every state the load gives an answer, and each one satisfies a condition;
* `Load.Yields.bind`, `Load.Yields.mapM` and `Load.Yields.foldlM` put such loads together, and
  `Load.Yields.mapM_map` and `Load.Yields.foldlM_taken` do so with the entries in view;
* `Load.Yields.tryCatch` : so does a load whose errors are caught.
-/

namespace RiggedScene

namespace Load

variable {α β : Type}

/-! ### Loads whose errors are caught -/

section Catch

variable {x : Load α} {handle : Error → Load α} {s t : LoadState}

theorem tryCatch_apply_ok {a : α} (h : x s = (.ok a, t)) :
    (tryCatch x handle) s = (.ok a, t) := by
  change (ExceptT.tryCatch x handle) s = _
  simp only [ExceptT.tryCatch, ExceptT.mk, bind, StateT.bind, h]
  rfl

theorem tryCatch_apply_error {e : Error} (h : x s = (.error e, t)) :
    (tryCatch x handle) s = handle e t := by
  change (ExceptT.tryCatch x handle) s = _
  simp only [ExceptT.tryCatch, ExceptT.mk, bind, StateT.bind, h]

end Catch

theorem answer_bind_of_map {γ : Type} {x : Load α} {s : LoadState} {g : α → γ} {v : γ}
    (hx : (answer x s).map g = .ok v) (f : α → Load β) :
    ∃ a t, x s = (.ok a, t) ∧ g a = v ∧ answer (x >>= f) s = answer (f a) t := by
  cases hxs : x s with
  | mk r t =>
    rw [answer, hxs] at hx
    cases r with
    | error e => cases hx
    | ok a => exact ⟨a, t, rfl, Except.ok.inj hx, congrArg Prod.fst (bind_apply_ok hxs)⟩

/-- Two loads in a row that go through, with something known of both answers. -/
theorem exists_of_answer_map {γ δ : Type} {x : Load α} {f : α → Load β} {s : LoadState}
    {g : α → γ} {h : β → δ} {v : γ} {w : δ} (hx : (answer x s).map g = .ok v)
    (hf : (answer (x >>= f) s).map h = .ok w) :
    ∃ a t b, x s = (.ok a, t) ∧ g a = v ∧ answer (f a) t = .ok b ∧ h b = w := by
  obtain ⟨a, t, ha, hv, hanswer⟩ := answer_bind_of_map hx f
  rw [hanswer] at hf
  cases hfa : answer (f a) t with
  | error e =>
    rw [hfa] at hf
    cases hf
  | ok b =>
    rw [hfa] at hf
    exact ⟨a, t, b, ha, hv, hfa, Except.ok.inj hf⟩

theorem exists_of_bind_map {γ : Type} {x : Load α} {f : α → Load β} {s : LoadState} {h : β → γ}
    {w : γ} (hf : (answer (x >>= f) s).map h = .ok w) :
    ∃ a t b, x s = (.ok a, t) ∧ answer (f a) t = .ok b ∧ h b = w := by
  cases hxs : x s with
  | mk r t =>
    cases r with
    | error e =>
      rw [answer, bind_apply_error hxs] at hf
      cases hf
    | ok a =>
      rw [answer, bind_apply_ok hxs] at hf
      cases hfa : (f a t).1 with
      | error e =>
        rw [hfa] at hf
        cases hf
      | ok b =>
        rw [hfa] at hf
        exact ⟨a, t, b, rfl, hfa, Except.ok.inj hf⟩

/-! ### Loads that always give an answer -/

/-- From every state the load gives an answer that satisfies `Q`. -/
def Yields (x : Load α) (Q : α → Prop) : Prop := ∀ s, ∃ a, answer x s = .ok a ∧ Q a

namespace Yields

variable {x : Load α} {f : α → Load β} {P Q : α → Prop} {R : β → Prop}

theorem pure {a : α} (h : Q a) : Yields (pure a) Q := fun _ => ⟨a, rfl, h⟩

theorem imp (hx : Yields x P) (h : ∀ a, P a → Q a) : Yields x Q := by
  intro s
  obtain ⟨a, ha, hP⟩ := hx s
  exact ⟨a, ha, h a hP⟩

theorem bind (hx : Yields x P) (hf : ∀ a, P a → Yields (f a) R) : Yields (x >>= f) R := by
  intro s
  obtain ⟨a, ha, hP⟩ := hx s
  have hxs : x s = (.ok a, after x s) := Prod.ext ha rfl
  obtain ⟨b, hb, hR⟩ := hf a hP (after x s)
  refine ⟨b, ?_, hR⟩
  rwa [answer, bind_apply_ok hxs]

/-- A load whose errors are caught, if what is done about them gives an answer. -/
theorem tryCatch {handle : Error → Load α} (hx : ∀ a, Gives (fun _ => True) x a → Q a)
    (hhandle : ∀ e, Yields (handle e) Q) : Yields (tryCatch x handle) Q := by
  intro s
  cases hxs : x s with
  | mk r t =>
    cases r with
    | ok a =>
      have hgives : Gives (fun _ => True) x a := ⟨s, trivial, congrArg Prod.fst hxs⟩
      exact ⟨a, congrArg Prod.fst (tryCatch_apply_ok hxs), hx a hgives⟩
    | error e =>
      obtain ⟨a, ha, hQ⟩ := hhandle e t
      exact ⟨a, (congrArg Prod.fst (tryCatch_apply_error hxs)).trans ha, hQ⟩

theorem mapM {f : α → Load β} {xs : List α} (h : ∀ a ∈ xs, Yields (f a) R) :
    Yields (xs.mapM f) fun bs => ∀ b ∈ bs, R b := by
  induction xs with
  | nil => exact .pure fun _ hb => nomatch hb
  | cons a xs ih =>
    rw [List.mapM_cons]
    obtain ⟨ha, hxs⟩ := List.forall_mem_cons.1 h
    exact ha.bind fun b hb => (ih hxs).bind fun bs hbs => .pure (List.forall_mem_cons.2 ⟨hb, hbs⟩)

theorem foldlM {f : β → α → Load β} {xs : List α} {b : β}
    (h : ∀ b, ∀ a ∈ xs, R b → Yields (f b a) R) (hb : R b) : Yields (xs.foldlM f b) R := by
  induction xs generalizing b with
  | nil => exact .pure hb
  | cons a xs ih =>
    rw [List.foldlM_cons]
    refine (h b a List.mem_cons_self hb).bind fun b' hb' => ?_
    exact ih (fun b' a' ha' => h b' a' (List.mem_cons_of_mem a ha')) hb'

/-- What is known of each answer may be about the entry that it is for. -/
theorem mapM_map {γ : Type} {g : β → γ} {h : α → γ} {xs : List α} {f : α → Load β}
    (hf : ∀ a ∈ xs, Yields (f a) fun b => g b = h a) :
    Yields (xs.mapM f) fun bs => bs.map g = xs.map h := by
  induction xs with
  | nil => exact .pure rfl
  | cons a xs ih =>
    rw [List.mapM_cons]
    obtain ⟨ha, hxs⟩ := List.forall_mem_cons.1 hf
    refine ha.bind fun b hb => (ih hxs).bind fun bs hbs => .pure ?_
    rw [List.map_cons, List.map_cons, hb, hbs]

/-- What is known may be about the entries that have been taken so far. -/
theorem foldlM_taken {R : List α → β → Prop} {xs taken : List α} {f : β → α → Load β} {b : β}
    (h : ∀ taken b a, R taken b → Yields (f b a) (R (taken ++ [a]))) (hb : R taken b) :
    Yields (xs.foldlM f b) (R (taken ++ xs)) := by
  induction xs generalizing taken b with
  | nil =>
    rw [List.append_nil]
    exact .pure hb
  | cons a xs ih =>
    rw [List.foldlM_cons, List.append_cons]
    exact (h taken b a hb).bind fun b' hb' => ih hb'

end Yields

end Load

end RiggedScene

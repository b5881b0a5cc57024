import TypedDocs.Caching.Basic
import TypedDocs.Proofs.Query.Kept

/-!
# Work that the caches do not show in

Caches are *faithful* to a hierarchy when they keep nothing but the attributes that its names denote
and the patterns that texts compile to.  Work with caches *agrees* with a result when it gives this
result whatever faithful caches it has, and leaves them faithful.  Agreement is kept by the steps
that work is composed of:

    Agrees h x.run r → (∀ a, Agrees h (f a).run (g a)) → Agrees h (x >>= f).run (r >>= g)
                                                                                    (Agrees.bindOk)
    Agrees h (resolve h id name).run (h.resolve id name)                          (agrees_resolve)
    Agrees h (compile query).run (Query.compile Pattern.Engine.build query)       (agrees_compile)
-/

namespace TypedDocs

/-! ## Definitions -/

/-- What is kept is what would be found in the hierarchy, and compiled, now; of patterns not more
are kept than there is room for. -/
structure Caches.Faithful {ρ : Type} [Pattern.Engine ρ] (c : Caches ρ) (h : Hierarchy) : Prop where
  attributes : h.Remembers c.attributes
  patterns : Query.KeepsCompiled Pattern.Engine.build c.patterns

namespace Caching

variable {ρ : Type} [Pattern.Engine ρ] {h : Hierarchy} {α β ε : Type}

/-- In faithful caches the work gives the result, and it leaves them faithful. -/
def Agrees (h : Hierarchy) (work : StateM (Caches ρ) β) (result : β) : Prop :=
  ∀ c : Caches ρ, c.Faithful h → (work.run c).1 = result ∧ (work.run c).2.Faithful h

theorem faithful_empty (h : Hierarchy) : (Caches.empty : Caches ρ).Faithful h :=
  ⟨Memo.faithful_empty _, Memo.exact_empty _ _⟩

/-! ## Steps -/

theorem agrees_return (b : β) : Agrees h (pure b : StateM (Caches ρ) β) b :=
  fun _ hc => ⟨rfl, hc⟩

theorem Agrees.bind {work : StateM (Caches ρ) α} {a : α} {next : α → StateM (Caches ρ) β} {b : β}
    (hw : Agrees h work a) (hn : Agrees h (next a) b) : Agrees h (work >>= next) b := by
  intro c hc
  obtain ⟨ha, hkept⟩ := hw c hc
  have hrun : (work >>= next).run c = (next (work.run c).1).run (work.run c).2 := rfl
  rw [hrun, ha]
  exact hn _ hkept

theorem agrees_ok (a : α) : Agrees h (pure a : Caching ρ ε α).run (.ok a) := agrees_return _

theorem agrees_error (e : ε) : Agrees h (throw e : Caching ρ ε α).run (.error e) :=
  agrees_return _

theorem agrees_ofExcept (result : Except ε α) :
    Agrees h (ofExcept result : Caching ρ ε α).run result := by
  cases result with
  | ok a => exact agrees_ok a
  | error e => exact agrees_error e

/-- What follows a step sees what the step gives. -/
theorem Agrees.andThen {work : Caching ρ ε α} {a : α} {next : α → Caching ρ ε β}
    {result : Except ε β} (hw : Agrees h work.run (.ok a)) (hn : Agrees h (next a).run result) :
    Agrees h (work >>= next).run result := by
  rw [ExceptT.run_bind]
  exact hw.bind hn

/-- Nothing follows a step that is refused. -/
theorem Agrees.refused {work : Caching ρ ε α} {e : ε} {next : α → Caching ρ ε β}
    (hw : Agrees h work.run (.error e)) : Agrees h (work >>= next).run (.error e) := by
  rw [ExceptT.run_bind]
  exact hw.bind (agrees_return _)

theorem Agrees.bindOk {work : Caching ρ ε α} {result : Except ε α} {next : α → Caching ρ ε β}
    {after : α → Except ε β} (hw : Agrees h work.run result)
    (hn : ∀ a, Agrees h (next a).run (after a)) :
    Agrees h (work >>= next).run (result >>= after) := by
  cases result with
  | error e => exact hw.refused
  | ok a => exact hw.andThen (hn a)

theorem Agrees.map {work : Caching ρ ε α} {result : Except ε α} (hw : Agrees h work.run result)
    (f : α → β) : Agrees h (f <$> work).run (result.map f) := by
  rw [map_eq_pure_bind]
  have hmap : result.map f = result >>= fun a => .ok (f a) := by cases result <;> rfl
  rw [hmap]
  exact hw.bindOk fun a => agrees_ok (f a)

/-- A refusal is told in another way. -/
theorem Agrees.adapt {δ : Type} {work : Caching ρ δ α} {result : Except δ α}
    (hw : Agrees h work.run result) (f : δ → ε) :
    Agrees h (work.adapt f).run (result.mapError f) := by
  intro c hc
  obtain ⟨hresult, hkept⟩ := hw c hc
  exact ⟨congrArg (Except.mapError f) hresult, hkept⟩

/-- What is done instead of a step that is refused sees the fault. -/
theorem Agrees.caught {work : Caching ρ ε α} {e : ε} {instead : ε → Caching ρ ε α}
    {result : Except ε α} (hw : Agrees h work.run (.error e))
    (hn : Agrees h (instead e).run result) : Agrees h (tryCatch work instead).run result := by
  rw [ExceptT.run_tryCatch]
  exact hw.bind hn

/-- Nothing is done instead of a step that is not refused. -/
theorem Agrees.uncaught {work : Caching ρ ε α} {a : α} {instead : ε → Caching ρ ε α}
    (hw : Agrees h work.run (.ok a)) : Agrees h (tryCatch work instead).run (.ok a) := by
  rw [ExceptT.run_tryCatch]
  exact hw.bind (agrees_return _)

/-! ## Lookups -/

theorem agrees_resolve (h : Hierarchy) (id name : String) :
    Agrees h (resolve h id name : Caching ρ Fault ResolvedAttribute).run (h.resolve id name) := by
  intro c hc
  obtain ⟨hresult, hkept⟩ := Hierarchy.resolveKept_spec hc.attributes id name
  exact ⟨hresult, hkept, hc.patterns⟩

theorem agrees_resolveKey (h : Hierarchy) (id key : String) :
    Agrees h (resolveKey h id key : Caching ρ Fault ResolvedAttribute).run
      (h.resolveKey id key) := by
  rw [resolveKey, Hierarchy.resolveKey]
  cases Key.parse key with
  | plain name => exact agrees_resolve h id key
  | qualified name mixin => exact agrees_resolve h mixin name

theorem agrees_compile (h : Hierarchy) (query : Layout) :
    Agrees h (compile query : Caching ρ Fault ρ).run
      (Query.compile Pattern.Engine.build query) := by
  intro c hc
  exact ⟨Query.compileKept_eq hc.patterns query, hc.attributes,
    Query.keepsCompiled_compileKept hc.patterns query⟩

end Caching

end TypedDocs

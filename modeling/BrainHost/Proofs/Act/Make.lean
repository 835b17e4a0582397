import BrainHost.Proofs.Act.Basic

/-! # Brains that were made

The functions that a brain calls are those that the global names stood for right after its source
had run. Scripts that give the names other values later do not change them. -/

namespace BrainHost

variable {E : Engine} {K : HostKind} {α β : Type}

/-- The entry points of a brain were captured when it was made, in the context that its source was
run in. -/
def Brain.Captured (K : HostKind) (b : Brain E) : Prop :=
  ∃ (link : Link E K) (config : EngineConfig) (last flush : E.Value)
    (c c₁ c₂ c₃ : E.Context) (w w₁ w₂ w₃ : World E K),
    E.create config brainFunctions = .ok c ∧
    (Inside.evaluate { bridge := b.bridge } "Error while compiling brain JS: "
      "Exception caught while running brain JS: " b.source).run c link w = .done (.ok last, c₁) w₁ ∧
    Act.carryOut { bridge := b.bridge } (E.global updateAgentName c₁) link w₁ =
      .done (c₂, .ok b.updateAgent) w₂ ∧
    E.isFunction c₂ b.updateAgent = true ∧
    Act.carryOut { bridge := b.bridge } (E.global postMessageFlushName c₂) link w₂ =
      .done (c₃, .ok flush) w₃ ∧
    b.postMessageFlush = (if E.isFunction c₃ flush then some flush else none) ∧
    b.maxPendingJobs = config.maxPendingJobs

namespace Inside

variable {link : Link E K} {c c' : E.Context} {w v : World E K}

theorem bind_ok {m : Inside E K α} {f : α → Inside E K β} {b : β}
    (h : (m >>= f).run c link w = .done (.ok b, c') v) :
    ∃ a c₁ w₁, m.run c link w = .done (.ok a, c₁) w₁ ∧
      (f a).run c₁ link w₁ = .done (.ok b, c') v := by
  rw [run_bind, Act.bind_apply, Outcome.bind_eq_done] at h
  obtain ⟨⟨r, c₁⟩, w₁, hrun, hrest⟩ := h
  cases r with
  | ok a => exact ⟨a, c₁, w₁, hrun, hrest⟩
  | error failure => cases hrest

theorem perform_ok {s : Surroundings E} {run : E.Context → Run E.Context E.Value (E.Context × α)} {a : α}
    (h : (Inside.perform s run : Inside E K α).run c link w = .done (.ok a, c') v) :
    Act.carryOut s (run c) link w = .done (c', a) v := by
  rw [run_perform, Act.bind_apply, Outcome.bind_eq_done] at h
  obtain ⟨p, u, hrun, heq⟩ := h
  cases heq
  exact hrun

theorem readGlobal_ok {s : Surroundings E} {name : String} {a : E.Value}
    (h : (Brain.readGlobal s name : Inside E K E.Value).run c link w = .done (.ok a, c') v) :
    Act.carryOut s (E.global name c) link w = .done (c', .ok a) v := by
  obtain ⟨r, c₁, w₁, hrun, hrest⟩ := bind_ok h
  cases r with
  | ok a' =>
    cases hrest
    exact perform_ok hrun
  | error thrown => cases hrest

end Inside

namespace Attempt

variable {link : Link E K} {w v : World E K}

theorem bind_ok {m : Attempt E K α} {f : α → Attempt E K β} {b : β}
    (h : (m >>= f).run link w = .done (.ok b) v) :
    ∃ a w₁, m.run link w = .done (.ok a) w₁ ∧ (f a).run link w₁ = .done (.ok b) v := by
  rw [run_bind, Act.bind_apply, Outcome.bind_eq_done] at h
  obtain ⟨r, w₁, hrun, hrest⟩ := h
  cases r with
  | ok a => exact ⟨a, w₁, hrun, hrest⟩
  | error failure => cases hrest

end Attempt

theorem Brain.entryPoints_ok {s : Surroundings E} {source : String} {update : E.Value}
    {flush? : Option E.Value} {link : Link E K} {c c' : E.Context} {w v : World E K}
    (h : (Brain.entryPoints s source : Inside E K _).run c link w = .done (.ok (update, flush?), c') v) :
    ∃ last flush c₁ c₂ w₁ w₂,
      (Inside.evaluate s "Error while compiling brain JS: " "Exception caught while running brain JS: "
        source).run c link w = .done (.ok last, c₁) w₁ ∧
      Act.carryOut s (E.global updateAgentName c₁) link w₁ = .done (c₂, .ok update) w₂ ∧
      E.isFunction c₂ update = true ∧
      Act.carryOut s (E.global postMessageFlushName c₂) link w₂ = .done (c', .ok flush) v ∧
      flush? = if E.isFunction c' flush then some flush else none := by
  obtain ⟨last, c₁, w₁, hsource, h⟩ := Inside.bind_ok h
  obtain ⟨update', c₂, w₂, hupdate, h⟩ := Inside.bind_ok h
  obtain ⟨callable, c₃, w₃, hcallable, h⟩ := Inside.bind_ok h
  cases hcallable
  dsimp only at h
  split at h
  · cases h
  · next hfunction =>
    obtain ⟨flush, c₄, w₄, hflush, h⟩ := Inside.bind_ok h
    obtain ⟨hasFlush, c₅, w₅, hhas, h⟩ := Inside.bind_ok h
    cases hhas
    cases h
    exact ⟨last, flush, c₁, c₂, w₁, w₂, hsource, Inside.readGlobal_ok hupdate,
      by simpa using hfunction, Inside.readGlobal_ok hflush, rfl⟩

/-- A brain as it was made, by whatever link. -/
def Brain.Made (K : HostKind) (b : Brain E) : Prop :=
  ∃ (source : String) (config : EngineConfig) (link : Link E K) (w v : World E K),
    (Brain.make source config : Attempt E K (Brain E)).run link w = .done (.ok b) v

def bridged (w : World E K) : World E K := { w with results := w.results.push none }

theorem Brain.make_apply (source : String) (config : EngineConfig) (link : Link E K) (w : World E K) :
    (Brain.make source config : Attempt E K (Brain E)).run link w =
      match E.create config brainFunctions with
      | .error reason => .done (.error (.engine reason)) w
      | .ok c =>
        ((Brain.entryPoints { bridge := w.results.size } source : Inside E K _).run c link (bridged w)).bind
          fun p v => .done (p.1.map fun points =>
            { context := some p.2, source, bridge := w.results.size, updateAgent := points.1
              postMessageFlush := points.2, maxPendingJobs := config.maxPendingJobs }) v := by
  unfold Brain.make
  cases E.create config brainFunctions with
  | error reason => rfl
  | ok c =>
    have bridge : (ExceptT.lift Act.newBridge : Attempt E K Nat).run link w =
        .done (.ok w.results.size) (bridged w) := rfl
    dsimp only
    rw [Attempt.run_bind, Act.bind_apply, bridge, Outcome.bind_done]
    have inside : (Attempt.inside c (Brain.entryPoints { bridge := w.results.size } source) :
        Attempt E K _).run link (bridged w) =
        ((Brain.entryPoints { bridge := w.results.size } source : Inside E K _).run c link (bridged w)).bind
          fun p v => .done (.ok p) v := Act.bind_apply ..
    dsimp only
    rw [Attempt.run_bind, Act.bind_apply, inside, Outcome.bind_assoc]
    congr 1
    funext ⟨r, c'⟩ v
    cases r <;> rfl

theorem Brain.make_ok {source : String} {config : EngineConfig} {b : Brain E} {link : Link E K}
    {w v : World E K}
    (h : (Brain.make source config : Attempt E K (Brain E)).run link w = .done (.ok b) v) :
    ∃ c c' w₁, E.create config brainFunctions = .ok c ∧
      (Brain.entryPoints { bridge := b.bridge } source : Inside E K _).run c link w₁ =
        .done (.ok (b.updateAgent, b.postMessageFlush), c') v ∧
      b = { context := some c', source, bridge := b.bridge, updateAgent := b.updateAgent
            postMessageFlush := b.postMessageFlush, maxPendingJobs := config.maxPendingJobs } := by
  rw [Brain.make_apply] at h
  split at h
  · cases h
  · next c hcreate =>
    obtain ⟨⟨r, c'⟩, w₁, hran, heq⟩ := Outcome.bind_eq_done.mp h
    cases r with
    | error failure => cases heq
    | ok points =>
      cases heq
      exact ⟨c, c', bridged w, hcreate, hran, rfl⟩

theorem Brain.make_captured {source : String} {config : EngineConfig} {b : Brain E}
    {link : Link E K} {w v : World E K}
    (h : (Brain.make source config : Attempt E K (Brain E)).run link w = .done (.ok b) v) :
    b.Captured K := by
  obtain ⟨c, c', w₁, hcreate, hran, hb⟩ := Brain.make_ok h
  obtain ⟨last, flush, c₁, c₂, w₃, w₄, hsource, hupdate, hfunction, hflush, hflush?⟩ :=
    Brain.entryPoints_ok hran
  rw [hb]
  exact ⟨link, config, last, flush, c, c₁, c₂, c', w₁, w₃, w₄, v, hcreate, hsource, hupdate,
    hfunction, hflush, hflush?, rfl⟩

theorem Brain.Made.captured {b : Brain E} (h : b.Made K) : b.Captured K := by
  obtain ⟨source, config, link, w, v, hmake⟩ := h
  exact Brain.make_captured hmake

end BrainHost

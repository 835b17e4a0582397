import BrainHost.Proofs.Boundary.Heard
import BrainHost.Proofs.Boundary.Report
import BrainHost.Proofs.Service.Ownership

/-! # Reports outside a call

While no service call is in flight a report is an error, and the error sink is told so. Before the first
service call no reporter is kept, and the report goes straight to the log. From then on it goes to the
reporter that is kept, which is closed by then, and which checks the size of a text before anything else. -/

namespace BrainHost.Boundary

variable {E : Engine} {K : HostKind} {S : Type}

/-! ## Texts without a NUL -/

def NulFree (text : String) : Prop := ∀ c ∈ text.toList, 0 < c.toNat

instance (text : String) : Decidable (NulFree text) :=
  List.decidableBAll (fun c : Char => 0 < c.toNat) text.toList

namespace NulFree

theorem append {before after : String} (h₁ : NulFree before) (h₂ : NulFree after) : NulFree (before ++ after) := by
  unfold NulFree
  rw [String.toList_append, List.forall_mem_append]
  exact ⟨h₁, h₂⟩

theorem number (n : Nat) : NulFree (toString n) := by
  intro c hc
  have digit := Nat.isDigit_of_mem_toDigits (by decide) (by decide) (Nat.toList_repr ▸ hc)
  have low : 48 ≤ c.toNat := by
    simp only [Char.isDigit, Bool.and_eq_true, decide_eq_true_eq] at digit
    exact digit.1
  omega

theorem decoded (bytes : Bytes) : NulFree (Boundary.decoded bytes) := by
  cases bytes with
  | none => exact nofun
  | some bytes =>
    unfold Boundary.decoded
    dsimp only
    cases read : String.fromUTF8? (upToNul bytes) with
    | none => exact nofun
    | some text =>
      intro c hc
      have same : text.toUTF8 = upToNul bytes := by
        unfold String.fromUTF8? at read
        split at read
        · injection read with read
          rw [← read]
          rfl
        · cases read
      have nonzero : ∀ b ∈ text.toUTF8.data.toList, b ≠ 0 := by
        rw [same, upToNul_toList]
        intro b hb
        simpa using List.mem_takeWhile_imp hb
      by_contra zero
      obtain rfl : c = '\x00' := Char.toNat_inj.mp (Nat.eq_zero_of_not_pos zero)
      refine nonzero 0 ?_ rfl
      rw [Text.toUTF8_data, List.mem_flatMap]
      exact ⟨_, hc, by decide⟩

theorem describe (limit : Limit) : NulFree limit.describe := by
  cases limit <;> decide

theorem rejection (cause : Rejection) : NulFree cause.message := by
  cases cause with
  | empty limit => exact ((by decide : NulFree "A required ").append (describe limit)).append (by decide)
  | tooLong limit actual =>
    have bound : NulFree ("A given " ++ limit.describe ++ " exceeded the maximum expected length of ") :=
      ((by decide : NulFree "A given ").append (describe limit)).append (by decide)
    exact (((bound.append (number _)).append (by decide)).append (number actual)).append (by decide)

end NulFree

/-! ## One report -/

/-- What is wrong with a report outside a call, by whether a service was called before. -/
def strayFailure (called : Bool) (text : String) : ServiceFailure :=
  match called, Limit.json.check text with
  | true, .error cause => .resultRejected cause
  | _, _ => .noCurrentUser text

theorem NulFree.stray (called : Bool) {text : String} (h : NulFree text) :
    NulFree (strayFailure called text).message := by
  unfold strayFailure
  split
  · exact (by decide : NulFree "Service result was rejected: ").append (rejection _)
  · exact NulFree.append (by decide) h

theorem strayFailure_true (text : String) : strayFailure true text = lateFailure text := by
  unfold strayFailure lateFailure
  cases Limit.json.check text <;> rfl

/-- The error sink is told a text, if it is set, and no other function of the host is called: a call is
over when the sink is. -/
def TellsOnly (text : String) (use : Use) (link : Link E K) (w : World E K) (o : Outcome (World E K) Unit) : Prop :=
  ∃ journal reporters,
    let told := hold (taken use w.boundary.holding) { w with journal, reporters }
    o = ((if w.hooks.isSet .errorLog then (link (.error text) told).bind fun _ v => .done () v
      else .done () told).settle (released use)).caught () panicked

theorem TellsOnly.of_logError {text : String} (h : NulFree text) (use : Use) (link : Link E K) (w : World E K)
    (journal : Array (Entry K.Note)) (reporters : Array Reporter) :
    TellsOnly text use link w (((Act.logError text (relay link)
      (hold (taken use w.boundary.holding) { w with journal, reporters })).settle (released use)).caught () panicked) := by
  refine ⟨journal.push (.logged ⟨.error, "brain", text⟩), reporters, ?_⟩
  rw [Act.logError_apply, relay_error, hasNul_of_positive h, if_neg Bool.false_ne_true]
  rfl

theorem late_eq (reporter : Nat) (text : String) (w : World E K) :
    ∃ journal reporters, Act.late reporter text w = { w with journal, reporters } := by
  unfold Act.late
  split
  · exact ⟨_, w.reporters, rfl⟩
  · exact ⟨w.journal, _, rfl⟩

theorem work_late {reporter : Nat} {bytes : Bytes} (link : Link E K) (w : World E K)
    (hclosed : ¬ IsOpenIn w.reporters reporter) :
    (Call.reportResult bytes).work (some reporter) link w =
      Act.logError (lateFailure (decoded bytes)).message link (Act.late reporter (decoded bytes) w) := by
  change (Act.report reporter (decoded bytes) >>= fun _ => pure ()) link w = _
  rw [Act.bind_apply, Act.report_late link w reporter _ hclosed, Act.logService_apply, Outcome.bind_assoc]
  cases Act.logError _ link _ <;> rfl

/-- A report through a reporter that is closed, or without one, tells the error sink what is wrong. -/
theorem stray_tells {w : World E K} (bytes : Bytes) (link : Link E K)
    (hclosed : ∀ reporter ∈ w.boundary.lastReporter, ¬ IsOpenIn w.reporters reporter)
    (hfree : w.boundary.holding ≠ .exclusive) :
    TellsOnly (strayFailure w.boundary.lastReporter.isSome (decoded bytes)).message
      ((Call.reportResult bytes).use w.boundary.lastReporter) link w ((Call.reportResult bytes).act link w) := by
  obtain ⟨journal, hread⟩ := (Call.reportResult bytes).read_eq w
  have quiet (called : Bool) := NulFree.stray called (.decoded bytes)
  cases hlast : w.boundary.lastReporter with
  | none =>
    obtain ⟨count, hshared⟩ : ∃ count, w.boundary.holding = .shared count := by
      cases h : w.boundary.holding with
      | shared count => exact ⟨count, rfl⟩
      | exclusive => exact absurd h hfree
    rw [Call.act_granted link (by rw [hlast, hshared]; rfl)]
    unfold Call.letIn
    rw [hread, hlast]
    exact .of_logError (quiet false) _ link w journal w.reporters
  | some reporter =>
    rw [Call.act_granted link (by rw [hlast]; rfl)]
    unfold Call.letIn
    rw [hread, hlast]
    have closed : ¬ IsOpenIn w.reporters reporter := hclosed reporter hlast
    obtain ⟨journal', reporters, hlate⟩ :=
      late_eq reporter (decoded bytes) (hold w.boundary.holding { w with journal })
    have told : (Call.reportResult bytes).work (some reporter) (relay link)
        (hold w.boundary.holding { w with journal }) =
          Act.logError (strayFailure true (decoded bytes)).message (relay link)
            (hold w.boundary.holding { w with journal := journal', reporters }) := by
      refine (work_late _ (hold w.boundary.holding { w with journal }) closed).trans ?_
      rw [hlate, strayFailure_true]
      rfl
    have whole := TellsOnly.of_logError (quiet true) .nothing link w journal' reporters
    rw [taken, ← told] at whole
    exact whole

/-! ## Whether a service was called -/

def Callback.isService : Callback → Bool
  | .callService .. => true
  | _ => false

theorem Callback.isService_of_other {callback : Callback}
    (h : ∀ service args reporter, callback ≠ .callService service args reporter) :
    Callback.isService callback = false := by
  cases callback with
  | callService service args reporter => exact absurd rfl (h service args reporter)
  | _ => rfl

/-- A host function for services begins. -/
def Cue.isService : Cue → Bool
  | .entered callback => Callback.isService callback
  | _ => false

/-- At a moment of the past a reporter was kept if a service had been called, and only then. -/
def Recalled (sights : List Sight) : Prop :=
  ∀ m earlier, m :: earlier <:+ sights → m.lastReporter.isSome = (m :: earlier).any (·.cue.isService)

/-- A reporter is kept if a service was called, and only then. While a service is being called, the reporter is
kept before the host's function begins. -/
structure Recalls (calling : Bool) (w : World E (Watched S)) : Prop where
  now : w.boundary.lastReporter.isSome = (calling || w.host.sights.any (·.cue.isService))
  past : Recalled w.host.sights

namespace Recalls

variable {calling : Bool} {w v : World E (Watched S)}

theorem of_same (h : Recalls calling w) (hkept : v.boundary.lastReporter = w.boundary.lastReporter)
    (hsights : v.host.sights = w.host.sights) : Recalls calling v where
  now := by rw [hkept, hsights]; exact h.now
  past := by rw [hsights]; exact h.past

theorem seen {cue : Cue} (h : Recalls cue.isService w) : Recalls false (seen cue w) where
  now := h.now
  past m earlier hm := by
    rcases List.suffix_cons_iff.mp hm with e | hm
    · obtain ⟨rfl, rfl⟩ := List.cons_eq_cons.mp e
      exact h.now
    · exact h.past m earlier hm

end Recalls

/-- Conduct: what the runtime does under the boundary leaves it to the boundary to keep reporters. -/
def recalling (E : Engine) (S : Type) : Conduct E (Watched S) where
  admits link := ∀ callback w, Recalls false w → (link callback w).Ends (Recalls false)
  rel w v := Recalls false w → Recalls false v
  refl _ h := h
  trans h₁ h₂ h := h₂ (h₁ h)

namespace recalling

theorem of_same {w v : World E (Watched S)} (hkept : v.boundary.lastReporter = w.boundary.lastReporter)
    (hsights : v.host.sights = w.host.sights) : (recalling E S).rel w v := fun h => h.of_same hkept hsights

theorem lax : (recalling E S).Lax where
  logged _ _ := of_same rfl rfl
  invoke callback _ hl w := Outcome.Ends.imp (hl callback w)
  serving _ _ _ _ := of_same rfl rfl

theorem free : (recalling E S).Free :=
  .of_table lax.loud lax.callService (fun _ _ _ _ => of_same rfl rfl) (fun _ => of_same rfl rfl)
    fun _ _ => trivial

theorem work (call : Call) (lastReporter : Option Nat) :
    Act.Keeps (recalling E S) (call.work lastReporter : Act E (Watched S) call.Answer) :=
  Call.work_keeps_of_free free (fun _ _ _ _ => of_same rfl rfl) fun _ _ _ _ => lax.report _ _

end recalling

/-- Conduct: on the boundary a reporter is kept where a service is called. -/
def remembering (E : Engine) (S : Type) : Conduct E (Watched S) where
  admits link := ∀ callback w, Recalls (Callback.isService callback) w → (link callback w).Ends (Recalls false)
  rel w v := Recalls false w → Recalls false v
  refl _ h := h
  trans h₁ h₂ h := h₂ (h₁ h)

namespace remembering

theorem of_same {w v : World E (Watched S)} (hkept : v.boundary.lastReporter = w.boundary.lastReporter)
    (hsights : v.host.sights = w.host.sights) : (remembering E S).rel w v := fun h => h.of_same hkept hsights

theorem loud : (remembering E S).Loud where
  logged _ _ := of_same rfl rfl
  invoke callback hc := by
    intro link hl w
    refine Outcome.Ends.imp fun h => ?_
    have called := hl callback w
    rw [Callback.isService_of_other hc] at called
    exact called h

theorem relayedService {link : Link E (Watched S)} (hl : (remembering E S).admits link)
    (service args : String) (reporter : Nat) {w : World E (Watched S)} (h : Recalls false w) :
    (relayed (.callService service args reporter) link w).Ends (Recalls false) := by
  rw [relayed_service]
  split
  · exact h.of_same rfl rfl
  · exact hl _ _ ⟨rfl, h.past⟩

theorem relay {link : Link E (Watched S)} (hl : (remembering E S).admits link) :
    (recalling E S).admits (Boundary.relay link) := by
  intro callback w h
  by_cases hservice : ∃ service args reporter, callback = .callService service args reporter
  · obtain ⟨service, args, reporter, rfl⟩ := hservice
    exact relayedService hl service args reporter h
  · have kept : Act.Keeps (remembering E S) (relayed callback : Act E (Watched S) Reply) :=
      Relayed.keeps loud (fun _ _ => of_same rfl rfl) fun service args reporter heq =>
        hservice ⟨service, args, reporter, heq⟩
    exact (kept link hl w).mono fun v hv => hv h

theorem act (call : Call) : Act.Keeps (remembering E S) (call.act : Act E (Watched S) call.Answer) := by
  intro link hl w
  refine Outcome.Ends.imp fun h => ?_
  cases hbusy : busy (call.use w.boundary.lastReporter) w.boundary.holding with
  | true =>
    obtain ⟨journal, hrefused⟩ := Call.act_refused link hbusy
    rw [hrefused]
    exact h.of_same rfl rfl
  | false =>
    rw [Call.act_granted link hbusy]
    obtain ⟨journal, hread⟩ := call.read_eq w
    unfold Call.letIn
    rw [hread]
    have worked := recalling.work call w.boundary.lastReporter (Boundary.relay link) (relay hl)
      (hold (taken (call.use w.boundary.lastReporter) w.boundary.holding) { w with journal })
    refine ((worked.mono fun v hv => hv (h.of_same rfl rfl)).settle fun v hv => ?_).caught _ fun v hv => ?_
    · cases call.use w.boundary.lastReporter with
      | nothing => exact hv
      | _ =>
        unfold released release
        dsimp only
        split <;> exact hv.of_same rfl rfl
    · exact hv.of_same rfl rfl

theorem see {cue : Cue} (h : cue.isService = false) : Act.Keeps (remembering E S) (Boundary.see cue) :=
  Act.Keeps.modify fun _ hw => Recalls.seen (by rwa [h])

theorem watchedCall (call : Call) : Act.Keeps (remembering E S) (Boundary.watchedCall call) :=
  (see rfl).bind fun _ => (act call).bind fun answer => (see rfl).bind fun _ => Act.Keeps.pure answer

theorem watched (code : Code S) : Act.Keeps (remembering E S) code.watched := by
  induction code with
  | finish reply => exact Act.Keeps.pure reply
  | think change next ih =>
    have thinks : Act.Keeps (remembering E S) (Act.modify fun w : World E (Watched S) =>
        { w with host := { w.host with own := change w.host.own } }) :=
      Act.Keeps.modify fun _ => of_same rfl rfl
    exact thinks.bind fun _ => Act.Keeps.get.bind fun w => ih _
  | call asked next ih => exact (watchedCall asked).bind ih

theorem link (host : Callback → Code S) (depth : Nat) : (remembering E S).admits (watching host depth) := by
  -- Calls at depth 0 are stuck, and a call one deeper is code over the link below it.
  induction depth with
  | zero => exact fun _ _ _ => trivial
  | succ depth ih =>
    intro callback w h
    have entered : Recalls false (seen (.entered callback) (stepIn callback w)) :=
      Recalls.seen (h.of_same rfl rfl)
    have rest : Act.Keeps (remembering E S) (do
        let reply ← (host callback).watched
        Boundary.see (.left callback)
        pure reply) :=
      (watched _).bind fun reply => (see rfl).bind fun _ => Act.Keeps.pure reply
    have ran := rest (watching host depth) ih (seen (.entered callback) (stepIn callback w))
    exact (ran.mono fun v hv => hv entered).settle fun v hv => hv.of_same rfl rfl

end remembering

/-! ## Runs -/

/-- No service was called yet. -/
structure Untouched (w : World E (Watched S)) : Prop extends Quiescent w where
  unkept : w.boundary.lastReporter = none
  uncalled : w.host.sights.any (·.cue.isService) = false

theorem Untouched.recalls {w : World E (Watched S)} (h : Untouched w) : Recalls false w where
  now := by rw [h.unkept, h.uncalled]; rfl
  past m earlier hm := by
    obtain ⟨cue, hsights⟩ := h.sights
    have uncalled := h.uncalled
    rw [hsights] at hm uncalled
    rcases List.suffix_cons_iff.mp hm with e | hm
    · rw [e, uncalled, (List.cons_eq_cons.mp e).1]
      exact congrArg Option.isSome h.unkept
    · exact absurd (List.suffix_nil.mp hm) (List.cons_ne_nil m earlier)

/-- **Reports outside a call.** Whatever calls host code makes of the boundary, from inside host functions and to
any depth: at every moment at which no service call is in flight and nobody has the runtime for itself, a report
tells the error sink one text and calls no other function of the host. Of a text within its bound it says that
there is no service user. Of an empty or an oversized one it says that the result was rejected, once a service
has been called, and that there is no service user, before that. -/
theorem stray_reports (host : Callback → Code S) (depth : Nat) (code : Code S) {w : World E (Watched S)}
    (h : Untouched w) :
    (code.watched (watching host depth) w).Ends fun v =>
      ∀ m earlier, m :: earlier <:+ v.host.sights → m.inFlight = false →
        ∀ (link : Link E (Watched S)) (u : World E (Watched S)),
          sight m.cue u = m → u.boundary.holding ≠ .exclusive → ∀ bytes,
            TellsOnly (strayFailure ((m :: earlier).any (·.cue.isService)) (decoded bytes)).message
              ((Call.reportResult bytes).use m.lastReporter) link u ((Call.reportResult bytes).act link u) := by
  have orderly := native.watched code (watching host depth) (native.link host depth) w
  have recalls := remembering.watched code (watching host depth) (remembering.link host depth) w
  refine (orderly.and recalls).mono fun v hv m earlier hm hidle link u hu hfree bytes => ?_
  have sound := (hv.1 h.orderly).1.past m (hm.mem List.mem_cons_self)
  have recalled := (hv.2 h.recalls).past m earlier hm
  have last : u.boundary.lastReporter = m.lastReporter := congrArg Sight.lastReporter hu
  have reporters : u.reporters = m.reporters := congrArg Sight.reporters hu
  have closed : ∀ reporter ∈ u.boundary.lastReporter, ¬ IsOpenIn u.reporters reporter := by
    rw [reporters]
    intro reporter _ hopen
    have runs := sound.flag.mpr (List.ne_nil_of_mem ((sound.opened reporter).mp hopen))
    rw [hidle] at runs
    cases runs
  have tells := stray_tells bytes link closed hfree
  rwa [last, recalled] at tells

/-- A host that keeps what its error sink is told, and reports once for every call. -/
def listening : Callback → Code (List String)
  | .callService .. => .call (.reportResult (some "1".toUTF8)) fun _ => .finish .none
  | .error message => .think (· ++ [message]) fun _ => .finish .none
  | _ => .finish .none

/-- A runtime that is not started yet, for a host whose functions for services and for errors are set. -/
def unheard : World callingEngine (Watched (List String)) :=
  seen (.returned .stop) { hooks := ⟨[.callService, .errorLog]⟩, host := { own := [] } }

theorem unheard_untouched : Untouched unheard where
  inFlight := rfl
  functions := rfl
  closed := by simp [IsOpenIn, unheard, seen]
  sights := ⟨_, rfl⟩
  unkept := rfl
  uncalled := rfl

/-- Reports nothing at all, makes a brain whose source calls a service, and reports nothing again. -/
def twice : Code (List String) :=
  .call (.reportResult none) fun _ => .call (.start (some "p".toUTF8)) fun _ =>
    .call (.reset (some "b".toUTF8) (some "s".toUTF8)) fun _ => .call (.reportResult none) fun _ => .finish .none

/-- Both reports are outside a call, and each tells the sink a text of its own. -/
theorem stray_reports_twice :
    Untouched unheard ∧ ∃ reply v, twice.watched (watching listening 1) unheard = .done reply v ∧
      v.host.own = [(ServiceFailure.noCurrentUser "").message,
        (ServiceFailure.resultRejected (.empty .json)).message] ∧
      ∀ m earlier, m :: earlier <:+ v.host.sights → m.inFlight = false →
        ∀ (link : Link callingEngine (Watched (List String))) u, sight m.cue u = m →
          u.boundary.holding ≠ .exclusive →
            TellsOnly (strayFailure ((m :: earlier).any (·.cue.isService)) "").message
              ((Call.reportResult none).use m.lastReporter) link u ((Call.reportResult none).act link u) := by
  have tells := stray_reports listening 1 twice unheard_untouched
  have ran : (twice.watched (watching listening 1) unheard).Returns fun _ v =>
      v.host.own = [(ServiceFailure.noCurrentUser "").message,
        (ServiceFailure.resultRejected (.empty .json)).message] := by
    decide +kernel
  obtain ⟨reply, v, hrun, hown⟩ := ran.exists_done
  rw [hrun] at tells
  exact ⟨unheard_untouched, reply, v, hrun, hown, fun m earlier hm hidle link u hu hfree =>
    tells m earlier hm hidle link u hu hfree none⟩

/-- Reports nothing at all, once. -/
def once : Code (List String) := .call (.reportResult none) fun _ => .finish .none

/-- Before the first service call the size of a text is not looked at: an empty text is not rejected. -/
theorem stray_report_unchecked :
    Untouched unheard ∧ ∃ reply v, once.watched (watching listening 1) unheard = .done reply v ∧
      v.host.own = [(ServiceFailure.noCurrentUser "").message] ∧
      v.host.own ≠ [(lateFailure "").message] := by
  have ran : (once.watched (watching listening 1) unheard).Returns fun _ v =>
      v.host.own = [(ServiceFailure.noCurrentUser "").message] ∧ v.host.own ≠ [(lateFailure "").message] := by
    decide +kernel
  obtain ⟨reply, v, hrun, hown⟩ := ran.exists_done
  exact ⟨unheard_untouched, reply, v, hrun, hown⟩

end BrainHost.Boundary

import ArStack.TimeSync.PtpControlCancellation

/-!
# A STOP is not lost

Any number of threads start operations and ask for a STOP, one atomic operation at a time.

* `Ownership` — what has happened since a thread acquired the gate
* `Drained` — every STOP so far is behind a callback or in an ownership whose callback is over
* `GateInv.step` — one step; `stop_drained` — every run
-/

namespace ArStack.TimeSync

open ArStack.Lib PtpControlCancellationGate

variable {Thread : Type}

abbrev GateStep (Thread : Type) :=
  Step (PtpControlCancellationGate Thread) (GateEvent Thread) (GateAnswer Thread)

/-- The steps `mid` are those since the thread acquired the gate, which is not released since. -/
def Since (thread : Thread) (past mid : List (GateStep Thread)) : Prop :=
  ∃ front acquisition, past = front ++ acquisition :: mid ∧
    acquisition.output = .acquired thread ∧ ∀ s ∈ mid, ¬s.output.releases

/-- Every STOP is followed by the end of a callback, or the owner's callback was over when it
was requested. -/
def Drained (past : List (GateStep Thread)) : Prop :=
  ∀ front request back, past = front ++ request :: back → request.output.stops →
    (∃ s ∈ back, s.output.completes) ∨
      ∃ thread mid, Since thread front mid ∧ ∃ s ∈ mid, s.output.completes

/-- What is guaranteed of a step after the steps of `past`. -/
def GateSafe (past : List (GateStep Thread)) (s : GateStep Thread) : Prop :=
  match s.output with
  | .called thread =>
    (s.before.threads thread).owns ∧ ∃ mid, Since thread past mid ∧ ∀ t ∈ mid, ¬t.output.calls
  | .completed thread => (s.before.threads thread).owns = true
  | .released thread result =>
    Drained past ∧ (result = true → ∃ mid, Since thread past mid ∧ ∀ t ∈ mid, ¬t.output.stops)
  | _ => True

/-! ## Ownership -/

/-- The position of an owner that has not called the callback. -/
def GateThread.Uncalled (position : GateThread) : Prop :=
  position = .owner ∨ position = .loading false ∨ position = .releasing false

/-- The position of an owner whose callback is over. -/
def GateThread.Done (position : GateThread) : Prop :=
  position = .draining ∨ position = .loading true ∨ position = .releasing true

/-- What has happened since a thread acquired the gate. -/
structure Owned (past : List (GateStep Thread)) (state : UInt8) (thread : Thread)
    (position : GateThread) (mid : List (GateStep Thread)) : Prop where
  since : Since thread past mid
  unstopped : state &&& kStop = 0 → ∀ s ∈ mid, ¬s.output.stops
  uncalled : position.Uncalled → ∀ s ∈ mid, ¬s.output.calls
  done : position.Done → ∃ s ∈ mid, s.output.completes

def Ownership (past : List (GateStep Thread)) (state : UInt8) (thread : Thread)
    (position : GateThread) : Prop := ∃ mid, Owned past state thread position mid

theorem ownership_acquired (past : List (GateStep Thread)) (state : UInt8) {thread : Thread}
    {s : GateStep Thread} (h : s.output = .acquired thread) :
    Ownership (past ++ [s]) state thread .owner :=
  ⟨[],
    { since := ⟨past, s, rfl, h, fun _ hmem => absurd hmem List.not_mem_nil⟩
      unstopped := fun _ _ hmem => absurd hmem List.not_mem_nil
      uncalled := fun _ _ hmem => absurd hmem List.not_mem_nil
      done := by rintro (h | h | h) <;> cases h }⟩

/-- An owner that does not release stays an owner. -/
theorem Ownership.concat {past : List (GateStep Thread)} {state state' : UInt8} {thread : Thread}
    {position position' : GateThread} {s : GateStep Thread}
    (h : Ownership past state thread position) (hrelease : ¬s.output.releases)
    (hstop : state' &&& kStop = 0 → state &&& kStop = 0 ∧ ¬s.output.stops)
    (hcall : position'.Uncalled → position.Uncalled ∧ ¬s.output.calls)
    (hdone : position'.Done → position.Done ∨ s.output.completes) :
    Ownership (past ++ [s]) state' thread position' := by
  obtain ⟨mid, ⟨front, acquisition, rfl, hacquired, hkept⟩, hunstopped, huncalled, hcompleted⟩ := h
  refine ⟨mid ++ [s], ⟨front, acquisition, by simp, hacquired, ?_⟩, ?_, ?_, ?_⟩
  · exact List.forall_mem_append.mpr ⟨hkept, by simpa using hrelease⟩
  · intro hclear
    obtain ⟨hbefore, hnone⟩ := hstop hclear
    exact List.forall_mem_append.mpr ⟨hunstopped hbefore, by simpa using hnone⟩
  · intro hposition
    obtain ⟨hbefore, hnone⟩ := hcall hposition
    exact List.forall_mem_append.mpr ⟨huncalled hbefore, by simpa using hnone⟩
  · intro hposition
    rcases hdone hposition with hbefore | hnow
    · obtain ⟨c, hmem, hc⟩ := hcompleted hbefore
      exact ⟨c, List.mem_append_left _ hmem, hc⟩
    · exact ⟨s, List.mem_append_right _ List.mem_cons_self, hnow⟩

/-! ## Draining -/

theorem not_completes_of_stops {answer : GateAnswer Thread} (h : answer.stops) :
    ¬answer.completes := by
  cases answer <;> first | exact Bool.false_ne_true | cases h

theorem drained_nil : Drained ([] : List (GateStep Thread)) :=
  fun _ _ _ h => absurd h.symm (List.append_ne_nil_of_right_ne_nil _ (List.cons_ne_nil _ _))

theorem Drained.concat {past : List (GateStep Thread)} {s : GateStep Thread} (h : Drained past)
    (hstop : ¬s.output.stops) : Drained (past ++ [s]) := by
  intro front request back hsplit hrequest
  rcases split_concat hsplit with ⟨rfl, rfl, rfl⟩ | ⟨back, rfl, hpast⟩
  · exact absurd hrequest hstop
  · rcases h front request back hpast hrequest with ⟨c, hmem, hc⟩ | hover
    · exact .inl ⟨c, List.mem_append_left _ hmem, hc⟩
    · exact .inr hover

/-- **Once the callback of an owner is over, every STOP is drained.** -/
theorem Ownership.drained {past : List (GateStep Thread)} {state : UInt8} {thread : Thread}
    {position : GateThread} (h : Ownership past state thread position) (hdone : position.Done) :
    Drained past := by
  obtain ⟨mid, ⟨early, acquisition, rfl, hacquired, hkept⟩, -, -, hcompleted⟩ := h
  obtain ⟨c, hmem, hc⟩ := hcompleted hdone
  obtain ⟨mid₁, mid₂, rfl⟩ := List.append_of_mem hmem
  intro front request back hsplit hrequest
  -- the request is before the end of the callback, that end itself, or in the ownership after it
  have hsplit' : (early ++ acquisition :: mid₁) ++ c :: mid₂ = front ++ request :: back := by
    rw [← hsplit, List.append_assoc, List.cons_append]
  rcases List.append_eq_append_iff.mp hsplit' with ⟨late, hfront, hlate⟩ | ⟨late, hearly, hlate⟩
  · cases late with
    | nil =>
      obtain ⟨rfl, -⟩ := List.cons.inj hlate
      exact absurd hc (not_completes_of_stops hrequest)
    | cons first late =>
      rw [List.cons_append] at hlate
      obtain ⟨rfl, hmid⟩ := List.cons.inj hlate
      refine .inr ⟨thread, mid₁ ++ c :: late, ⟨early, acquisition, ?_, hacquired, ?_⟩, c, by simp, hc⟩
      · rw [hfront, List.append_assoc, List.cons_append]
      · intro s hs
        refine hkept s ?_
        rw [hmid]
        simp only [List.mem_append, List.mem_cons] at hs ⊢
        tauto
  · cases late with
    | nil =>
      obtain ⟨rfl, -⟩ := List.cons.inj hlate
      exact absurd hc (not_completes_of_stops hrequest)
    | cons first late =>
      rw [List.cons_append] at hlate
      obtain ⟨-, rfl⟩ := List.cons.inj hlate
      exact .inl ⟨c, by simp, hc⟩

/-! ## The gate -/

structure GateInv (past : List (GateStep Thread)) (s : PtpControlCancellationGate Thread) :
    Prop where
  word : s.state < 4
  busy : ∀ thread, (s.threads thread).owns → s.state &&& kBusy ≠ 0
  unique : ∀ thread other, (s.threads thread).owns → (s.threads other).owns → thread = other
  drained : s.state &&& kStop = 0 → Drained past
  owned : ∀ thread, (s.threads thread).owns → Ownership past s.state thread (s.threads thread)

theorem gateInv_initial : GateInv [] ({} : PtpControlCancellationGate Thread) where
  word := (by decide : (0 : UInt8) < 4)
  busy _ h := absurd h Bool.false_ne_true
  unique _ _ h := absurd h Bool.false_ne_true
  drained _ := drained_nil
  owned _ h := absurd h Bool.false_ne_true

section

variable [DecidableEq Thread]

/-- A step that leaves who owns the gate. -/
theorem GateInv.move {past : List (GateStep Thread)} {s : PtpControlCancellationGate Thread}
    (h : GateInv past s) {thread : Thread} {state : UInt8} {position : GateThread}
    {t : GateStep Thread} (hword : state < 4) (hbusy : s.state &&& kBusy ≠ 0 → state &&& kBusy ≠ 0)
    (howns : position.owns = (s.threads thread).owns) (hrelease : ¬t.output.releases)
    (hstop : state &&& kStop = 0 → s.state &&& kStop = 0 ∧ ¬t.output.stops)
    (hother : t.output.calls → (s.threads thread).owns)
    (hcall : position.Uncalled → (s.threads thread).Uncalled ∧ ¬t.output.calls)
    (hdone : position.Done → (s.threads thread).Done ∨ t.output.completes) :
    GateInv (past ++ [t]) (s.move thread state position) := by
  have howns' (other : Thread) :
      ((s.move thread state position).threads other).owns = (s.threads other).owns := by
    by_cases heq : other = thread
    · rw [heq, move_threads_self, howns]
    · rw [move_threads_of_ne _ _ _ heq]
  refine ⟨hword, ?_, ?_, ?_, ?_⟩
  · intro other hother
    exact hbusy (h.busy other (howns' other ▸ hother))
  · intro a b ha hb
    exact h.unique a b (howns' a ▸ ha) (howns' b ▸ hb)
  · intro hclear
    obtain ⟨hbefore, hnone⟩ := hstop hclear
    exact (h.drained hbefore).concat hnone
  · intro other howner
    rw [howns'] at howner
    have hownership := h.owned other howner
    by_cases heq : other = thread
    · obtain rfl := heq
      rw [move_threads_self]
      exact hownership.concat hrelease hstop hcall hdone
    · rw [move_threads_of_ne _ _ _ heq]
      refine hownership.concat hrelease hstop (fun hposition => ⟨hposition, fun hcalls => ?_⟩) .inl
      exact heq (h.unique other thread howner (hother hcalls))

theorem GateInv.acquire {past : List (GateStep Thread)} {s : PtpControlCancellationGate Thread}
    (h : GateInv past s) (hfree : s.state &&& kBusy = 0) {thread : Thread} {state : UInt8}
    {t : GateStep Thread} (hword : state < 4) (hbusy : state &&& kBusy ≠ 0)
    (hstop : state &&& kStop = 0 → s.state &&& kStop = 0) (houtput : t.output = .acquired thread) :
    GateInv (past ++ [t]) (s.move thread state .owner) := by
  have hnone (other : Thread) : ¬(s.threads other).owns := fun howns => h.busy other howns hfree
  have honly (other : Thread) (howns : ((s.move thread state .owner).threads other).owns) :
      other = thread := by
    by_contra hne
    rw [move_threads_of_ne _ _ _ hne] at howns
    exact hnone other howns
  refine ⟨hword, fun _ _ => hbusy, ?_, ?_, ?_⟩
  · intro a b ha hb
    rw [honly a ha, honly b hb]
  · intro hclear
    refine (h.drained (hstop hclear)).concat ?_
    rw [houtput]
    exact Bool.false_ne_true
  · intro other howns
    obtain rfl := honly other howns
    rw [move_threads_self]
    exact ownership_acquired past state houtput

theorem GateInv.release {past : List (GateStep Thread)} {s : PtpControlCancellationGate Thread}
    (h : GateInv past s) {thread : Thread} (howns : (s.threads thread).owns)
    (hdrained : Drained past) {result : Bool} {t : GateStep Thread}
    (houtput : t.output = .released thread result) :
    GateInv (past ++ [t]) (s.move thread 0 .idle) := by
  have hnone (other : Thread) : ¬((s.move thread 0 .idle).threads other).owns := by
    intro hother
    by_cases heq : other = thread
    · rw [heq, move_threads_self] at hother
      cases hother
    · rw [move_threads_of_ne _ _ _ heq] at hother
      exact heq (h.unique other thread hother howns)
  refine ⟨(by decide : (0 : UInt8) < 4), fun other hother => absurd hother (hnone other),
    fun other _ hother => absurd hother (hnone other), fun _ => hdrained.concat ?_,
    fun other hother => absurd hother (hnone other)⟩
  rw [houtput]
  exact Bool.false_ne_true

/-- The words of the gate. -/
theorem word_cases {word : UInt8} (h : word < 4) :
    word = 0 ∨ word = kBusy ∨ word = kStop ∨ word = kBusy ||| kStop := by
  have hlt : word.toNat < 4 := UInt8.lt_iff_toNat_lt.mp h
  have hcases : word.toNat = 0 ∨ word.toNat = 1 ∨ word.toNat = 2 ∨ word.toNat = 3 := by omega
  rcases hcases with heq | heq | heq | heq
  · exact .inl (UInt8.toNat_inj.mp heq)
  · exact .inr (.inl (UInt8.toNat_inj.mp heq))
  · exact .inr (.inr (.inl (UInt8.toNat_inj.mp heq)))
  · exact .inr (.inr (.inr (UInt8.toNat_inj.mp heq)))

theorem move_self (s : PtpControlCancellationGate Thread) (thread : Thread) :
    s.move thread s.state (s.threads thread) = s := by
  rw [move, Function.update_eq_self]

/-- A step that changes nothing. -/
theorem GateInv.stay {past : List (GateStep Thread)} {s : PtpControlCancellationGate Thread}
    (h : GateInv past s) (thread : Thread) {t : GateStep Thread} (hstop : ¬t.output.stops)
    (hcall : ¬t.output.calls) (hrelease : ¬t.output.releases) : GateInv (past ++ [t]) s := by
  have hmove : GateInv (past ++ [t]) (s.move thread s.state (s.threads thread)) :=
    h.move h.word id rfl hrelease (fun hclear => ⟨hclear, hstop⟩)
      (fun hcalls => absurd hcalls hcall) (fun huncalled => ⟨huncalled, hcall⟩) .inl
  rwa [move_self] at hmove

/-- The step is safe, and the invariant holds after it. -/
def Preserved (past : List (GateStep Thread)) (t : GateStep Thread) : Prop :=
  GateSafe past t ∧ GateInv (past ++ [t]) t.after

variable {past : List (GateStep Thread)} {s : PtpControlCancellationGate Thread}
  {thread : Thread} {e : GateEvent Thread}

/-- An exchange of a free word by `try_acquire` or by a stopper. -/
theorem GateInv.exchange_acquire (h : GateInv past s) {expected desired : UInt8}
    (hexpected : expected &&& kBusy = 0) (hword : desired < 4) (hbusy : desired &&& kBusy ≠ 0)
    (hstop : desired &&& kStop = 0 → expected &&& kStop = 0) {state : UInt8}
    (hexchange : s.exchange expected desired = some state) :
    Preserved past ⟨e, s, .acquired thread, s.move thread state .owner⟩ := by
  rw [PtpControlCancellationGate.exchange] at hexchange
  split at hexchange
  · rename_i heq
    obtain rfl := Option.some.inj hexchange
    exact ⟨trivial, h.acquire (heq ▸ hexpected) hword hbusy (heq ▸ hstop) rfl⟩
  · cases hexchange

theorem GateInv.tryAcquire (h : GateInv past s) :
    Preserved past ⟨e, s, (s.tryAcquire thread).1, (s.tryAcquire thread).2⟩ := by
  rw [PtpControlCancellationGate.tryAcquire]
  split
  · rename_i word hexchange
    exact h.exchange_acquire (by decide) (by decide) (by decide) (by decide) hexchange
  · exact ⟨trivial, h.stay thread Bool.false_ne_true Bool.false_ne_true Bool.false_ne_true⟩

/-- A stopper sets the bit, so that nothing need hold of the STOP yet. -/
theorem GateInv.requestStop (h : GateInv past s) (hidle : s.threads thread = .idle) :
    Preserved past ⟨e, s, (s.requestStop thread).1, (s.requestStop thread).2⟩ := by
  have hset (position : GateThread) (howns : position.owns = false) (t : GateStep Thread)
      (houtput : t.output = .stopRequested thread) :
      GateInv (past ++ [t]) (s.move thread (s.state ||| kStop) position) := by
    have hbits : s.state ||| kStop < 4 ∧ (s.state ||| kStop) &&& kStop ≠ 0 ∧
        (s.state &&& kBusy ≠ 0 → (s.state ||| kStop) &&& kBusy ≠ 0) := by
      rcases word_cases h.word with heq | heq | heq | heq <;> rw [heq] <;> decide
    have hrelease : ¬t.output.releases := by rw [houtput]; exact Bool.false_ne_true
    have hcalls : ¬t.output.calls := by rw [houtput]; exact Bool.false_ne_true
    refine h.move hbits.1 hbits.2.2 (by rw [howns, hidle]; rfl) hrelease
      (fun hclear => absurd hclear hbits.2.1) (fun hcall => absurd hcall hcalls) ?_ ?_
    · rintro (rfl | rfl | rfl) <;> cases howns
    · rintro (rfl | rfl | rfl) <;> cases howns
  rw [PtpControlCancellationGate.requestStop]
  split
  · exact ⟨trivial, hset .idle rfl _ rfl⟩
  · exact ⟨trivial, hset .requested rfl _ rfl⟩

/-- An owner goes on without an exchange. -/
theorem GateInv.advance (h : GateInv past s) {position : GateThread} {t : GateStep Thread}
    (hbefore : (s.threads thread).owns) (howns : position.owns) (hstop : ¬t.output.stops)
    (hrelease : ¬t.output.releases)
    (hcall : position.Uncalled → (s.threads thread).Uncalled ∧ ¬t.output.calls)
    (hdone : position.Done → (s.threads thread).Done ∨ t.output.completes) :
    GateInv (past ++ [t]) (s.move thread s.state position) :=
  h.move h.word id (by rw [howns, hbefore]) hrelease (fun hclear => ⟨hclear, hstop⟩)
    (fun _ => hbefore) hcall hdone

theorem GateInv.finish (h : GateInv past s) (howner : s.threads thread = .owner) :
    Preserved past ⟨e, s, .none, s.move thread s.state (.loading false)⟩ := by
  refine ⟨trivial, h.advance (by rw [howner]; rfl) rfl Bool.false_ne_true Bool.false_ne_true ?_ ?_⟩
  · exact fun _ => ⟨.inl howner, Bool.false_ne_true⟩
  · rintro (heq | heq | heq) <;> cases heq

theorem GateInv.next_requested (h : GateInv past s) (hposition : s.threads thread = .requested) :
    Preserved past ⟨e, s, (s.next thread).1, (s.next thread).2⟩ := by
  rw [PtpControlCancellationGate.next, hposition]
  dsimp only
  split
  · rename_i word hexchange
    exact h.exchange_acquire (by decide) (by decide) (by decide) (by decide) hexchange
  · refine ⟨trivial, h.move h.word id (by rw [hposition]; rfl) Bool.false_ne_true
      (fun hclear => ⟨hclear, Bool.false_ne_true⟩) (fun hcall => absurd hcall Bool.false_ne_true)
      ?_ ?_⟩
    · rintro (heq | heq | heq) <;> cases heq
    · rintro (heq | heq | heq) <;> cases heq

theorem GateInv.next_loading (h : GateInv past s) {cancelled : Bool}
    (hposition : s.threads thread = .loading cancelled) :
    Preserved past ⟨e, s, (s.next thread).1, (s.next thread).2⟩ := by
  have hbefore : (s.threads thread).owns := by rw [hposition]; rfl
  rw [PtpControlCancellationGate.next, hposition]
  dsimp only
  split
  · cases cancelled with
    | true =>
      refine ⟨trivial, h.advance hbefore rfl Bool.false_ne_true Bool.false_ne_true ?_ ?_⟩
      · rintro (heq | heq | heq) <;> cases heq
      · exact fun _ => .inl (.inr (.inl hposition))
    | false =>
      obtain ⟨mid, howned⟩ := h.owned thread hbefore
      refine ⟨⟨hbefore, mid, howned.since, howned.uncalled (.inr (.inl hposition))⟩,
        h.advance hbefore rfl Bool.false_ne_true Bool.false_ne_true ?_ ?_⟩
      · rintro (heq | heq | heq) <;> cases heq
      · rintro (heq | heq | heq) <;> cases heq
  · refine ⟨trivial, h.advance hbefore rfl Bool.false_ne_true Bool.false_ne_true ?_ ?_⟩
    · rintro (heq | heq | heq) <;> cases heq
      exact ⟨.inr (.inl hposition), Bool.false_ne_true⟩
    · rintro (heq | heq | heq) <;> cases heq
      exact .inl (.inr (.inl hposition))

theorem GateInv.next_calling (h : GateInv past s) (hposition : s.threads thread = .calling) :
    Preserved past ⟨e, s, (s.next thread).1, (s.next thread).2⟩ := by
  have hbefore : (s.threads thread).owns := by rw [hposition]; rfl
  rw [PtpControlCancellationGate.next, hposition]
  refine ⟨hbefore, h.advance hbefore rfl Bool.false_ne_true Bool.false_ne_true ?_ ?_⟩
  · rintro (heq | heq | heq) <;> cases heq
  · exact fun _ => .inr rfl

theorem GateInv.next_draining (h : GateInv past s) (hposition : s.threads thread = .draining) :
    Preserved past ⟨e, s, (s.next thread).1, (s.next thread).2⟩ := by
  have hbefore : (s.threads thread).owns := by rw [hposition]; rfl
  have hdone : (s.threads thread).Done := .inl hposition
  rw [PtpControlCancellationGate.next, hposition]
  dsimp only
  split
  · rename_i word hexchange
    rw [PtpControlCancellationGate.exchange] at hexchange
    split at hexchange
    · obtain rfl := Option.some.inj hexchange
      have hdrained : Drained past := (h.owned thread hbefore).drained hdone
      exact ⟨⟨hdrained, fun htrue => absurd htrue Bool.false_ne_true⟩,
        h.release hbefore hdrained rfl⟩
    · cases hexchange
  · refine ⟨trivial, h.advance hbefore rfl Bool.false_ne_true Bool.false_ne_true ?_ ?_⟩
    · rintro (heq | heq | heq) <;> cases heq
    · exact fun _ => .inl hdone

theorem GateInv.next_releasing (h : GateInv past s) {cancelled : Bool}
    (hposition : s.threads thread = .releasing cancelled) :
    Preserved past ⟨e, s, (s.next thread).1, (s.next thread).2⟩ := by
  have hbefore : (s.threads thread).owns := by rw [hposition]; rfl
  rw [PtpControlCancellationGate.next, hposition]
  dsimp only
  split
  · rename_i word hexchange
    rw [PtpControlCancellationGate.exchange] at hexchange
    split at hexchange
    · rename_i hword
      obtain rfl := Option.some.inj hexchange
      have hclear : s.state &&& kStop = 0 := by rw [hword]; decide
      obtain ⟨mid, howned⟩ := h.owned thread hbefore
      exact ⟨⟨h.drained hclear, fun _ => ⟨mid, howned.since, howned.unstopped hclear⟩⟩,
        h.release hbefore (h.drained hclear) rfl⟩
    · cases hexchange
  · refine ⟨trivial, h.advance hbefore rfl Bool.false_ne_true Bool.false_ne_true ?_ ?_⟩
    · rintro (heq | heq | heq) <;> cases heq
      exact ⟨.inr (.inr hposition), Bool.false_ne_true⟩
    · rintro (heq | heq | heq) <;> cases heq
      exact .inl (.inr (.inr hposition))

/-- **One step of any thread.** -/
theorem GateInv.step (h : GateInv past s) (e : GateEvent Thread) :
    Preserved past (stepOn PtpControlCancellationGate.step s e) := by
  have hstay (thread : Thread) : Preserved past ⟨e, s, .none, s⟩ :=
    ⟨trivial, h.stay thread Bool.false_ne_true Bool.false_ne_true Bool.false_ne_true⟩
  rw [stepOn]
  cases e with
  | tryAcquire thread =>
    rw [PtpControlCancellationGate.step]
    split
    · exact h.tryAcquire
    · exact hstay thread
  | requestStop thread =>
    rw [PtpControlCancellationGate.step]
    split
    · rename_i hidle
      exact h.requestStop hidle
    · exact hstay thread
  | finish thread =>
    rw [PtpControlCancellationGate.step]
    split
    · rename_i howner
      exact h.finish howner
    · exact hstay thread
  | next thread =>
    rw [PtpControlCancellationGate.step]
    cases hposition : s.threads thread with
    | idle =>
      rw [PtpControlCancellationGate.next, hposition]
      exact hstay thread
    | owner =>
      rw [PtpControlCancellationGate.next, hposition]
      exact hstay thread
    | requested => exact h.next_requested hposition
    | loading cancelled => exact h.next_loading hposition
    | calling => exact h.next_calling hposition
    | draining => exact h.next_draining hposition
    | releasing cancelled => exact h.next_releasing hposition

/-! ## Runs -/

/-- The steps of a run, from the first on. -/
def gateHistory (events : List (GateEvent Thread)) : List (GateStep Thread) :=
  history PtpControlCancellationGate.step {} events

/-- **STOP is not lost.** -/
theorem stop_drained (events : List (GateEvent Thread)) :
    (∀ thread other : Thread,
      let gate := outcome PtpControlCancellationGate.step {} events
      (gate.threads thread).owns → (gate.threads other).owns → thread = other) ∧
    ∀ past s future, gateHistory events = past ++ s :: future → GateSafe past s := by
  have hrule (past : List (GateStep Thread)) (s : PtpControlCancellationGate Thread)
      (e : GateEvent Thread) (h : GateInv past s) (_ : ∀ t ∈ past, True) :
      GateSafe past (stepOn PtpControlCancellationGate.step s e) ∧
        GateInv (past ++ [stepOn PtpControlCancellationGate.step s e])
          (PtpControlCancellationGate.step s e).2 := h.step e
  refine ⟨fun thread other => ?_, fun past s future hsplit => ?_⟩
  · have hinv : ∃ past, GateInv past (outcome PtpControlCancellationGate.step {} events) :=
      exec_invariant (fun s => ∃ past, GateInv past s)
        (fun s e ⟨past, h⟩ => ⟨past ++ [stepOn PtpControlCancellationGate.step s e], (h.step e).2⟩)
        ⟨[], gateInv_initial⟩ events
    obtain ⟨past, h⟩ := hinv
    exact h.unique thread other
  · exact history_rule (R := fun _ _ => True) GateInv GateSafe hrule
      (List.pairwise_of_forall fun _ _ => trivial) gateInv_initial hsplit

end

/-- A STOP meets an operation and is drained before the gate is free. -/
def stoppedOperation : List (GateEvent (Fin 3)) :=
  [.tryAcquire 0, .requestStop 1, .finish 0, .next 0, .next 0, .next 0]

theorem stop_drained_sample :
    (gateHistory stoppedOperation).map (·.output) =
      [.acquired 0, .stopRequested 1, .none, .called 0, .completed 0, .released 0 false] ∧
    ∀ s ∈ (gateHistory stoppedOperation)[5]?,
      GateSafe ((gateHistory stoppedOperation).take 5) s := by
  refine ⟨by decide, fun s hs => ?_⟩
  exact (stop_drained stoppedOperation).2 _ s [] (by cases hs; rfl)

/-- A second STOP comes between the end of the callback and the release. -/
def lateStop : List (GateEvent (Fin 3)) :=
  [.tryAcquire 0, .requestStop 1, .finish 0, .next 0, .next 0, .requestStop 2, .next 0]

theorem late_stop_uncompleted :
    ∃ past s future, gateHistory lateStop = past ++ s :: future ∧ s.output = .released 0 false ∧
      ∃ front request back, past = front ++ request :: back ∧ request.output = .stopRequested 2 ∧
        ∀ t ∈ back, t.output.completes = false :=
  ⟨_, _, [], List.dropLast_append_getLast (List.cons_ne_nil _ _) |>.symm, rfl, _, _, [],
    (List.dropLast_append_getLast (List.cons_ne_nil _ _)).symm, rfl,
    fun _ h => absurd h List.not_mem_nil⟩

end ArStack.TimeSync

import UcosArm64.Driver.RxSystem

set_option relaxedAutoImplicit false
set_option autoImplicit false

/-!
# The interrupt of the receive queue

`virtio_net_interrupt_handler` reads InterruptStatus, scans the used ring, and acknowledges the bits
it read only after the scan. What the device announces between the last comparison of the scan and
the acknowledgement is acknowledged without having been seen: the interrupt is lost. Without such
an announcement no interrupt is lost.

## Main definitions

* `Driver.InterruptPending` — unconsumed elements have their interrupt bit set.
* `Driver.AnnouncedInWindow` — a step of the device that loses an interrupt.

## Main results

* `Driver.interruptPending_of_stepsMeet` — if no step announces an unconsumed element in the window,
  no interrupt is lost.
* `Driver.lostRun_not_interruptPending` — a run that loses an interrupt.
-/

namespace Driver

open Transition

/-- When the handler is not running and the device has finished its step, unconsumed used elements
have bit 0 of InterruptStatus set. -/
def InterruptPending (s : RxState) : Prop :=
  s.handler = .idle → s.device ≠ .published → s.rxLastUsed ≠ s.usedIdx →
    s.interruptStatus &&& 1 ≠ 0

/-- The handler has seen bit 0, has left the scan, and has not written InterruptAck. -/
def inWindow (s : RxState) : Bool :=
  match s.handler with
  | .acknowledge status => status &&& 1 ≠ 0
  | _ => false

/-- The device sets the interrupt bit in the window, while a used element is unconsumed. -/
def AnnouncedInWindow (s : RxState) (a : RxAction) : Prop :=
  a = .raise ∧ inWindow s = true ∧ s.rxLastUsed ≠ s.usedIdx

instance (s : RxState) (a : RxAction) : Decidable (AnnouncedInWindow s a) :=
  inferInstanceAs (Decidable (_ ∧ _ ∧ _))

/-- An unconsumed element is about to be announced. -/
def Unannounced (s : RxState) : Prop := s.rxLastUsed ≠ s.usedIdx → s.device = .published

/-- The bit is set, or whatever is unconsumed is about to be announced. -/
def Announced (s : RxState) : Prop :=
  s.rxLastUsed ≠ s.usedIdx → s.interruptStatus &&& 1 ≠ 0 ∨ s.device = .published

/-- **The invariant of the handler**, by its program counter. The scan is entered with bit 0 set,
and leaves only what is still to be announced. -/
structure HandlerInv (s : RxState) : Prop where
  outside : s.handler = .idle ∨ s.handler = .entered → Announced s
  scanning : ∀ status flags, s.handler = .scan status flags ∨ s.handler = .element status flags →
    status &&& 1 ≠ 0
  window : ∀ status, s.handler = .acknowledge status → status &&& 1 ≠ 0 → Unannounced s
  other : ∀ status, s.handler = .acknowledge status → status &&& 1 = 0 → Announced s

/-! ## Bits of InterruptStatus -/

/-- A mask distributes over a disjunction of bits. -/
lemma and_or_distrib (a b c : UInt32) : (a ||| b) &&& c = a &&& c ||| b &&& c := by
  apply UInt32.toBitVec_inj.mp
  simp only [UInt32.toBitVec_and, UInt32.toBitVec_or]
  exact BitVec.and_or_distrib_right

/-- Setting bits does not clear bit 0. -/
lemma or_and_one_ne_zero {status : UInt32} (h : status &&& 1 ≠ 0) (bits : UInt32) :
    (status ||| bits) &&& 1 ≠ 0 := by
  rw [and_or_distrib, Ne, UInt32.or_eq_zero_iff]
  exact fun hz => h hz.1

/-- Setting bit 0. -/
lemma or_one_and_one_ne_zero (status : UInt32) : (status ||| 1) &&& 1 ≠ 0 := by
  rw [and_or_distrib, Ne, UInt32.or_eq_zero_iff]
  exact fun hz => absurd hz.2 (by decide)

/-- Acknowledging other bits leaves bit 0 alone. -/
lemma and_not_and_one {ack : UInt32} (h : ack &&& 1 = 0) (status : UInt32) :
    (status &&& ~~~ack) &&& 1 = status &&& 1 := by
  have hone : ~~~ack &&& 1 = 1 := by
    have hall : (ack ||| ~~~ack) &&& 1 = 1 := by
      rw [UInt32.or_not_self]
      decide
    rw [and_or_distrib, h, UInt32.zero_or] at hall
    exact hall
  rw [UInt32.and_assoc, hone]

/-! ## The invariant -/

/-- A step of the device keeps the invariant if it keeps the two conditions. -/
lemma HandlerInv.device {s t : RxState} (hs : HandlerInv s) (hh : t.handler = s.handler)
    (hout : Announced s → Announced t) (hwin : inWindow s = true → Unannounced s → Unannounced t) :
    HandlerInv t := by
  constructor
  · intro h
    rw [hh] at h
    exact hout (hs.outside h)
  · intro status flags h
    rw [hh] at h
    exact hs.scanning status flags h
  · intro status h hbit
    rw [hh] at h
    exact hwin (by simp [inWindow, h, hbit]) (hs.window status h hbit)
  · intro status h hbit
    rw [hh] at h
    exact hout (hs.other status h hbit)

/-- The invariant while the handler does not run. -/
lemma handlerInv_of_outside {s : RxState} (hh : s.handler = .idle ∨ s.handler = .entered)
    (h : Announced s) : HandlerInv s := by
  constructor
  · intro _
    exact h
  · intro status flags h
    rcases hh with hh | hh <;> simp [hh] at h
  · intro status h
    rcases hh with hh | hh <;> simp [hh] at h
  · intro status h
    rcases hh with hh | hh <;> simp [hh] at h

/-- The invariant in the scan. -/
lemma handlerInv_of_scanning {s : RxState} {status : UInt32} {flags : ScanFlags}
    (hh : s.handler = .scan status flags ∨ s.handler = .element status flags)
    (hbit : status &&& 1 ≠ 0) : HandlerInv s := by
  constructor
  · intro h
    rcases hh with hh | hh <;> simp [hh] at h
  · intro status' flags' h
    rcases hh with hh | hh <;> simp only [hh] at h <;> simp_all
  · intro status' h
    rcases hh with hh | hh <;> simp [hh] at h
  · intro status' h
    rcases hh with hh | hh <;> simp [hh] at h

/-- The invariant before the acknowledgement. -/
lemma handlerInv_of_acknowledge {s : RxState} {status : UInt32}
    (hh : s.handler = .acknowledge status) (hwin : status &&& 1 ≠ 0 → Unannounced s)
    (hout : status &&& 1 = 0 → Announced s) : HandlerInv s := by
  constructor
  · intro h
    simp [hh] at h
  · intro status' flags h
    simp [hh] at h
  · intro status' h hbit
    rw [hh] at h
    cases h
    exact hwin hbit
  · intro status' h hbit
    rw [hh] at h
    cases h
    exact hout hbit

/-- **Step lemma.** A step that announces nothing in the window keeps the invariant. -/
theorem HandlerInv.step {n : ℕ} {s t : RxState} {a : RxAction} (hs : HandlerInv s)
    (hC : ¬ AnnouncedInWindow s a) (h : rxStep n s a = some t) : HandlerInv t := by
  cases rxRule_of_rxStep h with
  | take hne => exact hs.device rfl id fun _ => id
  | write id len hdev hid =>
    refine hs.device rfl (fun ha hne => ?_) fun _ hu hne => ?_
    · exact Or.inl ((ha hne).resolve_right fun hp => by simp [hdev] at hp)
    · have hp := hu hne
      simp [hdev] at hp
  | publish id hdev => exact hs.device rfl (fun _ _ => Or.inr rfl) fun _ _ _ => rfl
  | raise hdev =>
    refine hs.device rfl (fun _ _ => Or.inl (or_one_and_one_ne_zero _)) fun hw _ hne => ?_
    exact absurd ⟨rfl, hw, hne⟩ hC
  | other bits =>
    refine hs.device rfl (fun ha hne => ?_) fun _ hu hne => hu hne
    exact (ha hne).imp_left fun hbit => or_and_one_ne_zero hbit bits
  | irq hh => exact handlerInv_of_outside (Or.inr rfl) (hs.outside (Or.inl hh))
  | readUsed hh hbit => exact handlerInv_of_scanning (Or.inl rfl) hbit
  | readOther hh hbit =>
    exact handlerInv_of_acknowledge rfl (fun hb => absurd hbit hb) fun _ => hs.outside (Or.inr hh)
  | leave status flags hh hempty =>
    refine handlerInv_of_acknowledge rfl (fun _ hne => absurd hempty hne) fun _ hne => ?_
    exact absurd hempty hne
  | loop status flags hh hmore =>
    exact handlerInv_of_scanning (Or.inr rfl) (hs.scanning status flags (Or.inl hh))
  | element status flags hh =>
    exact handlerInv_of_scanning (Or.inl rfl) (hs.scanning status flags (Or.inr hh))
  | acknowledge status hh =>
    refine handlerInv_of_outside (Or.inl rfl) fun hne => ?_
    by_cases hbit : status &&& 1 = 0
    · refine (hs.other status hh hbit hne).imp_left fun hset => ?_
      simp only
      rw [and_not_and_one hbit]
      exact hset
    · exact Or.inr (hs.window status hh hbit hne)
  | stay a hh ht => exact hs
  | drop hh ht hcount hid => exact hs.device rfl id fun _ => id
  | poll hh ht hcount => exact hs.device rfl id fun _ => id
  | release id hh ht hcount hid => exact hs.device rfl (fun ha => ha) fun _ hu => hu
  | slot id hh ht => exact hs.device rfl (fun ha => ha) fun _ hu => hu
  | store id slot hh ht => exact hs.device rfl (fun ha => ha) fun _ hu => hu
  | load id hh ht => exact hs.device rfl (fun ha => ha) fun _ hu => hu
  | bump id idx hh ht => exact hs.device rfl (fun ha => ha) fun _ hu => hu

/-- Nothing is unconsumed at the start. -/
lemma handlerInv_rxInit (n : ℕ) : HandlerInv (rxInit n) :=
  handlerInv_of_outside (Or.inl rfl) fun hne => absurd rfl hne

/-- **No interrupt is lost** in a run in which the device never announces an unconsumed element
while the handler stands between its last comparison and the write of InterruptAck.

**Proof sketch.** The invariant is kept by every step of such a run (`HandlerInv.step`). In a state
in which the handler is not running it says that what is unconsumed has its bit set, or is still to
be announced. -/
theorem interruptPending_of_stepsMeet (n : ℕ) (as : List RxAction) {s : RxState}
    (hC : StepsMeet (rxStep n) (fun s a => ¬ AnnouncedInWindow s a) (rxInit n) as)
    (h : exec (rxStep n) (rxInit n) as = some s) : InterruptPending s := by
  have hinv : HandlerInv s :=
    exec_invariant_of_stepsMeet (I := HandlerInv) (C := fun s a => ¬ AnnouncedInWindow s a)
      (fun _ _ _ hs hC h => HandlerInv.step hs hC h) (handlerInv_rxInit n) hC h
  intro hh hdev hne
  exact (hinv.outside (Or.inl hh) hne).resolve_right hdev

/-! ## A lost interrupt -/

/-- A second frame arrives between the last comparison and the acknowledgement of the first. -/
def lostRun : List RxAction := receive 0 ++ scanOne ++ receive 1 ++ [.handler]

/-- A quiet run: the second frame arrives after the acknowledgement of the first. -/
def quietRun : List RxAction := receive 0 ++ scanOne ++ [.handler] ++ receive 1

/-- In the quiet run the interrupt of the second frame is pending. -/
theorem quietRun_interruptPending :
    ∃ s, exec (rxStep 256) (rxInit 256) quietRun = some s ∧ InterruptPending s := by
  have hsome : (exec (rxStep 256) (rxInit 256) quietRun).isSome = true := by decide
  obtain ⟨s, hs⟩ := Option.isSome_iff_exists.mp hsome
  exact ⟨s, hs, interruptPending_of_stepsMeet 256 quietRun (stepsMeet_of_meets (by decide)) hs⟩

/-- What the property speaks about, in the state after a run. -/
def observe (s : RxState) : HandlerPc × DevicePc × UInt16 × UInt16 × UInt32 :=
  (s.handler, s.device, s.rxLastUsed, s.usedIdx, s.interruptStatus)

/-- The second frame is left behind: it is not consumed, and its interrupt is acknowledged. -/
theorem lostRun_not_interruptPending :
    ∃ s, exec (rxStep 256) (rxInit 256) lostRun = some s ∧ ¬ InterruptPending s := by
  have hobs : (exec (rxStep 256) (rxInit 256) lostRun).map observe =
      some (.idle, .idle, 1, 2, 0) := by decide
  obtain ⟨s, hs, hval⟩ := Option.map_eq_some_iff.mp hobs
  simp only [observe, Prod.mk.injEq] at hval
  obtain ⟨hh, hdev, hlast, hused, hstatus⟩ := hval
  refine ⟨s, hs, fun hp => ?_⟩
  have hbit := hp hh (by rw [hdev]; decide) (by rw [hlast, hused]; decide)
  rw [hstatus] at hbit
  exact hbit (by decide)

end Driver

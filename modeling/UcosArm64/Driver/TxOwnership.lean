import UcosArm64.Driver.TxIndices

set_option relaxedAutoImplicit false
set_option autoImplicit false

/-!
# Who owns the slots of the transmit queue

The device may return its entries in any order. A call of `virtio_net_send_frame_dev` counts how
many entries were returned, and takes the slots round-robin; it does not look at which ones were
returned. So it writes a slot that the device still owns, unless the frame that used the slot
before has been returned.

## Main definitions

* `Driver.Owned` — the device owns a slot.
* `Driver.Rewrites` — a step writes a slot that the device owns.
* `Driver.PriorReturned` — the condition under which a call does not.

## Main results

* `Driver.never_rewrites_iff` — no step of a run writes an owned slot exactly when every step meets
  the condition.
* `Driver.rewrites_keepFirst` — a run in which a call writes an owned slot.
-/

namespace Driver

open Ring Transition

/-! ## Ownership -/

/-- The slot whose buffer or descriptor the next step of the call writes. -/
def SendPc.writes : SendPc → Option ℕ
  | .header _ idx | .payload _ idx | .describe _ idx => some idx
  | _ => none

/-- The device owns the slot: an entry that it has not returned, or has not yet taken, names it. -/
def Owned (n : ℕ) (s : TxState) (idx : ℕ) : Prop :=
  idx ∈ (s.held.map Taken.id ++ between n s.availRing s.deviceAvail s.availIdx).map UInt16.toNat

instance (n : ℕ) (s : TxState) (idx : ℕ) : Decidable (Owned n s idx) :=
  inferInstanceAs (Decidable (idx ∈ List.map _ _))

/-- The step writes a slot that the device owns. -/
def Rewrites (n : ℕ) (s : TxState) (a : TxAction) : Prop :=
  a = .call ∧ ∃ idx, s.pc.writes = some idx ∧ Owned n s idx

/-- The next step of the call is the first that writes the slot. -/
def SendPc.begins : SendPc → Bool
  | .header _ _ => true
  | _ => false

/-- The device has returned the frame at the position. -/
def Returned (s : TxState) (p : ℕ) : Prop := p < s.takes ∧ ∀ e ∈ s.held, e.number ≠ p

/-- When a call begins to write its slot, the device has returned the frame that is `n` positions
before the one of the call. -/
def PriorReturned (n : ℕ) (s : TxState) (a : TxAction) : Prop :=
  a = .call → s.pc.begins → n ≤ s.accepted.length → Returned s (s.accepted.length - n)

instance (s : TxState) (p : ℕ) : Decidable (Returned s p) :=
  inferInstanceAs (Decidable (_ ∧ _))

instance (n : ℕ) (s : TxState) (a : TxAction) : Decidable (PriorReturned n s a) :=
  inferInstanceAs (Decidable (_ → _))

/-- The call has begun to write its slot, and its frame is not yet available. -/
def SendPc.begun : SendPc → Bool
  | .payload _ _ | .describe _ _ | .enqueue _ _ | .bump _ => true
  | _ => false

/-- **The invariant of ownership**: the frames that the device has not returned are at most `n`
positions back, and less while a call writes its slot. -/
structure TxOwn (n : ℕ) (s : TxState) : Prop where
  recent : ∀ e ∈ s.held, s.accepted.length ≤ e.number + n
  begun : s.pc.begun → ∀ e ∈ s.held, s.accepted.length < e.number + n

section Step

variable {n l : ℕ} {s t : TxState}

/-- The position of an entry that the device has not taken. -/
lemma TxCount.mem_between (hc : TxCount n s l) (hn : n ∣ 65536) (hn' : n ≤ 256) {idx : ℕ} :
    idx ∈ (between n s.availRing s.deviceAvail s.availIdx).map UInt16.toNat ↔
      ∃ p, s.takes ≤ p ∧ p < s.accepted.length ∧ p % n = idx := by
  rw [hc.between_eq hn hn', window, List.map_map, List.mem_map]
  simp only [List.mem_range, Function.comp_apply]
  constructor
  · rintro ⟨k, hk, rfl⟩
    exact ⟨s.takes + k, by omega, by omega, (hc.ring _ (by omega) (by omega)).symm⟩
  · rintro ⟨p, hp, hlt, rfl⟩
    refine ⟨p - s.takes, by omega, ?_⟩
    rw [Nat.add_sub_cancel' hp]
    exact hc.ring p hp hlt

/-- The slots that the device owns are the slots of the positions that it has not returned. -/
lemma TxCount.owned_iff (hc : TxCount n s l) (hn : n ∣ 65536) (hn' : n ≤ 256) {idx : ℕ} :
    Owned n s idx ↔ (∃ e ∈ s.held, e.number % n = idx) ∨
      ∃ p, s.takes ≤ p ∧ p < s.accepted.length ∧ p % n = idx := by
  rw [Owned, List.map_append, List.mem_append, hc.mem_between hn hn', List.map_map, List.mem_map]
  refine or_congr_left (exists_congr fun e => and_congr_right fun he => ?_)
  rw [Function.comp_apply, (hc.entries e he).2]

/-- A call that has not begun to write. -/
lemma TxOwn.setPc (hs : TxOwn n s) (pc : SendPc) (hpc : pc.begun = false) :
    TxOwn n { s with pc := pc } :=
  { hs with begun := fun h => by simp [hpc] at h }

/-- A call that goes on writing. -/
lemma TxOwn.goOn (hs : TxOwn n s) (hpc : s.pc.begun) (pc : SendPc) : TxOwn n { s with pc := pc } :=
  { hs with begun := fun _ => hs.begun hpc }

/-- The device has returned the frame that used the slot before. -/
lemma TxOwn.lt_of_prior (hs : TxOwn n s)
    (hprior : n ≤ s.accepted.length → Returned s (s.accepted.length - n)) :
    ∀ e ∈ s.held, s.accepted.length < e.number + n := by
  intro e he
  have hle := hs.recent e he
  by_contra hge
  have hn : n ≤ s.accepted.length := by omega
  exact (hprior hn).2 e he (by omega)

/-- **Step lemma.**

**Proof sketch.** One case per rule. The condition gives the smaller bound when a call begins to
write its slot, and it lasts until the index counts the frame; what the device takes is newer. -/
theorem TxOwn.step {a : TxAction} (hs : TxOwn n s) (hc : TxCount n s l)
    (hprior : PriorReturned n s a) (h : txStep n s a = some t) : TxOwn n t := by
  have hbalance := hc.balance
  have hroom := hc.room
  have hsampled := hc.sampled
  cases txRule_of_txStep h with
  | refuse frame hpc => exact { hs with }
  | enter frame hpc => exact { hs.setPc (.sample frame) rfl with }
  | sample frame pc hpc hpc' =>
    have hbegun : pc.begun = false := by
      cases pc <;> simp_all [SendPc.choosing, SendPc.begun]
    exact { hs.setPc pc hbegun with }
  | again frame pc hpc hpc' =>
    have hbegun : pc.begun = false := by
      cases pc <;> simp_all [SendPc.choosing, SendPc.begun]
    exact hs.setPc pc hbegun
  | room frame hpc hroom => exact hs.setPc (.slot frame) rfl
  | full frame hpc => exact { hs.setPc .idle rfl with }
  | slot frame hpc => exact hs.setPc _ rfl
  | header frame idx hpc =>
    exact { hs with begun := fun _ => hs.lt_of_prior (hprior rfl (by rw [hpc]; rfl)) }
  | payload frame idx hpc =>
    have hnext := hs.goOn (by rw [hpc]; rfl) (.describe frame idx)
    exact { hnext with }
  | describe frame idx hpc =>
    have hnext := hs.goOn (by rw [hpc]; rfl) (.enqueue frame idx)
    exact { hnext with }
  | enqueue frame idx hpc =>
    have hnext := hs.goOn (by rw [hpc]; rfl) (.bump frame)
    exact { hnext with }
  | bump frame hpc =>
    refine ⟨fun e he => ?_, fun h => by simp [SendPc.begun] at h⟩
    rw [List.length_append, List.length_singleton]
    exact hs.begun (by rw [hpc]; rfl) e he
  | batch frame count notify hpc => exact { hs.setPc .idle rfl with }
  | take hne =>
    have hnew : ∀ e ∈ s.fetched ++ (s.taken ++ [⟨s.takes, s.availRing (s.deviceAvail.toNat % n)⟩]),
        e ∈ s.held ∨ e.number = s.takes := by
      intro e he
      rw [← List.append_assoc, List.mem_append, List.mem_singleton] at he
      exact he.imp_right fun h => by rw [h]
    refine ⟨fun e he => ?_, fun hpc e he => ?_⟩
    · rcases hnew e he with hold | heq
      · exact hs.recent e hold
      · simp only
        omega
    · rcases hnew e he with hold | heq
      · exact hs.begun hpc e hold
      · have hplace := hc.placing (by
          revert hpc
          cases s.pc <;> simp [SendPc.begun, SendPc.placing])
        simp only
        omega
  | read e he =>
    exact ⟨fun e' he' => hs.recent e' ((perm_held_read he).mem_iff.mp he'),
      fun hpc e' he' => hs.begun hpc e' ((perm_held_read he).mem_iff.mp he')⟩
  | complete e he =>
    exact ⟨fun e' he' => hs.recent e' (mem_held_complete he'),
      fun hpc e' he' => hs.begun hpc e' (mem_held_complete he')⟩
  | irq => exact { hs with }

/-- **A step that meets the condition writes no owned slot.** -/
theorem TxOwn.not_rewrites {a : TxAction} (hs : TxOwn n s) (hc : TxCount n s l) (hn : n ∣ 65536)
    (hn' : n ≤ 256) (hprior : PriorReturned n s a) : ¬ Rewrites n s a := by
  rintro ⟨rfl, idx, hwrites, howned⟩
  have hindex : s.pc.index = some idx := by
    revert hwrites
    cases s.pc <;> simp [SendPc.writes, SendPc.index]
  have hplacing : s.pc.placing.isSome := by
    revert hwrites
    cases s.pc <;> simp [SendPc.writes, SendPc.placing]
  have hlt : ∀ e ∈ s.held, s.accepted.length < e.number + n := by
    cases hpc : s.pc with
    | header frame i => exact hs.lt_of_prior (hprior rfl (by rw [hpc]; rfl))
    | payload frame i => exact hs.begun (by rw [hpc]; rfl)
    | describe frame i => exact hs.begun (by rw [hpc]; rfl)
    | _ =>
      rw [hpc] at hwrites
      cases hwrites
  have hbalance := hc.balance
  have htakes := hc.takes
  have hsampled := hc.sampled
  have hroom := hc.placing hplacing
  rcases (hc.owned_iff hn hn').mp howned with ⟨e, he, heq⟩ | ⟨p, hp, hplt, heq⟩
  · have hnumber := (hc.entries e he).1
    refine mod_ne (show e.number < s.accepted.length by omega) (hlt e he) ?_
    rw [heq, hc.index idx hindex]
  · refine mod_ne hplt (show s.accepted.length < p + n by omega) ?_
    rw [heq, hc.index idx hindex]

/-- **A step that writes no owned slot meets the condition.** -/
theorem TxCount.prior_of_not_rewrites {a : TxAction} (hc : TxCount n s l) (hn : n ∣ 65536)
    (hn' : n ≤ 256) (h : ¬ Rewrites n s a) : PriorReturned n s a := by
  rintro rfl hbegins hle
  by_contra hnot
  apply h
  obtain ⟨frame, idx, hpc⟩ : ∃ frame idx, s.pc = .header frame idx := by
    revert hbegins
    cases s.pc <;> simp [SendPc.begins]
  have hidx := hc.index idx (by rw [hpc]; rfl)
  have hmod : (s.accepted.length - n) % n = idx := by rw [hidx, ← Nat.mod_eq_sub_mod hle]
  refine ⟨rfl, idx, by rw [hpc]; rfl, (hc.owned_iff hn hn').mpr ?_⟩
  by_cases htaken : s.accepted.length - n < s.takes
  · -- the device took the frame and has not returned it
    obtain ⟨e, he, heq⟩ : ∃ e ∈ s.held, e.number = s.accepted.length - n := by
      by_contra hnone
      exact hnot ⟨htaken, fun e he heq => hnone ⟨e, he, heq⟩⟩
    exact .inl ⟨e, he, by rw [heq, hmod]⟩
  · have hroom := hc.placing (by rw [hpc]; rfl)
    have hbalance := hc.balance
    have htakes := hc.takes
    have hsampled := hc.sampled
    have hlt : s.accepted.length - n < s.accepted.length := by omega
    exact .inr ⟨s.accepted.length - n, not_lt.mp htaken, hlt, hmod⟩

end Step

/-! ## The main result -/

/-- The invariants at the start. -/
lemma txOwn_txInit (n : ℕ) : TxOwn n txInit := by
  constructor <;> simp [txInit, TxState.held]

/-- **When a slot is rewritten.** Let the queue size `n` be a power of two, at most 256, and let
the device return its entries in any order. No step of a run writes a buffer or a descriptor that
the device owns, exactly when at every step at which a call begins to write its slot the device has
returned the frame that is `n` positions before.

**Proof sketch.** If the steps meet the condition, the frames that the device has not returned are
at most `n` positions back (`TxOwn`), so the slot of the call is none of theirs. Otherwise the
frame `n` positions before is at the device, and it has the slot of the call. -/
theorem never_rewrites_iff (n k : ℕ) (hpow : n = 2 ^ k) (hn : n ≤ 256) (as : List TxAction) :
    StepsMeet (txStep n) (fun s a => ¬ Rewrites n s a) txInit as ↔
      StepsMeet (txStep n) (PriorReturned n) txInit as := by
  have hdvd := dvd_of_pow_two hpow hn
  have hcount : ∀ pre t, exec (txStep n) txInit pre = some t → ∃ l, TxCount n t l := by
    intro pre t ht
    refine exec_invariant (I := fun s => ∃ l, TxCount n s l) (fun s a u hs hstep => ?_)
      ⟨0, txCount_txInit n⟩ ht
    obtain ⟨l, hs⟩ := hs
    exact hs.step hdvd hn hstep
  constructor
  · intro h pre a t hpre ht
    obtain ⟨l, hc⟩ := hcount pre t ht
    exact hc.prior_of_not_rewrites hdvd hn (h pre a t hpre ht)
  · intro h pre a t hpre ht
    have hmeets : StepsMeet (txStep n) (PriorReturned n) txInit pre := fun p b u hp =>
      h p b u (hp.trans ((List.prefix_append pre [a]).trans hpre))
    have hinv : (∃ l, TxCount n t l) ∧ TxOwn n t := by
      refine exec_invariant_of_stepsMeet (I := fun s => (∃ l, TxCount n s l) ∧ TxOwn n s)
        (fun s b u hs hb hstep => ?_) ⟨⟨0, txCount_txInit n⟩, txOwn_txInit n⟩ hmeets ht
      obtain ⟨⟨l, hc⟩, hown⟩ := hs
      exact ⟨hc.step hdvd hn hstep, hown.step hc hb hstep⟩
    obtain ⟨⟨l, hc⟩, hown⟩ := hinv
    exact hown.not_rewrites hc hdvd hn (h pre a t hpre ht)

/-- A call that finds room at once, up to the step that begins to write the slot. -/
def sendToHeader : List TxAction := .send (some [0]) :: List.replicate 3 .call

/-- A call that finds room at once. -/
def sendWhole : List TxAction := sendToHeader ++ List.replicate 6 .call

/-- The device returns the entry that it took at the given place. -/
def returnEntry (k : ℕ) : List TxAction :=
  [.read ⟨k, UInt16.ofNat k⟩, .complete ⟨k, UInt16.ofNat k⟩]

/-- Five frames are sent, and the device takes them and returns some. -/
def returnSome (ks : List ℕ) : List TxAction :=
  (List.replicate 5 sendWhole).flatten ++ List.replicate 5 .take ++ ks.flatMap returnEntry

/-- The device returns the frames out of order, and all of them before the ninth call. -/
def returnAllRun : List TxAction :=
  returnSome [3, 1, 4, 0, 2] ++ (List.replicate 4 sendWhole).flatten

/-- The ninth call writes the slot of the first frame, which the device has returned. -/
theorem never_rewrites_returnAll :
    StepsMeet (txStep 8) (fun s a => ¬ Rewrites 8 s a) txInit returnAllRun := by
  refine (never_rewrites_iff 8 3 rfl (by decide) returnAllRun).mpr (stepsMeet_of_meets ?_)
  decide

/-- The device keeps the first frame and returns the next four. -/
def keepFirstRun : List TxAction :=
  returnSome [1, 2, 3, 4] ++ (List.replicate 3 sendWhole).flatten ++ sendToHeader

/-- **A slot is rewritten.** The ninth call writes the buffer of the first frame, which the device
has taken and not returned. -/
theorem rewrites_keepFirst :
    ∃ s, exec (txStep 8) txInit keepFirstRun = some s ∧ Rewrites 8 s .call := by
  have hsome : (exec (txStep 8) txInit keepFirstRun).isSome = true := by decide
  obtain ⟨s, hs⟩ := Option.isSome_iff_exists.mp hsome
  have hpc : ((exec (txStep 8) txInit keepFirstRun).map fun s => s.pc.writes) = some (some 0) := by
    decide
  have howned : ((exec (txStep 8) txInit keepFirstRun).map fun s => decide (Owned 8 s 0)) =
      some true := by
    decide
  rw [hs, Option.map_some, Option.some.injEq] at hpc howned
  exact ⟨s, hs, rfl, 0, hpc, of_decide_eq_true howned⟩

end Driver

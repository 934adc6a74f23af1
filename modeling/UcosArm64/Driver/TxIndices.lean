import UcosArm64.Driver.TxSystem

set_option relaxedAutoImplicit false
set_option autoImplicit false

/-!
# The indices of the transmit queue

What holds of the indices in every run, in whatever order the device returns its entries. The 16-bit
indices count the frames made available, taken and returned modulo `2 ^ 16`, and the driver's sample
of the used index is at most a queue behind, so that its count of free slots is exact.

## Main definitions

* `Driver.TxCount` — the invariant.

## Main results

* `Driver.toNat_availableSlots` — the free slots that a call counts.
* `Driver.TxCount.step` — every step keeps the invariant.
-/

namespace Driver

open Ring Transition

/-- The frame of a call that has found room and has not yet made it available. -/
def SendPc.placing : SendPc → Option (List UInt8)
  | .slot frame | .header frame _ | .payload frame _ | .describe frame _ | .enqueue frame _
  | .bump frame => some frame
  | _ => none

/-- The slot that a call has computed. -/
def SendPc.index : SendPc → Option ℕ
  | .header _ idx | .payload _ idx | .describe _ idx | .enqueue _ idx => some idx
  | _ => none

/-- The entries that the device has taken and not returned. -/
def TxState.held (s : TxState) : List Taken := s.fetched ++ s.taken

/-- **The invariant of the indices**; `lastUsed` is the number of returned entries that
`tx_last_used` stands for. -/
structure TxCount (n : ℕ) (s : TxState) (lastUsed : ℕ) : Prop where
  availIdx : s.availIdx = UInt16.ofNat s.accepted.length
  deviceAvail : s.deviceAvail = UInt16.ofNat s.takes
  usedIdx : s.usedIdx = UInt16.ofNat s.completed
  txLastUsed : s.txLastUsed = UInt16.ofNat lastUsed
  sampled : lastUsed ≤ s.completed
  balance : s.takes = s.completed + s.held.length
  takes : s.takes ≤ s.accepted.length
  room : s.accepted.length ≤ lastUsed + n
  placing : s.pc.placing.isSome → s.accepted.length + 2 ≤ lastUsed + n
  index : ∀ idx, s.pc.index = some idx → idx = s.accepted.length % n
  stored : ∀ frame, s.pc = .bump frame →
    (s.availRing (s.accepted.length % n)).toNat = s.accepted.length % n
  ring : ∀ p, s.takes ≤ p → p < s.accepted.length → (s.availRing (p % n)).toNat = p % n
  entries : ∀ e ∈ s.held, e.number < s.takes ∧ e.id.toNat = e.number % n

/-- The number of free slots that a call counts. -/
lemma toNat_availableSlots {n a l : ℕ} (hn : n ≤ 256) (hl : l ≤ a) (ha : a ≤ l + n) :
    (availableSlots n (UInt16.ofNat a) (UInt16.ofNat l)).toNat = n - (a - l) := by
  have hspan : (UInt16.ofNat a - UInt16.ofNat l).toNat = a - l :=
    span_ofNat hl (by omega)
  rw [availableSlots, UInt16.toNat_sub, hspan, UInt16.toNat_ofNat']
  omega

section Step

variable {n l : ℕ} {s t : TxState}

/-- Reading an entry does not change what the device holds. -/
lemma perm_held_read {e : Taken} (he : e ∈ s.taken) :
    (s.fetched ++ [e] ++ s.taken.erase e).Perm s.held := by
  rw [List.append_assoc]
  exact List.Perm.append_left _ (List.perm_cons_erase he).symm

/-- What the device holds after it has returned an entry. -/
lemma mem_held_complete {e e' : Taken} (h : e' ∈ s.fetched.erase e ++ s.taken) : e' ∈ s.held := by
  rw [List.mem_append] at h
  rw [TxState.held, List.mem_append]
  exact h.imp_left List.mem_of_mem_erase

/-- The slot of the avail index. -/
lemma TxCount.slot (hs : TxCount n s l) (hn : n ∣ 65536) :
    s.availIdx.toNat % n = s.accepted.length % n := by
  rw [hs.availIdx, toNat_ofNat_mod hn]

/-- The device has taken everything, or the entry at its position names the slot. -/
lemma TxCount.next (hs : TxCount n s l) (hn : n ∣ 65536)
    (hne : s.deviceAvail ≠ s.availIdx) :
    s.takes < s.accepted.length ∧
      (s.availRing (s.deviceAvail.toNat % n)).toNat = s.takes % n := by
  have hlt : s.takes < s.accepted.length := by
    refine lt_of_le_of_ne hs.takes fun heq => hne ?_
    rw [hs.deviceAvail, hs.availIdx, heq]
  refine ⟨hlt, ?_⟩
  rw [hs.deviceAvail, toNat_ofNat_mod hn]
  exact hs.ring _ le_rfl hlt

/-- What the invariant says of the program counter, when the call has no slot. -/
lemma SendPc.idle_of_placing {pc : SendPc} (h : pc.placing = none) :
    pc.index = none ∧ ∀ frame, pc ≠ .bump frame := by
  cases pc <;> simp_all [SendPc.placing, SendPc.index]

/-- A call that chooses its slot has not placed its entry. -/
lemma SendPc.placing_of_choosing {pc : SendPc} {frame : List UInt8} (h : pc.choosing = some frame) :
    pc.placing = none := by
  cases pc <;> simp_all [SendPc.placing, SendPc.choosing]

/-- A call that has no slot. -/
lemma TxCount.setPc (hs : TxCount n s l) (pc : SendPc) (hpc : pc.placing = none) :
    TxCount n { s with pc := pc } l := by
  obtain ⟨hidx, hbump⟩ := SendPc.idle_of_placing hpc
  exact { hs with
    placing := fun h => by simp [hpc] at h
    index := fun idx h => by simp [hidx] at h
    stored := fun frame h => absurd h (hbump frame) }

/-- The driver samples the used index. -/
lemma TxCount.sample (hs : TxCount n s l) :
    TxCount n { s with txLastUsed := s.usedIdx } s.completed := by
  have hle := hs.sampled
  have hroom := hs.room
  exact { hs with
    txLastUsed := hs.usedIdx
    sampled := le_rfl
    room := by simp only; omega
    placing := fun h => by
      have := hs.placing h
      simp only
      omega }

/-- A call that counts two free slots may place a frame. -/
lemma TxCount.findRoom (hs : TxCount n s l) (hn : n ≤ 256) {frame : List UInt8}
    (hroom : 2 ≤ availableSlots n s.availIdx s.txLastUsed) :
    TxCount n { s with pc := .slot frame } l := by
  have hle : l ≤ s.accepted.length := by
    have h₁ := hs.sampled
    have h₂ := hs.balance
    have h₃ := hs.takes
    omega
  have hcount := UInt16.le_iff_toNat_le.mp hroom
  rw [hs.availIdx, hs.txLastUsed, toNat_availableSlots hn hle hs.room] at hcount
  exact { hs with
    placing := fun _ => by
      have h := hs.room
      have h2 : (2 : UInt16).toNat = 2 := rfl
      simp only
      omega
    index := fun idx h => by simp [SendPc.index] at h
    stored := fun f h => by simp at h }

/-- A call that places a frame writes its slot, and goes on to the next store. -/
lemma TxCount.place (hs : TxCount n s l) (hpc : s.pc.placing.isSome) (pc : SendPc)
    (hidx : ∀ idx, pc.index = some idx → idx = s.accepted.length % n)
    (hbump : ∀ frame, pc ≠ .bump frame) : TxCount n { s with pc := pc } l :=
  { hs with
    placing := fun _ => hs.placing hpc
    index := hidx
    stored := fun frame h => absurd h (hbump frame) }

/-- The call stores its slot into the avail ring. -/
lemma TxCount.enqueue (hs : TxCount n s l) (hpos : n ≤ 256) {frame : List UInt8} {idx : ℕ}
    (hpc : s.pc = .enqueue frame idx) :
    TxCount n { s with
      availRing := Function.update s.availRing idx (UInt16.ofNat idx)
      pc := .bump frame } l := by
  have hplace := hs.placing (by rw [hpc]; rfl)
  have hidx := hs.index idx (by rw [hpc]; rfl)
  have hlt : idx < 65536 := by
    rw [hidx]
    have hle := hs.sampled
    have := Nat.mod_lt s.accepted.length (show 0 < n by
      have h₁ := hs.balance
      have h₂ := hs.takes
      omega)
    omega
  have hself : (UInt16.ofNat idx).toNat = idx := by
    rw [UInt16.toNat_ofNat']
    omega
  refine { hs with placing := fun _ => hplace, index := ?_, stored := ?_, ring := ?_ }
  · intro i h
    simp [SendPc.index] at h
  · intro f _
    simp only
    rw [← hidx, Function.update_self, hself]
  · intro p hp hlt'
    simp only
    by_cases heq : p % n = idx
    · rw [heq, Function.update_self, hself]
    · rw [Function.update_of_ne heq]
      exact hs.ring p hp hlt'

/-- The call makes its frame available. -/
lemma TxCount.bump (hs : TxCount n s l) {frame : List UInt8} (hpc : s.pc = .bump frame) :
    TxCount n { s with
      availIdx := s.availIdx + 1
      accepted := s.accepted ++ [frame]
      pc := .batch frame } l := by
  have hplace := hs.placing (by rw [hpc]; rfl)
  have htakes := hs.takes
  refine { hs with
    availIdx := ?_, takes := ?_, room := ?_, placing := ?_, index := ?_, stored := ?_, ring := ?_ }
  · simp only [List.length_append, List.length_singleton]
    rw [ofNat_succ, hs.availIdx]
  · simp only [List.length_append, List.length_singleton]
    omega
  · simp only [List.length_append, List.length_singleton]
    omega
  · intro h
    simp [SendPc.placing] at h
  · intro idx h
    simp [SendPc.index] at h
  · intro f h
    simp at h
  · intro p hp hlt
    simp only [List.length_append, List.length_singleton] at hlt ⊢
    by_cases heq : p = s.accepted.length
    · rw [heq]
      exact hs.stored frame hpc
    · exact hs.ring p hp (by omega)

/-- The device takes an entry. -/
lemma TxCount.take (hs : TxCount n s l) (hn : n ∣ 65536) (hne : s.deviceAvail ≠ s.availIdx) :
    TxCount n { s with
      taken := s.taken ++ [⟨s.takes, s.availRing (s.deviceAvail.toNat % n)⟩]
      deviceAvail := s.deviceAvail + 1
      takes := s.takes + 1 } l := by
  obtain ⟨hlt, hid⟩ := hs.next hn hne
  refine { hs with deviceAvail := ?_, balance := ?_, takes := hlt, ring := ?_, entries := ?_ }
  · simp only
    rw [ofNat_succ, hs.deviceAvail]
  · have h := hs.balance
    simp only [TxState.held, List.length_append, List.length_singleton] at h ⊢
    omega
  · exact fun p hp hlt' => hs.ring p (by simp only at hp; omega) hlt'
  · intro e he
    simp only [TxState.held, ← List.append_assoc, List.mem_append, List.mem_singleton] at he
    rcases he with he | rfl
    · have h := hs.entries e (List.mem_append.mpr he)
      exact ⟨Nat.lt_succ_of_lt h.1, h.2⟩
    · exact ⟨Nat.lt_succ_self _, hid⟩

/-- The device reads an entry. -/
lemma TxCount.read (hs : TxCount n s l) {e : Taken} (he : e ∈ s.taken) (reads : List (List UInt8)) :
    TxCount n { s with
      taken := s.taken.erase e, fetched := s.fetched ++ [e], reads := reads } l := by
  have hperm := perm_held_read he
  refine { hs with balance := ?_, entries := ?_ }
  · have h := hs.balance
    rw [← hperm.length_eq] at h
    exact h
  · intro e' he'
    exact hs.entries e' (hperm.mem_iff.mp he')

/-- The device returns an entry. -/
lemma TxCount.complete (hs : TxCount n s l) {e : Taken} (he : e ∈ s.fetched) :
    TxCount n { s with
      fetched := s.fetched.erase e
      usedIdx := s.usedIdx + 1
      completed := s.completed + 1 } l := by
  have hle := hs.sampled
  have hbalance := hs.balance
  have hlen := List.length_erase_of_mem he
  have hpos := List.length_pos_of_mem he
  refine { hs with usedIdx := ?_, sampled := ?_, balance := ?_, entries := ?_ }
  · simp only
    rw [ofNat_succ, hs.usedIdx]
  · simp only
    omega
  · simp only [TxState.held, List.length_append] at hbalance ⊢
    omega
  · exact fun e' he' => hs.entries e' (mem_held_complete he')

/-- **Step lemma.** -/
theorem TxCount.step (hn : n ∣ 65536) (hn' : n ≤ 256) {a : TxAction} (hs : TxCount n s l)
    (h : txStep n s a = some t) : ∃ l', TxCount n t l' := by
  cases txRule_of_txStep h with
  | refuse frame hpc => exact ⟨l, { hs with }⟩
  | enter frame hpc => exact ⟨l, { hs.setPc (.sample frame) rfl with }⟩
  | sample frame pc hpc hpc' =>
    exact ⟨_, { hs.sample.setPc pc (SendPc.placing_of_choosing hpc') with }⟩
  | again frame pc hpc hpc' => exact ⟨l, hs.setPc pc (SendPc.placing_of_choosing hpc')⟩
  | room frame hpc hroom => exact ⟨l, hs.findRoom hn' hroom⟩
  | full frame hpc => exact ⟨l, { hs.setPc .idle rfl with }⟩
  | slot frame hpc =>
    refine ⟨l, hs.place (by rw [hpc]; rfl) _ (fun idx h => ?_) (by simp)⟩
    rw [← hs.slot hn]
    exact (Option.some.inj h).symm
  | header frame idx hpc =>
    have hidx := hs.index idx (by rw [hpc]; rfl)
    have hnext := hs.place (by rw [hpc]; rfl) (.payload frame idx)
      (fun i h => (Option.some.inj h) ▸ hidx) (by simp)
    exact ⟨l, { hnext with }⟩
  | payload frame idx hpc =>
    have hidx := hs.index idx (by rw [hpc]; rfl)
    have hnext := hs.place (by rw [hpc]; rfl) (.describe frame idx)
      (fun i h => (Option.some.inj h) ▸ hidx) (by simp)
    exact ⟨l, { hnext with }⟩
  | describe frame idx hpc =>
    have hidx := hs.index idx (by rw [hpc]; rfl)
    have hnext := hs.place (by rw [hpc]; rfl) (.enqueue frame idx)
      (fun i h => (Option.some.inj h) ▸ hidx) (by simp)
    exact ⟨l, { hnext with }⟩
  | enqueue frame idx hpc => exact ⟨l, hs.enqueue hn' hpc⟩
  | bump frame hpc => exact ⟨l, hs.bump hpc⟩
  | batch frame count notify hpc => exact ⟨l, { hs.setPc .idle rfl with }⟩
  | take hne => exact ⟨l, hs.take hn hne⟩
  | read e he => exact ⟨l, hs.read he _⟩
  | complete e he => exact ⟨l, hs.complete he⟩
  | irq => exact ⟨_, hs.sample⟩

/-- The entries that the device has not taken are those of the positions from `takes` on. -/
lemma TxCount.between_eq (hs : TxCount n s l) (hn : n ∣ 65536) (hn' : n ≤ 256) :
    between n s.availRing s.deviceAvail s.availIdx =
      window n s.availRing s.takes (s.accepted.length - s.takes) := by
  have hbalance := hs.balance
  have hroom := hs.room
  have hsampled := hs.sampled
  have hspan : span s.deviceAvail s.availIdx = s.accepted.length - s.takes := by
    rw [hs.deviceAvail, hs.availIdx]
    exact span_ofNat hs.takes (by omega)
  have hstart : s.deviceAvail.toNat % n = s.takes % n := by
    rw [hs.deviceAvail, toNat_ofNat_mod hn]
  rw [between, hspan, window_congr_start _ hstart]

end Step

/-- The indices at the start. -/
lemma txCount_txInit (n : ℕ) : TxCount n txInit 0 := by
  constructor <;> simp [txInit, virtioNetPrepareTx, TxState.held, SendPc.placing, SendPc.index]

end Driver

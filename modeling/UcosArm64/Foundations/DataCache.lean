import Mathlib.Logic.Function.Basic
import Mathlib.Tactic.Common
import UcosArm64.Foundations.Transition

set_option relaxedAutoImplicit false
set_option autoImplicit false

/-!
# Write-back caches and devices that bypass them

A processor reads and writes a memory through a cache, and a device reads and writes the memory
itself. The cache fetches lines and writes them back whenever it likes, so that the two see the
same memory only where software sees to it, by cleaning and invalidating lines when it hands them
over.

## Main definitions

* `DataCache.Cached` — a memory with a write-back cache before it, and `DataCache.Cached.view`,
  what the processor reads.
* `DataCache.CacheOp`, `DataCache.CacheOp.apply` — the operations of the cache, the processor and
  the device, and `DataCache.CacheOp.flat`, the same on a memory without a cache.
* `DataCache.Owner` — to whom a line belongs.
* `DataCache.Coherent` — a memory with a cache looks like one without it to the owners of its
  lines.

## Main results

* `DataCache.Coherent.apply` — an operation that its owner carries out keeps a memory coherent.
* `DataCache.Coherent.transfer`, `DataCache.Coherent.acquire` — lines that are handed over.
* `DataCache.LineCoherent.settled`, `DataCache.settles_of_clean` — when the memory holds what the
  processor has stored.
-/

namespace DataCache

variable {α ι β : Type*}

/-- The state of a cache line. -/
inductive Tag
  | invalid
  | clean
  | dirty
  deriving DecidableEq

/-- A memory, with addresses in `α`, and a write-back cache before it, with lines in `ι`. -/
structure Cached (α ι β : Type*) where
  mem : α → β
  data : α → β
  tag : ι → Tag

/-- The operations on a line or an address. The cache fetches lines (`fill`) and writes them back
(`evict`) on its own; software cleans, cleans and invalidates, and invalidates them, and stores;
the device writes to the memory. -/
inductive CacheOp (α ι β : Type*)
  | fill (l : ι)
  | evict (l : ι)
  | clean (l : ι)
  | cleanInvalidate (l : ι)
  | invalidate (l : ι)
  | store (a : α) (b : β)
  | device (a : α) (b : β)

section

variable [DecidableEq α] [DecidableEq ι] (line : α → ι)

/-- What the processor reads at an address. -/
def Cached.view (c : Cached α ι β) (a : α) : β :=
  if c.tag (line a) = .invalid then c.mem a else c.data a

/-- The function `f` on the line `l`, and `g` elsewhere. -/
def onLine (l : ι) (f g : α → β) (a : α) : β := if line a = l then f a else g a

/-- A line that is not in the cache is fetched. -/
def Cached.fill (c : Cached α ι β) (l : ι) : Cached α ι β :=
  if c.tag l = .invalid then
    { c with data := onLine line l c.mem c.data, tag := Function.update c.tag l .clean }
  else c

/-- A line that is dirty is written to the memory. -/
def Cached.clean (c : Cached α ι β) (l : ι) : Cached α ι β :=
  if c.tag l = .dirty then
    { c with mem := onLine line l c.data c.mem, tag := Function.update c.tag l .clean }
  else c

/-- A line leaves the cache, whatever it holds. -/
def Cached.invalidate (c : Cached α ι β) (l : ι) : Cached α ι β :=
  { c with tag := Function.update c.tag l .invalid }

/-- A store of the processor, into the cache. -/
def Cached.store (c : Cached α ι β) (a : α) (b : β) : Cached α ι β :=
  { c.fill line (line a) with
    data := Function.update (c.fill line (line a)).data a b
    tag := Function.update (c.fill line (line a)).tag (line a) .dirty }

/-- The effect of an operation. -/
def CacheOp.apply (c : Cached α ι β) : CacheOp α ι β → Cached α ι β
  | .fill l => c.fill line l
  | .clean l => c.clean line l
  | .evict l | .cleanInvalidate l => (c.clean line l).invalidate l
  | .invalidate l => c.invalidate l
  | .store a b => c.store line a b
  | .device a b => { c with mem := Function.update c.mem a b }

end

/-- The effect of an operation on a memory without a cache. -/
def CacheOp.flat [DecidableEq α] (m : α → β) : CacheOp α ι β → α → β
  | .store a b | .device a b => Function.update m a b
  | .fill _ | .evict _ | .clean _ | .cleanInvalidate _ | .invalidate _ => m

/-- The line of an operation. -/
def CacheOp.line (line : α → ι) : CacheOp α ι β → ι
  | .fill l | .evict l | .clean l | .cleanInvalidate l | .invalidate l => l
  | .store a _ | .device a _ => line a

/-- Whether the memory holds what the processor reads at `a` after an operation, if `p` says
whether it does before: a store there ends it, and writing the line back brings it about. -/
def CacheOp.Settled (line : α → ι) (a : α) (p : Prop) : CacheOp α ι β → Prop
  | .store x _ => x ≠ a ∧ p
  | .evict l | .clean l | .cleanInvalidate l => line a = l ∨ p
  | .fill _ | .invalidate _ | .device _ _ => p

/-- The same after several operations. -/
def Settles (line : α → ι) (a : α) (p : Prop) (ops : List (CacheOp α ι β)) : Prop :=
  ops.foldl (fun p op => op.Settled line a p) p

/-- To whom a line belongs: to the processor, who may write it; to both, to read; to the device,
who may write it; or to anyone, and nothing is known about it. -/
inductive Owner
  | cpu
  | shared
  | device
  | anyone
  deriving DecidableEq

/-- The owners that let the processor read. -/
def Owner.CpuReads (o : Owner) : Prop := o = .cpu ∨ o = .shared

/-- **A line that looks like the memory `m` without a cache** to its owner `o`: the memory holds
`m` unless the line is dirty, the cache does where the processor may read, and only the processor
makes it dirty. -/
structure LineCoherent (line : α → ι) (c : Cached α ι β) (m : α → β) (o : Owner) (l : ι) :
    Prop where
  mem : c.tag l ≠ .dirty → ∀ a, line a = l → c.mem a = m a
  data : o.CpuReads → c.tag l ≠ .invalid → ∀ a, line a = l → c.data a = m a
  dirty : c.tag l = .dirty → o = .cpu

/-- **A memory with a cache that looks like one without it** to the owners of its lines. -/
def Coherent (line : α → ι) (c : Cached α ι β) (m : α → β) (own : ι → Owner) : Prop :=
  ∀ l, own l ≠ .anyone → LineCoherent line c m (own l) l

/-- The operations that the owner `o` of their line may carry out: only the processor stores, only
the device writes to the memory, and no dirty line is invalidated. -/
def CacheOp.Allowed (c : Cached α ι β) (o : Owner) : CacheOp α ι β → Prop
  | .fill _ | .evict _ | .clean _ | .cleanInvalidate _ => True
  | .invalidate l => c.tag l ≠ .dirty
  | .store _ _ => o = .cpu
  | .device _ _ => o = .device

section

variable {line : α → ι} {c : Cached α ι β} {m : α → β} {own own' : ι → Owner} {o : Owner}
    {l : ι} {a : α}

/-- The processor reads the memory without a cache. -/
lemma LineCoherent.view [DecidableEq ι] (h : LineCoherent line c m o (line a)) (ho : o.CpuReads) :
    c.view line a = m a := by
  unfold Cached.view
  split_ifs with hinv
  · exact h.mem (by simp [hinv]) a rfl
  · exact h.data ho hinv a rfl

/-- The device reads the memory without a cache, unless the line belongs to the processor. -/
lemma LineCoherent.device_reads (h : LineCoherent line c m o (line a)) (ho : o ≠ .cpu) :
    c.mem a = m a :=
  h.mem (fun hd => ho (h.dirty hd)) a rfl

/-- **A line is handed over** when it is not dirty: to the device, or between owners that let the
processor read. -/
lemma LineCoherent.transfer {o' : Owner} (h : LineCoherent line c m o l) (hd : c.tag l ≠ .dirty)
    (ho : o' = .device ∨ o.CpuReads) : LineCoherent line c m o' l := by
  refine ⟨h.mem, fun hr hinv => ?_, fun hd' => absurd hd' hd⟩
  rcases ho with rfl | ho
  · rcases hr with hr | hr <;> cases hr
  · exact h.data ho hinv

/-- **Lines change their owners.** -/
lemma Coherent.transfer (h : Coherent line c m own)
    (hown : ∀ l, own' l = own l ∨ own' l = .anyone ∨
      own l ≠ .anyone ∧ c.tag l ≠ .dirty ∧ (own' l = .device ∨ (own l).CpuReads)) :
    Coherent line c m own' := by
  intro l hl
  rcases hown l with he | he | ⟨ha, hd, ho⟩
  · rw [he] at hl ⊢
    exact h l hl
  · exact absurd he hl
  · exact (h l ha).transfer hd ho

/-- A write of the device. -/
lemma LineCoherent.device [DecidableEq α] (h : LineCoherent line c m .device (line a)) (b : β) :
    LineCoherent line { c with mem := Function.update c.mem a b } (Function.update m a b) .device
      (line a) := by
  refine ⟨fun hd x hx => ?_, fun ho => ?_, h.dirty⟩
  · by_cases hxa : x = a
    · rw [hxa, Function.update_self]
      exact Function.update_self _ _ _
    · rw [Function.update_of_ne hxa]
      exact (Function.update_of_ne hxa _ _).trans (h.mem hd x hx)
  · rcases ho with ho | ho <;> cases ho

/-! ## Stores and write-backs -/

/-- A weaker fact settles as well. -/
lemma CacheOp.Settled.mono {op : CacheOp α ι β} {p q : Prop} (hpq : p → q)
    (h : op.Settled line a p) :
    op.Settled line a q := by
  cases op with
  | fill l | invalidate l | device x b => exact hpq h
  | evict l | clean l | cleanInvalidate l => exact h.imp_right hpq
  | store x b => exact ⟨h.1, hpq h.2⟩

/-- A weaker fact settles as well, along a series of operations. -/
lemma Settles.mono {ops : List (CacheOp α ι β)} {p q : Prop} (hpq : p → q)
    (h : Settles line a p ops) :
    Settles line a q ops := by
  induction ops generalizing p q with
  | nil => exact hpq h
  | cons op ops ih => exact ih (CacheOp.Settled.mono hpq) h

/-- Two series of operations, one after the other. -/
lemma settles_append {ops ops' : List (CacheOp α ι β)} {p : Prop} :
    Settles line a p (ops ++ ops') ↔ Settles line a (Settles line a p ops) ops' := by
  unfold Settles
  rw [List.foldl_append]

/-- What is written back stays so until the next store. -/
lemma settles_of_no_store {ops : List (CacheOp α ι β)} {p : Prop} (hp : p)
    (hstore : ∀ x b, .store x b ∈ ops → x ≠ a) : Settles line a p ops := by
  induction ops generalizing p with
  | nil => exact hp
  | cons op ops ih =>
    refine ih ?_ fun x b hx => hstore x b (List.mem_cons_of_mem _ hx)
    cases op with
    | fill l | invalidate l | device x b => exact hp
    | evict l | clean l | cleanInvalidate l => exact Or.inr hp
    | store x b => exact ⟨hstore x b List.mem_cons_self, hp⟩

/-- Cleaning the line writes it back. -/
lemma settles_of_clean {ops : List (CacheOp α ι β)} {p : Prop} (hclean : .clean (line a) ∈ ops)
    (hstore : ∀ x b, .store x b ∈ ops → x ≠ a) : Settles line a p ops := by
  obtain ⟨pre, post, rfl⟩ := List.append_of_mem hclean
  rw [settles_append]
  show Settles line a (line a = line a ∨ _) post
  refine settles_of_no_store (Or.inl rfl) fun x b hx => hstore x b ?_
  exact List.mem_append_right _ (List.mem_cons_of_mem _ hx)

variable [DecidableEq ι]

/-- The first function, on the line. -/
lemma onLine_self {f g : α → β} (h : line a = l) : onLine line l f g a = f a := if_pos h

/-- The second function, off the line. -/
lemma onLine_of_ne {f g : α → β} (h : line a ≠ l) : onLine line l f g a = g a := if_neg h

/-! ## The line of an operation -/

/-- Fetching a line. -/
lemma LineCoherent.fill (h : LineCoherent line c m o l) :
    LineCoherent line (c.fill line l) m o l := by
  unfold Cached.fill
  split_ifs with htag
  · have hmem := h.mem (by simp [htag])
    refine ⟨fun _ => hmem, fun _ _ a ha => (onLine_self ha).trans (hmem a ha), fun hd => ?_⟩
    simp at hd
  · exact h

/-- Writing a line back. -/
lemma LineCoherent.clean (h : LineCoherent line c m o l) :
    LineCoherent line (c.clean line l) m o l := by
  unfold Cached.clean
  split_ifs with htag
  · have hdata := h.data (Or.inl (h.dirty htag)) (by simp [htag])
    refine ⟨fun _ a ha => (onLine_self ha).trans (hdata a ha), fun _ _ => hdata, fun hd => ?_⟩
    simp at hd
  · exact h

/-- A line that has been cleaned is not dirty. -/
lemma Cached.clean_not_dirty : (c.clean line l).tag l ≠ .dirty := by
  unfold Cached.clean
  split_ifs with h
  · simp
  · exact h

/-- **Invalidating a line** that is not dirty, which any owner may take then. -/
lemma LineCoherent.invalidate (h : LineCoherent line c m o l) (hd : c.tag l ≠ .dirty) (o' : Owner) :
    LineCoherent line (c.invalidate l) m o' l := by
  have htag : (c.invalidate l).tag l = .invalid := Function.update_self _ _ _
  refine ⟨fun _ => h.mem hd, fun _ hinv => absurd htag hinv, fun hd' => ?_⟩
  rw [htag] at hd'
  cases hd'

/-- A line that has been fetched is in the cache. -/
lemma Cached.fill_tag_self : (c.fill line l).tag l ≠ .invalid := by
  unfold Cached.fill
  split_ifs with h
  · simp
  · exact h

/-- Fetching a line leaves the memory alone. -/
lemma Cached.fill_mem : (c.fill line l).mem = c.mem := by
  unfold Cached.fill
  split_ifs <;> rfl

variable [DecidableEq α]

/-- A store leaves the memory alone. -/
lemma Cached.store_mem (b : β) : (c.store line a b).mem = c.mem := Cached.fill_mem

/-- A store of the processor. -/
lemma LineCoherent.store (h : LineCoherent line c m .cpu (line a)) (b : β) :
    LineCoherent line (c.store line a b) (Function.update m a b) .cpu (line a) := by
  have htag : (c.store line a b).tag (line a) = .dirty := Function.update_self _ _ _
  refine ⟨fun hd => absurd htag hd, fun ho _ x hx => ?_, fun _ => rfl⟩
  by_cases hxa : x = a
  · rw [hxa, Function.update_self]
    exact Function.update_self _ _ _
  · rw [Function.update_of_ne hxa]
    exact (Function.update_of_ne hxa _ _).trans (h.fill.data ho Cached.fill_tag_self x hx)

/-! ## The other lines -/

/-- **An operation leaves the other lines alone.** -/
lemma CacheOp.apply_frame (op : CacheOp α ι β) (hl : l ≠ op.line line) :
    (op.apply line c).tag l = c.tag l ∧ ∀ a, line a = l →
      (op.apply line c).mem a = c.mem a ∧ (op.apply line c).data a = c.data a ∧
      op.flat m a = m a := by
  have hfill : ∀ l', l ≠ l' → (c.fill line l').tag l = c.tag l ∧ ∀ a, line a = l →
      (c.fill line l').mem a = c.mem a ∧ (c.fill line l').data a = c.data a := by
    intro l' hl'
    unfold Cached.fill
    split_ifs
    · exact ⟨Function.update_of_ne hl' _ _, fun a ha => ⟨rfl, onLine_of_ne (ha ▸ hl')⟩⟩
    · exact ⟨rfl, fun _ _ => ⟨rfl, rfl⟩⟩
  have hclean : ∀ l', l ≠ l' → (c.clean line l').tag l = c.tag l ∧ ∀ a, line a = l →
      (c.clean line l').mem a = c.mem a ∧ (c.clean line l').data a = c.data a := by
    intro l' hl'
    unfold Cached.clean
    split_ifs
    · exact ⟨Function.update_of_ne hl' _ _, fun a ha => ⟨onLine_of_ne (ha ▸ hl'), rfl⟩⟩
    · exact ⟨rfl, fun _ _ => ⟨rfl, rfl⟩⟩
  cases op with
  | fill l' =>
    exact ⟨(hfill l' hl).1, fun a ha => ⟨((hfill l' hl).2 a ha).1, ((hfill l' hl).2 a ha).2, rfl⟩⟩
  | clean l' =>
    exact ⟨(hclean l' hl).1, fun a ha => ⟨((hclean l' hl).2 a ha).1, ((hclean l' hl).2 a ha).2,
      rfl⟩⟩
  | evict l' | cleanInvalidate l' =>
    exact ⟨(Function.update_of_ne hl _ _).trans (hclean l' hl).1,
      fun a ha => ⟨((hclean l' hl).2 a ha).1, ((hclean l' hl).2 a ha).2, rfl⟩⟩
  | invalidate l' => exact ⟨Function.update_of_ne hl _ _, fun _ _ => ⟨rfl, rfl, rfl⟩⟩
  | store a' b =>
    obtain ⟨htag, hrest⟩ := hfill (line a') hl
    refine ⟨(Function.update_of_ne hl _ _).trans htag, fun a ha => ⟨(hrest a ha).1, ?_, ?_⟩⟩
    · exact (Function.update_of_ne (fun he => hl (by rw [← ha, he]; rfl)) _ _).trans (hrest a ha).2
    · exact Function.update_of_ne (fun he => hl (by rw [← ha, he]; rfl)) _ _
  | device a' b =>
    refine ⟨rfl, fun a ha => ⟨?_, rfl, ?_⟩⟩
    · exact Function.update_of_ne (fun he => hl (by rw [← ha, he]; rfl)) _ _
    · exact Function.update_of_ne (fun he => hl (by rw [← ha, he]; rfl)) _ _

/-- An operation makes no line dirty but the one that it stores to. -/
lemma CacheOp.dirty_of_apply (line : α → ι) (op : CacheOp α ι β)
    (hop : ∀ x b, op = .store x b → line x ≠ l)
    (hd : (op.apply line c).tag l = .dirty) : c.tag l = .dirty := by
  by_cases hl : l = op.line line
  · subst hl
    have htag : ∀ {l' : ι} {f : ι → Tag} {x : Tag}, Function.update f l' x l' =
        .dirty → x = .dirty :=
      fun h => (Function.update_self _ _ _).symm.trans h
    cases op with
    | fill l =>
      simp only [CacheOp.apply, Cached.fill, CacheOp.line] at hd ⊢
      split_ifs at hd
      · cases htag hd
      · exact hd
    | clean l => exact absurd hd Cached.clean_not_dirty
    | evict l | cleanInvalidate l | invalidate l => cases htag hd
    | store x b => exact absurd rfl (hop x b rfl)
    | device x b => exact hd
  · rwa [(op.apply_frame (m := c.mem) hl).1] at hd

/-- What a line looks like after an operation on another one. -/
lemma LineCoherent.frame (h : LineCoherent line c m o l) (op : CacheOp α ι β)
    (hl : l ≠ op.line line) :
    LineCoherent line (op.apply line c) (op.flat m) o l := by
  obtain ⟨htag, hrest⟩ := op.apply_frame (c := c) (m := m) hl
  refine ⟨fun hd a ha => ?_, fun ho hinv a ha => ?_, fun hd => h.dirty (htag ▸ hd)⟩
  · obtain ⟨hmem, -, hflat⟩ := hrest a ha
    rw [hmem, hflat]
    exact h.mem (htag ▸ hd) a ha
  · obtain ⟨-, hdata, hflat⟩ := hrest a ha
    rw [hdata, hflat]
    exact h.data ho (htag ▸ hinv) a ha

/-- An operation of the owner on its line. -/
lemma LineCoherent.apply {op : CacheOp α ι β} (h : LineCoherent line c m o (op.line line))
    (hop : op.Allowed c o) : LineCoherent line (op.apply line c) (op.flat m) o (op.line line) := by
  cases op with
  | fill l => exact h.fill
  | clean l => exact h.clean
  | evict l | cleanInvalidate l => exact h.clean.invalidate Cached.clean_not_dirty o
  | invalidate l => exact h.invalidate hop o
  | store a b =>
    obtain rfl : o = .cpu := hop
    exact h.store b
  | device a b =>
    obtain rfl : o = .device := hop
    exact h.device b

/-- **An operation of the owner keeps a memory coherent.** -/
theorem Coherent.apply (h : Coherent line c m own) {op : CacheOp α ι β}
    (hop : own (op.line line) ≠ .anyone → op.Allowed c (own (op.line line))) :
    Coherent line (op.apply line c) (op.flat m) own := by
  intro l hl
  by_cases he : l = op.line line
  · subst he
    exact (h _ hl).apply (hop hl)
  · exact (h l hl).frame op he

/-- **A line is taken back from the device** by invalidating it. -/
lemma Coherent.acquire (h : Coherent line c m own) (hl : own l = .device) (o : Owner) :
    Coherent line (c.invalidate l) m (Function.update own l o) := by
  have hline := h l (by simp [hl])
  have hd : c.tag l ≠ .dirty := fun hd => by
    have hcpu := hline.dirty hd
    rw [hl] at hcpu
    cases hcpu
  intro l' hl'
  by_cases he : l' = l
  · subst he
    exact hline.invalidate hd _
  · rw [Function.update_of_ne he] at hl' ⊢
    exact (h l' hl').frame (.invalidate l) he

/-! ## What has been written back -/

/-- An operation on a line of the processor. -/
lemma LineCoherent.settled {op : CacheOp α ι β} (h : LineCoherent line c m .cpu (line a))
    (hop : op.line line = line a → op.Allowed c .cpu) (hs : op.Settled line a (c.mem a = m a)) :
    (op.apply line c).mem a = op.flat m a := by
  by_cases hl : line a = op.line line
  · have hclean : ((c.clean line (line a)).invalidate (line a)).mem a = m a :=
      h.clean.mem Cached.clean_not_dirty a rfl
    cases op with
    | fill l => exact (congrFun Cached.fill_mem a).trans hs
    | evict l | clean l | cleanInvalidate l =>
      obtain rfl : line a = l := hl
      exact hclean
    | invalidate l => exact hs
    | store x b =>
      obtain ⟨hxa, hmem⟩ := hs
      refine (congrFun (Cached.store_mem b) a).trans (hmem.trans ?_)
      exact (Function.update_of_ne (Ne.symm hxa) _ _).symm
    | device x b => cases hop hl.symm
  · obtain ⟨-, hrest⟩ := op.apply_frame (c := c) (m := m) hl
    obtain ⟨hmem, -, hflat⟩ := hrest a rfl
    rw [hmem, hflat]
    cases op with
    | fill l | invalidate l | device x b => exact hs
    | evict l | clean l | cleanInvalidate l => exact hs.resolve_left hl
    | store x b => exact hs.2

/-- **Lines are written back as wholes**: an operation that is no write of the device leaves the
memory of a line alone, or makes it what the processor reads. -/
lemma LineCoherent.written_back (h : LineCoherent line c m .cpu l) (op : CacheOp α ι β)
    (hdevice : ∀ x b, op = .device x b → line x ≠ l) :
    (∀ x, line x = l → (op.apply line c).mem x = c.mem x) ∨
      ∀ x, line x = l → (op.apply line c).mem x = m x := by
  by_cases hl : l = op.line line
  · cases op with
    | fill l' => exact Or.inl fun x _ => congrFun Cached.fill_mem x
    | evict l' | clean l' | cleanInvalidate l' =>
      obtain rfl : l = l' := hl
      exact Or.inr (h.clean.mem Cached.clean_not_dirty)
    | invalidate l' => exact Or.inl fun _ _ => rfl
    | store y b => exact Or.inl fun x _ => congrFun (Cached.store_mem b) x
    | device y b => exact absurd hl.symm (hdevice y b rfl)
  · exact Or.inl fun x hx => ((op.apply_frame (m := m) hl).2 x hx).1

end

end DataCache

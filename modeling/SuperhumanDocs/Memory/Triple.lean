import SuperhumanDocs.Memory.Heap
import Mathlib.Tactic.Abel

/-!
# What a computation owns

`Triple own x post`: on a heap that holds the blocks `own`, and any others, `x` has a result; what
it owns then satisfies `post`, and the others are as they were. So a computation that starts from
nothing and ends with nothing restores the heap (`Triple.restores`).
-/

set_option autoImplicit false

namespace Memory

variable {β α γ δ : Type}

/-- Blocks with their addresses. -/
abbrev Owned (β : Type) := Multiset (Σ _ : ℕ, β)

def cell (address : ℕ) (block : β) : Owned β := {⟨address, block⟩}

def Triple (own : Owned β) (x : Program β α) (post : α → Owned β → Prop) : Prop :=
  ∀ (heap : Heap β) (others : Owned β), heap.entries = own + others →
    ∃ a own' heap', x heap = some (a, heap') ∧ heap'.entries = own' + others ∧ post a own'

/-- The result is `a`, and `own` is what is left. -/
def Leaves (a : α) (own : Owned β) : α → Owned β → Prop := fun a' own' => a' = a ∧ own' = own

namespace Triple

variable {own own' others : Owned β} {x : Program β α} {f : α → Program β γ}
  {post post' : α → Owned β → Prop} {post'' : γ → Owned β → Prop} {a : α}

/-! ## Structural rules -/

theorem pure (h : post a own) : Triple own (Pure.pure a : Program β α) post := by
  intro heap others hheap
  exact ⟨a, own, heap, rfl, hheap, h⟩

theorem bind (hx : Triple own x post) (hf : ∀ a own', post a own' → Triple own' (f a) post'') :
    Triple own (x >>= f) post'' := by
  intro heap others hheap
  obtain ⟨a, own₁, heap₁, hrun, hheap₁, ha⟩ := hx heap others hheap
  obtain ⟨b, own₂, heap₂, hrun', hheap₂, hb⟩ := hf a own₁ ha heap₁ others hheap₁
  refine ⟨b, own₂, heap₂, ?_, hheap₂, hb⟩
  show (x heap).bind (fun r => f r.1 r.2) = _
  rw [hrun]
  exact hrun'

theorem mono (hx : Triple own x post) (h : ∀ a own', post a own' → post' a own') :
    Triple own x post' := by
  intro heap others hheap
  obtain ⟨a, own₁, heap₁, hrun, hheap₁, ha⟩ := hx heap others hheap
  exact ⟨a, own₁, heap₁, hrun, hheap₁, h a own₁ ha⟩

/-- **The frame rule.** -/
theorem frame (hx : Triple own x post) (others : Owned β) :
    Triple (own + others) x fun a own' => ∃ own₁, own' = own₁ + others ∧ post a own₁ := by
  intro heap rest hheap
  obtain ⟨a, own₁, heap₁, hrun, hheap₁, ha⟩ :=
    hx heap (others + rest) (by rw [hheap, add_assoc])
  exact ⟨a, own₁ + others, heap₁, hrun, by rw [hheap₁, add_assoc], own₁, rfl, ha⟩

/-- The first part of a sequence touches only some of what is owned. -/
theorem frame_bind (hx : Triple own x post)
    (hf : ∀ a own', post a own' → Triple (own' + others) (f a) post'') :
    Triple (own + others) (x >>= f) post'' :=
  (hx.frame others).bind fun a _ ⟨own₁, heq, ha⟩ => heq ▸ hf a own₁ ha

theorem leaves_bind (hx : Triple own x (Leaves a own')) (hf : Triple own' (f a) post'') :
    Triple own (x >>= f) post'' :=
  hx.bind fun _ _ ⟨ha, hown⟩ => ha ▸ hown ▸ hf

theorem leaves_frame_bind (hx : Triple own x (Leaves a own'))
    (hf : Triple (own' + others) (f a) post'') : Triple (own + others) (x >>= f) post'' :=
  hx.frame_bind fun _ _ ⟨ha, hown⟩ => ha ▸ hown ▸ hf

theorem leaves_frame (hx : Triple own x (Leaves a own')) (others : Owned β) :
    Triple (own + others) x (Leaves a (own' + others)) :=
  (hx.frame others).mono fun _ _ ⟨_, heq, ha, hown⟩ => ⟨ha, hown ▸ heq⟩

/-- **A computation that starts from nothing** has a result on every heap, and restores the heap
when it ends with nothing. -/
theorem run (hx : Triple 0 x post) (heap : Heap β) :
    ∃ a own heap', x heap = some (a, heap') ∧ post a own ∧ (own = 0 → heap' = heap) := by
  obtain ⟨a, own, heap', hrun, hheap', ha⟩ := hx heap heap.entries (zero_add _).symm
  refine ⟨a, own, heap', hrun, ha, fun hown => ?_⟩
  exact Finmap.ext (hheap'.trans (by rw [hown, zero_add]))

theorem restores (hx : Triple 0 x (Leaves a 0)) (heap : Heap β) : x heap = some (a, heap) := by
  obtain ⟨a', own, heap', hrun, ⟨ha, hown⟩, hheap⟩ := hx.run heap
  rw [hrun, ha, hheap hown]

/-- A loop over items that stand for others, which leaves what is owned as it is. -/
theorem mapM_rel {R : γ → δ → Prop} {P : α → δ → Prop} {f : γ → Program β α} {cs : List γ}
    {ds : List δ} (h : List.Forall₂ R cs ds)
    (hf : ∀ c d, R c d → Triple own (f c) fun a own' => own' = own ∧ P a d) :
    Triple own (cs.mapM f) fun as own' => own' = own ∧ List.Forall₂ P as ds := by
  induction h with
  | nil => exact pure ⟨rfl, .nil⟩
  | cons hcd _ ih =>
    rw [List.mapM_cons]
    refine (hf _ _ hcd).bind ?_
    rintro a own' ⟨hown, ha⟩
    rw [hown]
    refine ih.bind ?_
    rintro as own' ⟨hown, has⟩
    rw [hown]
    exact pure ⟨rfl, .cons ha has⟩

/-- The same, over the indexes of a list. -/
theorem mapM_range {P : α → δ → Prop} {f : ℕ → Program β α} {ds : List δ}
    (hf : ∀ i d, ds[i]? = some d → Triple own (f i) fun a own' => own' = own ∧ P a d) :
    Triple own ((List.range ds.length).mapM f) fun as own' =>
      own' = own ∧ List.Forall₂ P as ds := by
  refine mapM_rel (R := fun i d => ds[i]? = some d) ?_ hf
  rw [List.forall₂_iff_get]
  refine ⟨List.length_range, fun i _ hi => ?_⟩
  rw [List.get_eq_getElem, List.getElem_range]
  exact List.getElem?_eq_getElem hi

/-- The same, when each item gives one result. -/
theorem mapM_leaves {R : γ → δ → Prop} {f : γ → Program β α} {g : δ → α} {cs : List γ}
    {ds : List δ} (h : List.Forall₂ R cs ds)
    (hf : ∀ c d, R c d → Triple own (f c) (Leaves (g d) own)) :
    Triple own (cs.mapM f) (Leaves (ds.map g) own) := by
  refine (mapM_rel (P := fun a d => a = g d) h fun c d hcd =>
    (hf c d hcd).mono fun a own' ha => ⟨ha.2, ha.1⟩).mono ?_
  rintro as _ ⟨rfl, has⟩
  refine ⟨?_, rfl⟩
  clear hf h
  induction has with
  | nil => rfl
  | cons ha _ ih => rw [ha, ih, List.map_cons]

/-! ## The operations on blocks -/

theorem alloc [Allocator β] (block : β) :
    Triple 0 (Memory.alloc block) fun address own => own = cell address block := by
  intro heap others hheap
  refine ⟨_, _, _, rfl, ?_, rfl⟩
  rw [Finmap.entries_insert_of_notMem (Allocator.choose_notMem heap), hheap, zero_add, cell,
    Multiset.singleton_add]

/-- A block that is owned is in the heap. -/
theorem lookup_of_owned {heap : Heap β} {address : ℕ} {block : β}
    (hheap : heap.entries = cell address block + others) : heap.lookup address = some block := by
  rw [Finmap.lookup_eq_some_iff, hheap, cell, Multiset.singleton_add]
  exact Multiset.mem_cons_self _ _

/-- The rest of a heap without a block. -/
theorem entries_erase {heap : Heap β} {address : ℕ} {block : β}
    (hheap : heap.entries = cell address block + others) :
    (heap.erase address).entries = others := by
  have hlookup := lookup_of_owned hheap
  have hinsert : (heap.erase address).insert address block = heap := by
    apply Finmap.ext_lookup
    intro address'
    by_cases h : address' = address
    · rw [h, Finmap.lookup_insert, hlookup]
    · rw [Finmap.lookup_insert_of_ne _ h, Finmap.lookup_erase_ne h]
  have hentries := Finmap.entries_insert_of_notMem (b := block)
    (Finmap.notMem_erase_self (a := address) (s := heap))
  rw [hinsert, hheap, cell, Multiset.singleton_add] at hentries
  exact ((Multiset.cons_inj_right _).1 hentries).symm

theorem read (address : ℕ) (block : β) :
    Triple (cell address block) (Memory.read address) (Leaves block (cell address block)) := by
  intro heap others hheap
  refine ⟨block, _, heap, ?_, hheap, rfl, rfl⟩
  rw [Memory.read, lookup_of_owned hheap, Option.map_some]

theorem free (address : ℕ) (block : β) :
    Triple (cell address block) (Memory.free address) (Leaves block 0) := by
  intro heap others hheap
  refine ⟨block, 0, heap.erase address, ?_, ?_, rfl, rfl⟩
  · rw [Memory.free, lookup_of_owned hheap, Option.map_some]
  · rw [entries_erase hheap, zero_add]

theorem write (address : ℕ) (block block' : β) :
    Triple (cell address block) (Memory.write address block')
      (Leaves () (cell address block')) := by
  intro heap others hheap
  refine ⟨(), _, heap.insert address block', ?_, ?_, rfl, rfl⟩
  · rw [Memory.write, if_pos (Finmap.mem_of_lookup_eq_some (lookup_of_owned hheap))]
  · have hinsert : heap.insert address block' = (heap.erase address).insert address block' := by
      apply Finmap.ext_lookup
      intro address'
      by_cases h : address' = address
      · rw [h, Finmap.lookup_insert, Finmap.lookup_insert]
      · rw [Finmap.lookup_insert_of_ne _ h, Finmap.lookup_insert_of_ne _ h,
          Finmap.lookup_erase_ne h]
    rw [hinsert, Finmap.entries_insert_of_notMem Finmap.notMem_erase_self, entries_erase hheap,
      cell, Multiset.singleton_add]

/-! ## The operations on values -/

section
variable [Storable β α]

theorem cast (a : α) (own : Owned β) :
    Triple own (Memory.cast (Storable.store a : β)) (Leaves a own) := by
  rw [Memory.cast, Storable.view_store]
  exact Triple.pure ⟨rfl, rfl⟩

theorem unbox (address : ℕ) (a : α) :
    Triple (cell address (Storable.store a : β)) (Memory.unbox α address) (Leaves a 0) :=
  (free address _).leaves_bind (cast a 0)

theorem deref (address : ℕ) (a : α) : Triple (cell address (Storable.store a : β))
    (Memory.deref α address) (Leaves a (cell address (Storable.store a))) :=
  (read address _).leaves_bind (cast a _)

theorem assign (address : ℕ) (a a' : α) : Triple (cell address (Storable.store a : β))
    (Memory.assign address a') (Leaves () (cell address (Storable.store a'))) :=
  (deref address a).leaves_bind (write address _ _)

end

end Triple

/-! ## Lists -/

/-- Each item of a list stands for one of another, and owns some blocks. -/
inductive Each (R : γ → α → Owned β → Prop) : List γ → List α → Owned β → Prop
  | nil : Each R [] [] 0
  | cons {c : γ} {a : α} {own : Owned β} {cs : List γ} {as : List α} {owns : Owned β} :
    R c a own → Each R cs as owns → Each R (c :: cs) (a :: as) (own + owns)

namespace Each

variable {R : γ → α → Owned β → Prop} {cs : List γ} {as : List α} {own : Owned β}

theorem length_eq (h : Each R cs as own) : cs.length = as.length := by
  induction h with
  | nil => rfl
  | cons _ _ ih => rw [List.length_cons, List.length_cons, ih]

/-- One more item. -/
theorem concat (h : Each R cs as own) {c : γ} {a : α} {own' : Owned β} (hc : R c a own') :
    Each R (cs ++ [c]) (as ++ [a]) (own + own') := by
  induction h with
  | nil =>
    rw [zero_add, ← add_zero own']
    exact .cons hc .nil
  | cons hc' _ ih =>
    rw [add_assoc]
    exact .cons hc' ih

theorem reverse (h : Each R cs as own) : Each R cs.reverse as.reverse own := by
  induction h with
  | nil => exact .nil
  | cons hc _ ih =>
    rw [List.reverse_cons, List.reverse_cons, add_comm]
    exact ih.concat hc

/-- One item in place, which may be replaced or removed. -/
theorem focus (h : Each R cs as own) {index : ℕ} {c : γ} (hc : cs[index]? = some c) :
    ∃ a own₁ own₂, as[index]? = some a ∧ R c a own₁ ∧ own = own₁ + own₂ ∧
      (∀ c' a' own', R c' a' own' → Each R (cs.set index c') (as.set index a') (own' + own₂)) ∧
      Each R (cs.eraseIdx index) (as.eraseIdx index) own₂ := by
  induction h generalizing index with
  | nil => cases hc
  | @cons c' a own cs as owns hR hRs ih =>
    cases index with
    | zero =>
      cases hc
      exact ⟨a, own, owns, rfl, hR, rfl, fun _ _ _ hR' => .cons hR' hRs, hRs⟩
    | succ index =>
      obtain ⟨a', own₁, own₂, ha', hR', rfl, hset, herase⟩ := ih hc
      refine ⟨a', own₁, own + own₂, ha', hR', by abel, fun c₂ a₂ own' hR₂ => ?_, ?_⟩
      · rw [show own' + (own + own₂) = own + (own' + own₂) by abel]
        exact .cons hR (hset c₂ a₂ own' hR₂)
      · exact .cons hR herase

/-- One item, and what the others own. -/
theorem get (h : Each R cs as own) {index : ℕ} {c : γ} (hc : cs[index]? = some c) :
    ∃ a own₁ own₂, as[index]? = some a ∧ R c a own₁ ∧ own = own₁ + own₂ := by
  obtain ⟨a, own₁, own₂, ha, hR, hown, -, -⟩ := h.focus hc
  exact ⟨a, own₁, own₂, ha, hR, hown⟩

/-- Make an item for each item of a list. -/
theorem mapM {f : α → Program β γ} (hf : ∀ a, Triple 0 (f a) fun c own => R c a own)
    (as : List α) : Triple 0 (as.mapM f) fun cs own => Each R cs as own := by
  induction as with
  | nil => exact Triple.pure .nil
  | cons a as ih =>
    rw [List.mapM_cons]
    refine (hf a).bind fun c own hc => ?_
    rw [← zero_add own]
    refine ih.frame_bind fun cs owns hcs => Triple.pure ?_
    rw [add_comm]
    exact .cons hc hcs

/-- Give up each item of a list. -/
theorem forM {f : γ → Program β Unit} (hf : ∀ c a own, R c a own → Triple own (f c) (Leaves () 0))
    (h : Each R cs as own) : Triple own (cs.forM f) (Leaves () 0) := by
  induction h with
  | nil => exact Triple.pure ⟨rfl, rfl⟩
  | cons hc _ ih =>
    refine (hf _ _ _ hc).leaves_frame_bind ?_
    rw [zero_add]
    exact ih

/-- Read each item of a list. -/
theorem mapM_read {f : γ → Program β δ} {g : α → δ}
    (hf : ∀ c a own, R c a own → Triple own (f c) (Leaves (g a) own))
    (h : Each R cs as own) : Triple own (cs.mapM f) (Leaves (as.map g) own) := by
  induction h with
  | nil => exact Triple.pure ⟨rfl, rfl⟩
  | @cons c a own cs as owns hc _ ih =>
    rw [List.mapM_cons]
    refine (hf _ _ _ hc).leaves_frame_bind ?_
    rw [add_comm]
    exact ih.leaves_frame_bind (Triple.pure ⟨rfl, rfl⟩)

end Each

end Memory

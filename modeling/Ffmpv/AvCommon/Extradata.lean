/-
Codec extradata: `mp_lavc_set_extradata`.

`mp_lavc_set_extradata(avctx, ptr, size)` does nothing when `size` is `0`.  Otherwise it
frees the context's extradata, allocates `size + AV_INPUT_BUFFER_PADDING_SIZE` zero bytes,
and copies the `size` bytes at `ptr` to their start; when the allocation fails it leaves
the context without extradata and returns `-1`.

* `mpLavcSetExtradata_spec` — for every `size > 0` the caller's buffer holds, the call
  frees the old buffer and then either returns `-1` with no extradata, or returns `0` with
  a new block of the `size` bytes followed by the zero padding;
* `mpLavcSetExtradata_step` — every call with `size ≥ 0` keeps the heap valid and the
  extradata as libavcodec requires it, and changes no block but the context's own;
* `setExtradataRun_ok` — the same over every run of calls on one context: no block leaks,
  none is freed twice, and no other block is touched;
* `mpLavcSetExtradata_negative` — a negative `size` is copied as `(size_t)size` bytes, past
  the end of the caller's buffer, whenever the allocation succeeds.

Design notes: the heap is the list of live blocks, each an address and its bytes, and a
pointer is an address, `0` for `NULL`.  Which address `av_mallocz` returns, `0` when it
fails, is the allocator's choice (`Allocator`); that it is not live is a field.  `av_free`
of an address that is not live, a `memcpy` past either of its buffers and an `int`
overflow are faults.  `AV_INPUT_BUFFER_PADDING_SIZE` is a parameter, `padding`, and the
bytes at `ptr` are a list, as many as the caller's buffer holds.  Of `AVCodecContext`
only `extradata` and `extradata_size` are kept.
-/
import Ffmpv.GL.Call
import Ffmpv.AvCommon.Timebase

namespace Mpv

/-! ### The heap -/

/-- The live blocks of the heap, each an address and its bytes. -/
abbrev Heap := List (ℕ × List UInt8)

/-- What goes wrong in the memory calls: an `int` overflow, `av_free` of an address that is
not live, and a `memcpy` past the end of one of its buffers. -/
inductive MemFault
  | overflow
  | invalidFree
  | outOfBounds
  deriving DecidableEq, Repr

/-- The addresses of the live blocks. -/
def Heap.addrs (heap : Heap) : List ℕ := heap.map Prod.fst

/-- The heap without the block at `p`. -/
def Heap.release (p : ℕ) (heap : Heap) : Heap := heap.filter fun e => e.1 ≠ p

/-- A heap whose addresses are non-zero and distinct. -/
structure Heap.Valid (heap : Heap) : Prop where
  zero_not_mem : 0 ∉ heap.addrs
  nodup : heap.addrs.Nodup

/-- `av_mallocz`'s choice of address for a block of `n` bytes, given the live addresses:
`0` when it fails, and otherwise an address that is not live. -/
structure Allocator where
  mallocz : List ℕ → ℕ → ℕ
  fresh : ∀ live n, mallocz live n ≠ 0 → mallocz live n ∉ live

/-- An allocator that never fails and hands out one more than the largest live address. -/
def Allocator.bump : Allocator where
  mallocz live _ := nextName live
  fresh live _ _ := nextName_not_mem live

/-- An allocator out of memory: every `av_mallocz` fails. -/
def Allocator.exhausted : Allocator where
  mallocz _ _ := 0
  fresh _ _ h := absurd rfl h

/-- `av_free(p)`: `NULL` is ignored, and any other address must be live. -/
def avFree (p : ℕ) (heap : Heap) : Except MemFault Heap :=
  if p = 0 then pure heap
  else if p ∈ heap.addrs then pure (heap.release p) else throw .invalidFree

/-- `av_mallocz(n)`: a new block of `n` zero bytes, or `NULL`. -/
def avMallocz (alloc : Allocator) (n : ℕ) (heap : Heap) : ℕ × Heap :=
  let p := alloc.mallocz heap.addrs n
  if p = 0 then (0, heap) else (p, (p, List.replicate n 0) :: heap)

/-- `memcpy(dst, src, n)`: the first `n` bytes of the live block at `dst` become the first
`n` bytes of `src`. -/
def memcpy (dst : ℕ) (src : List UInt8) (n : ℕ) (heap : Heap) : Except MemFault Heap :=
  match heap.lookup dst with
  | some b =>
    if n ≤ b.length ∧ n ≤ src.length then
      pure (heap.map fun e => if e.1 = dst then (e.1, src.take n ++ e.2.drop n) else e)
    else throw .outOfBounds
  | none => throw .outOfBounds

/-- An `int` converted to `size_t`. -/
def sizeT (v : ℤ) : ℕ := (v % 2 ^ 64).toNat

/-! ### `mp_lavc_set_extradata` -/

/-- `AVCodecContext`, of which `mp_lavc_set_extradata` uses two fields. -/
structure CodecContext where
  extradata : ℕ
  extradataSize : ℤ
  deriving DecidableEq, Repr

section Extradata

/- `padding` is `AV_INPUT_BUFFER_PADDING_SIZE` of libavcodec. -/
variable (padding : ℕ) (alloc : Allocator)

/-- `mp_lavc_set_extradata(avctx, ptr, size)`, with `ptr` the bytes of the caller's
buffer; it returns the result, the context and the heap. -/
def mpLavcSetExtradata (avctx : CodecContext) (ptr : List UInt8) (size : ℤ) (heap : Heap) :
    Except MemFault (ℤ × CodecContext × Heap) :=
  if size ≠ 0 then do
    let heap ← avFree avctx.extradata heap
    let avctx := { avctx with extradataSize := 0 }
    let some n := cInt (size + padding) | throw .overflow
    let (p, heap) := avMallocz alloc (sizeT n) heap
    let avctx := { avctx with extradata := p }
    if p = 0 then return (-1, avctx, heap)
    let avctx := { avctx with extradataSize := size }
    let heap ← memcpy p ptr (sizeT size) heap
    return (0, avctx, heap)
  else return (0, avctx, heap)

/-- What libavcodec asks of a context's extradata: `NULL` with size `0`, or a live block
of `extradata_size` bytes followed by `AV_INPUT_BUFFER_PADDING_SIZE` zero bytes. -/
def ExtradataOk (heap : Heap) (avctx : CodecContext) : Prop :=
  avctx.extradata = 0 ∧ avctx.extradataSize = 0 ∨
    ∃ data : List UInt8, (data.length : ℤ) = avctx.extradataSize ∧
      heap.lookup avctx.extradata = some (data ++ List.replicate padding 0)

/-- Calls of `mp_lavc_set_extradata` on one context, each with its bytes and size. -/
def setExtradataRun (avctx : CodecContext) :
    List (List UInt8 × ℤ) → Heap → Except MemFault (CodecContext × Heap)
  | [], heap => pure (avctx, heap)
  | (ptr, size) :: calls, heap => do
    let (_, avctx, heap) ←
      mpLavcSetExtradata padding alloc avctx ptr size heap
    setExtradataRun avctx calls heap

end Extradata

/-! ### The heap operations -/

theorem Heap.mem_addrs_release {heap : Heap} {p a : ℕ} :
    a ∈ (heap.release p).addrs ↔ a ∈ heap.addrs ∧ a ≠ p := by
  simp only [Heap.addrs, Heap.release, List.mem_map, List.mem_filter, decide_eq_true_eq]
  constructor
  · rintro ⟨e, ⟨he, hp⟩, rfl⟩
    exact ⟨⟨e, he, rfl⟩, hp⟩
  · rintro ⟨⟨e, he, rfl⟩, hp⟩
    exact ⟨e, ⟨he, hp⟩, rfl⟩

theorem Heap.release_of_not_mem {heap : Heap} {p : ℕ} (h : p ∉ heap.addrs) :
    heap.release p = heap :=
  List.filter_eq_self.mpr fun e he => by
    have : e.1 ≠ p := fun hp => h (List.mem_map.mpr ⟨e, he, hp⟩)
    simpa using this

@[simp] theorem Heap.addrs_cons (p : ℕ) (b : List UInt8) (heap : Heap) :
    Heap.addrs ((p, b) :: heap) = p :: heap.addrs := rfl

theorem Heap.Valid.release {heap : Heap} (h : heap.Valid) (p : ℕ) : (heap.release p).Valid where
  zero_not_mem h0 := h.zero_not_mem (Heap.mem_addrs_release.mp h0).1
  nodup := h.nodup.sublist ((List.filter_sublist _).map _)

theorem Heap.Valid.cons {heap : Heap} (h : heap.Valid) {p : ℕ} (hp : p ≠ 0)
    (hfresh : p ∉ heap.addrs) (b : List UInt8) : Heap.Valid ((p, b) :: heap) where
  zero_not_mem h0 := (List.mem_cons.mp h0).elim (fun h0 => hp h0.symm) h.zero_not_mem
  nodup := List.nodup_cons.mpr ⟨hfresh, h.nodup⟩

theorem Heap.release_cons_self (p : ℕ) (b : List UInt8) (heap : Heap) :
    Heap.release p ((p, b) :: heap) = heap.release p := by
  simp [Heap.release, List.filter_cons]

theorem Heap.mem_addrs_of_lookup {heap : Heap} {p : ℕ} {b : List UInt8}
    (h : heap.lookup p = some b) : p ∈ heap.addrs := by
  obtain ⟨l₁, l₂, rfl, -⟩ := List.lookup_eq_some_iff.mp h
  simp [Heap.addrs]

/-- Freeing `NULL` or a live block releases it. -/
theorem avFree_eq {heap : Heap} (h : heap.Valid) {p : ℕ} (hp : p = 0 ∨ p ∈ heap.addrs) :
    avFree p heap = pure (heap.release p) := by
  unfold avFree
  split_ifs with h0 hmem
  · subst h0; rw [Heap.release_of_not_mem h.zero_not_mem]
  · rfl
  · exact absurd (hp.resolve_left h0) hmem

/-- Copying into a new block that is not live elsewhere writes that block only. -/
theorem memcpy_cons {heap : Heap} {p : ℕ} (hfresh : p ∉ heap.addrs) (src : List UInt8)
    (n m : ℕ) (hn : n ≤ m) (hsrc : n ≤ src.length) :
    memcpy p src n ((p, List.replicate m 0) :: heap) =
      pure ((p, src.take n ++ List.replicate (m - n) 0) :: heap) := by
  have hrest : (heap.map fun e => if e.1 = p then (e.1, src.take n ++ e.2.drop n) else e) =
      heap := by
    refine (List.map_congr_left fun e he => ?_).trans (List.map_id _)
    rw [if_neg fun hp => hfresh (List.mem_map.mpr ⟨e, he, hp⟩), id]
  simp only [memcpy, List.lookup_cons_self, List.length_replicate, hn, hsrc, and_self, if_true,
    List.map_cons, hrest, List.drop_replicate]

/-! ### One call -/

section Extradata

variable (padding : ℕ) (alloc : Allocator)

theorem mpLavcSetExtradata_zero (avctx : CodecContext) (ptr : List UInt8) (heap : Heap) :
    mpLavcSetExtradata padding alloc avctx ptr 0 heap = .ok (0, avctx, heap) :=
  rfl

/-- **Extradata correctness.**  For `0 < size`, with the caller's buffer holding `size`
bytes and no `int` overflow in `size + AV_INPUT_BUFFER_PADDING_SIZE`, the call frees the
old extradata, then returns `-1` with no extradata when `av_mallocz` fails, and otherwise
returns `0` with a new block of the `size` bytes followed by the zero padding. -/
theorem mpLavcSetExtradata_spec {avctx : CodecContext} {ptr : List UInt8} {size : ℤ}
    {heap : Heap} (hheap : heap.Valid)
    (hfree : avctx.extradata = 0 ∨ avctx.extradata ∈ heap.addrs)
    (hsize : 0 < size) (hsrc : size ≤ ptr.length)
    (hmax : size + padding ≤ INT_MAX) :
    mpLavcSetExtradata padding alloc avctx ptr size heap =
      let heap₁ := heap.release avctx.extradata
      let p := alloc.mallocz heap₁.addrs (size.toNat + padding)
      if p = 0 then .ok (-1, ⟨0, 0⟩, heap₁)
      else .ok (0, ⟨p, size⟩,
        (p, ptr.take size.toNat ++ List.replicate padding 0) :: heap₁) := by
  have hn : sizeT (size + padding) = size.toNat + padding := by
    simp only [sizeT, INT_MAX] at hmax ⊢; omega
  have hs : sizeT size = size.toNat := by simp only [sizeT, INT_MAX] at hmax ⊢; omega
  simp only [mpLavcSetExtradata, ne_eq, hsize.ne', not_false_eq_true, if_true,
    avFree_eq hheap hfree, pure_bind, cInt_of_mem (by simp only [INT_MIN]; omega) hmax,
    avMallocz, hn]
  by_cases hp : alloc.mallocz (heap.release avctx.extradata).addrs (size.toNat + padding) = 0
  · simp only [hp, if_true]
    rfl
  · have hfresh := alloc.fresh _ _ hp
    simp only [hp, if_false, hs, pure_bind, Nat.add_sub_cancel_left,
      memcpy_cons hfresh ptr size.toNat _ (Nat.le_add_right _ _) (by omega)]
    rfl

/-- Three bytes into a context without extradata, with two bytes of padding. -/
example : mpLavcSetExtradata 2 Allocator.bump ⟨0, 0⟩ [7, 8, 9] 3 [] =
    .ok (0, ⟨1, 3⟩, [(1, [7, 8, 9, 0, 0])]) := rfl

/-- One call with `size ≥ 0` on a context whose extradata is as libavcodec requires
returns, keeps the heap valid and the extradata as required, and changes no block but
the context's own: the blocks outside the extradata are the same before and after. -/
theorem mpLavcSetExtradata_step {avctx : CodecContext} {ptr : List UInt8} {size : ℤ}
    {heap : Heap} (hheap : heap.Valid) (hok : ExtradataOk padding heap avctx)
    (hsize : 0 ≤ size) (hsrc : size ≤ ptr.length)
    (hmax : size + padding ≤ INT_MAX) :
    ∃ r avctx' heap', mpLavcSetExtradata padding alloc avctx ptr size heap =
        .ok (r, avctx', heap') ∧ heap'.Valid ∧
      ExtradataOk padding heap' avctx' ∧
      heap'.release avctx'.extradata = heap.release avctx.extradata := by
  rcases hsize.eq_or_lt with rfl | hpos
  · exact ⟨_, _, _, mpLavcSetExtradata_zero _ _ _ _ _, hheap, hok, rfl⟩
  have hfree : avctx.extradata = 0 ∨ avctx.extradata ∈ heap.addrs :=
    hok.imp And.left fun ⟨_, _, hlook⟩ => Heap.mem_addrs_of_lookup hlook
  have hvalid := hheap.release avctx.extradata
  rw [mpLavcSetExtradata_spec padding alloc hheap hfree hpos hsrc hmax]
  dsimp only
  split_ifs with hp
  · -- `av_mallocz` failed: no extradata
    exact ⟨_, _, _, rfl, hvalid, .inl ⟨rfl, rfl⟩,
      Heap.release_of_not_mem hvalid.zero_not_mem⟩
  · -- the new block holds the bytes and the padding
    have hfresh := alloc.fresh _ _ hp
    refine ⟨_, _, _, rfl, hvalid.cons hp hfresh _,
      .inr ⟨_, ?_, List.lookup_cons_self⟩, ?_⟩
    · dsimp only
      rw [List.length_take]
      omega
    · rw [Heap.release_cons_self, Heap.release_of_not_mem hfresh]

/-- A negative `size` passes the `if (size)`: when `av_mallocz` succeeds, `memcpy` is asked
for `(size_t)size` bytes, more than the caller's buffer holds. -/
theorem mpLavcSetExtradata_negative {avctx : CodecContext} {ptr : List UInt8} {size : ℤ}
    {heap : Heap} (hheap : heap.Valid)
    (hfree : avctx.extradata = 0 ∨ avctx.extradata ∈ heap.addrs)
    (hneg : size < 0) (hmin : INT_MIN ≤ size) (hpad : (padding : ℤ) ≤ INT_MAX)
    (hptr : ptr.length < 2 ^ 63)
    (halloc : alloc.mallocz (heap.release avctx.extradata).addrs
      (sizeT (size + padding)) ≠ 0) :
    mpLavcSetExtradata padding alloc avctx ptr size heap =
      .error .outOfBounds := by
  have hs : ¬ sizeT size ≤ ptr.length := by simp only [sizeT, INT_MIN] at hmin ⊢; omega
  have hc : cInt (size + padding) = some (size + padding) :=
    cInt_of_mem (by simp only [INT_MIN] at hmin ⊢; omega)
      (by simp only [INT_MAX] at hpad ⊢; omega)
  simp only [mpLavcSetExtradata, ne_eq, hneg.ne, not_false_eq_true, if_true,
    avFree_eq hheap hfree, pure_bind, hc, avMallocz, if_neg halloc]
  simp [memcpy, List.lookup_cons_self, hs]
  rfl

/-- `size = -1`: one byte is allocated and `memcpy` is asked for `2^64 - 1`. -/
example : mpLavcSetExtradata 2 Allocator.bump ⟨0, 0⟩ [7, 8, 9] (-1) [] = .error .outOfBounds :=
  rfl

/-! ### Runs of calls -/

/-- **No leak, no double free.**  Over every run of calls with sizes `≥ 0` that the
callers' buffers hold, on a context whose extradata is as libavcodec requires it, every
call returns, the heap stays valid and the extradata as required, and the blocks outside
the context's extradata are at the end what they were at the start. -/
theorem setExtradataRun_ok :
    ∀ (calls : List (List UInt8 × ℤ)) (avctx : CodecContext) (heap : Heap), heap.Valid →
      ExtradataOk padding heap avctx →
      (∀ c ∈ calls, 0 ≤ c.2 ∧ c.2 ≤ c.1.length ∧ c.2 + padding ≤ INT_MAX) →
      ∃ avctx' heap', setExtradataRun padding alloc avctx calls heap =
          .ok (avctx', heap') ∧ heap'.Valid ∧
        ExtradataOk padding heap' avctx' ∧
        heap'.release avctx'.extradata = heap.release avctx.extradata
  | [], avctx, heap, hheap, hok, _ => ⟨avctx, heap, rfl, hheap, hok, rfl⟩
  | (ptr, size) :: calls, avctx, heap, hheap, hok, hcalls => by
    obtain ⟨h0, hsrc, hmax⟩ := hcalls _ (List.mem_cons_self _ _)
    obtain ⟨r, avctx₁, heap₁, hrun, hheap₁, hok₁, hrel₁⟩ :=
      mpLavcSetExtradata_step padding alloc hheap hok h0 hsrc hmax
    obtain ⟨avctx', heap', hrest, hheap', hok', hrel'⟩ :=
      setExtradataRun_ok calls avctx₁ heap₁ hheap₁ hok₁ fun c hc =>
        hcalls c (List.mem_cons_of_mem _ hc)
    refine ⟨avctx', heap', ?_, hheap', hok', hrel'.trans hrel₁⟩
    rw [setExtradataRun, hrun]
    exact hrest

/-- Two calls on a context without extradata. -/
theorem setExtradataRun_ok_two_calls :
    ∃ avctx' heap', setExtradataRun 64 Allocator.bump ⟨0, 0⟩ [([1, 2, 3], 3), ([4], 1)] [] =
        .ok (avctx', heap') ∧ heap'.Valid ∧ ExtradataOk 64 heap' avctx' ∧
      heap'.release avctx'.extradata = Heap.release 0 [] :=
  setExtradataRun_ok 64 Allocator.bump _ _ _ ⟨by decide, by decide⟩ (.inl ⟨rfl, rfl⟩) (by decide)

end Extradata

end Mpv

/-
Codec headers: `mp_codec_params_to_av` and `mp_set_avctx_codec_headers`.

`mp_codec_params_to_av` builds an `AVCodecParameters` for a stream: a copy of the
demuxer's own parameters when it has them, else the id of the stream's codec name, its
fields and a padded copy of its extradata.  On each failure it jumps to `error`, frees what
it allocated and returns `NULL`.  `mp_set_avctx_codec_headers` hands the parameters to
`avcodec_parameters_to_context`, frees them, and puts back the context's codec type and
id.

* `mpCodecParamsToAv_spec` — on every path the call returns either `NULL` with the heap as
  it was, or a new live parameter block whose extradata is as libavcodec requires it, the
  two new blocks being all that changed;
* `mpCodecParamsToAv_codec` — from mpv's own fields, the parameters carry the stream's
  media type, its extradata bytes followed by the zero padding, and the id of its codec,
  which converts back to the same codec name;
* `mpSetAvctxCodecHeaders_frame` — for every `avcodec_parameters_to_context` within its
  contract, the call changes no block but the context's extradata, and the context keeps
  its codec: its type and id afterwards are its own, or unknown and none.

Design notes: the heap, `av_mallocz`, `av_free` and `memcpy` are those of
`AvCommon/Extradata.lean`.  An `AVCodecParameters` is a block of `sizeofParams` bytes whose
fields are kept beside it.  `avcodec_parameters_alloc`, `_free` and `_copy` are libavcodec's
as its documentation states them: a reset block; the extradata and then the block freed;
`dst`'s extradata freed, `src` copied and its extradata duplicated.
`avcodec_parameters_to_context` is an argument with the contract mpv relies on
(`ParamsToContext`), and `mp_chmap_is_unknown` and `mp_chmap_to_lavc` of `chmap.c` are
arguments.
-/
import Ffmpv.AvCommon.Extradata
import Ffmpv.AvCommon.Codec

namespace Mpv

/-! ### Parameters and contexts -/

/-- `AVERROR(ENOMEM)`. -/
def AVERROR_ENOMEM : ℤ := -12

/-- `struct AVCodecParameters`: the fields `mp_codec_params_to_av` writes; `{}` is what
`avcodec_parameters_alloc` leaves. -/
structure AVCodecParameters where
  codecType : AVMediaType := .unknown
  codecId : ℤ := AV_CODEC_ID_NONE
  codecTag : ℕ := 0
  extradata : ℕ := 0
  extradataSize : ℤ := 0
  bitsPerCodedSample : ℤ := 0
  width : ℤ := 0
  height : ℤ := 0
  sampleRate : ℤ := 0
  bitRate : ℤ := 0
  blockAlign : ℤ := 0
  channels : ℤ := 0
  channelLayout : ℕ := 0
  deriving DecidableEq, Repr

/-- The extradata of parameters, as the two fields `ExtradataOk` reads. -/
def AVCodecParameters.extra (par : AVCodecParameters) : CodecContext :=
  ⟨par.extradata, par.extradataSize⟩

/-- `struct mp_chmap`. -/
structure MpChmap where
  num : ℕ
  speaker : List ℕ
  deriving DecidableEq, Repr

/-- The fields of `struct mp_codec_params` that `mp_codec_params_to_av` reads (those that
`mp_get_codec_timebase` reads are `MpCodecParams`); `extradata` is the bytes it points to,
and `lavCodecpar` the demuxer's parameters, `NULL` being `none`. -/
structure MpCodecParamsAv where
  type : StreamType
  codec : Option (List Char)
  codecTag : ℕ
  extradata : List UInt8
  extradataSize : ℤ
  bitsPerCodedSample : ℤ
  dispW : ℤ
  dispH : ℤ
  samplerate : ℤ
  bitrate : ℤ
  blockAlign : ℤ
  channels : MpChmap
  lavCodecpar : Option AVCodecParameters
  deriving DecidableEq, Repr

/-- `AVCodecContext`: its extradata and the codec type and id that
`mp_set_avctx_codec_headers` puts back. -/
structure AVCodecContext extends CodecContext where
  codecType : AVMediaType
  codecId : ℤ
  deriving DecidableEq, Repr

/-- What the parameters of a stream need for the call to stay in bounds: the demuxer's
parameters with extradata as libavcodec requires it, or mpv's own `extradata_size`
between `0` and the bytes it has; no `int` overflow in the padded size. -/
def MpCodecParamsAv.Fits (padding : ℕ) (heap : Heap) (c : MpCodecParamsAv) : Prop :=
  match c.lavCodecpar with
  | some lav => ExtradataOk padding heap lav.extra ∧ lav.extradataSize + padding ≤ INT_MAX
  | none => 0 ≤ c.extradataSize ∧ c.extradataSize ≤ c.extradata.length ∧
      c.extradataSize + padding ≤ INT_MAX

/-- `avcodec_parameters_to_context(avctx, par)`, with what mpv relies on: on a valid heap,
with the context's extradata and the parameters' as libavcodec requires them and apart, it
returns, keeps the heap valid and the context's extradata `NULL` or live, and changes no
block but the context's extradata. -/
structure ParamsToContext (padding : ℕ) where
  run : AVCodecContext → AVCodecParameters → Heap → Except MemFault (ℤ × AVCodecContext × Heap)
  frame : ∀ avctx par heap, heap.Valid → ExtradataOk padding heap avctx.toCodecContext →
    ExtradataOk padding heap par.extra → par.extradataSize + padding ≤ INT_MAX →
    (par.extradata = 0 ∨ par.extradata ≠ avctx.extradata) →
    ∃ r avctx' heap', run avctx par heap = .ok (r, avctx', heap') ∧ heap'.Valid ∧
      (avctx'.extradata = 0 ∨ avctx'.extradata ∈ heap'.addrs) ∧
      heap'.release avctx'.extradata = heap.release avctx.extradata

/-! ### The functions -/

section Headers

/- `padding` is `AV_INPUT_BUFFER_PADDING_SIZE`, `sizeofParams` is
`sizeof(AVCodecParameters)`. -/
variable (padding : ℕ) (alloc : Allocator) (lib : Libavcodec) (sizeofParams : ℕ)
  (chmapIsUnknown : MpChmap → Bool) (chmapToLavc : MpChmap → ℕ)

/-- `av_mallocz(size + AV_INPUT_BUFFER_PADDING_SIZE)` and, when it succeeds, `memcpy` of
`size` bytes of `src` to the new block: how both `avcodec_parameters_copy` and
`mp_codec_params_to_av` duplicate extradata.  The address is `0` when `av_mallocz`
fails. -/
def dupExtradata (src : List UInt8) (size : ℤ) (heap : Heap) : Except MemFault (ℕ × Heap) := do
  let some n := cInt (size + padding) | throw .overflow
  let (p, heap) := avMallocz alloc (sizeT n) heap
  if p = 0 then return (0, heap)
  let heap ← memcpy p src (sizeT size) heap
  return (p, heap)

/-- `avcodec_parameters_alloc()`: a block whose fields are `{}`, or `NULL`. -/
def avcodecParametersAlloc (heap : Heap) : ℕ × Heap := avMallocz alloc sizeofParams heap

/-- `avcodec_parameters_free(&par)` of the block at `p`: its extradata, then the block. -/
def avcodecParametersFree (p : ℕ) (par : AVCodecParameters) (heap : Heap) :
    Except MemFault Heap := do
  let heap ← avFree par.extradata heap
  avFree p heap

/-- `avcodec_parameters_copy(dst, src)`: `dst`'s extradata is freed, `src`'s fields are
copied, and `src`'s extradata is duplicated; `AVERROR(ENOMEM)` with no extradata when that
allocation fails. -/
def avcodecParametersCopy (dst src : AVCodecParameters) (heap : Heap) :
    Except MemFault (ℤ × AVCodecParameters × Heap) := do
  let heap ← avFree dst.extradata heap
  let dst := { src with extradata := 0, extradataSize := 0 }
  if src.extradata = 0 then return (0, dst, heap)
  let some b := heap.lookup src.extradata | throw .outOfBounds
  let (p, heap) ← dupExtradata padding alloc b src.extradataSize heap
  if p = 0 then return (AVERROR_ENOMEM, dst, heap)
  return (0, { dst with extradata := p, extradataSize := src.extradataSize }, heap)

/-- The fields `mp_codec_params_to_av` sets before the extradata. -/
def codecFields (c : MpCodecParamsAv) : AVCodecParameters :=
  { codecType := mpToAvStreamType c.type, codecId := mpCodecToAvCodecId lib c.codec,
    codecTag := c.codecTag }

/-- The fields `mp_codec_params_to_av` sets after the extradata. -/
def setStreamFields (c : MpCodecParamsAv) (avp : AVCodecParameters) : AVCodecParameters :=
  { avp with
    bitsPerCodedSample := c.bitsPerCodedSample
    width := c.dispW
    height := c.dispH
    sampleRate := c.samplerate
    bitRate := c.bitrate
    blockAlign := c.blockAlign
    channels := c.channels.num
    channelLayout :=
      if !chmapIsUnknown c.channels then chmapToLavc c.channels else avp.channelLayout }

/-- `mp_codec_params_to_av(c)` once `avp` is allocated: the parameters as far as they were
filled, and `false` for a `goto error`. -/
def fillCodecParams (c : MpCodecParamsAv) (heap : Heap) :
    Except MemFault (Bool × AVCodecParameters × Heap) :=
  match c.lavCodecpar with
  | some lav => do
    let (r, avp, heap) ← avcodecParametersCopy padding alloc {} lav heap
    return (decide (0 ≤ r), avp, heap)
  | none => do
    let avp := codecFields lib c
    if c.extradataSize ≠ 0 then
      let (p, heap) ← dupExtradata padding alloc c.extradata c.extradataSize heap
      if p = 0 then return (false, avp, heap)
      let avp := { avp with extradata := p, extradataSize := c.extradataSize }
      return (true, setStreamFields chmapIsUnknown chmapToLavc c avp, heap)
    return (true, setStreamFields chmapIsUnknown chmapToLavc c avp, heap)

/-- `mp_codec_params_to_av(c)`: the address of the parameters, `0` for `NULL`, their
fields, and the heap. -/
def mpCodecParamsToAv (c : MpCodecParamsAv) (heap : Heap) :
    Except MemFault (ℕ × AVCodecParameters × Heap) := do
  let (p, heap) := avcodecParametersAlloc alloc sizeofParams heap
  if p = 0 then return (0, {}, heap)
  let (ok, avp, heap) ←
    fillCodecParams padding alloc lib chmapIsUnknown chmapToLavc c heap
  if ok then return (p, avp, heap)
  let heap ← avcodecParametersFree p avp heap
  return (0, {}, heap)

/-- `mp_set_avctx_codec_headers(avctx, c)`: the result, the context and the heap. -/
def mpSetAvctxCodecHeaders (toContext : ParamsToContext padding) (avctx : AVCodecContext)
    (c : MpCodecParamsAv) (heap : Heap) : Except MemFault (ℤ × AVCodecContext × Heap) := do
  let codecType := avctx.codecType
  let codecId := avctx.codecId
  let (p, avp, heap) ←
    mpCodecParamsToAv padding alloc lib sizeofParams chmapIsUnknown chmapToLavc c heap
  if p = 0 then return (-1, avctx, heap)
  let (r, avctx, heap) ← toContext.run avctx avp heap
  let r : ℤ := if r < 0 then -1 else 0
  let heap ← avcodecParametersFree p avp heap
  let avctx := if avctx.codecType ≠ .unknown then { avctx with codecType } else avctx
  let avctx := if avctx.codecId ≠ AV_CODEC_ID_NONE then { avctx with codecId } else avctx
  return (r, avctx, heap)

/-! ### The heap steps -/

theorem Heap.release_comm (heap : Heap) (p q : ℕ) :
    (heap.release p).release q = (heap.release q).release p := by
  simp only [Heap.release, List.filter_filter, Bool.and_comm]

theorem Heap.lookup_cons_of_ne {heap : Heap} {a p : ℕ} (b : List UInt8) (h : a ≠ p) :
    List.lookup a ((p, b) :: heap) = heap.lookup a := by
  rw [List.lookup_cons, beq_false_of_ne h]

theorem Heap.not_mem_release_self (heap : Heap) (p : ℕ) : p ∉ (heap.release p).addrs :=
  fun h => (Heap.mem_addrs_release.mp h).2 rfl

/-- A block live after a release that gives the same heap as another. -/
theorem Heap.mem_of_release_eq {heap heap' : Heap} {x y a : ℕ}
    (h : heap'.release x = heap.release y) (ha : a ∈ heap.addrs) (hay : a ≠ y) :
    a ∈ heap'.addrs ∧ a ≠ x :=
  Heap.mem_addrs_release.mp (h ▸ Heap.mem_addrs_release.mpr ⟨ha, hay⟩)

/-- Two blocks released from a heap to give `heap` are not live in `heap`. -/
theorem Heap.not_mem_of_release_eq {heap heap₁ : Heap} {p q : ℕ}
    (h : (heap₁.release q).release p = heap) : p ∉ heap.addrs ∧ q ∉ heap.addrs :=
  ⟨h ▸ Heap.not_mem_release_self _ p, fun hq => Heap.not_mem_release_self heap₁ q
    (Heap.mem_addrs_release.mp (h ▸ hq : q ∈ _)).1⟩

/-- A new block is not one that is `NULL` or live. -/
theorem Heap.ne_of_not_mem {heap : Heap} {a y : ℕ} (hnew : a ∉ heap.addrs) (ha : a ≠ 0)
    (hy : y = 0 ∨ y ∈ heap.addrs) : a ≠ y := by
  rintro rfl
  exact hy.elim ha hnew

theorem Heap.lookup_release_of_ne {a p : ℕ} (h : a ≠ p) :
    ∀ heap : Heap, (heap.release p).lookup a = heap.lookup a
  | [] => rfl
  | (k, b) :: heap => by
    by_cases hk : k = p
    · subst hk
      rw [Heap.release_cons_self, Heap.lookup_cons_of_ne b h, Heap.lookup_release_of_ne h heap]
    · have hcons : Heap.release p ((k, b) :: heap) = (k, b) :: Heap.release p heap := by
        simp [Heap.release, List.filter_cons, hk]
      rw [hcons, List.lookup_cons, List.lookup_cons, Heap.lookup_release_of_ne h heap]

/-- Extradata as libavcodec requires it stays so when a block is added elsewhere. -/
theorem ExtradataOk.cons {heap : Heap} {ctx : CodecContext} (h : ExtradataOk padding heap ctx)
    {p : ℕ} (hfresh : p ∉ heap.addrs) (b : List UInt8) :
    ExtradataOk padding ((p, b) :: heap) ctx :=
  h.imp id fun ⟨data, hlen, hlook⟩ => ⟨data, hlen, by
    rw [Heap.lookup_cons_of_ne b fun (e : ctx.extradata = p) =>
      hfresh (e ▸ Heap.mem_addrs_of_lookup hlook), hlook]⟩

theorem ExtradataOk.null_or_mem {heap : Heap} {ctx : CodecContext}
    (h : ExtradataOk padding heap ctx) : ctx.extradata = 0 ∨ ctx.extradata ∈ heap.addrs :=
  h.imp And.left fun ⟨_, _, hlook⟩ => Heap.mem_addrs_of_lookup hlook

/-- Extradata as libavcodec requires it stays so when blocks are added back. -/
theorem ExtradataOk.of_release {heap : Heap} {p : ℕ} {ctx : CodecContext}
    (h : ExtradataOk padding (heap.release p) ctx) : ExtradataOk padding heap ctx :=
  h.imp id fun ⟨data, hlen, hlook⟩ => ⟨data, hlen, by
    have hne := (Heap.mem_addrs_release.mp (Heap.mem_addrs_of_lookup hlook)).2
    rwa [Heap.lookup_release_of_ne hne] at hlook⟩

/-- The blocks outside the context's extradata after a free of the two parameter blocks
that `avcodec_parameters_to_context` kept. -/
theorem Heap.release_frame {heap heap₁ heap₂ : Heap} {p q x y : ℕ}
    (h₂ : heap₂.release x = heap₁.release y) (h₁ : (heap₁.release q).release p = heap) :
    ((heap₂.release q).release p).release x = heap.release y := by
  rw [Heap.release_comm _ p x, Heap.release_comm heap₂ q x, h₂, Heap.release_comm heap₁ y q,
    Heap.release_comm _ y p, h₁]

/-- A new padded block holds extradata as libavcodec requires it, and releasing it gives
back the heap. -/
theorem extradataOk_cons {heap : Heap} {p : ℕ} (hfresh : p ∉ heap.addrs) (src : List UInt8)
    {size : ℤ} (h0 : 0 ≤ size) (hsrc : size ≤ src.length) :
    ExtradataOk padding ((p, src.take size.toNat ++ List.replicate padding 0) :: heap)
        ⟨p, size⟩ ∧
      Heap.release p ((p, src.take size.toNat ++ List.replicate padding 0) :: heap) = heap :=
  ⟨.inr ⟨src.take size.toNat, show ((src.take size.toNat).length : ℤ) = size by
      rw [List.length_take]; omega, List.lookup_cons_self⟩,
    by rw [Heap.release_cons_self, Heap.release_of_not_mem hfresh]⟩

theorem dupExtradata_eq {heap : Heap} {src : List UInt8} {size : ℤ} (h0 : 0 ≤ size)
    (hsrc : size ≤ src.length) (hmax : size + padding ≤ INT_MAX) :
    dupExtradata padding alloc src size heap =
      let p := alloc.mallocz heap.addrs (size.toNat + padding)
      if p = 0 then .ok (0, heap)
      else .ok (p, (p, src.take size.toNat ++ List.replicate padding 0) :: heap) := by
  have hn : sizeT (size + padding) = size.toNat + padding := by
    simp only [sizeT, INT_MAX] at hmax ⊢; omega
  have hs : sizeT size = size.toNat := by simp only [sizeT, INT_MAX] at hmax ⊢; omega
  simp only [dupExtradata, cInt_of_mem (by simp only [INT_MIN]; omega) hmax, avMallocz, hn]
  by_cases hp : alloc.mallocz heap.addrs (size.toNat + padding) = 0
  · simp only [hp, if_true]
    rfl
  · simp only [hp, if_false, hs, Nat.add_sub_cancel_left,
      memcpy_cons (alloc.fresh _ _ hp) src size.toNat _ (Nat.le_add_right _ _) (by omega)]
    rfl

/-- Freeing parameters whose extradata and block are live. -/
theorem avcodecParametersFree_eq {heap : Heap} (hheap : heap.Valid) {p : ℕ}
    {par : AVCodecParameters} (hextra : par.extradata = 0 ∨ par.extradata ∈ heap.addrs)
    (hp : p ∈ (heap.release par.extradata).addrs) :
    avcodecParametersFree p par heap = .ok ((heap.release par.extradata).release p) := by
  simp only [avcodecParametersFree, avFree_eq hheap hextra, pure_bind,
    avFree_eq (hheap.release _) (.inr hp)]
  rfl

/-- What a successful fill leaves: a valid heap, extradata as libavcodec requires it, and
at most the one new extradata block. -/
def FilledOk (heap : Heap) (avp : AVCodecParameters) (heap' : Heap) : Prop :=
  heap'.Valid ∧ ExtradataOk padding heap' avp.extra ∧ avp.extradataSize + padding ≤ INT_MAX ∧
    heap'.release avp.extradata = heap

theorem filledOk_null {heap : Heap} (hheap : heap.Valid) {avp : AVCodecParameters}
    (hnull : avp.extradata = 0) (hsize : avp.extradataSize = 0)
    (hpad : (padding : ℤ) ≤ INT_MAX) : FilledOk padding heap avp heap :=
  ⟨hheap, .inl ⟨hnull, hsize⟩, by rw [hsize]; simpa using hpad,
    hnull ▸ Heap.release_of_not_mem hheap.zero_not_mem⟩

theorem avcodecParametersCopy_spec {heap : Heap} (hheap : heap.Valid) {src : AVCodecParameters}
    (hsrc : ExtradataOk padding heap src.extra) (hmax : src.extradataSize + padding ≤ INT_MAX) :
    ∃ r dst heap', avcodecParametersCopy padding alloc {} src heap = .ok (r, dst, heap') ∧
      (r < 0 ∧ dst.extradata = 0 ∧ heap' = heap ∨ r = 0 ∧ FilledOk padding heap dst heap') := by
  simp only [avcodecParametersCopy, avFree_eq hheap (.inl rfl),
    Heap.release_of_not_mem hheap.zero_not_mem, pure_bind]
  rcases hsrc with ⟨h0, hsize⟩ | ⟨data, hlen, hlook⟩
  · -- no extradata to duplicate
    simp only [AVCodecParameters.extra] at h0 hsize
    have hpad : (padding : ℤ) ≤ INT_MAX := by rw [hsize] at hmax; simpa using hmax
    exact ⟨0, _, _, by simp only [h0, if_true]; rfl,
      .inr ⟨rfl, filledOk_null padding hheap rfl rfl hpad⟩⟩
  · have hne : src.extradata ≠ 0 := fun h0 =>
      hheap.zero_not_mem (h0 ▸ Heap.mem_addrs_of_lookup hlook)
    simp only [AVCodecParameters.extra] at hlen hlook
    have hsrc : src.extradataSize ≤ (data ++ List.replicate padding 0).length := by simp; omega
    simp only [hne, if_false, hlook, dupExtradata_eq padding alloc (by omega) hsrc hmax]
    by_cases hp : alloc.mallocz heap.addrs (src.extradataSize.toNat + padding) = 0
    · exact ⟨_, _, _, by simp only [hp, if_true]; rfl, .inl ⟨by decide, rfl, rfl⟩⟩
    · obtain ⟨hok, hrel⟩ := extradataOk_cons padding (alloc.fresh _ _ hp) _ (by omega) hsrc
      exact ⟨0, { src with extradata := _ }, _, by simp only [bind, Except.bind, hp, if_false]; rfl,
        .inr ⟨rfl, hheap.cons hp (alloc.fresh _ _ hp) _, hok, hmax, hrel⟩⟩

/-- From mpv's own fields: the codec fields, then either no extradata, or a new padded copy,
or a failed allocation and the `goto error`. -/
theorem fillCodecParams_none {heap : Heap} {c : MpCodecParamsAv} (hlav : c.lavCodecpar = none)
    (h0 : 0 ≤ c.extradataSize) (hsrc : c.extradataSize ≤ c.extradata.length)
    (hmax : c.extradataSize + padding ≤ INT_MAX) :
    fillCodecParams padding alloc lib chmapIsUnknown chmapToLavc c heap =
      if c.extradataSize = 0 then
        .ok (true, setStreamFields chmapIsUnknown chmapToLavc c (codecFields lib c), heap)
      else
        let q := alloc.mallocz heap.addrs (c.extradataSize.toNat + padding)
        if q = 0 then .ok (false, codecFields lib c, heap)
        else .ok (true, setStreamFields chmapIsUnknown chmapToLavc c
            { codecFields lib c with extradata := q, extradataSize := c.extradataSize },
          (q, c.extradata.take c.extradataSize.toNat ++ List.replicate padding 0) :: heap) := by
  unfold fillCodecParams
  rw [hlav]
  by_cases hz : c.extradataSize = 0
  · simp only [hz, ne_eq, not_true_eq_false, if_false, if_true]
    rfl
  · simp only [ne_eq, hz, not_false_eq_true, if_true, if_false,
      dupExtradata_eq padding alloc h0 hsrc hmax]
    split_ifs with hq
    · simp only [hq, bind, Except.bind]
      rfl
    · simp only [bind, Except.bind, hq, if_false]
      rfl

theorem fillCodecParams_spec {heap : Heap} (hheap : heap.Valid) {c : MpCodecParamsAv}
    (hfit : c.Fits padding heap) :
    ∃ ok avp heap', fillCodecParams padding alloc lib chmapIsUnknown chmapToLavc c heap =
        .ok (ok, avp, heap') ∧
      (ok = false ∧ avp.extradata = 0 ∧ heap' = heap ∨
        ok = true ∧ FilledOk padding heap avp heap') := by
  unfold MpCodecParamsAv.Fits at hfit
  cases hlav : c.lavCodecpar with
  | some lav =>
    -- a copy of the demuxer's parameters
    rw [hlav] at hfit
    obtain ⟨r, dst, heap', hcopy, hr⟩ :=
      avcodecParametersCopy_spec padding alloc hheap hfit.1 hfit.2
    simp only [fillCodecParams, hlav, hcopy, bind, Except.bind]
    rcases hr with ⟨hr, h0, rfl⟩ | ⟨rfl, hfill⟩
    · exact ⟨_, _, _, rfl, .inl ⟨by simpa using hr, h0, rfl⟩⟩
    · exact ⟨_, _, _, rfl, .inr ⟨by decide, hfill⟩⟩
  | none =>
    -- mpv's own fields
    rw [hlav] at hfit
    obtain ⟨h0, hsrc, hmax⟩ := hfit
    rw [fillCodecParams_none padding alloc lib chmapIsUnknown chmapToLavc hlav h0 hsrc hmax]
    dsimp only
    split_ifs with hz hq
    · exact ⟨_, _, _, rfl, .inr ⟨rfl, filledOk_null padding hheap rfl rfl (by omega)⟩⟩
    · exact ⟨_, _, _, rfl, .inl ⟨rfl, rfl, rfl⟩⟩
    · obtain ⟨hok, hrel⟩ := extradataOk_cons padding (alloc.fresh _ _ hq) c.extradata h0 hsrc
      exact ⟨_, _, _, rfl, .inr ⟨rfl, hheap.cons hq (alloc.fresh _ _ hq) _, hok, hmax, hrel⟩⟩

/-- A `ParamsToContext` that copies the codec type and id and duplicates the parameters'
extradata as `mp_lavc_set_extradata` does. -/
def ParamsToContext.ofSetExtradata : ParamsToContext padding where
  run avctx par heap :=
    let avctx := { avctx with codecType := par.codecType, codecId := par.codecId }
    match heap.lookup par.extradata with
    | some b => (mpLavcSetExtradata padding alloc avctx.toCodecContext b par.extradataSize heap).map
        fun (r, ctx, heap) => (r, { avctx with toCodecContext := ctx }, heap)
    | none => .ok (0, avctx, heap)
  frame avctx par heap hheap hctx hpar hmax _ := by
    dsimp only
    cases hl : heap.lookup par.extradata with
    | none => exact ⟨0, _, heap, rfl, hheap, hctx.null_or_mem padding, rfl⟩
    | some b =>
      rcases hpar with ⟨h0, -⟩ | ⟨data, hlen, hlook⟩
      · exact absurd (h0 ▸ Heap.mem_addrs_of_lookup hl) hheap.zero_not_mem
      simp only [AVCodecParameters.extra, hl, Option.some.injEq] at hlen hlook
      subst hlook
      have hsrc : par.extradataSize ≤ (data ++ List.replicate padding 0).length := by
        simp; omega
      obtain ⟨r, ctx', heap', hrun, hheap', hok', hrel⟩ := mpLavcSetExtradata_step padding alloc
        hheap hctx (by omega) hsrc hmax
      exact ⟨r, { toCodecContext := ctx', codecType := par.codecType, codecId := par.codecId },
        heap', by dsimp only; rw [hrun]; rfl, hheap', hok'.null_or_mem padding, hrel⟩

/-! ### `mp_codec_params_to_av` -/

/-- **No leak on any path.**  On a valid heap, for a stream whose parameters fit, the call
returns, and either returns `NULL` with the heap as it was, whichever allocation failed, or
a new live block of parameters whose extradata is as libavcodec requires it, the block and
its extradata being all that was added to the heap. -/
theorem mpCodecParamsToAv_spec {heap : Heap} (hheap : heap.Valid) {c : MpCodecParamsAv}
    (hfit : c.Fits padding heap) :
    ∃ p avp heap', mpCodecParamsToAv padding alloc lib sizeofParams chmapIsUnknown chmapToLavc
        c heap = .ok (p, avp, heap') ∧
      (p = 0 ∧ heap' = heap ∨
        p ≠ 0 ∧ heap'.Valid ∧ ExtradataOk padding heap' avp.extra ∧
        avp.extradataSize + padding ≤ INT_MAX ∧ p ∈ (heap'.release avp.extradata).addrs ∧
        (heap'.release avp.extradata).release p = heap) := by
  simp only [mpCodecParamsToAv, avcodecParametersAlloc, avMallocz]
  by_cases hp : alloc.mallocz heap.addrs sizeofParams = 0
  · exact ⟨0, {}, heap, by simp only [hp, if_true]; rfl, .inl ⟨rfl, rfl⟩⟩
  have hfresh := alloc.fresh _ _ hp
  have hfit₁ : c.Fits padding ((alloc.mallocz heap.addrs sizeofParams,
      List.replicate sizeofParams 0) :: heap) := by
    unfold MpCodecParamsAv.Fits at hfit ⊢
    split at hfit
    · exact ⟨hfit.1.cons padding hfresh _, hfit.2⟩
    · exact hfit
  obtain ⟨ok, avp, heap', hfill, hr⟩ := fillCodecParams_spec padding alloc lib chmapIsUnknown
    chmapToLavc (hheap.cons hp hfresh _) hfit₁
  have hback : Heap.release (alloc.mallocz heap.addrs sizeofParams)
      ((alloc.mallocz heap.addrs sizeofParams, List.replicate sizeofParams 0) :: heap) = heap := by
    rw [Heap.release_cons_self, Heap.release_of_not_mem hfresh]
  simp only [hp, if_false, hfill, bind, Except.bind]
  rcases hr with ⟨rfl, h0, rfl⟩ | ⟨rfl, hheap', hok, hmax, hrel⟩
  · -- `goto error`: the block is freed again
    have hnull := Heap.release_of_not_mem (hheap.cons hp hfresh
      (List.replicate sizeofParams 0)).zero_not_mem
    refine ⟨0, {}, heap, ?_, .inl ⟨rfl, rfl⟩⟩
    rw [avcodecParametersFree_eq (hheap.cons hp hfresh _)
      (.inl h0) (by rw [h0, hnull]; exact List.mem_cons_self _ _), h0, hnull, hback]
    rfl
  · exact ⟨_, _, _, rfl, .inr ⟨hp, hheap', hok, hmax, by rw [hrel]; exact List.mem_cons_self _ _,
      by rw [hrel, hback]⟩⟩

/-- A non-`NULL` result is the new block, with a fill that reached the end. -/
theorem fillCodecParams_of_mpCodecParamsToAv {c : MpCodecParamsAv} {heap heap' : Heap} {p : ℕ}
    {avp : AVCodecParameters}
    (hrun : mpCodecParamsToAv padding alloc lib sizeofParams chmapIsUnknown chmapToLavc c heap =
      .ok (p, avp, heap')) (hp : p ≠ 0) :
    p = alloc.mallocz heap.addrs sizeofParams ∧
      fillCodecParams padding alloc lib chmapIsUnknown chmapToLavc c
        ((p, List.replicate sizeofParams 0) :: heap) = .ok (true, avp, heap') := by
  simp only [mpCodecParamsToAv, avcodecParametersAlloc, avMallocz] at hrun
  by_cases h0 : alloc.mallocz heap.addrs sizeofParams = 0
  · simp only [h0, if_true] at hrun
    cases hrun
    exact absurd rfl hp
  simp only [h0, if_false, bind, Except.bind] at hrun
  revert hrun
  cases hf : fillCodecParams padding alloc lib chmapIsUnknown chmapToLavc c
      ((alloc.mallocz heap.addrs sizeofParams, List.replicate sizeofParams 0) :: heap) with
  | error e => intro h; cases h
  | ok v =>
    obtain ⟨_ | _, avp', h'⟩ := v
    · -- `goto error`: the result is `NULL`
      intro h
      cases hfree : avcodecParametersFree (alloc.mallocz heap.addrs sizeofParams) avp' h' <;>
        simp only [hfree, pure, Except.pure, Bool.false_eq_true, if_false] at h <;> cases h
      exact absurd rfl hp
    · intro h
      cases h
      exact ⟨rfl, hf⟩

/-- A block allocated and a fill that reached the end: the block is the result. -/
theorem mpCodecParamsToAv_of_fill {c : MpCodecParamsAv} {heap heap' : Heap}
    {avp : AVCodecParameters} (hp : alloc.mallocz heap.addrs sizeofParams ≠ 0)
    (hfill : fillCodecParams padding alloc lib chmapIsUnknown chmapToLavc c
      ((alloc.mallocz heap.addrs sizeofParams, List.replicate sizeofParams 0) :: heap) =
        .ok (true, avp, heap')) :
    mpCodecParamsToAv padding alloc lib sizeofParams chmapIsUnknown chmapToLavc c heap =
      .ok (alloc.mallocz heap.addrs sizeofParams, avp, heap') := by
  simp only [mpCodecParamsToAv, avcodecParametersAlloc, avMallocz, hp, if_false, hfill, bind,
    Except.bind]
  rfl

/-- **The codec survives the conversion.**  From mpv's own fields, the call returns; it
returns `NULL` exactly when `avcodec_parameters_alloc` fails or, for extradata, the
`av_mallocz` after it does; and whenever it builds the parameters they carry the stream's
media type, the id of its codec name, which converts back to that name when a descriptor
has it, and `extradata_size` bytes of its extradata followed by the zero padding. -/
theorem mpCodecParamsToAv_codec {heap : Heap} (hheap : heap.Valid) {c : MpCodecParamsAv}
    (hlav : c.lavCodecpar = none) (h0 : 0 ≤ c.extradataSize)
    (hsrc : c.extradataSize ≤ c.extradata.length) (hmax : c.extradataSize + padding ≤ INT_MAX) :
    ∃ p avp heap', mpCodecParamsToAv padding alloc lib sizeofParams chmapIsUnknown chmapToLavc
        c heap = .ok (p, avp, heap') ∧
      (p = 0 ↔ alloc.mallocz heap.addrs sizeofParams = 0 ∨
        c.extradataSize ≠ 0 ∧ alloc.mallocz (alloc.mallocz heap.addrs sizeofParams :: heap.addrs)
          (c.extradataSize.toNat + padding) = 0) ∧
      (p ≠ 0 → avp.codecType = mpToAvStreamType c.type ∧
        avp.codecId = mpCodecToAvCodecId lib c.codec ∧ avp.extradataSize = c.extradataSize ∧
        (c.extradataSize ≠ 0 → heap'.lookup avp.extradata =
          some (c.extradata.take c.extradataSize.toNat ++ List.replicate padding 0)) ∧
        ∀ d ∈ lib.descriptors, c.codec = some d.name → d.id ≠ AV_CODEC_ID_NONE →
          mpCodecFromAvCodecId lib avp.codecId = c.codec) := by
  have hfit : c.Fits padding heap := by
    unfold MpCodecParamsAv.Fits
    rw [hlav]
    exact ⟨h0, hsrc, hmax⟩
  obtain ⟨p, avp, heap', hrun, -⟩ :=
    mpCodecParamsToAv_spec padding alloc lib sizeofParams chmapIsUnknown chmapToLavc hheap hfit
  have hnone := @fillCodecParams_none padding alloc lib chmapIsUnknown chmapToLavc
    ((alloc.mallocz heap.addrs sizeofParams, List.replicate sizeofParams 0) :: heap) c
    hlav h0 hsrc hmax
  simp only [Heap.addrs_cons] at hnone
  refine ⟨p, avp, heap', hrun, ?_⟩
  by_cases hp : p = 0
  · -- `NULL`: a fill that reached the end would have returned the new block
    refine ⟨iff_of_true hp ?_, fun h => absurd hp h⟩
    by_contra hne
    push_neg at hne
    obtain ⟨avp', heap'', hfill⟩ : ∃ avp' heap'', fillCodecParams padding alloc lib
        chmapIsUnknown chmapToLavc c ((alloc.mallocz heap.addrs sizeofParams,
          List.replicate sizeofParams 0) :: heap) = .ok (true, avp', heap'') := by
      rw [hnone]
      split_ifs with hz hq
      exacts [⟨_, _, rfl⟩, absurd hq (hne.2 hz), ⟨_, _, rfl⟩]
    rw [mpCodecParamsToAv_of_fill padding alloc lib sizeofParams chmapIsUnknown chmapToLavc
      hne.1 hfill] at hrun
    cases hrun
    exact hne.1 hp
  · -- a block: the fill reached the end, so neither allocation failed
    obtain ⟨hp1, hfill⟩ := fillCodecParams_of_mpCodecParamsToAv padding alloc lib sizeofParams
      chmapIsUnknown chmapToLavc hrun hp
    have hfirst : alloc.mallocz heap.addrs sizeofParams ≠ 0 := hp1 ▸ hp
    have hcodec : ∀ d ∈ lib.descriptors, c.codec = some d.name → d.id ≠ AV_CODEC_ID_NONE →
        mpCodecFromAvCodecId lib (mpCodecToAvCodecId lib c.codec) = c.codec := by
      intro d hd hname hid
      rw [hname]
      exact mpCodecFromAvCodecId_toAvCodecId lib hd hid
    rw [hp1, hnone] at hfill
    split_ifs at hfill with hz hq
    · -- no extradata
      cases hfill
      exact ⟨iff_of_false hp fun h => h.elim hfirst fun h' => h'.1 hz,
        fun _ => ⟨rfl, rfl, hz.symm, fun h => absurd hz h, hcodec⟩⟩
    · cases hfill
    · -- a padded copy
      cases hfill
      exact ⟨iff_of_false hp fun h => h.elim hfirst fun h' => hq h'.2,
        fun _ => ⟨rfl, rfl, rfl, fun _ => List.lookup_cons_self, hcodec⟩⟩

/-- A stream of mpv's own with three bytes of extradata. -/
def h264Stream : MpCodecParamsAv :=
  ⟨.video, some "h264".toList, 0, [1, 2, 3], 3, 0, 640, 480, 0, 0, 0, ⟨0, []⟩, none⟩

theorem mpCodecParamsToAv_codec_h264 :
    ∃ p avp heap', mpCodecParamsToAv 64 Allocator.bump Libavcodec.sample 8 (fun _ => true)
        (fun _ => 0) h264Stream [] = .ok (p, avp, heap') ∧
      (p = 0 ↔ Allocator.bump.mallocz (Heap.addrs []) 8 = 0 ∨
        h264Stream.extradataSize ≠ 0 ∧ Allocator.bump.mallocz
          (Allocator.bump.mallocz (Heap.addrs []) 8 :: Heap.addrs [])
          (h264Stream.extradataSize.toNat + 64) = 0) ∧
      (p ≠ 0 → avp.codecType = mpToAvStreamType h264Stream.type ∧
        avp.codecId = mpCodecToAvCodecId Libavcodec.sample h264Stream.codec ∧
        avp.extradataSize = h264Stream.extradataSize ∧
        (h264Stream.extradataSize ≠ 0 → heap'.lookup avp.extradata =
          some (h264Stream.extradata.take h264Stream.extradataSize.toNat ++
            List.replicate 64 0)) ∧
        ∀ d ∈ Libavcodec.sample.descriptors, h264Stream.codec = some d.name →
          d.id ≠ AV_CODEC_ID_NONE →
          mpCodecFromAvCodecId Libavcodec.sample avp.codecId = h264Stream.codec) :=
  mpCodecParamsToAv_codec 64 Allocator.bump Libavcodec.sample 8 (fun _ => true) (fun _ => 0)
    ⟨by decide, by decide⟩ rfl (by decide) (by decide) (by decide)

/-! ### `mp_set_avctx_codec_headers` -/

/-- **The context keeps its codec, and nothing leaks.**  For every
`avcodec_parameters_to_context` within its contract, on a valid heap, with the context's
extradata as libavcodec requires it and a stream whose parameters fit, the call returns,
keeps the heap valid and the context's extradata `NULL` or live, and changes no block but
the context's extradata: the parameters it built are freed on every path.  Afterwards the
context's codec type is its own or `AVMEDIA_TYPE_UNKNOWN`, and its codec id its own or
`AV_CODEC_ID_NONE`. -/
theorem mpSetAvctxCodecHeaders_frame (toContext : ParamsToContext padding)
    {avctx : AVCodecContext} {c : MpCodecParamsAv} {heap : Heap} (hheap : heap.Valid)
    (hctx : ExtradataOk padding heap avctx.toCodecContext) (hfit : c.Fits padding heap) :
    ∃ r avctx' heap', mpSetAvctxCodecHeaders padding alloc lib sizeofParams chmapIsUnknown
        chmapToLavc toContext avctx c heap = .ok (r, avctx', heap') ∧
      heap'.Valid ∧ (avctx'.extradata = 0 ∨ avctx'.extradata ∈ heap'.addrs) ∧
      heap'.release avctx'.extradata = heap.release avctx.extradata ∧
      (avctx'.codecType = avctx.codecType ∨ avctx'.codecType = .unknown) ∧
      (avctx'.codecId = avctx.codecId ∨ avctx'.codecId = AV_CODEC_ID_NONE) := by
  obtain ⟨p, avp, heap₁, hrun, hr⟩ :=
    mpCodecParamsToAv_spec padding alloc lib sizeofParams chmapIsUnknown chmapToLavc hheap hfit
  simp only [mpSetAvctxCodecHeaders, hrun, bind, Except.bind]
  rcases hr with ⟨rfl, rfl⟩ | ⟨hp, hheap₁, hok₁, hmax₁, hpmem, hrel₁⟩
  · -- `mp_codec_params_to_av` failed: nothing was done
    exact ⟨-1, avctx, _, rfl, hheap, hctx.null_or_mem padding, rfl, .inl rfl, .inl rfl⟩
  -- the two new blocks are not the context's
  obtain ⟨hpnew, hqnew⟩ := Heap.not_mem_of_release_eq hrel₁
  have hctxy := hctx.null_or_mem padding
  have hpy := Heap.ne_of_not_mem hpnew hp hctxy
  have hqy : avp.extradata = 0 ∨ avp.extradata ≠ avctx.extradata :=
    (eq_or_ne _ 0).imp_right fun hq0 => Heap.ne_of_not_mem hqnew hq0 hctxy
  have hctx₁ : ExtradataOk padding heap₁ avctx.toCodecContext :=
    ((hrel₁ ▸ hctx : ExtradataOk padding ((heap₁.release avp.extradata).release p) _).of_release
      padding).of_release padding
  obtain ⟨r, avctx₂, heap₂, hto, hheap₂, hnull₂, hrel₂⟩ :=
    toContext.frame avctx avp heap₁ hheap₁ hctx₁ hok₁ hmax₁ hqy
  -- `avcodec_parameters_to_context` kept both blocks
  have hq₂ : avp.extradata = 0 ∨
      avp.extradata ∈ heap₂.addrs ∧ avp.extradata ≠ avctx₂.extradata :=
    (eq_or_ne _ 0).imp_right fun hq0 => Heap.mem_of_release_eq hrel₂
      ((hok₁.null_or_mem padding).resolve_left hq0) (hqy.resolve_left hq0)
  have hp₁ := Heap.mem_addrs_release.mp hpmem
  have hp₂ := Heap.mem_of_release_eq hrel₂ hp₁.1 hpy
  have hx₃ : avctx₂.extradata = 0 ∨
      avctx₂.extradata ∈ ((heap₂.release avp.extradata).release p).addrs :=
    hnull₂.imp_right fun hx => Heap.mem_addrs_release.mpr
      ⟨Heap.mem_addrs_release.mpr ⟨hx, fun e => hq₂.elim
        (fun h0 => hheap₂.zero_not_mem (h0 ▸ e ▸ hx)) fun h => h.2 e.symm⟩,
        fun e => hp₂.2 e.symm⟩
  simp only [hp, if_false, hto, avcodecParametersFree_eq hheap₂ (hq₂.imp_right And.left)
    (Heap.mem_addrs_release.mpr ⟨hp₂.1, hp₁.2⟩)]
  refine ⟨_, _, _, rfl, ?_⟩
  -- the codec type and id are put back unless left unknown
  split_ifs
  all_goals
    refine ⟨(hheap₂.release _).release _, hx₃, Heap.release_frame hrel₂ hrel₁, ?_, ?_⟩
    all_goals first | exact .inl rfl | exact .inr (not_not.mp ‹_›)

theorem mpSetAvctxCodecHeaders_frame_h264 :
    ∃ r avctx' heap', mpSetAvctxCodecHeaders 64 Allocator.bump Libavcodec.sample 8
        (fun _ => true) (fun _ => 0) (ParamsToContext.ofSetExtradata 64 Allocator.bump)
        ⟨⟨0, 0⟩, .video, 27⟩ h264Stream [] = .ok (r, avctx', heap') ∧
      heap'.Valid ∧ (avctx'.extradata = 0 ∨ avctx'.extradata ∈ heap'.addrs) ∧
      heap'.release avctx'.extradata = Heap.release 0 [] ∧
      (avctx'.codecType = .video ∨ avctx'.codecType = .unknown) ∧
      (avctx'.codecId = 27 ∨ avctx'.codecId = AV_CODEC_ID_NONE) :=
  mpSetAvctxCodecHeaders_frame 64 Allocator.bump Libavcodec.sample 8 (fun _ => true) (fun _ => 0)
    _ ⟨by decide, by decide⟩ (.inl ⟨rfl, rfl⟩) ⟨by decide, by decide, by decide⟩

/-- The parameters' block and their extradata are freed; the context holds a new padded
copy of the stream's extradata. -/
example : mpSetAvctxCodecHeaders 2 Allocator.bump Libavcodec.sample 8 (fun _ => true)
    (fun _ => 0) (ParamsToContext.ofSetExtradata 2 Allocator.bump) ⟨⟨0, 0⟩, .video, 27⟩
    h264Stream [] = .ok (0, ⟨⟨3, 3⟩, .video, 27⟩, [(3, [1, 2, 3, 0, 0])]) :=
  rfl

end Headers

end Mpv

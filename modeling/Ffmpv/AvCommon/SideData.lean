/-
Frame side data: `mp_create_side_data_from_buf`.

`mp_create_side_data_from_buf(frame, type, buf)` appends to `frame->side_data` a new
`AVFrameSideData` that takes over the reference `buf`.  It returns `NULL` at once for a
`NULL` `buf`; when the count guard, `av_realloc` or `av_mallocz` fails it releases `buf`
and returns `NULL`.

* `sideDataBytes_eq` — past the count guard, the byte count `(nb_side_data + 1) *
  sizeof(*side_data)` handed to `av_realloc` is computed without overflow and is at most
  `INT_MAX`;
* `mpCreateSideDataFromBuf_cases` — for every frame with `nb_side_data ≥ 0` entries, every
  `buf` and every outcome of the two allocations, the call returns `NULL` with the count
  and the entries kept and `buf` released once (not at all when it is `NULL`), or returns a
  new entry holding `buf`, appended after the kept entries, with `buf` not released.

Design notes: the frame's `side_data` is the array's address and its slots, a slot holding
the address of an entry or, past what was ever written, no value.  The `AVFrameSideData`
blocks are a list of live blocks, and `av_mallocz` picks a fresh address for a new one, or
`0` (`Allocator`).  `av_realloc` is any function of the old address and the byte count,
`0` meaning failure; a moved array keeps its slots.  `sizeof(*frame->side_data)` is a
parameter, and so is `sizeof(*ret)`.  `av_buffer_unref` appends the reference's address to
the list of released references.  Of `AVFrameSideData` the fields the function sets are
kept, `metadata` (zeroed by `av_mallocz`) is left out.
-/
import Ffmpv.AvCommon.Extradata

namespace Mpv

/-- `AVFrameSideData`, with the fields `mp_create_side_data_from_buf` sets. -/
structure AVFrameSideData where
  type : ℕ
  data : ℕ
  size : ℤ
  buf : ℕ
  deriving DecidableEq, Repr

/-- A non-`NULL` `AVBufferRef *`: its address and the two fields the function reads. -/
structure BufferRef where
  addr : ℕ
  data : ℕ
  size : ℤ
  deriving DecidableEq, Repr

/-- `AVFrame`, with `side_data`, as the array's address and its slots, and `nb_side_data`. -/
structure AVFrame where
  sideData : ℕ
  slots : List (Option ℕ)
  nbSideData : ℤ
  deriving DecidableEq, Repr

/-- The memory besides the frame: the live `AVFrameSideData` blocks, and the addresses of
the buffer references released so far, in order. -/
structure SideDataMem where
  entries : List (ℕ × AVFrameSideData)
  released : List ℕ
  deriving DecidableEq, Repr

/-- The slots of an array that `av_realloc` resized to `n` slots: the first `n` are kept
and the new ones hold no value. -/
def resizeSlots (slots : List (Option ℕ)) (n : ℕ) : List (Option ℕ) :=
  (slots ++ List.replicate n none).take n

section SideData

/- `sizeofPtr` is `sizeof(*frame->side_data)` and `sizeofSideData` is `sizeof(*ret)`;
`avRealloc p n` is the address `av_realloc(p, n)` returns, `0` when it fails. -/
variable (sizeofPtr sizeofSideData : ℕ) (avRealloc : ℕ → ℕ → ℕ) (alloc : Allocator)

/-- The guard `frame->nb_side_data > INT_MAX / sizeof(*frame->side_data) - 1`, computed in
`size_t`. -/
def sideDataFull (nb : ℤ) : Bool :=
  sizeT (INT_MAX / sizeofPtr - 1) < sizeT nb

/-- The byte count `(frame->nb_side_data + 1) * sizeof(*frame->side_data)`: an `int` sum,
converted to `size_t` and multiplied there. -/
def sideDataBytes (nb : ℤ) : Except MemFault ℕ := do
  let some n := cInt (nb + 1) | throw .overflow
  return sizeT n * sizeofPtr % 2 ^ 64

/-- `mp_create_side_data_from_buf(frame, type, buf)`; it returns the entry's address,
`0` for `NULL`, the frame and the memory. -/
def mpCreateSideDataFromBuf (frame : AVFrame) (type : ℕ) (buf : Option BufferRef)
    (mem : SideDataMem) : Except MemFault (ℕ × AVFrame × SideDataMem) :=
  match buf with
  | none => pure (0, frame, mem)
  | some buf =>
    let fail (frame : AVFrame) : Except MemFault (ℕ × AVFrame × SideDataMem) :=
      pure (0, frame, { mem with released := mem.released ++ [buf.addr] })
    if sideDataFull sizeofPtr frame.nbSideData then fail frame else do
    let bytes ← sideDataBytes sizeofPtr frame.nbSideData
    let tmp := avRealloc frame.sideData bytes
    if tmp = 0 then fail frame else
    let frame :=
      { frame with sideData := tmp, slots := resizeSlots frame.slots (bytes / sizeofPtr) }
    let ret := alloc.mallocz (mem.entries.map Prod.fst) sizeofSideData
    if ret = 0 then fail frame else
    let entry : AVFrameSideData := { type, data := buf.data, size := buf.size, buf := buf.addr }
    pure (ret, { frame with slots := frame.slots.set frame.nbSideData.toNat (some ret),
                            nbSideData := frame.nbSideData + 1 },
      { mem with entries := (ret, entry) :: mem.entries })

end SideData

/-! ### The slots -/

theorem take_resizeSlots {slots : List (Option ℕ)} {k n : ℕ} (hk : k ≤ slots.length)
    (hkn : k ≤ n) : (resizeSlots slots n).take k = slots.take k := by
  rw [resizeSlots, List.take_take, min_eq_left hkn, List.take_append_of_le_length hk]

theorem length_resizeSlots (slots : List (Option ℕ)) (n : ℕ) :
    (resizeSlots slots n).length = n := by
  simp [resizeSlots]

/-- Writing the last slot of an array resized to `k + 1` slots appends after the first `k`. -/
theorem take_set_resizeSlots {slots : List (Option ℕ)} {k : ℕ} (hk : k ≤ slots.length)
    (v : Option ℕ) :
    ((resizeSlots slots (k + 1)).set k v).take (k + 1) = slots.take k ++ [v] := by
  have hlen := length_resizeSlots slots (k + 1)
  rw [List.take_of_length_le (by simp [hlen]), List.set_eq_take_append_cons_drop,
    if_pos (by omega), take_resizeSlots hk (Nat.le_succ k),
    List.drop_eq_nil_of_le (by omega)]

/-! ### The count guard and the byte count -/

section SideData

variable (sizeofPtr sizeofSideData : ℕ) (avRealloc : ℕ → ℕ → ℕ) (alloc : Allocator)

/-- Past the count guard, `nb_side_data + 1` does not overflow and the byte count is the
exact product, at most `INT_MAX`. -/
theorem sideDataBytes_eq {nb : ℤ} (hptr : 0 < sizeofPtr) (hptrMax : (sizeofPtr : ℤ) ≤ INT_MAX)
    (hnb : 0 ≤ nb) (hnbMax : nb ≤ INT_MAX) (hfull : sideDataFull sizeofPtr nb = false) :
    sideDataBytes sizeofPtr nb = .ok ((nb + 1).toNat * sizeofPtr) ∧
      (nb + 1) * sizeofPtr ≤ INT_MAX := by
  have hq : 1 ≤ INT_MAX / (sizeofPtr : ℤ) :=
    (Int.le_ediv_iff_mul_le (by exact_mod_cast hptr)).mpr (by simpa using hptrMax)
  have hqmax : INT_MAX / (sizeofPtr : ℤ) ≤ INT_MAX := Int.ediv_le_self _ (by decide)
  have hI : INT_MAX = 2 ^ 31 - 1 := rfl
  have hle : nb + 1 ≤ INT_MAX / sizeofPtr := by
    simp only [sideDataFull, decide_eq_false_iff_not, not_lt, sizeT] at hfull
    omega
  have hprod : (nb + 1) * sizeofPtr ≤ INT_MAX :=
    (mul_le_mul_of_nonneg_right hle (by positivity)).trans
      (Int.ediv_mul_le _ (by exact_mod_cast hptr.ne'))
  refine ⟨?_, hprod⟩
  have hs : sizeT (nb + 1) = (nb + 1).toNat := by simp only [sizeT]; omega
  have hlt : (nb + 1).toNat * sizeofPtr < 2 ^ 64 := by
    have : ((nb + 1).toNat * sizeofPtr : ℤ) ≤ INT_MAX := by
      rwa [Int.toNat_of_nonneg (by omega)]
    omega
  have hc : cInt (nb + 1) = some (nb + 1) := cInt_of_mem (by simp only [INT_MIN]; omega) (by omega)
  simp only [sideDataBytes, hc, hs, Nat.mod_eq_of_lt hlt]
  rfl

/-- **Side data, every outcome.**  For every frame with `0 ≤ nb_side_data` entries, every
side-data type, every `buf` and every outcome of `av_realloc` and `av_mallocz`, the call
either returns `NULL`, keeping `nb_side_data`, the entries `side_data[0..nb_side_data-1]`
and the live entry blocks, and releasing `buf` once (not at all when it is `NULL`), or
returns a fresh entry holding `buf`, its data, its size and the type, stored in
`side_data[nb_side_data]` of the array `av_realloc` returned for
`(nb_side_data + 1) * sizeof(*side_data)` bytes, with one more entry, the earlier ones kept,
and `buf` not released; past the count guard that byte count is computed without overflow
and is at most `INT_MAX`. -/
theorem mpCreateSideDataFromBuf_cases (hptr : 0 < sizeofPtr)
    (hptrMax : (sizeofPtr : ℤ) ≤ INT_MAX) (frame : AVFrame) (hnb : 0 ≤ frame.nbSideData)
    (hnbMax : frame.nbSideData ≤ INT_MAX) (hslots : frame.nbSideData ≤ frame.slots.length)
    (type : ℕ) (buf : Option BufferRef) (mem : SideDataMem) :
    ∃ ret frame' mem',
      mpCreateSideDataFromBuf sizeofPtr sizeofSideData avRealloc alloc frame type buf mem =
        .ok (ret, frame', mem') ∧
      ((ret = 0 ∧ frame'.nbSideData = frame.nbSideData ∧
          frame'.slots.take frame.nbSideData.toNat = frame.slots.take frame.nbSideData.toNat ∧
          mem'.entries = mem.entries ∧
          mem'.released = mem.released ++ buf.toList.map (·.addr)) ∨
        ∃ b, buf = some b ∧ ret ≠ 0 ∧ ret ∉ mem.entries.map Prod.fst ∧
          frame'.sideData =
            avRealloc frame.sideData ((frame.nbSideData + 1).toNat * sizeofPtr) ∧
          frame'.nbSideData = frame.nbSideData + 1 ∧
          frame'.slots.take (frame.nbSideData.toNat + 1) =
            frame.slots.take frame.nbSideData.toNat ++ [some ret] ∧
          mem'.entries = (ret, ⟨type, b.data, b.size, b.addr⟩) :: mem.entries ∧
          mem'.released = mem.released) ∧
      (sideDataFull sizeofPtr frame.nbSideData = false →
        sideDataBytes sizeofPtr frame.nbSideData =
          .ok ((frame.nbSideData + 1).toNat * sizeofPtr) ∧
        (frame.nbSideData + 1) * sizeofPtr ≤ INT_MAX) := by
  have hbytes := fun hfull => sideDataBytes_eq sizeofPtr hptr hptrMax hnb hnbMax hfull
  have hnb1 : (frame.nbSideData + 1).toNat = frame.nbSideData.toNat + 1 := by omega
  have hk : frame.nbSideData.toNat ≤ frame.slots.length := by omega
  cases buf with
  | none => exact ⟨0, frame, mem, rfl, .inl ⟨rfl, rfl, rfl, rfl, by simp⟩, hbytes⟩
  | some b =>
  simp only [mpCreateSideDataFromBuf]
  cases hfull : sideDataFull sizeofPtr frame.nbSideData
  case true =>
    -- the count guard
    exact ⟨0, frame, _, rfl, .inl ⟨rfl, rfl, rfl, rfl, rfl⟩, fun h => absurd h (by simp)⟩
  case false =>
  -- past the guard the byte count is `(nb_side_data + 1) * sizeof(*side_data)`
  obtain ⟨hok, hmax⟩ := hbytes hfull
  simp only [hok, Bool.false_eq_true, if_false, bind, Except.bind, Nat.mul_div_cancel _ hptr]
  split_ifs with htmp hret
  · -- `av_realloc` failed: the array is as it was
    exact ⟨0, frame, _, rfl, .inl ⟨rfl, rfl, rfl, rfl, rfl⟩, fun _ => ⟨trivial, hmax⟩⟩
  · -- `av_mallocz` failed: the array was moved and grown, the old entries kept
    exact ⟨0, _, _, rfl, .inl ⟨rfl, rfl, take_resizeSlots hk (by omega), rfl, rfl⟩,
      fun _ => ⟨trivial, hmax⟩⟩
  · -- the entry is stored after the kept ones
    refine ⟨_, _, _, rfl, .inr ⟨b, rfl, hret, alloc.fresh _ _ hret, rfl, rfl, ?_, rfl, rfl⟩,
      fun _ => ⟨trivial, hmax⟩⟩
    rw [hnb1]
    exact take_set_resizeSlots hk _

/-- A frame with two entries, 8-byte pointers, an `av_realloc` that moves the array and an
`av_mallocz` that fails. -/
theorem mpCreateSideDataFromBuf_cases_out_of_memory :
    let frame : AVFrame := ⟨100, [some 1, some 2], 2⟩
    let buf : Option BufferRef := some ⟨5, 6, 7⟩
    let mem : SideDataMem := ⟨[(2, ⟨3, 8, 9, 4⟩), (1, ⟨3, 6, 7, 3⟩)], []⟩
    ∃ ret frame' mem',
      mpCreateSideDataFromBuf 8 40 (fun _ _ => 200) Allocator.exhausted frame 3 buf mem =
        .ok (ret, frame', mem') ∧
      ((ret = 0 ∧ frame'.nbSideData = frame.nbSideData ∧
          frame'.slots.take frame.nbSideData.toNat = frame.slots.take frame.nbSideData.toNat ∧
          mem'.entries = mem.entries ∧
          mem'.released = mem.released ++ buf.toList.map (·.addr)) ∨
        ∃ b, buf = some b ∧ ret ≠ 0 ∧ ret ∉ mem.entries.map Prod.fst ∧
          frame'.sideData = (fun _ _ => 200) frame.sideData ((frame.nbSideData + 1).toNat * 8) ∧
          frame'.nbSideData = frame.nbSideData + 1 ∧
          frame'.slots.take (frame.nbSideData.toNat + 1) =
            frame.slots.take frame.nbSideData.toNat ++ [some ret] ∧
          mem'.entries = (ret, ⟨3, b.data, b.size, b.addr⟩) :: mem.entries ∧
          mem'.released = mem.released) ∧
      (sideDataFull 8 frame.nbSideData = false →
        sideDataBytes 8 frame.nbSideData = .ok ((frame.nbSideData + 1).toNat * 8) ∧
        (frame.nbSideData + 1) * 8 ≤ INT_MAX) :=
  mpCreateSideDataFromBuf_cases 8 40 (fun _ _ => 200) Allocator.exhausted (by decide) (by decide)
    ⟨100, [some 1, some 2], 2⟩ (by decide) (by decide) (by decide) 3 (some ⟨5, 6, 7⟩)
    ⟨[(2, ⟨3, 8, 9, 4⟩), (1, ⟨3, 6, 7, 3⟩)], []⟩

/- There the array is moved and grown to three slots, the two entries kept and `buf`
released. -/
example : mpCreateSideDataFromBuf 8 40 (fun _ _ => 200) Allocator.exhausted
    ⟨100, [some 1, some 2], 2⟩ 3 (some ⟨5, 6, 7⟩) ⟨[(2, ⟨3, 8, 9, 4⟩), (1, ⟨3, 6, 7, 3⟩)], []⟩ =
      .ok (0, ⟨200, [some 1, some 2, none], 2⟩, ⟨[(2, ⟨3, 8, 9, 4⟩), (1, ⟨3, 6, 7, 3⟩)], [5]⟩) :=
  rfl

example : mpCreateSideDataFromBuf 8 40 (fun _ _ => 100) Allocator.bump ⟨0, [], 0⟩ 3
    (some ⟨5, 6, 7⟩) ⟨[], []⟩ =
      .ok (1, ⟨100, [some 1], 1⟩, ⟨[(1, ⟨3, 6, 7, 5⟩)], []⟩) :=
  rfl

/- With 8-byte pointers the count guard refuses a frame holding `INT_MAX / 8` entries. -/
example : mpCreateSideDataFromBuf 8 40 (fun _ _ => 100) Allocator.bump
    ⟨100, [], INT_MAX / 8⟩ 3 (some ⟨5, 6, 7⟩) ⟨[], []⟩ =
      .ok (0, ⟨100, [], INT_MAX / 8⟩, ⟨[], [5]⟩) :=
  rfl

end SideData

end Mpv

/-
Codec names and ids: `mp_to_av_stream_type`, `mp_codec_to_av_codec_id`,
`mp_codec_from_av_codec_id`, `is_crap`, `mp_add_lavc_decoders`, `mp_add_lavc_encoders`
and `mp_set_avcodec_threads`.

mpv names a codec by a string, libavcodec by an `enum AVCodecID`.  The string of an id is
the name of its codec descriptor, else the name of a decoder for it; the id of a string is
that of the descriptor of that name, else that of the decoder of that name.

* `addLavcCodecs_eq` — the loops over `av_codec_next` add one entry per codec they keep,
  in order, each under the name of its id;
* `mpAddLavcDecoders_entries` — `mp_add_lavc_decoders` appends exactly the decoders of the
  asked type without `_vdpau` in their names, and their codec names convert back to their
  ids when those have a descriptor;
* `mpSetAvcodecThreads_count` — the thread count asked of libavcodec is the caller's, or,
  for `0`, between `1` and `16` whatever `av_cpu_count` returns.

Design notes: libavcodec's tables are an argument, `Libavcodec`: the codec descriptors,
whose ids and names are distinct as libavcodec keeps them, and the registered codecs in
`av_codec_next` order.  The lookups are libavcodec's: by id or by name over the
descriptors, the first decoder of an id (a non-experimental one first) or of a name over the
codecs.  Names are the characters before the NUL and `NULL` is `none`.  `mp_add_decoder`
of `common/codecs.c` appends one entry to the list; `av_cpu_count()` is an argument.
-/
import Ffmpv.Extension

namespace Mpv

/-! ### Media types -/

/-- `enum stream_type` of mpv, as `mp_to_av_stream_type` tells its `int` apart. -/
inductive StreamType
  | video | audio | sub
  /-- any other value -/
  | other
  deriving DecidableEq, Repr

/-- `enum AVMediaType`. -/
inductive AVMediaType
  | unknown | video | audio | data | subtitle | attachment
  deriving DecidableEq, Repr

/-- `mp_to_av_stream_type(type)`. -/
def mpToAvStreamType : StreamType → AVMediaType
  | .video => .video
  | .audio => .audio
  | .sub => .subtitle
  | .other => .unknown

/-! ### libavcodec's tables -/

def AV_CODEC_ID_NONE : ℤ := 0

/-- An entry of libavcodec's codec descriptor table. -/
structure AVCodecDescriptor where
  id : ℤ
  type : AVMediaType
  name : List Char
  deriving DecidableEq, Repr

/-- A registered codec, with `av_codec_is_decoder`, `av_codec_is_encoder` and
`AV_CODEC_CAP_EXPERIMENTAL`. -/
structure AVCodec where
  name : List Char
  longName : List Char
  type : AVMediaType
  id : ℤ
  isDecoder : Bool
  isEncoder : Bool
  experimental : Bool
  deriving DecidableEq, Repr

/-- libavcodec's codec descriptors, with distinct ids and distinct names, and its registered
codecs in `av_codec_next` order. -/
structure Libavcodec where
  descriptors : List AVCodecDescriptor
  codecs : List AVCodec
  ids_nodup : (descriptors.map AVCodecDescriptor.id).Nodup
  names_nodup : (descriptors.map AVCodecDescriptor.name).Nodup

namespace Libavcodec

variable (lib : Libavcodec)

/-- `avcodec_descriptor_get(id)`. -/
def descriptorGet (id : ℤ) : Option AVCodecDescriptor :=
  lib.descriptors.find? (·.id == id)

/-- `avcodec_descriptor_get_by_name(name)`. -/
def descriptorGetByName (name : List Char) : Option AVCodecDescriptor :=
  lib.descriptors.find? (·.name == name)

/-- `avcodec_find_decoder(id)`: the first non-experimental decoder of `id`, else the first
experimental one. -/
def findDecoder (id : ℤ) : Option AVCodec :=
  match lib.codecs.find? fun c => c.isDecoder && c.id == id && !c.experimental with
  | some c => some c
  | none => lib.codecs.find? fun c => c.isDecoder && c.id == id

/-- `avcodec_find_decoder_by_name(name)`. -/
def findDecoderByName (name : List Char) : Option AVCodec :=
  lib.codecs.find? fun c => c.isDecoder && c.name == name

end Libavcodec

/-! ### Names and ids -/

section Names

variable (lib : Libavcodec)

/-- `mp_codec_to_av_codec_id(codec)`. -/
def mpCodecToAvCodecId (codec : Option (List Char)) : ℤ :=
  match codec with
  | none => AV_CODEC_ID_NONE
  | some name =>
    let id := ((lib.descriptorGetByName name).map AVCodecDescriptor.id).getD AV_CODEC_ID_NONE
    if id = AV_CODEC_ID_NONE then ((lib.findDecoderByName name).map AVCodec.id).getD id
    else id

/-- `mp_codec_from_av_codec_id(codec_id)`. -/
def mpCodecFromAvCodecId (codecId : ℤ) : Option (List Char) :=
  match (lib.descriptorGet codecId).map AVCodecDescriptor.name with
  | some name => some name
  | none => (lib.findDecoder codecId).map AVCodec.name

/-- On a list whose keys are distinct, the search for the key of an entry finds it. -/
theorem find?_key_eq_some {α β : Type} [BEq β] [LawfulBEq β] (f : α → β) :
    ∀ {l : List α}, (l.map f).Nodup → ∀ {a : α}, a ∈ l → l.find? (fun x => f x == f a) = some a
  | [], _, _, ha => absurd ha (List.not_mem_nil _)
  | x :: l, hl, a, ha => by
    rw [List.map_cons, List.nodup_cons] at hl
    by_cases hx : x = a
    · simp [hx]
    · have ha' : a ∈ l := (List.mem_cons.mp ha).resolve_left (Ne.symm hx)
      have hne : f x ≠ f a := fun e => hl.1 (e ▸ List.mem_map_of_mem f ha')
      simp [hne, find?_key_eq_some f hl.2 ha']

theorem Libavcodec.descriptorGet_of_mem {d : AVCodecDescriptor} (hd : d ∈ lib.descriptors) :
    lib.descriptorGet d.id = some d :=
  find?_key_eq_some _ lib.ids_nodup hd

theorem Libavcodec.descriptorGetByName_of_mem {d : AVCodecDescriptor}
    (hd : d ∈ lib.descriptors) : lib.descriptorGetByName d.name = some d :=
  find?_key_eq_some _ lib.names_nodup hd

/-- The name of a descriptor whose id is not `AV_CODEC_ID_NONE` converts to that id and
back. -/
theorem mpCodecFromAvCodecId_toAvCodecId {d : AVCodecDescriptor} (hd : d ∈ lib.descriptors)
    (hid : d.id ≠ AV_CODEC_ID_NONE) :
    mpCodecFromAvCodecId lib (mpCodecToAvCodecId lib (some d.name)) = some d.name := by
  simp [mpCodecFromAvCodecId, mpCodecToAvCodecId, lib.descriptorGet_of_mem hd,
    lib.descriptorGetByName_of_mem hd, hid]

/-- The id of a descriptor, if not `AV_CODEC_ID_NONE`, converts to its name and back. -/
theorem mpCodecToAvCodecId_fromAvCodecId {d : AVCodecDescriptor} (hd : d ∈ lib.descriptors)
    (hid : d.id ≠ AV_CODEC_ID_NONE) :
    mpCodecToAvCodecId lib (mpCodecFromAvCodecId lib d.id) = d.id := by
  simp [mpCodecFromAvCodecId, mpCodecToAvCodecId, lib.descriptorGet_of_mem hd,
    lib.descriptorGetByName_of_mem hd, hid]

/-- A table of two descriptors and their decoders. -/
def Libavcodec.sample : Libavcodec where
  descriptors := [⟨27, .video, "h264".toList⟩, ⟨86018, .audio, "aac".toList⟩]
  codecs := [⟨"h264".toList, "H.264".toList, .video, 27, true, false, false⟩,
    ⟨"h264_vdpau".toList, "H.264 (VDPAU)".toList, .video, 27, true, false, false⟩,
    ⟨"aac".toList, "AAC".toList, .audio, 86018, true, true, false⟩]
  ids_nodup := by decide
  names_nodup := by decide

end Names

/-! ### Codec lists -/

/-- `struct mp_decoder_entry`. -/
structure MpDecoderEntry where
  family : List Char
  codec : Option (List Char)
  decoder : List Char
  desc : List Char
  deriving DecidableEq, Repr

/-- `mp_add_decoder(list, family, codec, decoder, desc)` of `common/codecs.c`: the entry is
appended. -/
def mpAddDecoder (list : List MpDecoderEntry) (family : List Char) (codec : Option (List Char))
    (decoder desc : List Char) : List MpDecoderEntry :=
  list ++ [⟨family, codec, decoder, desc⟩]

/-- `is_crap(codec)`: `_vdpau` occurs in the codec's name. -/
def isCrap (codec : AVCodec) : Bool := (strstr codec.name "_vdpau".toList 0).isSome

@[simp] theorem not_isCrap (codec : AVCodec) :
    (!isCrap codec) = (strstr codec.name "_vdpau".toList 0).isNone := by
  unfold isCrap
  cases strstr codec.name "_vdpau".toList 0 <;> rfl

section Lists

variable (lib : Libavcodec)

/-- The loop of `mp_add_lavc_decoders` and `mp_add_lavc_encoders` over `av_codec_next`:
every codec `keep` accepts is added as a `"lavc"` entry. -/
def addLavcCodecs (keep : AVCodec → Bool) (list : List MpDecoderEntry) : List MpDecoderEntry :=
  lib.codecs.foldl (fun list cur =>
    if keep cur then
      mpAddDecoder list "lavc".toList (mpCodecFromAvCodecId lib cur.id) cur.name cur.longName
    else list) list

/-- `mp_add_lavc_decoders(list, type)`. -/
def mpAddLavcDecoders (list : List MpDecoderEntry) (type : AVMediaType) :
    List MpDecoderEntry :=
  addLavcCodecs lib (fun cur => cur.isDecoder && cur.type == type && !isCrap cur) list

/-- `mp_add_lavc_encoders(list)`. -/
def mpAddLavcEncoders (list : List MpDecoderEntry) : List MpDecoderEntry :=
  addLavcCodecs lib AVCodec.isEncoder list

/-- The entry a codec is added as. -/
def lavcEntry (cur : AVCodec) : MpDecoderEntry :=
  ⟨"lavc".toList, mpCodecFromAvCodecId lib cur.id, cur.name, cur.longName⟩

/-- The loop appends one entry per kept codec, in `av_codec_next` order. -/
theorem addLavcCodecs_eq (keep : AVCodec → Bool) (list : List MpDecoderEntry) :
    addLavcCodecs lib keep list = list ++ (lib.codecs.filter keep).map (lavcEntry lib) := by
  unfold addLavcCodecs
  induction lib.codecs generalizing list with
  | nil => simp
  | cons cur cs ih =>
    by_cases hk : keep cur
    · simp only [List.foldl_cons, hk, if_true, ih, List.filter_cons_of_pos hk]
      simp [mpAddDecoder, lavcEntry]
    · simp only [List.foldl_cons, hk, Bool.false_eq_true, if_false, ih,
        List.filter_cons_of_neg hk]

/-- **The decoder list.**  `mp_add_lavc_decoders` appends, in `av_codec_next` order, one
`"lavc"` entry for each decoder of the asked type without `_vdpau` in its name, under its
own name and long name and the codec name of its id; that codec name converts back to the
id whenever the id has a descriptor. -/
theorem mpAddLavcDecoders_entries (list : List MpDecoderEntry) (type : AVMediaType) :
    mpAddLavcDecoders lib list type = list ++ (lib.codecs.filter fun cur =>
        cur.isDecoder && cur.type == type && (strstr cur.name "_vdpau".toList 0).isNone).map
        (fun cur => ⟨"lavc".toList, mpCodecFromAvCodecId lib cur.id, cur.name, cur.longName⟩) ∧
      ∀ cur ∈ lib.codecs, ∀ d ∈ lib.descriptors, d.id = cur.id → cur.id ≠ AV_CODEC_ID_NONE →
        mpCodecToAvCodecId lib (mpCodecFromAvCodecId lib cur.id) = cur.id := by
  refine ⟨?_, fun cur _ d hd hid hnone => ?_⟩
  · simp only [mpAddLavcDecoders, addLavcCodecs_eq, not_isCrap]
    rfl
  · rw [← hid] at hnone ⊢
    exact mpCodecToAvCodecId_fromAvCodecId lib hd hnone

example :
    mpAddLavcDecoders Libavcodec.sample [] .video =
      [⟨"lavc".toList, some "h264".toList, "h264".toList, "H.264".toList⟩] :=
  rfl

end Lists

/-! ### Threads -/

/-- `mp_set_avcodec_threads(l, avctx, threads)`: the `thread_count` it sets and the lines it
logs, `av_cpu_count()` being `cpuCount`. -/
def mpSetAvcodecThreads (cpuCount threads : ℤ) : ℤ × List (List Char) :=
  let (threads, log) : ℤ × List (List Char) :=
    if threads = 0 then
      let (threads, line) : ℤ × List Char :=
        if cpuCount < 1 then
          (1, "Could not determine thread count to use, defaulting to 1.\n".toList)
        else
          (if cpuCount > 1 then cpuCount + 1 else cpuCount,
            "Detected ".toList ++ (toString cpuCount).toList ++ " logical cores.\n".toList)
      (min threads 16, [line])
    else (threads, [])
  (threads, log ++
    ["Requesting ".toList ++ (toString threads).toList ++ " threads for decoding.\n".toList])

/-- The thread count set is the caller's, or for `0` one more than the cores detected, kept
between `1` and `16`; the last line logged names the count set. -/
theorem mpSetAvcodecThreads_count (cpuCount threads : ℤ) :
    ((mpSetAvcodecThreads cpuCount threads).1 =
      if threads = 0 then max 1 (min (if 1 < cpuCount then cpuCount + 1 else cpuCount) 16)
      else threads) ∧
    (mpSetAvcodecThreads cpuCount threads).2.getLast? =
      some ("Requesting ".toList ++ (toString (mpSetAvcodecThreads cpuCount threads).1).toList ++
        " threads for decoding.\n".toList) := by
  unfold mpSetAvcodecThreads
  split_ifs <;> dsimp only <;> exact ⟨by omega, List.getLast?_concat _⟩

end Mpv

/-
Setting AVOptions by name or by position: `resolve_positional_arg` and `mp_set_avopts`.

A key `@N` names the `N`-th option of the object's table.  `resolve_positional_arg`
parses `N` with `strtol` and walks the table with `av_opt_next`, counting an entry when it
is not `AV_OPT_TYPE_CONST` and its offset differs from the offset of the entry before it;
`mp_set_avopts` resolves every key so and hands it to `av_opt_set`.

* `positionalScan_eq` — the walk returns the `N`-th entry the code counts;
* `resolvePositionalArg_numeral` — for every decimal numeral `N ≤ INT_MAX` the key `@N`
  becomes the name of the `N`-th counted entry, and stays `@N` when there are fewer;
* `countedEntries_eq_positionalEntries` — on a table without `CONST` entries (and with
  the offsets `offsetof` gives) the code counts exactly libavfilter's positional entries;
* `resolvePositionalArg_counts_alias` — with a `CONST` entry between an option and its
  alias the two numberings differ;
* `mpSetAvopts_eq` — `mp_set_avopts` sets every option, under its resolved name, in order,
  and fails, with one message per failed option, iff one of them fails.

Design notes: strings are the characters before the NUL.  `av_opt_set` and `av_strerror`
belong to FFmpeg and are parameters; of an `AVOption` only the name, the offset and
whether the type is `CONST` are read.  `pos` is an `int` in the C code; it is `ℤ` here
after the `long`-to-`int` conversion of `strtol`'s result, which is the one place where
the width matters for keys `@N` with `N ≤ INT_MAX`.
-/
import Mathlib.Data.List.Basic
import Mathlib.Tactic.Linarith

namespace Mpv

/-! ### `strtol` -/

def LONG_MAX : ℤ := 2 ^ 63 - 1
def LONG_MIN : ℤ := -2 ^ 63
def INT_MAX : ℤ := 2 ^ 31 - 1
def INT_MIN : ℤ := -2 ^ 31

/-- `isspace` in the C locale. -/
def isCSpace (c : Char) : Bool :=
  c = ' ' || c = '\t' || c = '\n' || c = '\x0B' || c = '\x0C' || c = '\r'

/-- The value of one decimal digit. -/
def digitValue (c : Char) : ℕ := c.toNat - '0'.toNat

/-- The digit loop of `strtol` in base 10: the value of the longest digit prefix, and the
text after it. -/
def strtolDigits : ℕ → List Char → ℕ × List Char
  | acc, [] => (acc, [])
  | acc, c :: cs => if c.isDigit then strtolDigits (10 * acc + digitValue c) cs else (acc, c :: cs)

/-- `strtol(s, &end, 10)`: leading white space, a sign, the digits; the value clamped to
`long`, and the text at `end`, which is `s` itself when there is no digit. -/
def strtol (s : List Char) : ℤ × List Char :=
  let t := s.dropWhile isCSpace
  let (neg, u) :=
    if t.head? = some '-' then (true, t.tail)
    else if t.head? = some '+' then (false, t.tail) else (false, t)
  if (u.head?.map Char.isDigit) = some true then
    let (n, rest) := strtolDigits 0 u
    (if neg then max (-n) LONG_MIN else min n LONG_MAX, rest)
  else (0, s)

/-- The conversion of a `long` to `int` (two's complement, 32 bits). -/
def toCInt (v : ℤ) : ℤ := (v + 2 ^ 31) % 2 ^ 32 - 2 ^ 31

/-! ### `resolve_positional_arg` -/

/-- What `resolve_positional_arg` tells apart in `AVOption.type`. -/
inductive AVOptionType
  | const
  | value
  deriving DecidableEq, Repr

/-- An entry of an `AVOption` table, as far as `resolve_positional_arg` reads it. -/
structure AVOption where
  name : List Char
  offset : ℤ
  type : AVOptionType
  deriving DecidableEq, Repr

/-- The loop of `resolve_positional_arg` over the entries left, with `pos` and the offset of
the entry before. -/
def positionalScan : List AVOption → ℤ → ℤ → Option (List Char)
  | [], _, _ => none
  | opt :: opts, pos, offset =>
    let pos := if opt.offset ≠ offset ∧ opt.type ≠ .const then pos - 1 else pos
    if pos < 0 then some opt.name else positionalScan opts pos opt.offset

/-- `resolve_positional_arg(avobj, &name)` on the table `options` of `avobj`; `name` is
never `NULL` where `mp_set_avopts` calls it. -/
def resolvePositionalArg (options : List AVOption) (name : List Char) : List Char :=
  match name with
  | '@' :: num =>
    let (pos, rest) := strtol num
    if rest ≠ [] then name
    else (positionalScan options (toCInt pos) (-1)).getD name
  | _ => name

/-! ### What the scan counts -/

/-- The entries the loop counts: not `CONST`, at an offset other than that of the entry
before. -/
def countedEntries : ℤ → List AVOption → List AVOption
  | _, [] => []
  | offset, opt :: opts =>
    if opt.offset ≠ offset ∧ opt.type ≠ .const then opt :: countedEntries opt.offset opts
    else countedEntries opt.offset opts

/-- libavfilter's positional entries: not `CONST`, at an offset other than that of the last
positional entry before (`none` before the first). -/
def positionalEntries : Option ℤ → List AVOption → List AVOption
  | _, [] => []
  | last, opt :: opts =>
    if opt.type ≠ .const ∧ last ≠ some opt.offset then
      opt :: positionalEntries (some opt.offset) opts
    else positionalEntries last opts

/-- The value of a decimal numeral. -/
def decimalValue (ds : List Char) : ℕ := ds.foldl (fun a c => 10 * a + digitValue c) 0

theorem strtolDigits_of_digits : ∀ {ds : List Char} (acc : ℕ), (∀ c ∈ ds, c.isDigit) →
    strtolDigits acc ds = (ds.foldl (fun a c => 10 * a + digitValue c) acc, [])
  | [], _, _ => rfl
  | c :: ds, acc, h => by
    simp only [strtolDigits, List.forall_mem_cons] at h ⊢
    rw [if_pos h.1, strtolDigits_of_digits _ h.2, List.foldl_cons]

theorem isCSpace_eq_false_of_isDigit {c : Char} (h : c.isDigit) : isCSpace c = false := by
  simp only [Char.isDigit, Bool.and_eq_true, decide_eq_true_eq] at h
  obtain ⟨h1, h2⟩ := h
  simp only [isCSpace, Bool.or_eq_false_iff, decide_eq_false_iff_not]
  refine ⟨⟨⟨⟨⟨?_, ?_⟩, ?_⟩, ?_⟩, ?_⟩, ?_⟩ <;> rintro rfl <;> revert h1 h2 <;> decide

/-- `strtol` reads a decimal numeral within `long` whole. -/
theorem strtol_numeral {ds : List Char} (hne : ds ≠ []) (hd : ∀ c ∈ ds, c.isDigit)
    (hv : decimalValue ds ≤ LONG_MAX) : strtol ds = ((decimalValue ds : ℤ), []) := by
  obtain ⟨d, ds', rfl⟩ := List.exists_cons_of_ne_nil hne
  have hd0 := hd d (List.mem_cons_self d ds')
  have hsign : d ≠ '-' ∧ d ≠ '+' := by
    constructor <;> rintro rfl <;> exact absurd hd0 (by decide)
  simp only [strtol, List.dropWhile_cons, isCSpace_eq_false_of_isDigit hd0, List.head?_cons,
    Option.some.injEq, hsign, if_false, Option.map_some', hd0, strtolDigits_of_digits 0 hd,
    Bool.false_eq_true, ite_true, decimalValue] at hv ⊢
  rw [min_eq_left hv]

theorem toCInt_of_nonneg {v : ℤ} (h0 : 0 ≤ v) (h : v ≤ INT_MAX) : toCInt v = v := by
  simp only [toCInt, INT_MAX] at h ⊢
  omega

/-- The scan returns the `N`-th entry the code counts, for every `N ≥ 0`. -/
theorem positionalScan_eq : ∀ (opts : List AVOption) (N : ℕ) (offset : ℤ),
    positionalScan opts N offset = ((countedEntries offset opts)[N]?).map AVOption.name
  | [], _, _ => rfl
  | opt :: opts, N, offset => by
    by_cases hc : opt.offset ≠ offset ∧ opt.type ≠ .const
    · cases N with
      | zero => simp [positionalScan, countedEntries, hc]
      | succ n =>
        have : ((n + 1 : ℕ) : ℤ) - 1 = n := by omega
        simp [positionalScan, countedEntries, hc, this, positionalScan_eq opts n]
    · simp only [positionalScan, countedEntries, hc, if_false]
      rw [if_neg (by omega), positionalScan_eq opts N]

/-- A key `@N`, `N` a decimal numeral up to `INT_MAX`, becomes the name of the `N`-th
counted entry of the table, and stays `@N` when the table has fewer. -/
theorem resolvePositionalArg_numeral (options : List AVOption) {ds : List Char} (hne : ds ≠ [])
    (hd : ∀ c ∈ ds, c.isDigit) (hN : decimalValue ds ≤ INT_MAX) :
    resolvePositionalArg options ('@' :: ds) =
      (((countedEntries (-1) options)[decimalValue ds]?).map AVOption.name).getD ('@' :: ds) := by
  have hlong : (decimalValue ds : ℤ) ≤ LONG_MAX := by
    simp only [INT_MAX, LONG_MAX] at hN ⊢; omega
  simp only [resolvePositionalArg, strtol_numeral hne hd hlong, ne_eq, not_true_eq_false,
    if_false, toCInt_of_nonneg (Int.natCast_nonneg _) hN, positionalScan_eq]

/-- `@1` on a table of two options names the second. -/
theorem resolvePositionalArg_numeral_one :
    resolvePositionalArg [⟨"mode".toList, 8, .value⟩, ⟨"level".toList, 16, .value⟩]
        ('@' :: "1".toList) =
      (((countedEntries (-1) [⟨"mode".toList, 8, .value⟩, ⟨"level".toList, 16, .value⟩])[
        decimalValue "1".toList]?).map AVOption.name).getD ('@' :: "1".toList) :=
  resolvePositionalArg_numeral _ (by decide) (by decide) (by decide)

/-- Without `CONST` entries the entry before a counted one is an alias of the last counted
one or that entry itself, so from an offset the code counts what libavfilter does. -/
theorem countedEntries_eq_of_no_const : ∀ {opts : List AVOption} (offset : ℤ),
    (∀ o ∈ opts, o.type ≠ .const) → countedEntries offset opts = positionalEntries (some offset) opts
  | [], _, _ => rfl
  | opt :: opts, offset, h => by
    have hopt := h opt (List.mem_cons_self _ _)
    have ih := fun off => countedEntries_eq_of_no_const off fun o ho => h o (List.mem_cons_of_mem _ ho)
    by_cases ho : opt.offset = offset
    · simp [countedEntries, positionalEntries, ho, ih]
    · simp [countedEntries, positionalEntries, ho, hopt, ih, Ne.symm ho]

/-- On a table without `CONST` entries and with non-negative offsets, as `offsetof` gives,
the code counts exactly libavfilter's positional entries. -/
theorem countedEntries_eq_positionalEntries {opts : List AVOption}
    (hconst : ∀ o ∈ opts, o.type ≠ .const) (hoff : ∀ o ∈ opts, 0 ≤ o.offset) :
    countedEntries (-1) opts = positionalEntries none opts := by
  cases opts with
  | nil => rfl
  | cons opt opts =>
    have h1 := hconst opt (List.mem_cons_self _ _)
    have h2 := hoff opt (List.mem_cons_self _ _)
    simp only [countedEntries, positionalEntries, h1, ne_eq, not_false_eq_true, and_true,
      reduceCtorEq, if_true, show opt.offset ≠ -1 by omega, true_and]
    exact congrArg _ (countedEntries_eq_of_no_const _ fun o ho => hconst o (List.mem_cons_of_mem _ ho))

/-- A table of an option and its alias, then a second option. -/
theorem countedEntries_eq_positionalEntries_alias :
    countedEntries (-1) [⟨"mode".toList, 8, .value⟩, ⟨"m".toList, 8, .value⟩,
        ⟨"level".toList, 16, .value⟩] =
      positionalEntries none [⟨"mode".toList, 8, .value⟩, ⟨"m".toList, 8, .value⟩,
        ⟨"level".toList, 16, .value⟩] :=
  countedEntries_eq_positionalEntries (by decide) (by decide)

/-- A filter table with an option `mode`, one of its constants, its alias `m` and a second
option `level`: the code counts the alias after the constant, so `@1` becomes `m`, where
libavfilter's second positional option is `level`. -/
theorem resolvePositionalArg_counts_alias :
    resolvePositionalArg [⟨"mode".toList, 8, .value⟩, ⟨"fast".toList, 0, .const⟩,
        ⟨"m".toList, 8, .value⟩, ⟨"level".toList, 16, .value⟩] "@1".toList = "m".toList ∧
      (positionalEntries none [⟨"mode".toList, 8, .value⟩, ⟨"fast".toList, 0, .const⟩,
        ⟨"m".toList, 8, .value⟩, ⟨"level".toList, 16, .value⟩]).map AVOption.name =
        ["mode".toList, "level".toList] := by
  decide

/-! ### `mp_set_avopts` -/

/-- `AVERROR_OPTION_NOT_FOUND`, `FFERRTAG(0xF8, 'O', 'P', 'T')`. -/
def AVERROR_OPTION_NOT_FOUND : ℤ := -0x54504FF8

section SetAvopts

variable {σ : Type} (options : List AVOption) (avOptSet : σ → List Char → List Char → ℤ × σ)
  (avStrerror : ℤ → List Char)

/-- The `mp_err` line for the result `r` of `av_opt_set(avobj, k, v, ...)`, if any; the
error text is cut to the 80-byte buffer `av_strerror` writes. -/
def setAvoptError (k v : List Char) (r : ℤ) : Option (List Char) :=
  if r = AVERROR_OPTION_NOT_FOUND then
    some ("AVOption \x27".toList ++ k ++ "\x27 not found.\n".toList)
  else if r < 0 then
    some ("Could not set AVOption ".toList ++ k ++ "=\x27".toList ++ v ++ "\x27 (".toList ++
      (avStrerror r).take 79 ++ ")\n".toList)
  else none

/-- The loop of `mp_set_avopts` over the key/value pairs left, with `success` and the log. -/
def mpSetAvoptsLoop : List (List Char × List Char) → ℤ → List (List Char) → σ →
    ℤ × List (List Char) × σ
  | [], success, log, avobj => (success, log, avobj)
  | (k, v) :: kv, success, log, avobj =>
    let k := resolvePositionalArg options k
    let (r, avobj) := avOptSet avobj k v
    match setAvoptError avStrerror k v r with
    | some msg => mpSetAvoptsLoop kv (-1) (log ++ [msg]) avobj
    | none => mpSetAvoptsLoop kv success log avobj

/-- `mp_set_avopts(log, avobj, kv)`: the return value, the lines logged, and `avobj`. -/
def mpSetAvopts (kv : List (List Char × List Char)) (avobj : σ) : ℤ × List (List Char) × σ :=
  mpSetAvoptsLoop options avOptSet avStrerror kv 0 [] avobj

/-- `av_opt_set` on each of `calls` in order: the results and the final object. -/
def avOptSetAll : List (List Char × List Char) → σ → List ℤ × σ
  | [], avobj => ([], avobj)
  | (k, v) :: calls, avobj =>
    let (r, avobj) := avOptSet avobj k v
    let (rs, avobj) := avOptSetAll calls avobj
    (r :: rs, avobj)

/-- The key/value pairs as `mp_set_avopts` hands them to `av_opt_set`. -/
def resolveKeys (kv : List (List Char × List Char)) : List (List Char × List Char) :=
  kv.map fun e => (resolvePositionalArg options e.1, e.2)

/-- An error line is logged exactly for the failed calls. -/
theorem setAvoptError_isSome (k v : List Char) (r : ℤ) :
    (setAvoptError avStrerror k v r).isSome ↔ r < 0 := by
  unfold setAvoptError
  split_ifs with h1 h2 <;> simp only [Option.isSome_some, Option.isSome_none, true_iff,
    Bool.false_eq_true, false_iff, not_lt, AVERROR_OPTION_NOT_FOUND] at * <;> omega

theorem mpSetAvoptsLoop_eq : ∀ (kv : List (List Char × List Char)) (success : ℤ)
    (log : List (List Char)) (avobj : σ),
    mpSetAvoptsLoop options avOptSet avStrerror kv success log avobj =
      (if (avOptSetAll avOptSet (resolveKeys options kv) avobj).1.any (· < 0) then -1 else success,
        log ++ ((resolveKeys options kv).zip (avOptSetAll avOptSet (resolveKeys options kv) avobj).1).filterMap
          (fun e => setAvoptError avStrerror e.1.1 e.1.2 e.2),
        (avOptSetAll avOptSet (resolveKeys options kv) avobj).2)
  | [], success, log, avobj => by simp [mpSetAvoptsLoop, avOptSetAll, resolveKeys]
  | (k, v) :: kv, success, log, avobj => by
    have ih := mpSetAvoptsLoop_eq kv
    simp only [resolveKeys] at ih
    simp only [mpSetAvoptsLoop, resolveKeys, List.map_cons, avOptSetAll, List.zip_cons_cons,
      List.filterMap_cons, List.any_cons]
    have hsome := setAvoptError_isSome avStrerror (resolvePositionalArg options k) v
      (avOptSet avobj (resolvePositionalArg options k) v).1
    cases hm : setAvoptError avStrerror (resolvePositionalArg options k) v
      (avOptSet avobj (resolvePositionalArg options k) v).1 with
    | none =>
      simp only [hm, Option.isSome_none, Bool.false_eq_true, false_iff] at hsome
      simp [ih, hsome]
    | some msg =>
      simp only [hm, Option.isSome_some, true_iff] at hsome
      simp [ih, hsome]

/-- `mp_set_avopts` calls `av_opt_set` once per pair, in order, with the resolved key; it
logs one line per failed call and returns `-1` iff a call failed, `0` otherwise. -/
theorem mpSetAvopts_eq (kv : List (List Char × List Char)) (avobj : σ) :
    mpSetAvopts options avOptSet avStrerror kv avobj =
      (if (avOptSetAll avOptSet (resolveKeys options kv) avobj).1.any (· < 0) then -1 else 0,
        ((resolveKeys options kv).zip (avOptSetAll avOptSet (resolveKeys options kv) avobj).1).filterMap
          (fun e => setAvoptError avStrerror e.1.1 e.1.2 e.2),
        (avOptSetAll avOptSet (resolveKeys options kv) avobj).2) := by
  rw [mpSetAvopts, mpSetAvoptsLoop_eq, List.nil_append]

end SetAvopts

end Mpv
